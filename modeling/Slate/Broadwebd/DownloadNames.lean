import Slate.Broadwebd.DownloadOwnership
import Slate.Foundation.Delimited

/-!
# The names of the downloads

The name of a download is made of letters, digits, dots, dashes and underscores, and the names
that are tried behind it carry a number between the stem and the extension. The numbers are those
of the open range `1..`, which are 32-bit: they do not go on for ever.
-/

namespace Slate.Broadwebd

open Foundation

section Suffixes

/-- The number of a range and the state of the range behind it. A build with overflow checks
panics when it counts on from the largest number, one without them goes on at the smallest. -/
def takeSuffix (overflowChecks : Bool) (next : Int32) : Option (Int32 × Int32) :=
  if overflowChecks && next = Int32.maxValue then none else some (next, next + 1)

/-- The item of a range at a position. -/
def suffixAt (overflowChecks : Bool) : Nat → Int32 → Option Int32
  | 0, next => (takeSuffix overflowChecks next).map Prod.fst
  | position + 1, next =>
    (takeSuffix overflowChecks next).bind fun taken => suffixAt overflowChecks position taken.2

/-- The item of `download_filename_candidates` at a position, if the iterator gets there. -/
def downloadFilenameCandidateAt (overflowChecks : Bool) (filename : List Char) :
    Nat → Option (List Char)
  | 0 => some filename
  | position + 1 => do
    let (stem, extension) := stemAndExtension filename
    let suffix ← suffixAt overflowChecks position 1
    pure (stem ++ '-' :: (Json.writeInteger suffix.toInt ++ extension))

variable {overflowChecks : Bool} {filename : List Char}

theorem int32_ofNat_eq_iff {first second : Nat} :
    Int32.ofNat first = Int32.ofNat second ↔ first % 4294967296 = second % 4294967296 := by
  rw [← Int32.toBitVec_inj, ← BitVec.toNat_inj]
  simp

theorem takeSuffix_ofNat {next : Nat} (inRange : overflowChecks = false ∨ next < 2147483647) :
    takeSuffix overflowChecks (Int32.ofNat next) =
      some (Int32.ofNat next, Int32.ofNat (next + 1)) := by
  have goesOn : (overflowChecks && decide (Int32.ofNat next = Int32.maxValue)) = false := by
    rcases inRange with unchecked | small
    · rw [unchecked, Bool.false_and]
    · have other : Int32.ofNat next ≠ Int32.maxValue := by
        intro last
        have same : next % 4294967296 = 2147483647 % 4294967296 := int32_ofNat_eq_iff.mp last
        omega
      rw [decide_eq_false other, Bool.and_false]
  rw [takeSuffix, goesOn, Int32.ofNat_add]
  rfl

theorem takeSuffix_largest : takeSuffix true (Int32.ofNat 2147483647) = none := by
  rfl

/-- The numbers of the range are those from the first on, as far as the build counts. -/
theorem suffixAt_ofNat (position : Nat) {start : Nat}
    (inRange : overflowChecks = false ∨ start ≤ 2147483647) :
    suffixAt overflowChecks position (Int32.ofNat start) =
      if overflowChecks = false ∨ start + position < 2147483647 then
        some (Int32.ofNat (start + position)) else none := by
  induction position generalizing start with
  | zero =>
      rw [suffixAt, Nat.add_zero]
      by_cases counts : overflowChecks = false ∨ start < 2147483647
      · rw [takeSuffix_ofNat counts, if_pos counts, Option.map_some]
      · obtain ⟨rfl, rfl⟩ : overflowChecks = true ∧ start = 2147483647 := by grind
        rw [takeSuffix_largest, if_neg counts, Option.map_none]
  | succ position inductionHypothesis =>
      have moved : start + (position + 1) = start + 1 + position := by omega
      rw [suffixAt, moved]
      by_cases counts : overflowChecks = false ∨ start < 2147483647
      · rw [takeSuffix_ofNat counts, Option.bind_some, inductionHypothesis counts]
      · obtain ⟨rfl, rfl⟩ : overflowChecks = true ∧ start = 2147483647 := by grind
        rw [takeSuffix_largest, Option.bind_none, if_neg (by simp; omega)]

end Suffixes

section Parts

variable {separator : Char} {text front back filename : List Char}

theorem rsplitOnce_eq_none_iff : rsplitOnce separator text = none ↔ separator ∉ text := by
  rw [rsplitOnce, Option.map_eq_none_iff, Text.splitOnce_char_eq_none_iff, List.mem_reverse]

theorem rsplitOnce_eq_some_iff : rsplitOnce separator text = some (front, back) ↔
    text = front ++ separator :: back ∧ separator ∉ back := by
  rw [rsplitOnce, Option.map_eq_some_iff]
  constructor
  · rintro ⟨⟨first, second⟩, found, same⟩
    obtain ⟨isReverse, noneBefore⟩ := Text.splitOnce_char_eq_some_iff.mp found
    obtain ⟨rfl, rfl⟩ := Prod.mk.inj same
    have isText := congrArg List.reverse isReverse
    exact ⟨by simpa using isText, by simpa using noneBefore⟩
  · rintro ⟨rfl, noneBehind⟩
    refine ⟨(back.reverse, front.reverse), ?_, by simp⟩
    apply Text.splitOnce_char_eq_some_iff.mpr
    exact ⟨by simp, by simpa using noneBehind⟩

/-- The extension is what stands from the last dot on. -/
theorem stemAndExtension_eq {stem extension : List Char} (hasStem : stem ≠ [])
    (hasExtension : extension ≠ []) (noDot : '.' ∉ extension) :
    stemAndExtension (stem ++ '.' :: extension) = (stem, '.' :: extension) := by
  rw [stemAndExtension, rsplitOnce_eq_some_iff.mpr ⟨rfl, noDot⟩]
  exact if_pos ⟨hasStem, hasExtension⟩

theorem stemAndExtension_of_not_mem (noDot : '.' ∉ filename) :
    stemAndExtension filename = (filename, []) := by
  rw [stemAndExtension, rsplitOnce_eq_none_iff.mpr noDot]

end Parts

section Safe

variable {overflowChecks : Bool} {filename name : List Char}

/-- A name that `sanitized_filename` may give. -/
structure IsSafeName (name : List Char) : Prop where
  nonempty : name ≠ []
  short : name.length ≤ 160
  chars : ∀ char ∈ name, isFilenameChar char
  noDotFirst : name.head? ≠ some '.'
  noDotLast : name.getLast? ≠ some '.'

theorem IsSafeName.isPlainName (isSafe : IsSafeName name) : IsPlainName name where
  nonempty := isSafe.nonempty
  notDots := ⟨fun same => isSafe.noDotFirst (congrArg List.head? same),
    fun same => isSafe.noDotFirst (congrArg List.head? same)⟩
  chars := isSafe.chars

theorem getLast_trimMatches {edge : Char} {text : List Char} :
    (trimMatches edge text).getLast? ≠ some edge := by
  intro isEdge
  have nonempty : trimMatches edge text ≠ [] := by
    intro empty
    rw [empty] at isEdge
    cases isEdge
  have notEdge := List.rdropWhile_last_not (· == edge) (text.dropWhile (· == edge)) nonempty
  rw [List.getLast?_eq_some_getLast nonempty] at isEdge
  apply notEdge
  exact beq_iff_eq.mpr (Option.some.inj isEdge)

theorem length_trimMatches_le (edge : Char) (text : List Char) :
    (trimMatches edge text).length ≤ text.length :=
  Text.trimEndMatches_isPrefix.length_le.trans (List.dropWhile_suffix _).length_le

theorem isSafeName_sanitized (filename : List Char) : IsSafeName (sanitizedFilename filename) where
  nonempty := sanitized_ne_nil
  short := by
    unfold sanitizedFilename
    simp only
    split
    · decide
    · apply (length_trimMatches_le _ _).trans
      rw [List.length_map, List.length_take]
      exact Nat.min_le_left _ _
  chars := fun _ => isFilenameChar_sanitized
  noDotFirst := head_sanitized
  noDotLast := by
    unfold sanitizedFilename
    simp only
    split
    · decide
    · exact getLast_trimMatches

/-- The number goes between the stem of a name and its extension, if it has one. -/
theorem IsSafeName.parts (isSafe : IsSafeName name) :
    ∃ stem extension, stemAndExtension name = (stem, extension) ∧ name = stem ++ extension ∧
      stem ≠ [] ∧ ∀ inserted : List Char, '.' ∉ inserted →
        (stemAndExtension (stem ++ (inserted ++ extension))).2 = extension := by
  by_cases noDot : '.' ∈ name
  · obtain ⟨stem, extension, isName⟩ : ∃ stem extension,
        rsplitOnce '.' name = some (stem, extension) := by
      cases found : rsplitOnce '.' name with
      | none => exact absurd noDot (rsplitOnce_eq_none_iff.mp found)
      | some parts => exact ⟨parts.1, parts.2, rfl⟩
    obtain ⟨rfl, noneBehind⟩ := rsplitOnce_eq_some_iff.mp isName
    have hasStem : stem ≠ [] := by
      rintro rfl
      exact isSafe.noDotFirst rfl
    have hasExtension : extension ≠ [] := by
      rintro rfl
      exact isSafe.noDotLast (by simp)
    refine ⟨stem, '.' :: extension, stemAndExtension_eq hasStem hasExtension noneBehind, rfl,
      hasStem, ?_⟩
    intro inserted _
    rw [← List.append_assoc]
    have moreStem : stem ++ inserted ≠ [] := List.append_ne_nil_of_left_ne_nil hasStem _
    rw [stemAndExtension_eq moreStem hasExtension noneBehind]
  · refine ⟨name, [], stemAndExtension_of_not_mem noDot, (List.append_nil name).symm,
      isSafe.nonempty, ?_⟩
    intro inserted notInserted
    rw [List.append_nil, stemAndExtension_of_not_mem]
    exact fun isMember => (List.mem_append.mp isMember).elim noDot notInserted

theorem isFilenameChar_writeInteger (value : Int) :
    ∀ char ∈ Json.writeInteger value, isFilenameChar char := by
  intro char isMember
  have signOrDigit : char = '-' ∨ char.isDigit = true := by
    rw [Json.writeInteger] at isMember
    split at isMember
    · exact (List.mem_cons.mp isMember).imp_right (Json.isDigit_of_mem_toDigits _ char)
    · exact Or.inr (Json.isDigit_of_mem_toDigits _ char isMember)
  rcases signOrDigit with rfl | isDigit
  · decide
  · simp [isFilenameChar, Char.isAlphanum, isDigit]

theorem not_dot_writeInteger (value : Int) : '.' ∉ '-' :: Json.writeInteger value := by
  rw [← Text.toList_toString, List.mem_cons, not_or]
  exact ⟨by decide, Text.not_mem_toString value (by decide) (by decide)⟩

theorem writeInteger_inj {first second : Int}
    (same : Json.writeInteger first = Json.writeInteger second) : first = second := by
  rw [← Text.toList_toString, ← Text.toList_toString] at same
  exact Text.toString_injective (String.toList_inj.mp same)

/-- The candidates behind the first. -/
theorem candidateAt_succ (overflowChecks : Bool) {stem extension : List Char}
    (parts : stemAndExtension name = (stem, extension)) (position : Nat) :
    downloadFilenameCandidateAt overflowChecks name (position + 1) =
      if overflowChecks = false ∨ position + 1 < 2147483647 then
        some (stem ++ '-' :: (Json.writeInteger (Int32.ofNat (position + 1)).toInt ++ extension))
      else none := by
  have counted := @suffixAt_ofNat overflowChecks position 1 (Or.inr (by decide))
  rw [Nat.add_comm 1] at counted
  simp only [downloadFilenameCandidateAt, parts]
  rw [show (1 : Int32) = Int32.ofNat 1 from rfl, counted]
  split <;> rfl

theorem candidateAt_isSome_iff {position : Nat} :
    (downloadFilenameCandidateAt overflowChecks name position).isSome ↔
      overflowChecks = false ∨ position < 2147483647 := by
  cases position with
  | zero => simp [downloadFilenameCandidateAt]
  | succ position =>
      rw [candidateAt_succ overflowChecks rfl position]
      split <;> simp_all

theorem IsSafeName.candidateAt (isSafe : IsSafeName name) {position : Nat} {candidate : List Char}
    (isCandidate : downloadFilenameCandidateAt overflowChecks name position = some candidate) :
    IsPlainName candidate ∧ (stemAndExtension candidate).2 = (stemAndExtension name).2 := by
  cases position with
  | zero =>
      obtain rfl := Option.some.inj isCandidate
      exact ⟨isSafe.isPlainName, rfl⟩
  | succ position =>
      obtain ⟨stem, extension, parts, isName, hasStem, keeps⟩ := isSafe.parts
      rw [candidateAt_succ overflowChecks parts position, ← List.cons_append] at isCandidate
      obtain ⟨-, isText⟩ := Option.ite_none_right_eq_some.mp isCandidate
      obtain rfl := Option.some.inj isText
      have dash : '-' ∈ stem ++ (('-' ::
          Json.writeInteger (Int32.ofNat (position + 1)).toInt) ++ extension) :=
        List.mem_append_right _ (List.mem_append_left _ List.mem_cons_self)
      refine ⟨⟨List.ne_nil_of_mem dash, ⟨?_, ?_⟩, ?_⟩, ?_⟩
      · intro same
        rw [same] at dash
        exact absurd dash (by decide)
      · intro same
        rw [same] at dash
        exact absurd dash (by decide)
      · intro char isMember
        rcases List.mem_append.mp isMember with inStem | inRest
        · exact isSafe.chars char (by rw [isName]; exact List.mem_append_left _ inStem)
        · rcases List.mem_append.mp inRest with inSuffix | inExtension
          · rcases List.mem_cons.mp inSuffix with rfl | inNumber
            · decide
            · exact isFilenameChar_writeInteger _ char inNumber
          · exact isSafe.chars char (by rw [isName]; exact List.mem_append_right _ inExtension)
      · rw [keeps _ (not_dot_writeInteger _), parts]

/-- The name itself is shorter than those behind it, and those differ by their numbers. -/
theorem IsSafeName.candidateAt_eq_iff (isSafe : IsSafeName name) {first second : Nat}
    {candidate : List Char}
    (isCandidate : downloadFilenameCandidateAt overflowChecks name first = some candidate) :
    downloadFilenameCandidateAt overflowChecks name second = some candidate ↔
      first = second ∨ (overflowChecks = false ∧ first ≠ 0 ∧ second ≠ 0 ∧
        first % 4294967296 = second % 4294967296) := by
  obtain ⟨stem, extension, parts, isName, -, -⟩ := isSafe.parts
  have longer (number : List Char) : stem ++ '-' :: (number ++ extension) ≠ name := by
    intro same
    have length := congrArg List.length (same.trans isName)
    simp only [List.length_append, List.length_cons] at length
    omega
  cases first with
  | zero =>
      obtain rfl := Option.some.inj isCandidate
      cases second with
      | zero => simp [downloadFilenameCandidateAt]
      | succ second =>
          rw [candidateAt_succ overflowChecks parts second]
          simp [longer]
  | succ first =>
      rw [candidateAt_succ overflowChecks parts first] at isCandidate
      obtain ⟨counted, isText⟩ := Option.ite_none_right_eq_some.mp isCandidate
      obtain rfl := Option.some.inj isText
      cases second with
      | zero => simp [downloadFilenameCandidateAt, Ne.symm (longer _)]
      | succ second =>
          have sameNumber : Json.writeInteger (Int32.ofNat (second + 1)).toInt =
              Json.writeInteger (Int32.ofNat (first + 1)).toInt ↔
              (first + 1) % 4294967296 = (second + 1) % 4294967296 := by
            rw [eq_comm, ← int32_ofNat_eq_iff]
            constructor
            · exact fun same => Int32.toInt_inj.mp (writeInteger_inj same)
            · exact fun same => by rw [same]
          rw [candidateAt_succ overflowChecks parts second, Option.ite_none_right_eq_some,
            Option.some.injEq, List.append_cancel_left_eq, List.cons.injEq,
            List.append_cancel_right_eq, sameNumber]
          grind

/-- The names tried for a download, as its callers may think of them. -/
structure TriesDistinctNames (overflowChecks : Bool) (name : List Char) : Prop where
  endless : ∀ position, (downloadFilenameCandidateAt overflowChecks name position).isSome
  distinct : ∀ first second, downloadFilenameCandidateAt overflowChecks name first =
    downloadFilenameCandidateAt overflowChecks name second → first = second
  plain : ∀ position candidate,
    downloadFilenameCandidateAt overflowChecks name position = some candidate →
      IsPlainName candidate ∧ (stemAndExtension candidate).2 = (stemAndExtension name).2

/-- The names tried for a download, as far as their numbers are distinct. -/
structure TriesNumberedNames (overflowChecks : Bool) (name : List Char) : Prop where
  available : ∀ position, (downloadFilenameCandidateAt overflowChecks name position).isSome ↔
    overflowChecks = false ∨ position < 2147483647
  distinct : ∀ first second candidate,
    downloadFilenameCandidateAt overflowChecks name first = some candidate →
      (downloadFilenameCandidateAt overflowChecks name second = some candidate ↔
        first = second ∨ (overflowChecks = false ∧ first ≠ 0 ∧ second ≠ 0 ∧
          first % 4294967296 = second % 4294967296))
  plain : ∀ position candidate,
    downloadFilenameCandidateAt overflowChecks name position = some candidate →
      IsPlainName candidate ∧ (stemAndExtension candidate).2 = (stemAndExtension name).2

/-- Whatever name a server gives, the file gets a safe one, and no name is tried twice before all
numbers were. -/
theorem downloadNames_safe (overflowChecks : Bool) (filename : List Char) :
    IsSafeName (sanitizedFilename filename) ∧
      TriesNumberedNames overflowChecks (sanitizedFilename filename) := by
  have isSafe := isSafeName_sanitized filename
  refine ⟨isSafe, ?_, ?_, ?_⟩
  · exact fun _ => candidateAt_isSome_iff
  · exact fun _ _ _ isCandidate => isSafe.candidateAt_eq_iff isCandidate
  · exact fun _ _ isCandidate => isSafe.candidateAt isCandidate

/-- With overflow checks there is no name behind the largest number, and without them the number
one comes back. -/
theorem suffix_numbers_end :
    ¬TriesDistinctNames true (sanitizedFilename "a".toList) ∧
      ¬TriesDistinctNames false (sanitizedFilename "a".toList) := by
  constructor
  · intro tries
    have available := candidateAt_isSome_iff.mp (tries.endless 2147483647)
    simp at available
  · intro tries
    have same := tries.distinct 1 4294967297
    have parts : stemAndExtension (sanitizedFilename "a".toList) = ("a".toList, []) := by decide
    rw [candidateAt_succ false parts, candidateAt_succ false parts] at same
    exact absurd (same rfl) (by decide)

end Safe

end Slate.Broadwebd
