import Slate.Foundation.UrlReadBack

/-!
# What stands behind an authority

A text with an authority is parsed part by part: the scheme, the authority, the path up to the
first question mark, the query up to the first number sign. Which end of the text is cleaned
away decides the path or the query, whichever is last.
-/

namespace Slate.Foundation.UrlStandard

section Parse

variable {parsers : Parsers} {text name authority suffix : List Char} {mark : Char}

/-- The path and the query in a text. -/
def splitTarget (suffix : List Char) : List Char × Option (List Char) :=
  splitMark '?' (splitMark '#' suffix).1

/-- What ends an authority, in a special URL or in any other. -/
def endsAuthority (char : Char) : Bool := isSeparator true char || isMark char

theorem parse_congr {other : List Char} (same : cleaned text = cleaned other) :
    parse parsers text = parse parsers other := by
  unfold parse
  rw [same]

theorem parsePath_slash {special : Bool} (rest : List Char) :
    parsePath special ('/' :: rest) = parseSegments special rest := by
  rw [parsePath, if_pos (by simp [isSeparator])]

theorem splitMark_fst_append (absent : mark ∉ authority) :
    splitMark mark (authority ++ suffix) =
      (authority ++ (splitMark mark suffix).1, (splitMark mark suffix).2) := by
  have passes : ∀ char ∈ authority, decide (char ≠ mark) = true := by
    intro char isMember
    rw [decide_eq_true_eq]
    rintro rfl
    exact absent isMember
  rw [splitMark, List.takeWhile_append_of_pos passes, List.dropWhile_append_of_pos passes]
  rfl

/-- A path is empty or begins with a slash. -/
theorem splitTarget_path (ends : ∀ char ∈ suffix.head?, char = '/' ∨ isMark char = true) :
    (splitTarget suffix).1 = [] ∨ ∃ rest, (splitTarget suffix).1 = '/' :: rest := by
  unfold splitTarget splitMark
  cases suffix with
  | nil => exact .inl rfl
  | cons first rest =>
      rcases ends first rfl with rfl | isMark
      · exact .inr ⟨_, rfl⟩
      · left
        simp only [UrlStandard.isMark, Bool.or_eq_true, decide_eq_true_eq] at isMark
        rcases isMark with rfl | rfl <;> rfl

section Authorities

variable (passes : ∀ char ∈ authority, endsAuthority char = false)

include passes

theorem splitMark_authority (isMark_ : isMark mark = true) :
    splitMark mark ('/' :: '/' :: (authority ++ suffix)) =
      ('/' :: '/' :: (authority ++ (splitMark mark suffix).1), (splitMark mark suffix).2) := by
  have noSlash : mark ≠ '/' := by
    rintro rfl
    revert isMark_
    decide
  have absent : mark ∉ '/' :: '/' :: authority := by
    rw [List.mem_cons, List.mem_cons, not_or, not_or]
    refine ⟨noSlash, noSlash, fun isMember => ?_⟩
    have isPassed := passes mark isMember
    rw [endsAuthority, isMark_, Bool.or_true] at isPassed
    cases isPassed
  rw [← List.cons_append, ← List.cons_append, splitMark_fst_append absent]
  rfl

/-- The path and the query stand behind the authority. -/
theorem splitTarget_authority : splitTarget ('/' :: '/' :: (authority ++ suffix)) =
    ('/' :: '/' :: (authority ++ (splitTarget suffix).1), (splitTarget suffix).2) := by
  rw [splitTarget, splitMark_authority passes (by decide), splitMark_authority passes (by decide)]
  rfl

theorem not_separator_of_passes : ∀ char ∈ authority, isSeparator true char = false :=
  fun char isMember => (Bool.or_eq_false_iff.mp (passes char isMember)).1

/-- The slashes in front of an authority end where it begins. -/
theorem dropWhile_slashes (nonempty : authority ≠ []) :
    ('/' :: '/' :: (authority ++ suffix)).dropWhile (isSeparator true) = authority ++ suffix := by
  have isSlash : isSeparator true '/' = true := rfl
  obtain ⟨first, others, rfl⟩ := List.exists_cons_of_ne_nil nonempty
  have firstPasses := not_separator_of_passes passes first List.mem_cons_self
  rw [List.dropWhile_cons_of_pos isSlash, List.dropWhile_cons_of_pos isSlash, List.cons_append,
    List.dropWhile_cons_of_neg (by simp [firstPasses])]

/-- An authority ends where the path begins. -/
theorem cut_authority {path : List Char} (isPath : path = [] ∨ ∃ rest, path = '/' :: rest)
    (special : Bool) :
    Text.before (isSeparator special) (authority ++ path) = authority ∧
      Text.fromStop (isSeparator special) (authority ++ path) = path := by
  have isSlash : isSeparator special '/' = true := rfl
  have stays : ∀ char ∈ authority, (!isSeparator special char) = true := by
    intro char isMember
    have other := not_separator_of_passes passes char isMember
    simp only [isSeparator, Bool.true_and, Bool.or_eq_false_iff] at other
    simp [isSeparator, other]
  unfold Text.before Text.fromStop
  rw [List.takeWhile_append_of_pos stays, List.dropWhile_append_of_pos stays]
  rcases isPath with rfl | ⟨rest, rfl⟩
  · simp
  · rw [List.takeWhile_cons_of_neg (by simp [isSlash]),
      List.dropWhile_cons_of_neg (by simp [isSlash]), List.append_nil]
    exact ⟨rfl, rfl⟩

/-- The text of the path is what stands between the authority and the first mark. -/
theorem pathText_authority (nonempty : authority ≠ [])
    (ends : ∀ char ∈ suffix.head?, char = '/' ∨ isMark char = true) :
    pathText ('/' :: '/' :: (authority ++ suffix)) = (splitTarget suffix).1 := by
  have isBefore : Text.before isMark ('/' :: '/' :: (authority ++ suffix)) =
      '/' :: '/' :: (authority ++ (splitTarget suffix).1) := by
    rw [← takeWhile_takeWhile_marks]
    exact congrArg Prod.fst (@splitTarget_authority authority suffix passes)
  rw [pathText, hierarchyText, isBefore, dropWhile_slashes passes nonempty,
    (cut_authority passes (splitTarget_path ends) true).2]

end Authorities

/-- A text with an authority is parsed part by part. -/
theorem parse_of_cleaned (isClean : cleaned text =
      name ++ ':' :: '/' :: '/' :: (authority ++ suffix))
    (isName : ∀ char ∈ name, isSchemeChar char = true)
    (isLetter : name.head?.any Char.isAlpha = true)
    (noFile : Text.toAsciiLowercase name ≠ "file".toList)
    (passes : ∀ char ∈ authority, endsAuthority char = false) (nonempty : authority ≠ [])
    (ends : ∀ char ∈ suffix.head?, char = '/' ∨ isMark char = true) :
    parse parsers text =
      (parseAuthority parsers (Text.toAsciiLowercase name) authority).map fun found =>
        withAuthority (Text.toAsciiLowercase name)
          ((splitTarget suffix).2.map (encode (if isSpecial (Text.toAsciiLowercase name) then
            inSpecialQuerySet else inQuerySet)))
          ((splitMark '#' suffix).2.map (encode inFragmentSet))
          (found, .segments (parsePath (isSpecial (Text.toAsciiLowercase name))
            (splitTarget suffix).1)) := by
  have isHierarchy (scheme : List Char) : parseHierarchy parsers scheme
      (authority ++ (splitTarget suffix).1) = (parseAuthority parsers scheme authority).map
        fun found => (found, .segments (parsePath (isSpecial scheme) (splitTarget suffix).1)) := by
    have isCut := cut_authority passes (splitTarget_path ends)
    unfold parseHierarchy
    dsimp only
    rw [(isCut _).1, (isCut _).2]
    cases parseAuthority parsers scheme authority <;> rfl
  have isFragment := @splitMark_authority authority suffix '#' passes (by decide)
  have isBody : splitMark '?' (splitMark '#' ('/' :: '/' :: (authority ++ suffix))).1 =
      ('/' :: '/' :: (authority ++ (splitTarget suffix).1), (splitTarget suffix).2) :=
    splitTarget_authority passes
  rw [isFragment] at isBody
  unfold parse
  rw [isClean, splitScheme_append isName isLetter]
  simp only [Option.bind_eq_bind, Option.bind_some, isFragment, isBody, if_neg noFile,
    dropWhile_slashes passes nonempty, isHierarchy, Option.map_map]
  split <;> rfl

end Parse

section Ends

variable {text front rest edges behind : List Char} {char : Char}

/-- A text without what is cleaned away inside of it. -/
def unbroken (text : List Char) : List Char := text.filter fun char => !isTabOrNewline char

/-- A text without what is cleaned away inside of it and at its end. -/
def endCleaned (text : List Char) : List Char := unbroken (text.rdropWhile isEdge)

theorem unbroken_append : unbroken (front ++ rest) = unbroken front ++ unbroken rest :=
  List.filter_append ..

theorem unbroken_cons (visible : isEdge char = false) :
    unbroken (char :: rest) = char :: unbroken rest := by
  rw [unbroken, List.filter_cons_of_pos]
  · rfl
  · rw [not_tabOrNewline_of_visible visible]
    rfl

/-- What is cleaned away only at the end of a text stands at the end of it. -/
theorem unbroken_eq (text : List Char) :
    unbroken text = endCleaned text ++ unbroken (text.rtakeWhile isEdge) := by
  rw [endCleaned, ← unbroken_append, List.rdropWhile_append_rtakeWhile]

theorem endCleaned_cons (visible : isEdge char = false) :
    endCleaned (char :: rest) = char :: endCleaned rest := by
  unfold endCleaned
  rw [← List.singleton_append, Text.rdropWhile_append_of_neg (by simpa using visible),
    List.singleton_append, unbroken_cons visible]

/-- A visible character keeps what stands in front of it. -/
theorem endCleaned_append_cons (visible : isEdge char = false) :
    endCleaned (front ++ char :: rest) = unbroken front ++ char :: endCleaned rest := by
  rw [← endCleaned_cons visible]
  unfold endCleaned
  rw [Text.rdropWhile_append_cons visible, unbroken_append]

theorem endCleaned_append_edges (areEdges : ∀ char ∈ edges, isEdge char = true) :
    endCleaned (front ++ edges) = endCleaned front := by
  have dropped : (front ++ edges).rdropWhile isEdge = front.rdropWhile isEdge := by
    unfold List.rdropWhile
    rw [List.reverse_append, List.dropWhile_append_of_pos (by simpa using areEdges)]
  rw [endCleaned, dropped, endCleaned]

/-- What follows a text adds to what is left of it, unless all of it is cleaned away. -/
theorem endCleaned_append (front behind : List Char) :
    ∃ tail, endCleaned (front ++ behind) = endCleaned front ++ tail ∧
      (∀ char ∈ tail, isEdge char = true ∨ char ∈ behind) ∧
        (tail = [] ↔ ∀ char ∈ behind, isEdge char = true) := by
  by_cases areEdges : ∀ char ∈ behind, isEdge char = true
  · refine ⟨[], ?_, by simp, by simpa using areEdges⟩
    rw [endCleaned_append_edges areEdges, List.append_nil]
  · have hasOther := areEdges
    push Not at hasOther
    obtain ⟨char, isMember, visible⟩ := hasOther
    rw [Ne, Bool.not_eq_true] at visible
    obtain ⟨before, after, rfl⟩ := List.append_of_mem isMember
    refine ⟨unbroken (front.rtakeWhile isEdge) ++ (unbroken before ++ char :: endCleaned after),
      ?_, ?_, ?_⟩
    · rw [← List.append_assoc front, endCleaned_append_cons visible, unbroken_append,
        unbroken_eq front]
      simp only [List.append_assoc]
    · intro other isOther
      simp only [List.mem_append, List.mem_cons] at isOther
      rcases isOther with inFront | inBefore | rfl | inAfter
      · exact .inl (List.mem_rtakeWhile_imp (List.mem_of_mem_filter inFront))
      · right
        simp [List.mem_of_mem_filter inBefore]
      · simp
      · right
        have inText := (List.rdropWhile_prefix _ _).subset (List.mem_of_mem_filter inAfter)
        simp [inText]
    · exact iff_of_false (by simp) areEdges

/-- In front of a visible character, the end of a text adds what is else cleaned away. -/
theorem unbroken_eq_endCleaned_iff : unbroken text = endCleaned text ↔
    ∀ char ∈ (unbroken text).getLast?, isEdge char = false := by
  have whole := unbroken_eq text
  constructor
  · intro same char isLast
    rw [same, endCleaned] at isLast
    have lastVisible := List.rdropWhile_last_not isEdge text
    revert isLast lastVisible
    cases text.rdropWhile isEdge using List.reverseRecOn with
    | nil => simp [unbroken]
    | append_singleton front last =>
        intro isLast lastVisible
        have visible : isEdge last = false := by simpa using lastVisible
        rw [unbroken_append, unbroken_cons visible, List.getLast?_append_of_ne_nil _ (by simp)]
          at isLast
        obtain rfl : last = char := by simpa [unbroken] using isLast
        exact visible
  · intro visible
    rw [whole]
    have noEdges : unbroken (text.rtakeWhile isEdge) = [] := by
      by_contra nonempty
      have isLast := List.getLast?_eq_some_getLast nonempty
      have isMember := List.mem_of_mem_getLast? isLast
      have isEdge_ := List.mem_rtakeWhile_imp (List.mem_of_mem_filter isMember)
      rw [whole, List.getLast?_append_of_ne_nil _ nonempty, isLast] at visible
      rw [visible _ rfl] at isEdge_
      cases isEdge_
    rw [noEdges, List.append_nil]

end Ends

section LastSegment

variable {special : Bool} {text front tail : List Char} {segments place : List (List Char)}
  {last : List Char} {char : Char}

/-- A path ends in its last segment, or in an empty one if that is of dots. -/
theorem getLast?_addSegments :
    (addSegments place (segments ++ [last])).getLast? =
      some (if isDots last then [] else last) := by
  induction segments generalizing place with
  | nil =>
      rw [List.nil_append, addSegments]
      by_cases double : isDoubleDot last = true
      · simp [double, isDots]
      · by_cases single : isSingleDot last = true
        · simp [double, single, isDots]
        · simp [double, single, isDots]
  | cons segment rest inductionHypothesis =>
      obtain ⟨next, others, isRest⟩ : ∃ next others, rest ++ [last] = next :: others :=
        List.exists_cons_of_ne_nil (by simp)
      rw [List.cons_append, isRest]
      rw [isRest] at inductionHypothesis
      simp only [addSegments]
      split
      · exact inductionHypothesis
      · split <;> exact inductionHypothesis

/-- The text behind the last separator. -/
def lastPart (special : Bool) (text : List Char) : List Char :=
  text.rtakeWhile fun char => !isSeparator special char

theorem not_separator_of_mem_lastPart (isMember : char ∈ lastPart special text) :
    isSeparator special char = false := by
  simpa using List.mem_rtakeWhile_imp isMember

theorem exists_lastPart (special : Bool) (text : List Char) :
    text = lastPart special text ∨ ∃ front separator,
      isSeparator special separator = true ∧
        text = front ++ separator :: lastPart special text := by
  have whole : text.rdropWhile (fun char => !isSeparator special char) ++
      lastPart special text = text := List.rdropWhile_append_rtakeWhile
  have atEnd := List.rdropWhile_last_not (fun char => !isSeparator special char) text
  generalize text.rdropWhile (fun char => !isSeparator special char) = dropped at whole atEnd
  cases dropped using List.reverseRecOn with
  | nil => exact .inl whole.symm
  | append_singleton front separator =>
      right
      refine ⟨front, separator, by simpa using atEnd, ?_⟩
      rw [List.append_assoc, List.singleton_append] at whole
      exact whole.symm

theorem splitOnP_eq_concat (special : Bool) (text : List Char) :
    ∃ others, text.splitOnP (isSeparator special) = others ++ [lastPart special text] := by
  have isLast : (lastPart special text).splitOnP (isSeparator special) =
      [lastPart special text] :=
    List.splitOnP_eq_singleton fun char isMember => not_separator_of_mem_lastPart isMember
  rcases exists_lastPart special text with isWhole | ⟨front, separator, separates, isText⟩
  · refine ⟨[], ?_⟩
    rwa [← isWhole] at isLast ⊢
  · refine ⟨front.splitOnP (isSeparator special), ?_⟩
    conv_lhs => rw [isText]
    rw [List.splitOnP_append_cons _ _ separates, isLast]

theorem getLast?_parseSegments : (parseSegments special text).getLast? =
    some (if isDots (lastPart special text) then [] else
      encode inPathSet (lastPart special text)) := by
  obtain ⟨others, isSplit⟩ := splitOnP_eq_concat special text
  rw [parseSegments_eq, splitSegments, isSplit, List.map_append, List.map_singleton,
    getLast?_addSegments, isDots_encode]

theorem lastPart_append (noSeparator : ∀ char ∈ tail, isSeparator special char = false) :
    lastPart special (text ++ tail) = lastPart special text ++ tail := by
  exact Text.rtakeWhile_append_of_pos (by simpa using noSeparator) text

/-- Without a backslash in it, the text behind the last slash is that behind the last separator. -/
theorem lastPart_eq (noBackslash : '\\' ∉ lastPart false text) :
    lastPart true text = lastPart false text := by
  have passes : ∀ char ∈ lastPart false text, isSeparator true char = false := by
    intro char isMember
    have noSlash := not_separator_of_mem_lastPart isMember
    simp only [isSeparator, Bool.false_and, Bool.or_false] at noSlash
    simp only [isSeparator, noSlash, Bool.true_and, Bool.false_or, decide_eq_false_iff_not]
    rintro rfl
    exact noBackslash isMember
  rcases exists_lastPart false text with isWhole | ⟨front, separator, separates, isText⟩
  · conv_lhs => rw [isWhole]
    have whole := @lastPart_append true [] _ passes
    rwa [List.nil_append] at whole
  · have isSlash : isSeparator true separator = true := by
      simp only [isSeparator, Bool.false_and, Bool.or_false] at separates
      simp [isSeparator, separates]
    conv_lhs => rw [isText]
    rw [List.append_cons, lastPart_append passes, lastPart,
      List.rtakeWhile_concat_neg _ _ _ (by simp [isSlash]), List.nil_append]

theorem encode_append : encode inPathSet (front ++ tail) =
    encode inPathSet front ++ encode inPathSet tail := List.flatMap_append

end LastSegment

section Encoded

variable {inSet : Char → Bool} {text tail : List Char} {char : Char}

theorem percentEncode_ne_nil : percentEncode inSet char ≠ [] := by
  unfold percentEncode
  split
  · obtain ⟨byte, bytes, isChar⟩ : ∃ byte bytes, String.utf8EncodeChar char = byte :: bytes :=
      List.exists_cons_of_ne_nil String.utf8EncodeChar_ne_nil
    rw [isChar]
    simp [Text.percentEncodeByte]
  · exact List.cons_ne_nil _ _

theorem encode_eq_nil_iff : encode inSet text = [] ↔ text = [] := by
  cases text with
  | nil => simp [encode]
  | cons first rest => simp [encode_cons, percentEncode_ne_nil]

theorem mem_encode_iff (outside : inSet char = false) (noEscape : char ≠ '%')
    (noDigit : isHexDigit char = false) : char ∈ encode inSet text ↔ char ∈ text := by
  constructor
  · intro isMember
    obtain ⟨original, isOriginal, isWritten⟩ := List.mem_flatMap.mp isMember
    unfold percentEncode at isWritten
    split at isWritten
    · obtain ⟨byte, -, isWritten⟩ := List.mem_flatMap.mp isWritten
      have small := byte.toNat_lt
      simp only [Text.percentEncodeByte, List.mem_cons, List.not_mem_nil, or_false] at isWritten
      rcases isWritten with rfl | rfl | rfl
      · exact absurd rfl noEscape
      · rw [isHexDigit_hexDigit (by omega)] at noDigit
        cases noDigit
      · rw [isHexDigit_hexDigit (by omega)] at noDigit
        cases noDigit
    · rwa [List.mem_singleton.mp isWritten]
  · intro isMember
    refine List.mem_flatMap.mpr ⟨char, isMember, ?_⟩
    rw [percentEncode, outside, if_neg Bool.false_ne_true]
    exact List.mem_singleton_self char

/-- Only the apostrophe is encoded in the queries of special URLs and not in others. -/
theorem encode_special_eq_iff :
    encode inSpecialQuerySet (text ++ tail) = encode inQuerySet text ↔
      tail = [] ∧ '\'' ∉ text := by
  have sameWithout (absent : '\'' ∉ text) :
      encode inSpecialQuerySet text = encode inQuerySet text := by
    apply List.flatMap_congr
    intro char isMember
    have other : char ≠ '\'' := by
      rintro rfl
      exact absent isMember
    simp [percentEncode, inSpecialQuerySet, other]
  constructor
  · intro same
    have absent : '\'' ∉ text := by
      intro isMember
      have isEncoded : '\'' ∈ encode inQuerySet text :=
        (mem_encode_iff (by decide) (by decide) (by decide)).mpr isMember
      rw [← same] at isEncoded
      have outside := not_inSet_of_mem_encode spares_inSpecialQuerySet isEncoded
      revert outside
      decide
    have splits : encode inSpecialQuerySet (text ++ tail) =
        encode inSpecialQuerySet text ++ encode inSpecialQuerySet tail := List.flatMap_append
    rw [splits, sameWithout absent, List.append_right_eq_self, encode_eq_nil_iff] at same
    exact ⟨same, absent⟩
  · rintro ⟨rfl, absent⟩
    rw [List.append_nil, sameWithout absent]

end Encoded

section Tails

variable {text tail : List Char} {char : Char}

/-- A character that is cleaned away or trimmed at the end of a text. -/
def isTrimmed (char : Char) : Bool := isEdge char || Text.isWhitespace char

theorem not_separator_of_isTrimmed (trimmed : isTrimmed char = true) :
    isSeparator true char = false := by
  simp only [isSeparator, Bool.true_and, Bool.or_eq_false_iff, decide_eq_false_iff_not]
  constructor <;>
  · rintro rfl
    revert trimmed
    decide

theorem isDots_append_trimmed (nonempty : tail ≠ [])
    (trimmed : ∀ char ∈ tail, isTrimmed char = true) : isDots (text ++ tail) = false := by
  rw [Bool.eq_false_iff]
  intro areDots
  obtain ⟨char, others, rfl⟩ := List.exists_cons_of_ne_nil nonempty
  have isTrimmed_ := trimmed char List.mem_cons_self
  have isLower : char.toLower = char := by
    rcases Bool.or_eq_true_iff.mp isTrimmed_ with edge | space
    · apply Text.toLower_of_not_upper
      have small : char.toNat ≤ 0x20 := of_decide_eq_true edge
      rw [Text.isUpper_iff]
      omega
    · exact Text.toLower_of_whitespace space
  have inDots : char ∈ Text.toAsciiLowercase (text ++ char :: others) :=
    Text.mem_toAsciiLowercase (by simp) isLower
  have within : ∀ text ∈ dotTexts, text ⊆ ".%2e".toList := by decide
  have visible : ".%2e".toList.all fun char => !isTrimmed char := by decide
  have other := List.all_eq_true.mp visible char (within _ (lower_of_isDots areDots) inDots)
  rw [isTrimmed_] at other
  cases other

/-- A path that goes on with what is trimmed elsewhere ends differently. -/
theorem parseSegments_append_ne (nonempty : tail ≠ [])
    (trimmed : ∀ char ∈ tail, isTrimmed char = true) :
    parseSegments true (text ++ tail) ≠ parseSegments false text := by
  intro same
  have sameLast := congrArg List.getLast? same
  rw [getLast?_parseSegments, getLast?_parseSegments, lastPart_append fun char isMember =>
    not_separator_of_isTrimmed (trimmed char isMember), isDots_append_trimmed nonempty trimmed,
    if_neg Bool.false_ne_true, Option.some.injEq] at sameLast
  split at sameLast
  · rw [encode_eq_nil_iff, List.append_eq_nil_iff] at sameLast
    exact nonempty sameLast.2
  · have noBackslash : '\\' ∉ lastPart false text := by
      intro isMember
      have isEncoded : '\\' ∈ encode inPathSet (lastPart false text) :=
        (mem_encode_iff (by decide) (by decide) (by decide)).mpr isMember
      rw [← sameLast, mem_encode_iff (by decide) (by decide) (by decide),
        List.mem_append] at isEncoded
      rcases isEncoded with inPart | inTail
      · have noSeparator := not_separator_of_mem_lastPart inPart
        revert noSeparator
        decide
      · have noSeparator := not_separator_of_isTrimmed (trimmed _ inTail)
        revert noSeparator
        decide
    rw [lastPart_eq noBackslash, encode_append, List.append_right_eq_self, encode_eq_nil_iff] at sameLast
    exact nonempty sameLast

end Tails

end Slate.Foundation.UrlStandard
