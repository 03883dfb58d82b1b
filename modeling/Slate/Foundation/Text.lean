import Mathlib.Data.List.DropRight
import Mathlib.Data.List.Infix

/-!
# Reading text

Text is read as a list of characters: up to a stop character, around the first occurrence of
a separator, without the characters at its end. Letter case is that of ASCII.
-/

namespace Slate.Foundation.Text

/-- The text before the first occurrence of the separator and the text after it. -/
def splitOnce (separator : List Char) : List Char → Option (List Char × List Char)
  | [] => if separator = [] then some ([], []) else none
  | first :: rest =>
    if separator <+: first :: rest then some ([], (first :: rest).drop separator.length)
    else (splitOnce separator rest).map fun parts => (first :: parts.1, parts.2)

attribute [local grind =] splitOnce

/-- The text before the first character at which to stop. -/
def before (stop : Char → Bool) (text : List Char) : List Char :=
  text.takeWhile fun char => !stop char

/-- The text from the first character at which to stop. -/
def fromStop (stop : Char → Bool) (text : List Char) : List Char :=
  text.dropWhile fun char => !stop char

def trimEndMatches (last : Char) (text : List Char) : List Char :=
  text.rdropWhile (· == last)

def contains (text needle : List Char) : Bool := decide (needle <:+: text)

def toAsciiLowercase (text : List Char) : List Char := text.map Char.toLower

/-- The characters with Unicode's `White_Space` property. -/
def isWhitespace (char : Char) : Bool :=
  let code := char.toNat
  (9 ≤ code && code ≤ 13) || code = 0x20 || code = 0x85 || code = 0xA0 || code = 0x1680 ||
    (0x2000 ≤ code && code ≤ 0x200A) || code = 0x2028 || code = 0x2029 || code = 0x202F ||
    code = 0x205F || code = 0x3000

def trim (text : List Char) : List Char :=
  (text.dropWhile isWhitespace).rdropWhile isWhitespace

def hexDigit (digit : Nat) : Char := "0123456789ABCDEF".toList.getD digit '0'

def percentEncodeByte (byte : UInt8) : List Char :=
  ['%', hexDigit (byte.toNat / 16), hexDigit (byte.toNat % 16)]

section Parts

variable {stop : Char → Bool} {text : List Char}

theorem before_append_stop {mark : Char} (stops : stop mark = true) (behind : List Char) :
    before stop (text ++ mark :: behind) = before stop text := by
  unfold before
  induction text with
  | nil => simp [stops]
  | cons first rest inductionHypothesis =>
      cases isStop : stop first with
      | true => simp [isStop]
      | false => simp [isStop, inductionHypothesis]

theorem fromStop_append_stop {mark : Char} (stops : stop mark = true) (behind : List Char) :
    fromStop stop (text ++ mark :: behind) = fromStop stop text ++ mark :: behind := by
  unfold fromStop
  induction text with
  | nil => simp [stops]
  | cons first rest inductionHypothesis =>
      cases isStop : stop first with
      | true => simp [isStop]
      | false => simp [isStop, inductionHypothesis]

theorem before_append_fromStop : before stop text ++ fromStop stop text = text :=
  List.takeWhile_append_dropWhile

/-- A scan stops behind a text in which nothing stops it. -/
theorem fromStop_append_of_none (passes : ∀ char ∈ text, stop char = false) (behind : List Char) :
    fromStop stop (text ++ behind) = fromStop stop behind := by
  unfold fromStop
  apply List.dropWhile_append_of_pos
  intro char isMember
  simp [passes char isMember]

theorem fromStop_append_of_stop (stops : ∃ char ∈ text, stop char = true) (behind : List Char) :
    fromStop stop (text ++ behind) = fromStop stop text ++ behind := by
  unfold fromStop
  rw [List.dropWhile_append, if_neg]
  obtain ⟨char, isMember, stopsHere⟩ := stops
  rw [List.isEmpty_iff, List.dropWhile_eq_nil_iff]
  intro allPass
  simpa [stopsHere] using allPass char isMember

theorem fromStop_eq_nil_iff : fromStop stop text = [] ↔ ∀ char ∈ text, stop char = false := by
  simp [fromStop, List.dropWhile_eq_nil_iff]

theorem before_isPrefix : before stop text <+: text := List.takeWhile_prefix _

theorem before_length_le {position : Nat} {char : Char} (atPosition : text[position]? = some char)
    (stops : stop char) : (before stop text).length ≤ position := by
  induction text generalizing position with
  | nil => simp at atPosition
  | cons first rest ih =>
    unfold before
    cases stopsAtFirst : stop first with
    | true => simp [stopsAtFirst]
    | false =>
      cases position with
      | zero =>
        obtain rfl : first = char := by simpa using atPosition
        rw [stops] at stopsAtFirst
        cases stopsAtFirst
      | succ position =>
        have restAt : rest[position]? = some char := by simpa using atPosition
        simpa [stopsAtFirst, before] using ih restAt

/-- Texts are cut in one way in front of the first character that stops them. -/
theorem append_inj_of_stops {stop : Char → Bool} {front behind rest otherRest : List Char}
    (passes : ∀ char ∈ front, stop char = false)
    (otherPasses : ∀ char ∈ behind, stop char = false)
    (ends : ∀ char ∈ rest.head?, stop char = true)
    (otherEnds : ∀ char ∈ otherRest.head?, stop char = true)
    (same : front ++ rest = behind ++ otherRest) : front = behind ∧ rest = otherRest := by
  have isBefore {start rest : List Char} (passes : ∀ char ∈ start, stop char = false)
      (ends : ∀ char ∈ rest.head?, stop char = true) : before stop (start ++ rest) = start := by
    have atEnd : rest.takeWhile (fun char => !stop char) = [] := by
      cases rest with
      | nil => rfl
      | cons first others =>
          rw [List.takeWhile_cons_of_neg]
          simpa using ends first rfl
    unfold before
    rw [List.takeWhile_append_of_pos (by simpa using passes), atEnd, List.append_nil]
  have sameFront : front = behind := by
    rw [← isBefore passes ends, same, isBefore otherPasses otherEnds]
  rw [sameFront] at same
  exact ⟨sameFront, List.append_cancel_left same⟩

theorem trimEndMatches_isPrefix {last : Char} : trimEndMatches last text <+: text :=
  List.rdropWhile_prefix _ text

theorem isUpper_iff {char : Char} :
    char.isUpper = true ↔ 65 ≤ char.toNat ∧ char.toNat ≤ 90 := by
  change decide (char.val ≥ 'A'.val ∧ char.val ≤ 'Z'.val) = true ↔ _
  rw [decide_eq_true_eq]
  exact Iff.rfl

theorem isLower_iff {char : Char} :
    char.isLower = true ↔ 97 ≤ char.toNat ∧ char.toNat ≤ 122 := by
  change (decide (char.val ≥ 'a'.val) && decide (char.val ≤ 'z'.val)) = true ↔ _
  rw [Bool.and_eq_true, decide_eq_true_eq, decide_eq_true_eq]
  exact Iff.rfl

theorem isDigit_iff {char : Char} :
    char.isDigit = true ↔ 48 ≤ char.toNat ∧ char.toNat ≤ 57 := by
  change (decide (char.val ≥ '0'.val) && decide (char.val ≤ '9'.val)) = true ↔ _
  rw [Bool.and_eq_true, decide_eq_true_eq, decide_eq_true_eq]
  exact Iff.rfl

theorem isAlphanum_iff {char : Char} : char.isAlphanum = true ↔
    char.isUpper = true ∨ char.isLower = true ∨ char.isDigit = true := by
  change ((char.isUpper || char.isLower) || char.isDigit) = true ↔ _
  rw [Bool.or_eq_true, Bool.or_eq_true, or_assoc]

theorem toLower_of_not_upper {char : Char} (other : ¬char.isUpper) : char.toLower = char :=
  dif_neg fun upper => other (decide_eq_true upper)

/-- Only letters change their case. -/
theorem eq_of_toLower_eq {char lower : Char} (same : char.toLower = lower)
    (notLower : ¬lower.isLower) : char = lower := by
  unfold Char.toLower at same
  split at same
  · rename_i upper
    apply absurd _ notLower
    subst same
    have low : 65 ≤ char.val.toNat := UInt32.le_iff_toNat_le.mp upper.1
    have high : char.val.toNat ≤ 90 := UInt32.le_iff_toNat_le.mp upper.2
    have shifted : (char.val + ('a'.val - 'A'.val)).toNat = char.val.toNat + 32 := by
      rw [UInt32.toNat_add]
      change (char.val.toNat + 32) % 2 ^ 32 = _
      omega
    have least : 'a'.val.toNat = 97 := rfl
    have greatest : 'z'.val.toNat = 122 := rfl
    change (decide (char.val + ('a'.val - 'A'.val) ≥ 'a'.val) &&
      decide (char.val + ('a'.val - 'A'.val) ≤ 'z'.val)) = true
    simp only [Bool.and_eq_true, decide_eq_true_eq, ge_iff_le, UInt32.le_iff_toNat_le, shifted,
      least, greatest]
    omega
  · exact same

theorem toLower_toLower {char : Char} : char.toLower.toLower = char.toLower := by
  by_cases isLower : char.toLower.isLower
  · apply toLower_of_not_upper
    rw [isLower_iff] at isLower
    rw [isUpper_iff]
    omega
  · have same := eq_of_toLower_eq rfl isLower
    exact congrArg Char.toLower same.symm

theorem toUpper_of_not_lower {char : Char} (other : ¬char.isLower) : char.toUpper = char :=
  dif_neg fun lower => other (by rw [isLower_iff]; exact lower)

theorem toNat_toUpper {char : Char} (isLower : char.isLower) :
    char.toUpper.toNat + 32 = char.toNat := by
  have bounds := isLower_iff.mp isLower
  unfold Char.toUpper
  split
  · change (char.val + ('A'.val - 'a'.val)).toNat + 32 = char.val.toNat
    rw [UInt32.toNat_add]
    change (char.val.toNat + 4294967264) % 2 ^ 32 + 32 = char.val.toNat
    change 97 ≤ char.val.toNat ∧ char.val.toNat ≤ 122 at bounds
    omega
  · rename_i other
    exact absurd bounds other

theorem toUpper_toUpper {char : Char} : char.toUpper.toUpper = char.toUpper := by
  by_cases isLower : char.isLower
  · apply toUpper_of_not_lower
    have shifted := toNat_toUpper isLower
    rw [isLower_iff] at isLower ⊢
    omega
  · rw [toUpper_of_not_lower isLower, toUpper_of_not_lower isLower]

theorem isAlphanum_toUpper {char : Char} (isLower : char.isLower) : char.toUpper.isAlphanum := by
  have shifted := toNat_toUpper isLower
  rw [isLower_iff] at isLower
  rw [isAlphanum_iff, isUpper_iff]
  omega

theorem getElem?_of_toAsciiLowercase {position : Nat} {char : Char}
    (atPosition : (toAsciiLowercase text)[position]? = some char) (notLower : ¬char.isLower) :
    text[position]? = some char := by
  rw [toAsciiLowercase, List.getElem?_map, Option.map_eq_some_iff] at atPosition
  obtain ⟨original, isOriginal, same⟩ := atPosition
  rw [isOriginal, eq_of_toLower_eq same notLower]

theorem contains_iff {needle : List Char} : contains text needle ↔ needle <:+: text := by
  simp [contains]

end Parts

section Whitespace

/-- A text without white space. -/
def Unspaced (text : List Char) : Prop := ∀ char ∈ text, isWhitespace char = false

variable {text start rest : List Char} {char : Char}

theorem unspaced_iff : Unspaced text ↔ ¬text.any isWhitespace := by
  simp [Unspaced]

instance : Decidable (Unspaced text) :=
  decidable_of_iff (text.all fun char => !isWhitespace char) (by simp [Unspaced])

theorem unspaced_append : Unspaced (text ++ rest) ↔ Unspaced text ∧ Unspaced rest :=
  List.forall_mem_append

theorem unspaced_cons : Unspaced (char :: rest) ↔ isWhitespace char = false ∧ Unspaced rest :=
  List.forall_mem_cons

theorem Unspaced.of_subset (unspaced : Unspaced text) (isSubset : rest ⊆ text) : Unspaced rest :=
  fun char isMember => unspaced char (isSubset isMember)

theorem unspaced_flatMap {Item : Type} {write : Item → List Char}
    (each : ∀ item, Unspaced (write item)) (items : List Item) :
    Unspaced (items.flatMap write) := by
  intro char isMember
  obtain ⟨item, -, isWritten⟩ := List.mem_flatMap.mp isMember
  exact each item char isWritten

theorem isAlphanum_bounds (alphanum : char.isAlphanum) :
    48 ≤ char.toNat ∧ char.toNat ≤ 57 ∨ 65 ≤ char.toNat ∧ char.toNat ≤ 90 ∨
      97 ≤ char.toNat ∧ char.toNat ≤ 122 := by
  rw [isAlphanum_iff, isUpper_iff, isLower_iff, isDigit_iff] at alphanum
  omega

theorem isWhitespace_of_alphanum (alphanum : char.isAlphanum) : isWhitespace char = false := by
  have bounds := isAlphanum_bounds alphanum
  simp only [isWhitespace, Bool.or_eq_false_iff, Bool.and_eq_false_iff, decide_eq_false_iff_not]
  omega

theorem isWhitespace_toLower (other : isWhitespace char = false) :
    isWhitespace char.toLower = false := by
  by_cases isLower : char.toLower.isLower
  · apply isWhitespace_of_alphanum
    exact isAlphanum_iff.mpr (.inr (.inl isLower))
  · rwa [← eq_of_toLower_eq rfl isLower]

theorem unspaced_toAsciiLowercase (unspaced : Unspaced text) :
    Unspaced (toAsciiLowercase text) := by
  intro char isMember
  obtain ⟨original, isOriginal, rfl⟩ := List.mem_map.mp isMember
  exact isWhitespace_toLower (unspaced original isOriginal)

theorem toAsciiLowercase_append (front back : List Char) :
    toAsciiLowercase (front ++ back) = toAsciiLowercase front ++ toAsciiLowercase back :=
  List.map_append

/-- A character that is no capital letter stands where it stood. -/
theorem mem_toAsciiLowercase (isMember : char ∈ text) (same : char.toLower = char) :
    char ∈ toAsciiLowercase text :=
  List.mem_map.mpr ⟨char, isMember, same⟩

theorem toLower_of_whitespace (space : isWhitespace char) : char.toLower = char := by
  by_cases upper : char.isUpper
  · have alphanum : char.isAlphanum := isAlphanum_iff.mpr (.inl upper)
    have other := isWhitespace_of_alphanum alphanum
    rw [space] at other
    cases other
  · exact toLower_of_not_upper upper

theorem unspaced_of_toAsciiLowercase (unspaced : Unspaced (toAsciiLowercase text)) :
    Unspaced text := by
  intro char isMember
  by_contra space
  rw [Bool.not_eq_false] at space
  have other := unspaced char (mem_toAsciiLowercase isMember (toLower_of_whitespace space))
  rw [space] at other
  cases other

theorem hexDigit_mem (digit : Nat) : hexDigit digit ∈ "0123456789ABCDEF".toList := by
  unfold hexDigit
  rw [List.getD_eq_getElem?_getD]
  cases found : "0123456789ABCDEF".toList[digit]? with
  | none => decide
  | some char => exact List.mem_of_getElem? found

theorem isAlphanum_hexDigit (digit : Nat) : (hexDigit digit).isAlphanum := by
  have all : "0123456789ABCDEF".toList.all Char.isAlphanum := by decide
  exact List.all_eq_true.mp all _ (hexDigit_mem digit)

theorem unspaced_percentEncodeByte (byte : UInt8) : Unspaced (percentEncodeByte byte) := by
  intro char isMember
  rcases List.mem_cons.mp isMember with rfl | isDigit
  · decide
  · apply isWhitespace_of_alphanum
    simp only [List.mem_cons, List.not_mem_nil, or_false] at isDigit
    rcases isDigit with rfl | rfl <;> exact isAlphanum_hexDigit _

theorem trim_subset (text : List Char) : trim text ⊆ text := fun _ isMember =>
  (List.dropWhile_suffix _).subset ((List.rdropWhile_prefix _ _).subset isMember)

theorem trim_of_unspaced (unspaced : Unspaced text) : trim text = text := by
  have noneInFront : text.dropWhile isWhitespace = text := by
    cases text with
    | nil => rfl
    | cons char rest =>
        exact List.dropWhile_cons_of_neg (by simp [unspaced char (List.mem_cons_self ..)])
  rw [trim, noneInFront, List.rdropWhile_eq_self_iff]
  intro nonempty
  simp [unspaced _ (List.getLast_mem nonempty)]

theorem rdropWhile_append_of_neg {Item : Type} {drops : Item → Bool} {start rest : List Item}
    (keeps : ∀ item ∈ start, drops item = false) :
    (start ++ rest).rdropWhile drops = start ++ rest.rdropWhile drops := by
  induction rest using List.reverseRecOn with
  | nil =>
      rw [List.append_nil, List.rdropWhile_nil, List.append_nil, List.rdropWhile_eq_self_iff]
      intro nonempty
      simp [keeps _ (List.getLast_mem nonempty)]
  | append_singleton rest item inductionHypothesis =>
      rw [← List.append_assoc]
      by_cases isDropped : drops item = true
      · rw [List.rdropWhile_concat_pos _ _ _ isDropped, List.rdropWhile_concat_pos _ _ _ isDropped,
          inductionHypothesis]
      · rw [List.rdropWhile_concat_neg _ _ _ isDropped, List.rdropWhile_concat_neg _ _ _ isDropped,
          List.append_assoc]

theorem rdropWhile_append_cons {Item : Type} {drops : Item → Bool} {kept : Item}
    (isKept : drops kept = false) (start rest : List Item) :
    (start ++ kept :: rest).rdropWhile drops = start ++ (kept :: rest).rdropWhile drops := by
  unfold List.rdropWhile
  rw [List.reverse_append, List.dropWhile_append, if_neg, List.reverse_append,
    List.reverse_reverse]
  rw [List.isEmpty_iff, List.dropWhile_eq_nil_iff]
  intro allDropped
  rw [allDropped kept (by simp)] at isKept
  cases isKept

theorem rtakeWhile_append_of_pos {Item : Type} {takes : Item → Bool} {rest : List Item}
    (taken : ∀ item ∈ rest, takes item = true) (start : List Item) :
    (start ++ rest).rtakeWhile takes = start.rtakeWhile takes ++ rest := by
  unfold List.rtakeWhile
  rw [List.reverse_append, List.takeWhile_append_of_pos (by simpa using taken),
    List.reverse_append, List.reverse_reverse]

/-- Behind a start without white space only the end is trimmed. -/
theorem trim_append_of_unspaced (unspaced : Unspaced start) (nonempty : start ≠ []) :
    trim (start ++ rest) = start ++ rest.rdropWhile isWhitespace := by
  cases start with
  | nil => exact absurd rfl nonempty
  | cons char start =>
      have other := unspaced char (List.mem_cons_self ..)
      rw [trim, List.cons_append, List.dropWhile_cons_of_neg (by simp [other])]
      exact rdropWhile_append_of_neg unspaced

theorem trim_trim (text : List Char) : trim (trim text) = trim text := by
  unfold trim
  generalize isStart : text.dropWhile isWhitespace = start
  have firstOther : start.dropWhile isWhitespace = start := by
    rw [← isStart, List.dropWhile_idempotent]
  have endOther := @List.rdropWhile_idempotent _ isWhitespace start
  rw [List.dropWhile_eq_self_iff.mpr, endOther]
  intro nonempty
  have isPrefix := List.rdropWhile_prefix isWhitespace start
  have same := isPrefix.getElem nonempty
  rw [same]
  exact List.dropWhile_eq_self_iff.mp firstOther _

/-- A text is what is trimmed of it around what is left. -/
theorem trim_split (text : List Char) :
    ∃ front back, text = front ++ trim text ++ back ∧
      (∀ char ∈ front, isWhitespace char = true) ∧ ∀ char ∈ back, isWhitespace char = true := by
  refine ⟨text.takeWhile isWhitespace, (text.dropWhile isWhitespace).rtakeWhile isWhitespace,
    ?_, ?_, ?_⟩
  · rw [trim, List.append_assoc, List.rdropWhile_append_rtakeWhile,
      List.takeWhile_append_dropWhile]
  · exact fun char isMember => List.mem_takeWhile_imp isMember
  · exact fun char isMember => List.mem_rtakeWhile_imp isMember

theorem getLast_trim (text : List Char) :
    ∀ char ∈ (trim text).getLast?, isWhitespace char = false := by
  intro char isLast
  have nonempty : trim text ≠ [] := by
    intro isEmpty
    rw [isEmpty] at isLast
    cases isLast
  have notSpace := List.rdropWhile_last_not isWhitespace _ nonempty
  rw [List.getLast?_eq_some_getLast nonempty] at isLast
  obtain rfl := Option.some.inj isLast
  exact Bool.eq_false_iff.mpr notSpace

/-- White space around a text is trimmed away. -/
theorem trim_between {front back : List Char}
    (frontSpaced : ∀ char ∈ front, isWhitespace char = true)
    (backSpaced : ∀ char ∈ back, isWhitespace char = true) (text : List Char) :
    trim (front ++ text ++ back) = trim text := by
  have behind (kept : List Char) :
      (kept ++ back).rdropWhile isWhitespace = kept.rdropWhile isWhitespace := by
    have dropped : ∀ char ∈ back.reverse, isWhitespace char = true := fun char isMember =>
      backSpaced char (List.mem_reverse.mp isMember)
    rw [List.rdropWhile, List.reverse_append, List.dropWhile_append_of_pos dropped,
      List.rdropWhile]
  rw [trim, List.append_assoc, List.dropWhile_append_of_pos frontSpaced, List.dropWhile_append,
    trim]
  split
  · rename_i empty
    rw [List.isEmpty_iff.mp empty, List.dropWhile_eq_nil_iff.mpr backSpaced]
  · exact behind _

end Whitespace

section Splitting

variable {separator : Char} {text front back : List Char}

theorem splitOnce_char_eq_none_iff : splitOnce [separator] text = none ↔ separator ∉ text := by
  induction text with
  | nil => simp [splitOnce]
  | cons first rest inductionHypothesis =>
      by_cases isSeparator : separator = first
      · simp [splitOnce, isSeparator]
      · simp [splitOnce, isSeparator, inductionHypothesis]

theorem splitOnce_char_eq_some_iff :
    splitOnce [separator] text = some (front, back) ↔
      text = front ++ separator :: back ∧ separator ∉ front := by
  induction text generalizing front with
  | nil => simp [splitOnce]
  | cons first rest inductionHypothesis =>
      by_cases isSeparator : separator = first
      · cases front with
        | nil => simp [splitOnce, isSeparator]
        | cons head front => simp +contextual [splitOnce, isSeparator]
      · have other : ¬[separator] <+: first :: rest := by simp [isSeparator]
        rw [splitOnce, if_neg other]
        cases front with
        | nil => simp [Ne.symm isSeparator]
        | cons head front =>
            simp only [Option.map_eq_some_iff, Prod.mk.injEq, Prod.exists, List.cons.injEq,
              List.cons_append, List.mem_cons, not_or]
            constructor
            · rintro ⟨restFront, restBack, found, ⟨rfl, rfl⟩, rfl⟩
              obtain ⟨rfl, noneBefore⟩ := inductionHypothesis.mp found
              exact ⟨⟨rfl, rfl⟩, isSeparator, noneBefore⟩
            · rintro ⟨⟨rfl, rfl⟩, -, noneBefore⟩
              exact ⟨front, back, inductionHypothesis.mpr ⟨rfl, noneBefore⟩, ⟨rfl, rfl⟩, rfl⟩

theorem eq_of_splitOnce {separator : List Char}
    (found : splitOnce separator text = some (front, back)) : text = front ++ separator ++ back := by
  induction text generalizing front with
  | nil =>
      rw [splitOnce] at found
      split at found
      · rename_i empty
        obtain ⟨rfl, rfl⟩ := Prod.mk.inj (Option.some.inj found)
        simp [empty]
      · cases found
  | cons first rest inductionHypothesis =>
      rw [splitOnce] at found
      split at found
      · rename_i isPrefix
        obtain ⟨rfl, rfl⟩ := Prod.mk.inj (Option.some.inj found)
        obtain ⟨behind, isText⟩ := isPrefix
        simp [← isText]
      · obtain ⟨⟨restFront, restBack⟩, foundInRest, same⟩ := Option.map_eq_some_iff.mp found
        obtain ⟨rfl, rfl⟩ := Prod.mk.inj same
        rw [inductionHypothesis foundInRest]
        rfl

/-- A separator that a text contains is found there whatever follows the text. -/
theorem splitOnce_append {separator : List Char}
    (found : splitOnce separator text = some (front, back)) (behind : List Char) :
    splitOnce separator (text ++ behind) = some (front, back ++ behind) := by
  induction text generalizing front with
  | nil =>
      have isText := eq_of_splitOnce found
      obtain ⟨rfl, rfl, rfl⟩ : front = [] ∧ separator = [] ∧ back = [] := by simpa using isText
      cases behind <;> simp [splitOnce]
  | cons first rest inductionHypothesis =>
      rw [splitOnce] at found
      rw [List.cons_append, splitOnce]
      split at found
      · rename_i isPrefix
        obtain ⟨rfl, rfl⟩ := Prod.mk.inj (Option.some.inj found)
        rw [← List.cons_append, if_pos (isPrefix.trans (List.prefix_append _ _)),
          List.drop_append_of_le_length isPrefix.length_le]
      · rename_i noPrefix
        obtain ⟨⟨restFront, restBack⟩, foundInRest, same⟩ := Option.map_eq_some_iff.mp found
        obtain ⟨rfl, rfl⟩ := Prod.mk.inj same
        have short : separator.length ≤ (first :: rest).length := by
          have length := congrArg List.length (eq_of_splitOnce foundInRest)
          simp only [List.length_append] at length
          simp only [List.length_cons]
          omega
        have notHere : ¬separator <+: first :: (rest ++ behind) := fun isPrefix => noPrefix
          (List.prefix_of_prefix_length_le isPrefix (List.prefix_append (first :: rest) behind)
            short)
        rw [if_neg notHere, inductionHypothesis foundInRest]
        rfl

theorem not_separates_of_mem_splitOnP {separates : Char → Bool} {char : Char}
    {segment : List Char}
    (isPart : segment ∈ text.splitOnP separates) (isMember : char ∈ segment) :
    separates char = false := by
  induction text generalizing segment with
  | nil =>
      rw [List.splitOnP_nil, List.mem_singleton] at isPart
      rw [isPart] at isMember
      cases isMember
  | cons first rest inductionHypothesis =>
      rw [List.splitOnP_cons_eq_if_modifyHead] at isPart
      split at isPart
      · rcases List.mem_cons.mp isPart with rfl | inRest
        · cases isMember
        · exact inductionHypothesis inRest isMember
      · rename_i passes
        obtain ⟨head, others, isRest⟩ := List.exists_cons_of_ne_nil
          (List.splitOnP_ne_nil separates rest)
        rw [isRest] at isPart inductionHypothesis
        rcases List.mem_cons.mp isPart with rfl | inOthers
        · rcases List.mem_cons.mp isMember with rfl | inHead
          · simpa using passes
          · exact inductionHypothesis List.mem_cons_self inHead
        · exact inductionHypothesis (List.mem_cons_of_mem _ inOthers) isMember

end Splitting

section Labels

theorem intercalate_concat {separator last : List Char} {parts : List (List Char)}
    (nonempty : parts ≠ []) :
    separator.intercalate (parts ++ [last]) = separator.intercalate parts ++ separator ++ last := by
  induction parts with
  | nil => exact absurd rfl nonempty
  | cons first rest ih =>
    cases rest with
    | nil => simp
    | cons second others =>
      have joined := ih (List.cons_ne_nil second others)
      simp only [List.cons_append, List.intercalate_cons_cons] at joined ⊢
      rw [joined]
      simp

theorem mem_intercalate {char separator : Char} {parts : List (List Char)}
    (isMember : char ∈ [separator].intercalate parts) :
    char = separator ∨ ∃ part ∈ parts, char ∈ part := by
  induction parts with
  | nil => cases isMember
  | cons first rest inductionHypothesis =>
      by_cases empty : rest = []
      · rw [empty, List.intercalate_singleton] at isMember
        exact .inr ⟨first, List.mem_cons_self .., isMember⟩
      · rw [List.intercalate_cons_of_ne_nil empty, List.mem_append, List.mem_append,
          List.mem_singleton] at isMember
        rcases isMember with (inFirst | isSeparator) | inRest
        · exact .inr ⟨first, List.mem_cons_self .., inFirst⟩
        · exact .inl isSeparator
        · rcases inductionHypothesis inRest with isSeparator | ⟨part, isPart, inPart⟩
          · exact .inl isSeparator
          · exact .inr ⟨part, List.mem_cons_of_mem _ isPart, inPart⟩

/-- A text has a last part behind others where it ends in the separator and that part. -/
theorem splitOn_eq_concat_iff {text last : List Char} {parts : List (List Char)}
    {separator : Char} (whole : separator ∉ last) :
    text.splitOn separator = parts ++ [last] ∧ parts ≠ [] ↔
      ∃ start, text = start ++ separator :: last ∧ parts = start.splitOn separator := by
  have splitStart (start : List Char) : (start ++ separator :: last).splitOn separator =
      start.splitOn separator ++ [last] := by
    rw [List.splitOn_append_cons_self, List.splitOn_eq_singleton whole]
  constructor
  · rintro ⟨isSplit, nonempty⟩
    have joined := @List.intercalate_splitOn Char text _ _ separator
    rw [isSplit, intercalate_concat nonempty, List.append_assoc, List.singleton_append] at joined
    refine ⟨[separator].intercalate parts, joined.symm, ?_⟩
    rw [← joined, splitStart] at isSplit
    exact (List.append_cancel_right isSplit).symm
  · rintro ⟨start, rfl, rfl⟩
    exact ⟨splitStart start, List.splitOn_ne_nil separator start⟩

end Labels

section Sizes

theorem utf8ByteSize_ofList_le (chars : List Char) :
    (String.ofList chars).utf8ByteSize ≤ 4 * chars.length := by
  induction chars with
  | nil => exact le_rfl
  | cons char rest inductionHypothesis =>
      have split : String.ofList (char :: rest) = String.singleton char ++ String.ofList rest :=
        String.toList_inj.mp (by simp)
      have atMost := char.utf8Size_le_four
      rw [split, String.utf8ByteSize_append, String.utf8ByteSize_singleton, List.length_cons]
      omega

end Sizes

end Slate.Foundation.Text
