import Mathlib.Data.Char
import Mathlib.Data.List.TakeWhile
import Mathlib.Tactic.Common

/-!
# JSON

Values whose numbers are integers, their compact text and a reader of that text. An object
is the list of its fields in the order they are written. A record is read from the fields of
an object by name, the way a derived decoder does: other fields are skipped, a field that
stands twice is an error, and so is a missing one unless it has a default.
-/

namespace Slate.Foundation

inductive Json where
  | null
  | bool (value : Bool)
  | integer (value : Int)
  | string (value : String)
  | array (values : List Json)
  | object (fields : List (String × Json))

namespace Json

section Text

def hexDigit (digit : Nat) : Char := "0123456789abcdef".toList.getD digit '0'

def hexValue (char : Char) : Option Nat := "0123456789abcdef".toList.findIdx? (· = char)

/-- The letter after the backslash of a short escape. -/
def shortEscape (char : Char) : Option Char :=
  if char = '"' then some '"'
  else if char = '\\' then some '\\'
  else if char.toNat = 8 then some 'b'
  else if char.toNat = 9 then some 't'
  else if char.toNat = 10 then some 'n'
  else if char.toNat = 12 then some 'f'
  else if char.toNat = 13 then some 'r'
  else none

def shortUnescape (letter : Char) : Option Char :=
  if letter = '"' then some '"'
  else if letter = '\\' then some '\\'
  else if letter = '/' then some '/'
  else if letter = 'b' then some (Char.ofNat 8)
  else if letter = 't' then some (Char.ofNat 9)
  else if letter = 'n' then some (Char.ofNat 10)
  else if letter = 'f' then some (Char.ofNat 12)
  else if letter = 'r' then some (Char.ofNat 13)
  else none

def writeChar (char : Char) : List Char :=
  match shortEscape char with
  | some letter => ['\\', letter]
  | none =>
      if char.toNat < 32 then
        ['\\', 'u', '0', '0', hexDigit (char.toNat / 16), hexDigit (char.toNat % 16)]
      else [char]

def writeChars (text : List Char) : List Char := text.flatMap writeChar

def writeText (text : String) : List Char := '"' :: writeChars text.toList ++ ['"']

def readHex (first second third fourth : Char) : Option Char := do
  let code := 4096 * (← hexValue first) + 256 * (← hexValue second) + 16 * (← hexValue third) +
    (← hexValue fourth)
  if code.isValidChar then some (Char.ofNat code) else none

/-- Read up to the closing quote. -/
def readChars : List Char → Option (List Char × List Char)
  | [] => none
  | '"' :: rest => some ([], rest)
  | '\\' :: 'u' :: first :: second :: third :: fourth :: rest => do
      let char ← readHex first second third fourth
      (readChars rest).map fun found => (char :: found.1, found.2)
  | '\\' :: letter :: rest => do
      let char ← shortUnescape letter
      (readChars rest).map fun found => (char :: found.1, found.2)
  | char :: rest => (readChars rest).map fun found => (char :: found.1, found.2)

attribute [local grind =] readChars

end Text

section Number

def writeInteger (value : Int) : List Char :=
  if value < 0 then '-' :: Nat.toDigits 10 value.natAbs else Nat.toDigits 10 value.natAbs

def ofDigits (digits : List Char) : Nat :=
  digits.foldl (fun value digit => 10 * value + (digit.toNat - 48)) 0

def readNatural (text : List Char) : Option (Nat × List Char) :=
  let digits := text.takeWhile Char.isDigit
  if digits = [] then none else some (ofDigits digits, text.dropWhile Char.isDigit)

def readInteger : List Char → Option (Int × List Char)
  | '-' :: rest => (readNatural rest).map fun found => (-(found.1 : Int), found.2)
  | text => (readNatural text).map fun found => ((found.1 : Int), found.2)

/-- A text that does not go on with a digit. -/
def NoDigit (text : List Char) : Prop := ∀ char ∈ text.head?, char.isDigit = false

end Number

section Values

mutual

def write : Json → List Char
  | .null => ['n', 'u', 'l', 'l']
  | .bool true => ['t', 'r', 'u', 'e']
  | .bool false => ['f', 'a', 'l', 's', 'e']
  | .integer value => writeInteger value
  | .string value => writeText value
  | .array [] => ['[', ']']
  | .array (value :: values) => '[' :: (write value ++ writeElements values)
  | .object [] => ['{', '}']
  | .object ((name, value) :: fields) =>
      '{' :: (writeText name ++ ':' :: (write value ++ writeFields fields))

def writeElements : List Json → List Char
  | [] => [']']
  | value :: values => ',' :: (write value ++ writeElements values)

def writeFields : List (String × Json) → List Char
  | [] => ['}']
  | (name, value) :: fields =>
      ',' :: (writeText name ++ ':' :: (write value ++ writeFields fields))

end

/-- Read a field name and the colon behind it. -/
def readName : List Char → Option (String × List Char)
  | '"' :: rest =>
      match readChars rest with
      | some (name, ':' :: rest) => some (String.ofList name, rest)
      | _ => none
  | _ => none

mutual

def readValue : Nat → List Char → Option (Json × List Char)
  | 0, _ => none
  | _ + 1, 'n' :: 'u' :: 'l' :: 'l' :: rest => some (.null, rest)
  | _ + 1, 't' :: 'r' :: 'u' :: 'e' :: rest => some (.bool true, rest)
  | _ + 1, 'f' :: 'a' :: 'l' :: 's' :: 'e' :: rest => some (.bool false, rest)
  | _ + 1, '"' :: rest =>
      (readChars rest).map fun found => (.string (String.ofList found.1), found.2)
  | _ + 1, '[' :: ']' :: rest => some (.array [], rest)
  | fuel + 1, '[' :: rest => do
      let (value, rest) ← readValue fuel rest
      let (values, rest) ← readElements fuel rest
      some (.array (value :: values), rest)
  | _ + 1, '{' :: '}' :: rest => some (.object [], rest)
  | fuel + 1, '{' :: rest => do
      let (name, rest) ← readName rest
      let (value, rest) ← readValue fuel rest
      let (fields, rest) ← readFields fuel rest
      some (.object ((name, value) :: fields), rest)
  | _ + 1, text => (readInteger text).map fun found => (.integer found.1, found.2)

def readElements : Nat → List Char → Option (List Json × List Char)
  | _ + 1, ']' :: rest => some ([], rest)
  | fuel + 1, ',' :: rest => do
      let (value, rest) ← readValue fuel rest
      let (values, rest) ← readElements fuel rest
      some (value :: values, rest)
  | _, _ => none

def readFields : Nat → List Char → Option (List (String × Json) × List Char)
  | _ + 1, '}' :: rest => some ([], rest)
  | fuel + 1, ',' :: rest => do
      let (name, rest) ← readName rest
      let (value, rest) ← readValue fuel rest
      let (fields, rest) ← readFields fuel rest
      some ((name, value) :: fields, rest)
  | _, _ => none

end

/-- Read a value and nothing else. -/
def read (text : List Char) : Option Json :=
  match readValue text.length text with
  | some (value, []) => some value
  | _ => none

end Values

section TextRoundTrip

theorem hexValue_hexDigit : ∀ digit < 16, hexValue (hexDigit digit) = some digit := by
  decide

theorem readHex_control {char : Char} (control : char.toNat < 32) :
    readHex '0' '0' (hexDigit (char.toNat / 16)) (hexDigit (char.toNat % 16)) = some char := by
  have zero : hexValue '0' = some 0 := by decide
  have high := hexValue_hexDigit (char.toNat / 16) (by omega)
  have low := hexValue_hexDigit (char.toNat % 16) (by omega)
  have code : 4096 * 0 + 256 * 0 + 16 * (char.toNat / 16) + char.toNat % 16 = char.toNat := by
    omega
  have valid : char.toNat.isValidChar := char.valid
  simp only [readHex, zero, high, low, Option.bind_eq_bind, Option.bind_some, code, valid,
    if_true, Char.ofNat_toNat]

theorem shortEscape_eq_some {char letter : Char} (escaped : shortEscape char = some letter) :
    letter ≠ 'u' ∧ shortUnescape letter = some char := by
  have restore {code : Nat} (same : char.toNat = code) : some (Char.ofNat code) = some char := by
    rw [← same, Char.ofNat_toNat]
  unfold shortEscape at escaped
  split at escaped
  · subst char
    cases escaped
    decide
  · split at escaped
    · subst char
      cases escaped
      decide
    · split_ifs at escaped with code code code code code
      all_goals
        cases escaped
        exact ⟨by decide, restore code⟩

theorem shortEscape_eq_none {char : Char} (plain : shortEscape char = none) :
    char ≠ '"' ∧ char ≠ '\\' := by
  unfold shortEscape at plain
  constructor
  · rintro rfl
    simp at plain
  · rintro rfl
    simp at plain

theorem readChars_writeChar (char : Char) (rest : List Char) :
    readChars (writeChar char ++ rest) =
      (readChars rest).map fun found => (char :: found.1, found.2) := by
  unfold writeChar
  cases escaped : shortEscape char with
  | some letter =>
      obtain ⟨other, back⟩ := shortEscape_eq_some escaped
      simp only [List.cons_append, List.nil_append]
      rw [readChars, back]
      · rfl
      · intro _ _ _ _ _ letterIs
        exact absurd letterIs other
  | none =>
      obtain ⟨notQuote, notBackslash⟩ := shortEscape_eq_none escaped
      by_cases control : char.toNat < 32
      · simp only [control, if_true, List.cons_append, List.nil_append]
        rw [readChars, readHex_control control]
        rfl
      · simp only [control, if_false, List.cons_append, List.nil_append]
        rw [readChars]
        · exact notQuote
        · intro _ _ _ _ _ charIs
          exact absurd charIs notBackslash
        · intro _ _ charIs
          exact absurd charIs notBackslash

theorem readChars_writeChars (text rest : List Char) :
    readChars (writeChars text ++ '"' :: rest) = some (text, rest) := by
  induction text with
  | nil => simp [writeChars, readChars]
  | cons char text inductionHypothesis =>
      simp only [writeChars, List.flatMap_cons, List.append_assoc] at inductionHypothesis ⊢
      rw [readChars_writeChar, inductionHypothesis, Option.map_some]

theorem readName_writeText (name : String) (rest : List Char) :
    readName (writeText name ++ ':' :: rest) = some (name, rest) := by
  simp only [writeText, List.cons_append, List.append_assoc, List.nil_append, readName,
    readChars_writeChars, String.ofList_toList]

end TextRoundTrip

section NumberRoundTrip

/-- The last digit behind the others. -/
theorem toDigits_eq_append {value : Nat} (large : ¬ value < 10) :
    Nat.toDigits 10 value = Nat.toDigits 10 (value / 10) ++ [(value % 10).digitChar] := by
  have last : value % 10 < 10 := by omega
  rw [← Nat.toDigits_of_lt_base last, Nat.toDigits_append_toDigits (by decide) (by omega) last]
  congr 1
  omega

theorem ofDigits_toDigits (value : Nat) : ofDigits (Nat.toDigits 10 value) = value := by
  induction value using Nat.strong_induction_on with
  | _ value inductionHypothesis =>
      by_cases small : value < 10
      · rw [Nat.toDigits_of_lt_base small]
        simp only [ofDigits, List.foldl_cons, List.foldl_nil]
        rw [Nat.toNat_digitChar_sub_48_of_lt_ten small, Nat.mul_zero, Nat.zero_add]
      · have front := inductionHypothesis (value / 10) (by omega)
        rw [toDigits_eq_append small]
        simp only [ofDigits, List.foldl_append, List.foldl_cons, List.foldl_nil] at front ⊢
        rw [front, Nat.toNat_digitChar_sub_48_of_lt_ten (by omega)]
        omega

theorem isDigit_of_mem_toDigits (value : Nat) :
    ∀ digit ∈ Nat.toDigits 10 value, digit.isDigit = true := fun _ isDigit =>
  Nat.isDigit_of_mem_toDigits (by decide) (by decide) isDigit

theorem toDigits_ne_nil (value : Nat) : Nat.toDigits 10 value ≠ [] := by
  by_cases small : value < 10
  · rw [Nat.toDigits_of_lt_base small]
    exact List.cons_ne_nil _ _
  · rw [toDigits_eq_append small]
    exact List.append_ne_nil_of_right_ne_nil _ (List.cons_ne_nil _ _)

theorem readNatural_toDigits (value : Nat) {rest : List Char} (ends : NoDigit rest) :
    readNatural (Nat.toDigits 10 value ++ rest) = some (value, rest) := by
  have stops : rest.takeWhile Char.isDigit = [] ∧ rest.dropWhile Char.isDigit = rest := by
    cases rest with
    | nil => exact ⟨rfl, rfl⟩
    | cons char rest =>
        have notDigit := ends char rfl
        simp [notDigit]
  unfold readNatural
  rw [List.takeWhile_append_of_pos (isDigit_of_mem_toDigits value),
    List.dropWhile_append_of_pos (isDigit_of_mem_toDigits value), stops.1, stops.2, List.append_nil]
  simp only [toDigits_ne_nil, if_false, ofDigits_toDigits]

theorem readInteger_writeInteger (value : Int) {rest : List Char} (ends : NoDigit rest) :
    readInteger (writeInteger value ++ rest) = some (value, rest) := by
  have digits := readNatural_toDigits value.natAbs ends
  unfold writeInteger
  by_cases negative : value < 0
  · simp only [negative, if_true, List.cons_append, readInteger, digits, Option.map_some]
    congr 2
    omega
  · have nonnegative : (value.natAbs : Int) = value := by omega
    simp only [negative, if_false]
    rw [readInteger, digits, Option.map_some, nonnegative]
    intro _ minus
    have isDigit : '-'.isDigit = true := by
      apply isDigit_of_mem_toDigits value.natAbs
      cases written : Nat.toDigits 10 value.natAbs with
      | nil => exact absurd written (toDigits_ne_nil _)
      | cons first others =>
          rw [written, List.cons_append] at minus
          rw [(List.cons.inj minus).1]
          exact List.mem_cons_self
    exact absurd isDigit (by decide)

theorem head_writeInteger (value : Int) :
    ∃ first others, writeInteger value = first :: others ∧
      (first = '-' ∨ first.isDigit = true) := by
  unfold writeInteger
  by_cases negative : value < 0
  · rw [if_pos negative]
    exact ⟨_, _, rfl, .inl rfl⟩
  · rw [if_neg negative]
    cases written : Nat.toDigits 10 value.natAbs with
    | nil => exact absurd written (toDigits_ne_nil _)
    | cons first others =>
        refine ⟨first, others, rfl, .inr ?_⟩
        apply isDigit_of_mem_toDigits value.natAbs
        rw [written]
        exact List.mem_cons_self

end NumberRoundTrip

section ValueRoundTrip

theorem noDigit_cons {char : Char} {rest : List Char} (other : char.isDigit = false) :
    NoDigit (char :: rest) := by
  intro head isHead
  cases isHead
  exact other

theorem noDigit_writeElements (values : List Json) (rest : List Char) :
    NoDigit (writeElements values ++ rest) := by
  cases values with
  | nil => exact noDigit_cons (by decide)
  | cons value values => exact noDigit_cons (by decide)

theorem noDigit_writeFields (fields : List (String × Json)) (rest : List Char) :
    NoDigit (writeFields fields ++ rest) := by
  cases fields with
  | nil => exact noDigit_cons (by decide)
  | cons field fields => exact noDigit_cons (by decide)

theorem readValue_writeInteger (value : Int) (fuel : Nat) {rest : List Char}
    (ends : NoDigit rest) :
    readValue (fuel + 1) (writeInteger value ++ rest) = some (.integer value, rest) := by
  have found := readInteger_writeInteger value ends
  obtain ⟨first, others, written, isNumber⟩ := head_writeInteger value
  rw [written, List.cons_append] at found ⊢
  have heads : first ≠ 'n' ∧ first ≠ 't' ∧ first ≠ 'f' ∧ first ≠ '"' ∧ first ≠ '[' ∧
      first ≠ '{' := by
    refine ⟨?_, ?_, ?_, ?_, ?_, ?_⟩ <;> (rintro rfl; revert isNumber; decide)
  obtain ⟨notN, notT, notF, notQuote, notBracket, notBrace⟩ := heads
  rw [readValue, found, Option.map_some]
  all_goals
    intros
    simp_all

theorem head_write (value : Json) :
    ∃ first others, write value = first :: others ∧ first ≠ ']' := by
  cases value with
  | null => exact ⟨_, _, rfl, by decide⟩
  | bool value => cases value <;> exact ⟨_, _, rfl, by decide⟩
  | integer value =>
      obtain ⟨first, others, written, isNumber⟩ := head_writeInteger value
      refine ⟨first, others, written, ?_⟩
      rintro rfl
      revert isNumber
      decide
  | string value => exact ⟨_, _, rfl, by decide⟩
  | array values => cases values <;> exact ⟨_, _, rfl, by decide⟩
  | object fields => cases fields <;> exact ⟨_, _, rfl, by decide⟩

mutual

theorem readValue_write : ∀ (value : Json) (fuel : Nat) (rest : List Char),
    (write value).length ≤ fuel → NoDigit rest →
      readValue fuel (write value ++ rest) = some (value, rest)
  | value, 0, rest, enough, _ => by
      obtain ⟨first, others, written, -⟩ := head_write value
      rw [written] at enough
      simp at enough
  | .null, fuel + 1, rest, _, _ => by simp [write, readValue]
  | .bool true, fuel + 1, rest, _, _ => by simp [write, readValue]
  | .bool false, fuel + 1, rest, _, _ => by simp [write, readValue]
  | .integer value, fuel + 1, rest, _, ends => readValue_writeInteger value fuel ends
  | .string value, fuel + 1, rest, _, _ => by
      simp [write, writeText, readValue, readChars_writeChars]
  | .array [], fuel + 1, rest, _, _ => by simp [write, readValue]
  | .array (value :: values), fuel + 1, rest, enough, _ => by
      simp only [write, List.length_cons, List.length_append] at enough
      have head := readValue_write value fuel (writeElements values ++ rest) (by omega)
        (noDigit_writeElements values rest)
      have tail := readElements_writeElements values fuel rest (by omega)
      obtain ⟨first, others, written, notClose⟩ := head_write value
      rw [write, List.cons_append, List.append_assoc]
      rw [written, List.cons_append] at head ⊢
      rw [readValue]
      · simp only [head, tail, Option.bind_eq_bind, Option.bind_some]
      · intro _ close
        exact absurd (List.cons.inj close).1 notClose
  | .object [], fuel + 1, rest, _, _ => by simp [write, readValue]
  | .object ((name, value) :: fields), fuel + 1, rest, enough, _ => by
      simp only [write, List.length_cons, List.length_append] at enough
      have head := readValue_write value fuel (writeFields fields ++ rest) (by omega)
        (noDigit_writeFields fields rest)
      have tail := readFields_writeFields fields fuel rest (by omega)
      have label := readName_writeText name (write value ++ (writeFields fields ++ rest))
      rw [write, List.cons_append, List.append_assoc, List.cons_append, List.append_assoc]
      rw [writeText, List.cons_append, List.cons_append] at label ⊢
      rw [readValue]
      · simp only [label, head, tail, Option.bind_eq_bind, Option.bind_some]
      · intro _ close
        exact absurd (List.cons.inj close).1 (by decide)

theorem readElements_writeElements : ∀ (values : List Json) (fuel : Nat) (rest : List Char),
    (writeElements values).length ≤ fuel →
      readElements fuel (writeElements values ++ rest) = some (values, rest)
  | [], 0, rest, enough => by simp [writeElements] at enough
  | [], fuel + 1, rest, _ => by simp [writeElements, readElements]
  | value :: values, 0, rest, enough => by simp [writeElements] at enough
  | value :: values, fuel + 1, rest, enough => by
      simp only [writeElements, List.length_cons, List.length_append] at enough
      have head := readValue_write value fuel (writeElements values ++ rest) (by omega)
        (noDigit_writeElements values rest)
      have tail := readElements_writeElements values fuel rest (by omega)
      rw [writeElements, List.cons_append, List.append_assoc, readElements]
      simp only [head, tail, Option.bind_eq_bind, Option.bind_some]

theorem readFields_writeFields : ∀ (fields : List (String × Json)) (fuel : Nat)
    (rest : List Char), (writeFields fields).length ≤ fuel →
      readFields fuel (writeFields fields ++ rest) = some (fields, rest)
  | [], 0, rest, enough => by simp [writeFields] at enough
  | [], fuel + 1, rest, _ => by simp [writeFields, readFields]
  | (name, value) :: fields, 0, rest, enough => by simp [writeFields] at enough
  | (name, value) :: fields, fuel + 1, rest, enough => by
      simp only [writeFields, List.length_cons, List.length_append] at enough
      have head := readValue_write value fuel (writeFields fields ++ rest) (by omega)
        (noDigit_writeFields fields rest)
      have tail := readFields_writeFields fields fuel rest (by omega)
      rw [writeFields, List.cons_append, List.append_assoc, List.cons_append,
        List.append_assoc, readFields]
      simp only [readName_writeText, head, tail, Option.bind_eq_bind, Option.bind_some]

end

theorem read_write (value : Json) : read (write value) = some value := by
  have found := readValue_write value (write value).length [] le_rfl
    (fun _ isHead => by cases isHead)
  rw [List.append_nil] at found
  simp only [read, found]

end ValueRoundTrip

section TextLength

theorem length_le_writeElements (values : List Json) :
    values.length ≤ (writeElements values).length := by
  induction values with
  | nil => exact Nat.zero_le _
  | cons value values inductionHypothesis =>
      rw [writeElements, List.length_cons, List.length_cons, List.length_append]
      omega

/-- The text of an array is at least as long as the array. -/
theorem length_le_write_array (values : List Json) :
    values.length ≤ (write (.array values)).length := by
  cases values with
  | nil => exact Nat.zero_le _
  | cons value values =>
      have others := length_le_writeElements values
      rw [write, List.length_cons, List.length_cons, List.length_append]
      omega

theorem length_le_writeFields {name : String} {value : Json} {fields : List (String × Json)}
    (isField : (name, value) ∈ fields) : (write value).length ≤ (writeFields fields).length := by
  induction fields with
  | nil => exact absurd isField List.not_mem_nil
  | cons field fields inductionHypothesis =>
      rw [writeFields, List.length_cons, List.length_append, List.length_cons, List.length_append]
      rcases List.mem_cons.mp isField with rfl | isField
      · dsimp only
        omega
      · have shorter := inductionHypothesis isField
        omega

/-- The text of an object is at least as long as those of its fields. -/
theorem length_le_write_object {name : String} {value : Json} {fields : List (String × Json)}
    (isField : (name, value) ∈ fields) :
    (write value).length ≤ (write (.object fields)).length := by
  cases fields with
  | nil => exact absurd isField List.not_mem_nil
  | cons field fields =>
      rw [write, List.length_cons, List.length_append, List.length_cons, List.length_append]
      rcases List.mem_cons.mp isField with rfl | isField
      · dsimp only
        omega
      · have shorter := length_le_writeFields isField
        omega

end TextLength

section Fields

variable {Value : Type}

/-- The value of a field, if the object has it. -/
def field? (name : String) (fields : List (String × Json)) : Except String (Option Json) :=
  match fields.filter (·.1 = name) with
  | [] => .ok none
  | [field] => .ok (some field.2)
  | _ => .error ("duplicate field `" ++ name ++ "`")

def required (readField : Json → Except String Value) (name : String)
    (fields : List (String × Json)) : Except String Value := do
  match ← field? name fields with
  | some value => readField value
  | none => .error ("missing field `" ++ name ++ "`")

def defaulted (default : Value) (readField : Json → Except String Value) (name : String)
    (fields : List (String × Json)) : Except String Value := do
  match ← field? name fields with
  | some value => readField value
  | none => .ok default

/-- An optional value: `null` is none. -/
def asOption (readField : Json → Except String Value) : Json → Except String (Option Value)
  | .null => .ok none
  | value => (readField value).map some

def asFields : Json → Except String (List (String × Json))
  | .object fields => .ok fields
  | _ => .error "invalid type: expected an object"

def asString : Json → Except String String
  | .string value => .ok value
  | _ => .error "invalid type: expected a string"

def asInteger (least greatest : Int) : Json → Except String Int
  | .integer value =>
      if least ≤ value ∧ value ≤ greatest then .ok value
      else .error "invalid value: integer out of range"
  | _ => .error "invalid type: expected an integer"

def asNatural (greatest : Nat) (value : Json) : Except String Nat :=
  (asInteger 0 greatest value).map Int.toNat

def asArray (readElement : Json → Except String Value) : Json → Except String (List Value)
  | .array values => values.mapM readElement
  | _ => .error "invalid type: expected a sequence"

variable {readField : Json → Except String Value} {name : String}
  {fields : List (String × Json)}

end Fields

end Json

/-- An encoder of JSON as bytes, with its decoder. -/
structure JsonFormat where
  toBytes : Json → List Nat
  fromBytes : List Nat → Except String Json

namespace JsonFormat

/-- What was encoded is decoded to the same value. -/
def Faithful (format : JsonFormat) : Prop :=
  ∀ value, format.fromBytes (format.toBytes value) = .ok value

theorem Faithful.toBytes_injective {format : JsonFormat} (faithful : format.Faithful) :
    Function.Injective format.toBytes := by
  intro first second same
  have decoded := faithful first
  rw [same, faithful second] at decoded
  exact (Except.ok.inj decoded).symm

/-- The compact text in UTF-8. -/
def compact : JsonFormat where
  toBytes value := (String.ofList value.write).toByteArray.data.toList.map UInt8.toNat
  fromBytes numbers :=
    match String.fromUTF8? ⟨(numbers.map UInt8.ofNat).toArray⟩ with
    | some text =>
        match Json.read text.toList with
        | some value => .ok value
        | none => .error "expected value"
    | none => .error "invalid unicode code point"

theorem compact_faithful : compact.Faithful := by
  intro value
  have bytes : ((String.ofList value.write).toByteArray.data.toList.map
      UInt8.toNat).map UInt8.ofNat = (String.ofList value.write).toByteArray.data.toList := by
    simp [List.map_map, Function.comp_def]
  have decoded : String.fromUTF8? (String.ofList value.write).toByteArray =
      some (String.ofList value.write) := by
    rw [String.fromUTF8?, dif_pos (String.ofList value.write).isValidUTF8]
    rfl
  simp only [compact, bytes, Array.toArray_toList, decoded, String.toList_ofList, Json.read_write]

/-- A character takes at least one byte. -/
theorem length_write_le_compact (value : Json) :
    value.write.length ≤ (compact.toBytes value).length := by
  have encoded (chars : List Char) : chars.length ≤ (String.ofList chars).utf8ByteSize := by
    induction chars with
    | nil => exact Nat.zero_le _
    | cons char chars inductionHypothesis =>
        have split : String.ofList (char :: chars) =
            String.singleton char ++ String.ofList chars := String.toList_inj.mp (by simp)
        have positive := char.utf8Size_pos
        rw [split, String.utf8ByteSize_append, String.utf8ByteSize_singleton, List.length_cons]
        omega
  have size : (compact.toBytes value).length = (String.ofList value.write).utf8ByteSize :=
    List.length_map _
  rw [size]
  exact encoded value.write

end JsonFormat

end Slate.Foundation
