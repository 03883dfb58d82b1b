import Slate.Foundation.Text

/-!
# Readers

A reader takes what it reads off the front of a text. One that fails takes nothing. What it
takes are characters it allows, so that a text that is read as a whole has no others.
-/

namespace Slate.Foundation

/-- The value and what is left of the text. -/
abbrev Reader (α : Type) := StateT (List Char) Option α

namespace Reader

variable {α β : Type}

def givenChar (wanted : Char) : Reader Unit := fun text =>
  match text with
  | char :: rest => if char = wanted then some ((), rest) else none
  | [] => none

/-- What is read as a whole. -/
def whole (reader : Reader α) (text : List Char) : Option α :=
  match reader text with
  | some (value, []) => some value
  | _ => none

section Numbers

def digitValue (char : Char) : Nat :=
  if char.isDigit then char.toNat - '0'.toNat
  else if 'a' ≤ char ∧ char ≤ 'z' then char.toNat - 'a'.toNat + 10
  else char.toNat - 'A'.toNat + 10

/-- `char::is_digit`. -/
def isDigitOf (radix : Nat) (char : Char) : Bool :=
  (char.isDigit || ('a' ≤ char && char ≤ 'z') || ('A' ≤ char && char ≤ 'Z')) &&
    digitValue char < radix

def ofDigits (radix : Nat) (digits : List Char) : Nat :=
  digits.foldl (fun value digit => radix * value + digitValue digit) 0

/-- How many digits a number may have, whether with zeros in front, and its bound. -/
structure NumberForm where
  radix : Nat
  maxDigits : Option Nat
  allowZeroPrefix : Bool
  bound : Nat

def NumberForm.accepts (form : NumberForm) (digits : List Char) : Bool :=
  digits ≠ [] && form.maxDigits.all (digits.length ≤ ·) &&
    (form.allowZeroPrefix || digits.head? ≠ some '0' || digits.length = 1) &&
    ofDigits form.radix digits < form.bound

/-- All digits that follow. -/
def number (form : NumberForm) : Reader Nat := fun text =>
  let digits := text.takeWhile (isDigitOf form.radix)
  if form.accepts digits then
    some (ofDigits form.radix digits, text.dropWhile (isDigitOf form.radix))
  else none

end Numbers

section Running

variable {reader : Reader α} {text rest : List Char}

theorem givenChar_cons (char : Char) (rest : List Char) :
    givenChar char (char :: rest) = some ((), rest) := if_pos rfl

theorem bind_of_eq {next : α → Reader β} {value : α} (read : reader text = some (value, rest)) :
    (reader >>= next) text = next value rest := by
  change (reader text).bind _ = _
  rw [read]
  rfl

theorem bind_of_eq_none {next : α → Reader β} (fails : reader text = none) :
    (reader >>= next) text = none := by
  change (reader text).bind _ = _
  rw [fails]
  rfl

theorem bind_eq_some_iff {next : α → Reader β} {result : β × List Char} :
    (reader >>= next) text = some result ↔
      ∃ value rest, reader text = some (value, rest) ∧ next value rest = some result := by
  change (reader text).bind (fun found => next found.1 found.2) = some result ↔ _
  simp only [Option.bind_eq_some_iff, Prod.exists]

theorem orElse_of_eq {other : Reader α} {result : α × List Char}
    (read : reader text = some result) : (reader <|> other) text = some result := by
  change (reader text).orElse _ = _
  rw [read]
  rfl

theorem orElse_of_eq_none {other : Reader α} (fails : reader text = none) :
    (reader <|> other) text = other text := by
  change (reader text).orElse _ = _
  rw [fails]
  rfl

theorem whole_eq_some_iff {value : α} :
    whole reader text = some value ↔ reader text = some (value, []) := by
  unfold whole
  split
  · rename_i found read
    rw [read]
    simp
  · rename_i others
    simp only [reduceCtorEq, false_iff]
    intro read
    exact others value read

end Running

section Consumption

/-- What the reader takes are characters with a property. -/
def TakesOnly (allowed : Char → Bool) (reader : Reader α) : Prop :=
  ∀ text value rest, reader text = some (value, rest) →
    ∃ taken, text = taken ++ rest ∧ ∀ char ∈ taken, allowed char = true

variable {allowed : Char → Bool} {reader other : Reader α}

theorem takesOnly_pure (value : α) : TakesOnly allowed (pure value : Reader α) := by
  intro text found rest read
  obtain ⟨rfl, rfl⟩ := Prod.mk.inj (Option.some.inj read)
  exact ⟨[], rfl, fun char isMember => by cases isMember⟩

theorem TakesOnly.bind {next : α → Reader β} (first : TakesOnly allowed reader)
    (second : ∀ value, TakesOnly allowed (next value)) : TakesOnly allowed (reader >>= next) := by
  intro text result rest read
  obtain ⟨value, between, readFirst, readSecond⟩ := bind_eq_some_iff.mp read
  obtain ⟨taken, rfl, allAllowed⟩ := first text value between readFirst
  obtain ⟨takenLater, rfl, laterAllowed⟩ := second value between result rest readSecond
  refine ⟨taken ++ takenLater, (List.append_assoc ..).symm, ?_⟩
  intro char isMember
  rcases List.mem_append.mp isMember with inFirst | inSecond
  · exact allAllowed char inFirst
  · exact laterAllowed char inSecond

theorem TakesOnly.orElse (first : TakesOnly allowed reader) (second : TakesOnly allowed other) :
    TakesOnly allowed (reader <|> other) := by
  intro text value rest read
  cases readFirst : reader text with
  | some result =>
      rw [orElse_of_eq readFirst] at read
      rw [read] at readFirst
      exact first text value rest readFirst
  | none =>
      rw [orElse_of_eq_none readFirst] at read
      exact second text value rest read

theorem takesOnly_givenChar {wanted : Char} (isAllowed : allowed wanted = true) :
    TakesOnly allowed (givenChar wanted) := by
  intro text value rest read
  unfold givenChar at read
  split at read
  · rename_i char others
    split at read
    · rename_i same
      obtain ⟨-, rfl⟩ := Prod.mk.inj (Option.some.inj read)
      refine ⟨[char], rfl, ?_⟩
      intro taken isTaken
      rwa [List.mem_singleton.mp isTaken, same]
    · cases read
  · cases read

theorem takesOnly_number {form : NumberForm}
    (digitsAllowed : ∀ char, isDigitOf form.radix char = true → allowed char = true) :
    TakesOnly allowed (number form) := by
  intro text value rest read
  unfold number at read
  dsimp only at read
  split at read
  · obtain ⟨-, rfl⟩ := Prod.mk.inj (Option.some.inj read)
    refine ⟨text.takeWhile (isDigitOf form.radix), List.takeWhile_append_dropWhile.symm, ?_⟩
    intro char isTaken
    exact digitsAllowed char (List.mem_takeWhile_imp isTaken)
  · cases read

/-- A text that is read as a whole has only characters that the reader takes. -/
theorem TakesOnly.of_whole {text : List Char} {value : α} (only : TakesOnly allowed reader)
    (read : whole reader text = some value) : ∀ char ∈ text, allowed char = true := by
  obtain ⟨taken, rfl, allAllowed⟩ := only text value [] (whole_eq_some_iff.mp read)
  rwa [List.append_nil]

end Consumption

section Digits

variable {radix value : Nat}

/-- The text does not go on with a digit. -/
def NoDigit (radix : Nat) (text : List Char) : Prop :=
  ∀ char ∈ text.head?, isDigitOf radix char = false

theorem digitValue_digitChar {digit : Nat} (small : digit < 16) :
    digitValue digit.digitChar = digit ∧
      (digit.digitChar.isDigit || ('a' ≤ digit.digitChar && digit.digitChar ≤ 'z') ||
        ('A' ≤ digit.digitChar && digit.digitChar ≤ 'Z')) = true := by
  revert digit
  decide

theorem toDigits_eq_append (atLeastTwo : 1 < radix) (large : ¬ value < radix) :
    Nat.toDigits radix value =
      Nat.toDigits radix (value / radix) ++ [(value % radix).digitChar] :=
  Nat.toDigits_of_base_le atLeastTwo (not_lt.mp large)

theorem isDigitOf_of_mem_toDigits (atLeastTwo : 1 < radix) (atMostHex : radix ≤ 16) :
    ∀ char ∈ Nat.toDigits radix value, isDigitOf radix char = true := by
  have ofDigit : ∀ digit < radix, isDigitOf radix digit.digitChar = true := by
    intro digit small
    obtain ⟨sameValue, isLetterOrDigit⟩ := @digitValue_digitChar digit (by omega)
    rw [isDigitOf, isLetterOrDigit, sameValue]
    exact decide_eq_true small
  induction value using Nat.strong_induction_on with
  | _ value inductionHypothesis =>
      by_cases small : value < radix
      · rw [Nat.toDigits_of_lt_base small]
        intro char isChar
        rw [List.mem_singleton.mp isChar]
        exact ofDigit value small
      · rw [toDigits_eq_append atLeastTwo small]
        intro char isChar
        rcases List.mem_append.mp isChar with inFront | isLast
        · exact inductionHypothesis _ (Nat.div_lt_self (by omega) atLeastTwo) char inFront
        · rw [List.mem_singleton.mp isLast]
          exact ofDigit _ (Nat.mod_lt _ (by omega))

theorem ofDigits_toDigits (atLeastTwo : 1 < radix) (atMostHex : radix ≤ 16) :
    ofDigits radix (Nat.toDigits radix value) = value := by
  have ofDigit : ∀ digit < radix, digitValue digit.digitChar = digit := by
    intro digit small
    exact (@digitValue_digitChar digit (by omega)).1
  induction value using Nat.strong_induction_on with
  | _ value inductionHypothesis =>
      by_cases small : value < radix
      · rw [Nat.toDigits_of_lt_base small]
        simp only [ofDigits, List.foldl_cons, List.foldl_nil, Nat.mul_zero, Nat.zero_add]
        exact ofDigit value small
      · have front := inductionHypothesis _ (Nat.div_lt_self (by omega) atLeastTwo)
        rw [toDigits_eq_append atLeastTwo small]
        simp only [ofDigits, List.foldl_append, List.foldl_cons, List.foldl_nil] at front ⊢
        rw [front, ofDigit _ (Nat.mod_lt _ (by omega))]
        exact Nat.div_add_mod value radix

/-- A number is written without zeros in front. -/
theorem head_toDigits (atLeastTwo : 1 < radix) :
    (Nat.toDigits radix value).head? ≠ some '0' ∨ (Nat.toDigits radix value).length = 1 := by
  induction value using Nat.strong_induction_on with
  | _ value inductionHypothesis =>
      by_cases small : value < radix
      · right
        rw [Nat.toDigits_of_lt_base small, List.length_singleton]
      · left
        have positive : 0 < value / radix := Nat.div_pos (not_lt.mp small) (by omega)
        rw [toDigits_eq_append atLeastTwo small,
          List.head?_append_of_ne_nil _ Nat.toDigits_ne_nil]
        rcases inductionHypothesis _ (Nat.div_lt_self (by omega) atLeastTwo) with other | single
        · exact other
        · by_cases smallFront : value / radix < radix
          · rw [Nat.toDigits_of_lt_base smallFront, List.head?_cons, ne_eq, Option.some.injEq,
              Nat.digitChar_eq_zero]
            omega
          · rw [toDigits_eq_append atLeastTwo smallFront, List.length_append] at single
            have nonempty := @Nat.length_toDigits_pos radix (value / radix / radix)
            simp only [List.length_singleton] at single
            omega

/-- A number that was written in its form is read again. -/
theorem number_toDigits {form : NumberForm} {rest : List Char} (atLeastTwo : 1 < form.radix)
    (atMostHex : form.radix ≤ 16)
    (short : form.maxDigits.all fun most => (Nat.toDigits form.radix value).length ≤ most)
    (inBounds : value < form.bound) (ends : NoDigit form.radix rest) :
    number form (Nat.toDigits form.radix value ++ rest) = some (value, rest) := by
  have stops : rest.takeWhile (isDigitOf form.radix) = [] ∧
      rest.dropWhile (isDigitOf form.radix) = rest := by
    cases rest with
    | nil => exact ⟨rfl, rfl⟩
    | cons char rest =>
        have notDigit := ends char rfl
        simp [notDigit]
  have areDigits := @isDigitOf_of_mem_toDigits form.radix value atLeastTwo atMostHex
  have accepted : form.accepts (Nat.toDigits form.radix value) = true := by
    have noZeros := @head_toDigits form.radix value atLeastTwo
    simp only [NumberForm.accepts, ofDigits_toDigits atLeastTwo atMostHex, short, inBounds,
      Nat.toDigits_ne_nil, Bool.and_eq_true, Bool.or_eq_true, decide_eq_true_eq, ne_eq,
      not_false_eq_true, and_true, true_and]
    rcases noZeros with other | single
    · exact .inl (.inr other)
    · exact .inr single
  unfold number
  rw [List.takeWhile_append_of_pos areDigits, List.dropWhile_append_of_pos areDigits, stops.1,
    stops.2, List.append_nil]
  simp only [accepted, if_true, ofDigits_toDigits atLeastTwo atMostHex]

end Digits

end Reader

end Slate.Foundation
