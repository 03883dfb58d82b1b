import Slate.Foundation.Reader

/-!
# Reading unsigned integers

`from_str_radix` of an unsigned type: the digits of a radix up to a bound, also behind a plus
sign.
-/

namespace Slate.Foundation

inductive ParseIntError where
  | empty
  | invalidDigit
  | posOverflow
  deriving DecidableEq, Repr

def ParseIntError.text : ParseIntError → String
  | .empty => "cannot parse integer from empty string"
  | .invalidDigit => "invalid digit found in string"
  | .posOverflow => "number too large to fit in target type"

def addDigit (radix bound value : Nat) (digit : Char) : Except ParseIntError Nat :=
  if Reader.isDigitOf radix digit then
    if radix * value + Reader.digitValue digit < bound then
      .ok (radix * value + Reader.digitValue digit)
    else .error .posOverflow
  else .error .invalidDigit

def readDigits (radix bound : Nat) : Nat → List Char → Except ParseIntError Nat
  | value, [] => .ok value
  | value, digit :: digits =>
    match addDigit radix bound value digit with
    | .ok value => readDigits radix bound value digits
    | .error error => .error error

def fromStrRadix (radix bound : Nat) (text : List Char) : Except ParseIntError Nat :=
  match text with
  | [] => .error .empty
  | '+' :: [] => .error .invalidDigit
  | '+' :: digits => readDigits radix bound 0 digits
  | digits => readDigits radix bound 0 digits

section Numerals

variable {radix bound value start : Nat} {digits text : List Char}

/-- Digits that spell a number. -/
structure Spells (radix : Nat) (digits : List Char) (value : Nat) : Prop where
  nonempty : digits ≠ []
  areDigits : ∀ digit ∈ digits, Reader.isDigitOf radix digit = true
  isValue : Reader.ofDigits radix digits = value

theorem le_foldl_digits (positive : 0 < radix) :
    start ≤ digits.foldl (fun value digit => radix * value + Reader.digitValue digit) start := by
  induction digits generalizing start with
  | nil => exact le_rfl
  | cons digit digits inductionHypothesis =>
      apply le_trans _ inductionHypothesis
      exact (Nat.le_mul_of_pos_left start positive).trans (Nat.le_add_right _ _)

theorem readDigits_eq_ok_iff (positive : 0 < radix) (small : start < bound) :
    readDigits radix bound start digits = .ok value ↔
      (∀ digit ∈ digits, Reader.isDigitOf radix digit = true) ∧
        digits.foldl (fun value digit => radix * value + Reader.digitValue digit) start = value ∧
        value < bound := by
  induction digits generalizing start with
  | nil =>
      simp only [readDigits, Except.ok.injEq, List.not_mem_nil, false_implies, implies_true,
        List.foldl_nil, true_and]
      constructor
      · rintro rfl
        exact ⟨rfl, small⟩
      · exact fun same => same.1
  | cons digit digits inductionHypothesis =>
      rw [readDigits, addDigit, List.forall_mem_cons, List.foldl_cons]
      by_cases isDigit : Reader.isDigitOf radix digit = true
      · rw [if_pos isDigit]
        by_cases fits : radix * start + Reader.digitValue digit < bound
        · rw [if_pos fits]
          simp only [isDigit, true_and]
          exact inductionHypothesis fits
        · rw [if_neg fits]
          constructor
          · intro absurd
            cases absurd
          · rintro ⟨-, rfl, inBounds⟩
            exact absurd ((le_foldl_digits positive).trans_lt inBounds) fits
      · rw [if_neg isDigit]
        constructor
        · intro absurd
          cases absurd
        · rintro ⟨⟨areDigits, -⟩, -⟩
          exact absurd areDigits isDigit

theorem plus_no_digit (radix : Nat) : Reader.isDigitOf radix '+' = false := by
  simp [Reader.isDigitOf]

/-- A number is accepted where its digits spell it, also behind a plus sign. -/
theorem fromStrRadix_eq_ok_iff (positive : 0 < radix) (bounded : 0 < bound) :
    fromStrRadix radix bound text = .ok value ↔
      ∃ digits, (text = digits ∨ text = '+' :: digits) ∧ Spells radix digits value ∧
        value < bound := by
  have spelled (digits : List Char) (nonempty : digits ≠ []) :
      readDigits radix bound 0 digits = .ok value ↔ Spells radix digits value ∧ value < bound := by
    rw [readDigits_eq_ok_iff positive bounded]
    constructor
    · rintro ⟨areDigits, isValue, inBounds⟩
      exact ⟨⟨nonempty, areDigits, isValue⟩, inBounds⟩
    · rintro ⟨spells, inBounds⟩
      exact ⟨spells.areDigits, spells.isValue, inBounds⟩
  have noPlus {digits : List Char} (spells : Spells radix ('+' :: digits) value) : False := by
    have isDigit := spells.areDigits '+' List.mem_cons_self
    rw [plus_no_digit] at isDigit
    cases isDigit
  unfold fromStrRadix
  split
  · constructor
    · intro absurd
      cases absurd
    · rintro ⟨digits, rfl | same, spells, -⟩
      · exact absurd rfl spells.nonempty
      · cases same
  · constructor
    · intro absurd
      cases absurd
    · rintro ⟨digits, rfl | same, spells, -⟩
      · exact (noPlus spells).elim
      · cases same
        exact absurd rfl spells.nonempty
  · rename_i digits nonempty
    rw [spelled digits (fun empty => nonempty (by rw [empty]))]
    constructor
    · rintro ⟨spells, inBounds⟩
      exact ⟨digits, .inr rfl, spells, inBounds⟩
    · rintro ⟨others, rfl | same, spells, inBounds⟩
      · exact (noPlus spells).elim
      · cases same
        exact ⟨spells, inBounds⟩
  · rename_i nonempty noSign signed
    rw [spelled text nonempty]
    constructor
    · rintro ⟨spells, inBounds⟩
      exact ⟨text, .inl rfl, spells, inBounds⟩
    · rintro ⟨others, rfl | rfl, spells, inBounds⟩
      · exact ⟨spells, inBounds⟩
      · exact absurd rfl (signed others)

end Numerals

end Slate.Foundation
