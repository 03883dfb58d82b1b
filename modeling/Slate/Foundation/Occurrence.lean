import Mathlib.Data.List.Infix

/-!
# First occurrences

A window is searched in a list from the front. It first stands behind a front part where it does
not occur earlier, not even across the border.
-/

namespace Slate.Foundation

universe u

variable {α : Type u} {window front back text rest : List α} {first : α}

/-- What begins with an item that a front part has not does not begin in it. -/
theorem infix_of_not_mem (absent : first ∉ front) (within : first :: rest <:+: front ++ back) :
    first :: rest <:+: back := by
  induction front with
  | nil => exact within
  | cons item front inductionHypothesis =>
      rw [List.mem_cons, not_or] at absent
      obtain ⟨other, notLater⟩ := absent
      rw [List.cons_append, List.infix_cons_iff] at within
      rcases within with here | later
      · exact absurd (List.cons_prefix_cons.mp here).1 other
      · exact inductionHypothesis notLater later

variable [DecidableEq α]

/-- The first position at which the window stands. -/
def positionOf (window : List α) : List α → Option Nat
  | [] => none
  | first :: rest =>
    if window <+: first :: rest then some 0 else (positionOf window rest).map (· + 1)

attribute [local grind =] positionOf

theorem positionOf_append (nonempty : window ≠ [])
    (isFirst : ¬window <:+: front ++ window.dropLast) :
    positionOf window (front ++ (window ++ back)) = some front.length := by
  induction front with
  | nil =>
      obtain ⟨head, tail, rfl⟩ := List.exists_cons_of_ne_nil nonempty
      rw [List.nil_append, List.cons_append, positionOf, if_pos]
      · rfl
      · exact List.prefix_append (head :: tail) back
  | cons item front inductionHypothesis =>
      rw [List.cons_append, List.infix_cons_iff, not_or] at isFirst
      obtain ⟨notHere, notLater⟩ := isFirst
      have elsewhere : ¬window <+: item :: (front ++ (window ++ back)) := by
        intro here
        apply notHere
        have isWhole : item :: (front ++ window.dropLast) <+: item :: (front ++ (window ++ back)) := by
          rw [List.cons_prefix_cons, List.prefix_append_right_inj]
          exact ⟨rfl, (List.dropLast_prefix window).trans (List.prefix_append window back)⟩
        apply List.prefix_of_prefix_length_le here isWhole
        simp only [List.length_cons, List.length_append, List.length_dropLast]
        omega
      rw [List.cons_append, positionOf, if_neg elsewhere, inductionHypothesis notLater]
      rfl

theorem exists_of_positionOf {position : Nat} (nonempty : window ≠ [])
    (found : positionOf window text = some position) :
    ∃ front back, text = front ++ (window ++ back) ∧ front.length = position ∧
      ¬window <:+: front ++ window.dropLast := by
  induction text generalizing position with
  | nil => cases found
  | cons item text inductionHypothesis =>
      rw [positionOf] at found
      split at found
      · rename_i here
        obtain ⟨back, isText⟩ := here
        refine ⟨[], back, isText.symm, Option.some.inj found, ?_⟩
        intro within
        have atMost := within.length_le
        have positive := List.length_pos_of_ne_nil nonempty
        rw [List.nil_append, List.length_dropLast] at atMost
        omega
      · rename_i elsewhere
        obtain ⟨before, foundLater, rfl⟩ := Option.map_eq_some_iff.mp found
        obtain ⟨front, back, rfl, rfl, isFirst⟩ := inductionHypothesis foundLater
        refine ⟨item :: front, back, rfl, rfl, ?_⟩
        rw [List.cons_append, List.infix_cons_iff, not_or]
        refine ⟨?_, isFirst⟩
        intro here
        apply elsewhere
        apply here.trans
        rw [List.cons_prefix_cons, List.prefix_append_right_inj]
        exact ⟨rfl, (List.dropLast_prefix window).trans (List.prefix_append window back)⟩

/-- No occurrence stands in front of the first. -/
theorem positionOf_le (nonempty : window ≠ []) (front back : List α) :
    ∃ position ≤ front.length, positionOf window (front ++ (window ++ back)) = some position := by
  induction front with
  | nil =>
      obtain ⟨head, tail, rfl⟩ := List.exists_cons_of_ne_nil nonempty
      refine ⟨0, le_rfl, ?_⟩
      rw [List.nil_append, List.cons_append, positionOf, if_pos]
      exact List.prefix_append (head :: tail) back
  | cons item front inductionHypothesis =>
      obtain ⟨position, atMost, found⟩ := inductionHypothesis
      rw [List.cons_append, positionOf]
      split
      · exact ⟨0, Nat.zero_le _, rfl⟩
      · refine ⟨position + 1, Nat.succ_le_succ atMost, ?_⟩
        rw [found, Option.map_some]

theorem positionOf_eq_none (absent : ¬window <:+: text) : positionOf window text = none := by
  induction text with
  | nil => rfl
  | cons item text inductionHypothesis =>
      rw [List.infix_cons_iff, not_or] at absent
      rw [positionOf, if_neg absent.1, inductionHypothesis absent.2]
      rfl

/-- The parts before and behind a first occurrence are determined. -/
theorem first_occurrence_unique {otherFront otherBack : List α} (nonempty : window ≠ [])
    (isFirst : ¬window <:+: front ++ window.dropLast)
    (otherFirst : ¬window <:+: otherFront ++ window.dropLast)
    (same : front ++ (window ++ back) = otherFront ++ (window ++ otherBack)) :
    front = otherFront ∧ back = otherBack := by
  have position : positionOf window (front ++ (window ++ back)) = some front.length :=
    positionOf_append nonempty isFirst
  rw [same, positionOf_append nonempty otherFirst] at position
  obtain ⟨sameFront, sameRest⟩ := List.append_inj same (Option.some.inj position).symm
  exact ⟨sameFront, List.append_cancel_left sameRest⟩

end Slate.Foundation
