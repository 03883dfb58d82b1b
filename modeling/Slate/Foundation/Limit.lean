import Mathlib.Data.Finset.Card
import Mathlib.Data.Finset.Dedup

/-!
# Sets with a limit

A set that takes a new element only while it is below its limit stays within it, and one that
takes an element without room for it does not.
-/

namespace Slate.Foundation

universe u

variable {α : Type u} {limit : Option Nat} {elements others : Finset α} {element : α}

def WithinLimit (limit : Option Nat) (elements : Finset α) : Prop :=
  ∀ most, limit = some most → elements.card ≤ most

/-- The element is there already, or the set is below its limit. -/
def HasRoom (limit : Option Nat) (elements : Finset α) (element : α) : Prop :=
  element ∈ elements ∨ ∀ most, limit = some most → elements.card < most

theorem withinLimit_empty : WithinLimit limit (∅ : Finset α) := by
  intro most _
  simp

theorem WithinLimit.mono (within : WithinLimit limit elements) (fewer : others ⊆ elements) :
    WithinLimit limit others :=
  fun most isLimit => (Finset.card_le_card fewer).trans (within most isLimit)

variable [DecidableEq α]

theorem withinLimit_insert_iff (within : WithinLimit limit elements) :
    WithinLimit limit (insert element elements) ↔ HasRoom limit elements element := by
  by_cases isMember : element ∈ elements
  · rw [Finset.insert_eq_self.mpr isMember]
    exact ⟨fun _ => .inl isMember, fun _ => within⟩
  · unfold WithinLimit HasRoom
    simp only [Finset.card_insert_of_notMem isMember, isMember, false_or, Nat.succ_le_iff]

/-- The members of two overlapping lists, counted in the first and in what the second has
beyond it. -/
theorem length_add_length_filter [BEq α] [LawfulBEq α] {first second : List α} (firstOnce : first.Nodup)
    (secondOnce : second.Nodup) :
    first.length + (second.filter fun element => !first.contains element).length =
      (first.toFinset ∪ second.toFinset).card := by
  have disjoint : Disjoint first.toFinset
      (second.filter fun element => !first.contains element).toFinset := by
    rw [Finset.disjoint_left]
    intro element inFirst inRest
    simp_all
  have parts : first.toFinset ∪ second.toFinset =
      first.toFinset ∪ (second.filter fun element => !first.contains element).toFinset := by
    ext element
    by_cases inFirst : element ∈ first <;> simp [inFirst]
  rw [parts, Finset.card_union_of_disjoint disjoint, List.toFinset_card_of_nodup firstOnce,
    List.toFinset_card_of_nodup (secondOnce.filter _)]

end Slate.Foundation
