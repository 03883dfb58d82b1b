import Mathlib.Data.List.Sort
import Mathlib.Logic.Function.Basic

/-!
# Folds over slots

Each item updates the state of its own slot and leaves the other slots alone. What a list
of items leaves in a slot, and whether every item is admitted by the state it finds in its
slot, depend only on the items of that slot and their order among each other.
-/

namespace Slate.Foundation

universe u v w

variable {Slot : Type u} {Item : Type v} {State : Type w} [DecidableEq Slot]

/-- The states of all slots after one item. -/
def stepSlot (slot : Item → Slot) (step : Item → State → State) (item : Item)
    (states : Slot → State) : Slot → State :=
  Function.update states (slot item) (step item (states (slot item)))

/-- The states of all slots after a list of items. -/
def foldSlots (slot : Item → Slot) (step : Item → State → State) :
    List Item → (Slot → State) → Slot → State
  | [], states => states
  | item :: rest, states => foldSlots slot step rest (stepSlot slot step item states)

/-- Every item is admitted by the state that the items before it leave in its slot. -/
def AllAdmitted (slot : Item → Slot) (step : Item → State → State)
    (Admits : State → Item → Prop) : List Item → (Slot → State) → Prop
  | [], _ => True
  | item :: rest, states =>
      Admits (states (slot item)) item ∧
        AllAdmitted slot step Admits rest (stepSlot slot step item states)

attribute [local grind =] foldSlots AllAdmitted

/-- Every item is admitted by the state that the items before it leave. -/
def AdmittedInTurn (step : Item → State → State) (Admits : State → Item → Prop) :
    List Item → State → Prop
  | [], _ => True
  | item :: rest, state => Admits state item ∧ AdmittedInTurn step Admits rest (step item state)

/-- The items of one slot, in their order. -/
def itemsOf (slot : Item → Slot) (wanted : Slot) (items : List Item) : List Item :=
  items.filter fun item => decide (slot item = wanted)

variable {slot : Item → Slot} {step : Item → State → State} {Admits : State → Item → Prop}

section Step

theorem stepSlot_self {item : Item} {states : Slot → State} :
    stepSlot slot step item states (slot item) = step item (states (slot item)) := by
  simp [stepSlot]

theorem stepSlot_of_ne {item : Item} {states : Slot → State} {wanted : Slot}
    (different : slot item ≠ wanted) :
    stepSlot slot step item states wanted = states wanted := by
  simp [stepSlot, Function.update_of_ne different.symm]

end Step

section Slots

theorem itemsOf_cons (item : Item) (rest : List Item) (wanted : Slot) :
    itemsOf slot wanted (item :: rest) =
      if slot item = wanted then item :: itemsOf slot wanted rest
      else itemsOf slot wanted rest := by
  by_cases same : slot item = wanted
  · simp [itemsOf, same]
  · simp [itemsOf, same]

theorem foldSlots_append (first second : List Item) (states : Slot → State) :
    foldSlots slot step (first ++ second) states =
      foldSlots slot step second (foldSlots slot step first states) := by
  induction first generalizing states with
  | nil => rfl
  | cons item rest inductionHypothesis => exact inductionHypothesis _

theorem allAdmitted_append (first second : List Item) (states : Slot → State) :
    AllAdmitted slot step Admits (first ++ second) states ↔
      AllAdmitted slot step Admits first states ∧
        AllAdmitted slot step Admits second (foldSlots slot step first states) := by
  induction first generalizing states with
  | nil => simp [AllAdmitted, foldSlots]
  | cons item rest inductionHypothesis =>
      simp only [List.cons_append, AllAdmitted, foldSlots, inductionHypothesis, and_assoc]

/-- What is left in a slot is left there by the items of the slot. -/
theorem foldSlots_apply (items : List Item) (states : Slot → State) (wanted : Slot) :
    foldSlots slot step items states wanted =
      (itemsOf slot wanted items).foldl (fun state item => step item state)
        (states wanted) := by
  induction items generalizing states with
  | nil => rfl
  | cons item rest inductionHypothesis =>
      rw [itemsOf_cons, foldSlots, inductionHypothesis]
      by_cases same : slot item = wanted
      · rw [if_pos same, List.foldl_cons, ← same, stepSlot_self]
      · rw [if_neg same, stepSlot_of_ne same]

/-- Items are admitted slot by slot. -/
theorem allAdmitted_iff (items : List Item) (states : Slot → State) :
    AllAdmitted slot step Admits items states ↔
      ∀ wanted, AdmittedInTurn step Admits (itemsOf slot wanted items) (states wanted) := by
  induction items generalizing states with
  | nil => simp [AllAdmitted, itemsOf, AdmittedInTurn]
  | cons item rest inductionHypothesis =>
      rw [AllAdmitted, inductionHypothesis]
      constructor
      · rintro ⟨admitted, others⟩ wanted
        have later := others wanted
        rw [itemsOf_cons]
        by_cases same : slot item = wanted
        · rw [if_pos same]
          rw [← same, stepSlot_self] at later
          rw [← same]
          exact ⟨admitted, later⟩
        · rw [if_neg same]
          rwa [stepSlot_of_ne same] at later
      · intro admitted
        have own := admitted (slot item)
        rw [itemsOf_cons, if_pos rfl] at own
        refine ⟨own.1, fun wanted => ?_⟩
        by_cases same : slot item = wanted
        · rw [← same, stepSlot_self]
          exact own.2
        · have later := admitted wanted
          rw [itemsOf_cons, if_neg same] at later
          rwa [stepSlot_of_ne same]

/-- Lists with the same items in every slot leave the same states. -/
theorem foldSlots_congr {first second : List Item}
    (same : ∀ wanted, itemsOf slot wanted first = itemsOf slot wanted second)
    (states : Slot → State) :
    foldSlots slot step first states = foldSlots slot step second states := by
  funext wanted
  rw [foldSlots_apply, foldSlots_apply, same wanted]

theorem allAdmitted_congr {first second : List Item}
    (same : ∀ wanted, itemsOf slot wanted first = itemsOf slot wanted second)
    (states : Slot → State) :
    AllAdmitted slot step Admits first states ↔ AllAdmitted slot step Admits second states := by
  simp only [allAdmitted_iff, same]

end Slots

section Ordered

/-- Two lists whose items have increasing ranks are equal if their items are the same. -/
theorem eq_of_increasing (rank : Item → Int) {first second : List Item}
    (firstIncreasing : first.Pairwise fun left right => rank left < rank right)
    (secondIncreasing : second.Pairwise fun left right => rank left < rank right)
    (same : ∀ item, item ∈ first ↔ item ∈ second) : first = second := by
  have asymmetric : Std.Antisymm fun left right : Item => rank left < rank right :=
    ⟨fun left right before after => absurd (before.trans after) (lt_irrefl _)⟩
  have irreflexive : Std.Irrefl fun left right : Item => rank left < rank right :=
    ⟨fun item => lt_irrefl _⟩
  exact firstIncreasing.eq_of_mem_iff secondIncreasing same

end Ordered

end Slate.Foundation
