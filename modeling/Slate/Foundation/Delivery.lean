import Mathlib.Data.List.MinMax
import Mathlib.Logic.Relation

/-!
# Delivery from an append-only feed

One consumer reads a feed whose entries carry increasing positions. It keeps a cursor,
polls batches of entries behind the cursor, and moves the cursor to the end of a batch
by acknowledging it. A batch that is not acknowledged is polled again.
-/

namespace Slate.Foundation

universe u v

variable {Entry : Type u} {Position : Type v} [LinearOrder Position]

/-- The feed, the consumer's cursor, the batch it works on and the batches it has
acknowledged. -/
structure Delivery (Entry : Type u) (Position : Type v) where
  feed : List Entry
  cursor : Position
  polled : Option (List Entry) := none
  acknowledged : List (List Entry) := []

namespace Delivery

/-- The entries behind a position. -/
def after (position : Entry → Position) (cursor : Position) (feed : List Entry) :
    List Entry :=
  feed.filter fun entry => decide (cursor < position entry)

/-- Where a batch ends; an empty batch ends where it began. -/
def endOf (position : Entry → Position) (start : Position) (batch : List Entry) : Position :=
  (batch.getLast?.map position).getD start

/-- The feed grows, and the consumer polls, gives up and acknowledges. -/
inductive Step (position : Entry → Position) :
    Delivery Entry Position → Delivery Entry Position → Prop where
  | grow (delivery : Delivery Entry Position) (added : List Entry)
      (ordered : (delivery.feed ++ added).Pairwise fun first second =>
        position first < position second)
      (behind : ∀ entry ∈ added, delivery.cursor < position entry) :
      Step position delivery { delivery with feed := delivery.feed ++ added }
  | poll (delivery : Delivery Entry Position) (limit : Nat) :
      Step position delivery
        { delivery with
          polled := some ((after position delivery.cursor delivery.feed).take limit) }
  | giveUp (delivery : Delivery Entry Position) :
      Step position delivery { delivery with polled := none }
  | acknowledge (delivery : Delivery Entry Position) (batch : List Entry)
      (held : delivery.polled = some batch) :
      Step position delivery
        { delivery with
          cursor := endOf position delivery.cursor batch, polled := none
          acknowledged := delivery.acknowledged ++ [batch] }

/-- Any number of steps. -/
abbrev Run (position : Entry → Position) :
    Delivery Entry Position → Delivery Entry Position → Prop :=
  Relation.ReflTransGen (Step position)

variable {position : Entry → Position}

section After

variable {cursor : Position} {feed : List Entry}

theorem mem_after_iff {entry : Entry} :
    entry ∈ after position cursor feed ↔ entry ∈ feed ∧ cursor < position entry := by
  simp [after]

theorem after_append (added : List Entry) :
    after position cursor (feed ++ added) =
      after position cursor feed ++ after position cursor added :=
  List.filter_append ..

theorem after_eq_self (behind : ∀ entry ∈ feed, cursor < position entry) :
    after position cursor feed = feed := by
  rw [after, List.filter_eq_self]
  intro entry membership
  exact decide_eq_true (behind entry membership)

theorem after_eq_nil (reached : ∀ entry ∈ feed, position entry ≤ cursor) :
    after position cursor feed = [] := by
  rw [after, List.filter_eq_nil_iff]
  intro entry membership
  simpa using reached entry membership

theorem after_after {start : Position} (le : start ≤ cursor) :
    after position cursor (after position start feed) = after position cursor feed := by
  rw [after, after, List.filter_filter]
  refine List.filter_congr fun entry _ => ?_
  by_cases behind : cursor < position entry
  · simp [behind, lt_of_le_of_lt le behind]
  · simp [behind]

theorem pairwise_after
    (ordered : feed.Pairwise fun first second => position first < position second) :
    (after position cursor feed).Pairwise fun first second =>
      position first < position second :=
  ordered.sublist List.filter_sublist

/-- A batch of entries behind the cursor ends at the cursor or behind it. -/
theorem le_endOf {batch : List Entry} (behind : ∀ entry ∈ batch, cursor < position entry) :
    cursor ≤ endOf position cursor batch := by
  rw [endOf]
  cases last : batch.getLast? with
  | none => exact le_refl cursor
  | some entry => exact le_of_lt (behind entry (List.mem_of_getLast? last))

/-- What lies behind the end of a batch is what followed it. -/
theorem after_endOf {batch rest : List Entry}
    (ordered : (batch ++ rest).Pairwise fun first second => position first < position second)
    (behind : ∀ entry ∈ batch ++ rest, cursor < position entry) :
    after position (endOf position cursor batch) (batch ++ rest) = rest := by
  rcases List.eq_nil_or_concat' batch with rfl | ⟨earlier, last, rfl⟩
  · exact after_eq_self behind
  · have ends : endOf position cursor (earlier ++ [last]) = position last := by
      simp [endOf]
    have order := List.pairwise_append.mp ordered
    have batchOrder := List.pairwise_append.mp order.1
    rw [ends, after_append]
    have reached : after position (position last) (earlier ++ [last]) = [] := by
      apply after_eq_nil
      intro entry membership
      rcases List.mem_append.mp membership with old | new
      · exact le_of_lt (batchOrder.2.2 entry old last (List.mem_singleton.mpr rfl))
      · rw [List.mem_singleton.mp new]
    have unread : after position (position last) rest = rest := by
      apply after_eq_self
      intro entry membership
      exact order.2.2 last (List.mem_append_right _ (List.mem_singleton.mpr rfl)) entry
        membership
    rw [reached, unread, List.nil_append]

end After

/-- What every run from `start` keeps: the acknowledged batches and the entries behind the
cursor are together the entries behind `start`, and the batch at hand comes next. -/
structure Exact (position : Entry → Position) (start : Position)
    (delivery : Delivery Entry Position) : Prop where
  ordered : delivery.feed.Pairwise fun first second => position first < position second
  reached : start ≤ delivery.cursor
  delivered : delivery.acknowledged.flatten ++
      after position delivery.cursor delivery.feed = after position start delivery.feed
  held : ∀ batch, delivery.polled = some batch →
    ∃ rest, after position delivery.cursor delivery.feed = batch ++ rest

/-- A consumer that starts at the end of the feed has nothing to catch up on. -/
theorem exact_start {feed : List Entry} {start : Position}
    (ordered : feed.Pairwise fun first second => position first < position second) :
    Exact position start { feed, cursor := start } where
  ordered := ordered
  reached := le_refl start
  delivered := rfl
  held := by simp

/-- A step keeps delivery exact. -/
theorem Step.exact {start : Position} {delivery next : Delivery Entry Position}
    (step : Step position delivery next) (exact : Exact position start delivery) :
    Exact position start next := by
  cases step with
  | grow added ordered behind =>
      have unread : after position delivery.cursor added = added := after_eq_self behind
      have unreadFromStart : after position start added = added := by
        apply after_eq_self
        intro entry membership
        exact lt_of_le_of_lt exact.reached (behind entry membership)
      refine ⟨ordered, exact.reached, ?_, ?_⟩
      · rw [after_append, after_append, unread, unreadFromStart, ← List.append_assoc,
          exact.delivered]
      · intro batch held
        obtain ⟨rest, split⟩ := exact.held batch held
        refine ⟨rest ++ added, ?_⟩
        rw [after_append, unread, split, List.append_assoc]
  | poll limit =>
      refine ⟨exact.ordered, exact.reached, exact.delivered, ?_⟩
      intro batch held
      rw [← Option.some.inj held]
      exact ⟨_, (List.take_append_drop limit _).symm⟩
  | giveUp => exact ⟨exact.ordered, exact.reached, exact.delivered, by simp⟩
  | acknowledge batch held =>
      obtain ⟨rest, split⟩ := exact.held batch held
      have behind : ∀ entry ∈ batch ++ rest, delivery.cursor < position entry := by
        intro entry membership
        rw [← split] at membership
        exact (mem_after_iff.mp membership).2
      have moved : delivery.cursor ≤ endOf position delivery.cursor batch :=
        le_endOf fun entry membership => behind entry (List.mem_append_left _ membership)
      have unread : after position (endOf position delivery.cursor batch) delivery.feed =
          rest := by
        rw [← after_after moved, split]
        exact after_endOf (split ▸ pairwise_after exact.ordered) behind
      refine ⟨exact.ordered, exact.reached.trans moved, ?_, by simp⟩
      rw [unread, List.flatten_append, List.flatten_singleton, List.append_assoc, ← split,
        exact.delivered]

/-- A run keeps delivery exact. -/
theorem Run.exact {start : Position} {delivery next : Delivery Entry Position}
    (run : Run position delivery next) (exact : Exact position start delivery) :
    Exact position start next := by
  induction run with
  | refl => exact exact
  | tail _ step inductionHypothesis => exact step.exact inductionHypothesis

/-- No entry is acknowledged twice, and none out of order. -/
theorem Exact.acknowledged_ordered {start : Position} {delivery : Delivery Entry Position}
    (exact : Exact position start delivery) :
    delivery.acknowledged.flatten.Pairwise fun first second =>
      position first < position second := by
  have ordered : (after position start delivery.feed).Pairwise fun first second =>
      position first < position second := pairwise_after exact.ordered
  rw [← exact.delivered] at ordered
  exact (List.pairwise_append.mp ordered).1

end Delivery

end Slate.Foundation
