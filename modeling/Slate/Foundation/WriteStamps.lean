import Slate.Foundation.Rows
import Mathlib.Data.List.Induction

/-!
# Values with the times of their writes

A slot is written with a value, or removed. It remembers when it was first written since it
was last removed and when it was written last.
-/

namespace Slate.Foundation

universe u v w

variable {Value : Type u}

inductive StampedWrite (Value : Type u) where
  | put (value : Value) (now : Int)
  | remove

structure Stamped (Value : Type u) where
  value : Value
  createdAt : Int
  updatedAt : Int

namespace StampedWrite

def step (slot : Option (Stamped Value)) : StampedWrite Value → Option (Stamped Value)
  | put value now =>
      some { value, createdAt := (slot.map (·.createdAt)).getD now, updatedAt := now }
  | remove => none

def putOf (write : Value × Int) : StampedWrite Value := put write.1 write.2

/-- The writes end with these, and nothing is left from before. -/
def EndsWith (writes : List (StampedWrite Value)) (kept : List (Value × Int)) : Prop :=
  ∃ earlier, writes = earlier ++ kept.map putOf ∧ (earlier = [] ∨ earlier.getLast? = some remove)

variable {writes : List (StampedWrite Value)} {stamped : Stamped Value}

theorem foldl_step_append (write : StampedWrite Value) (slot : Option (Stamped Value)) :
    (writes ++ [write]).foldl step slot = step (writes.foldl step slot) write := by
  rw [List.foldl_append, List.foldl_cons, List.foldl_nil]

theorem foldl_step_eq_none (isEnd : writes = [] ∨ writes.getLast? = some remove) :
    writes.foldl step none = none := by
  rcases isEnd with rfl | isRemoved
  · rfl
  · obtain ⟨before, rfl⟩ := List.getLast?_eq_some_iff.mp isRemoved
    rw [foldl_step_append]
    rfl

theorem foldl_step_putOf (kept : List (Value × Int)) :
    (kept.map putOf).foldl step (some stamped) =
      some ((kept.getLast?.map fun last =>
        { value := last.1, createdAt := stamped.createdAt, updatedAt := last.2 }).getD stamped) := by
  induction kept using List.reverseRecOn with
  | nil => rfl
  | append_singleton kept last inductionHypothesis =>
      rw [List.map_append, List.map_singleton, foldl_step_append, inductionHypothesis,
        List.getLast?_concat]
      cases kept.getLast? <;> rfl

theorem exists_endsWith (writes : List (StampedWrite Value)) :
    ∃ kept, EndsWith writes kept := by
  induction writes using List.reverseRecOn with
  | nil => exact ⟨[], [], rfl, .inl rfl⟩
  | append_singleton writes write inductionHypothesis =>
      cases write with
      | remove => exact ⟨[], _, (List.append_nil _).symm, .inr List.getLast?_concat⟩
      | put value now =>
          obtain ⟨kept, earlier, whole, isEnd⟩ := inductionHypothesis
          refine ⟨kept ++ [(value, now)], earlier, ?_, isEnd⟩
          rw [whole, List.map_append, List.append_assoc]
          rfl

/-- What a slot holds was written last, and created by the first write that nothing removed. -/
theorem foldl_step_eq_some_iff :
    writes.foldl step none = some stamped ↔
      ∃ kept, EndsWith writes kept ∧
        kept.head?.map Prod.snd = some stamped.createdAt ∧
        kept.getLast? = some (stamped.value, stamped.updatedAt) := by
  have held : ∀ kept, EndsWith writes kept → (writes.foldl step none = some stamped ↔
      kept.head?.map Prod.snd = some stamped.createdAt ∧
        kept.getLast? = some (stamped.value, stamped.updatedAt)) := by
    rintro kept ⟨earlier, rfl, isEnd⟩
    rw [List.foldl_append, foldl_step_eq_none isEnd]
    cases kept with
    | nil => simp
    | cons first rest =>
        have created : step none (putOf first) = some ⟨first.1, first.2, first.2⟩ := rfl
        rw [List.map_cons, List.foldl_cons, created, foldl_step_putOf, List.getLast?_cons]
        cases stamped
        cases rest.getLast? <;> simp [Prod.ext_iff, and_left_comm]
  constructor
  · intro isHeld
    obtain ⟨kept, endsWith⟩ := exists_endsWith writes
    exact ⟨kept, endsWith, (held kept endsWith).mp isHeld⟩
  · rintro ⟨kept, endsWith, isKept⟩
    exact (held kept endsWith).mpr isKept

section Rows

variable {Row : Type v} {Key : Type w} [DecidableEq Key] {key : Row → Key}
  {merge : Row → Row → Row} {row : Row} {view : Row → Stamped Value} {value : Value} {now : Int}

/-- A write that replaces the value of a row and keeps the time it was created puts the value
into the slot of its key. -/
theorem view_lookup_upsert (written : view row = { value, createdAt := now, updatedAt := now })
    (merged : ∀ existing, key existing = key row → key (merge existing row) = key row ∧
      view (merge existing row) =
        { value, createdAt := (view existing).createdAt, updatedAt := now })
    (wanted : Key) (rows : List Row) :
    (Rows.lookup key wanted (Rows.upsert key merge row rows)).map view =
      if key row = wanted then step ((Rows.lookup key wanted rows).map view) (put value now)
      else (Rows.lookup key wanted rows).map view := by
  rw [Rows.lookup_upsert fun existing same => (merged existing same).1]
  by_cases same : key row = wanted
  · rw [if_pos same, if_pos same, Option.map_some]
    cases found : Rows.lookup key wanted rows with
    | none => exact congrArg some written
    | some existing =>
        have isKey := (Rows.mem_of_lookup found).2.trans same.symm
        exact congrArg some (merged existing isKey).2
  · rw [if_neg same, if_neg same]

end Rows

end StampedWrite

end Slate.Foundation
