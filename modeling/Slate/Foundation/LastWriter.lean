import Mathlib.Data.List.MinMax

/-!
# Last writer wins

Entries carry stamps from a linear order. The last writer of a collection is the
entry with the largest stamp. When distinct entries have distinct stamps it depends
only on which entries the collection has, not on their order or repetition.
-/

namespace Slate.Foundation.LastWriter

universe u v

variable {Entry : Type u} {Stamp : Type v} [LinearOrder Stamp] {stamp : Entry → Stamp}

/-- No two entries of the collection share a stamp. -/
def DistinctStamps (stamp : Entry → Stamp) (entries : List Entry) : Prop :=
  ∀ first ∈ entries, ∀ second ∈ entries, stamp first = stamp second → first = second

/-- The entry that every other entry of the collection is older than. -/
def IsLast (stamp : Entry → Stamp) (entries : List Entry) (entry : Entry) : Prop :=
  entry ∈ entries ∧ ∀ other ∈ entries, stamp other ≤ stamp entry

theorem isLast_of_argmax {entries : List Entry} {entry : Entry}
    (h : entries.argmax stamp = some entry) : IsLast stamp entries entry :=
  ⟨List.argmax_mem h, fun _ membership => List.le_of_mem_argmax membership h⟩

theorem IsLast.unique {entries : List Entry} (distinct : DistinctStamps stamp entries)
    {first second : Entry} (firstLast : IsLast stamp entries first)
    (secondLast : IsLast stamp entries second) : first = second :=
  distinct first firstLast.1 second secondLast.1
    (le_antisymm (secondLast.2 first firstLast.1) (firstLast.2 second secondLast.1))

/-- `argmax` computes the last writer. -/
theorem argmax_eq_some_iff_isLast {entries : List Entry}
    (distinct : DistinctStamps stamp entries) {entry : Entry} :
    entries.argmax stamp = some entry ↔ IsLast stamp entries entry := by
  refine ⟨isLast_of_argmax, fun last => ?_⟩
  cases found : entries.argmax stamp with
  | none =>
      rw [List.argmax_eq_none] at found
      exact absurd (found ▸ last.1) (by simp)
  | some other => rw [(isLast_of_argmax found).unique distinct last]

/-- Order and repetition of the entries do not matter. -/
theorem argmax_eq_of_mem_iff {first second : List Entry}
    (distinct : DistinctStamps stamp first) (same : ∀ entry, entry ∈ first ↔ entry ∈ second) :
    first.argmax stamp = second.argmax stamp := by
  have distinctSecond : DistinctStamps stamp second := fun a ha b hb =>
    distinct a ((same a).mpr ha) b ((same b).mpr hb)
  refine Option.ext fun entry => ?_
  rw [argmax_eq_some_iff_isLast distinct, argmax_eq_some_iff_isLast distinctSecond, IsLast,
    IsLast, same entry]
  exact and_congr_right fun _ => forall_congr' fun other => by rw [same other]

end Slate.Foundation.LastWriter
