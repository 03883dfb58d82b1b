import Mathlib.Order.Defs.LinearOrder
import Mathlib.Data.Set.Basic

/-!
# How far a receiver has seen

Sources number what they send, and a receiver remembers the numbers it saw of each source.
A mark, a source with a number, is reached once something that far was seen. Marks only ever
compare what was sent up to a point, so a reached mark says that its own number was seen only
if nothing was left out on the way there.
-/

namespace Slate.Foundation

variable {Source Number : Type*} [LinearOrder Number]

section Marks

/-- Something of the mark's source was seen that is at least as far. -/
def Reaches (seen : Source → Number → Prop) (mark : Source × Number) : Prop :=
  ∃ number, seen mark.1 number ∧ mark.2 ≤ number

def ReachesAll (seen : Source → Number → Prop) (marks : List (Source × Number)) : Prop :=
  ∀ mark ∈ marks, Reaches seen mark

/-- No mark of the first list is beyond the second, and one of the second is beyond the
first. -/
structure Behind (first second : List (Source × Number)) : Prop where
  within : ∀ mark ∈ first, ∃ other ∈ second, other.1 = mark.1 ∧ mark.2 ≤ other.2
  short : ∃ other ∈ second, ∀ mark ∈ first, mark.1 = other.1 → mark.2 < other.2

variable {seen later : Source → Number → Prop} {mark other : Source × Number}
  {marks others : List (Source × Number)}

theorem behind_singleton (sameSource : mark.1 = other.1) (less : mark.2 < other.2) :
    Behind [mark] [other] := by
  constructor
  · intro found membership
    rw [List.mem_singleton.mp membership]
    exact ⟨other, List.mem_singleton_self other, sameSource.symm, less.le⟩
  · refine ⟨other, List.mem_singleton_self other, fun found membership _ => ?_⟩
    rw [List.mem_singleton.mp membership]
    exact less

theorem Reaches.mono (grows : ∀ source number, seen source number → later source number)
    (reaches : Reaches seen mark) : Reaches later mark := by
  obtain ⟨number, isSeen, le⟩ := reaches
  exact ⟨number, grows _ _ isSeen, le⟩

theorem ReachesAll.mono (grows : ∀ source number, seen source number → later source number)
    (reaches : ReachesAll seen marks) : ReachesAll later marks :=
  fun mark membership => (reaches mark membership).mono grows

/-- Marks that are behind reached ones are reached. -/
theorem ReachesAll.of_behind (reaches : ReachesAll seen others) (behind : Behind marks others) :
    ReachesAll seen marks := by
  intro mark membership
  obtain ⟨other, otherMembership, sameSource, le⟩ := behind.within mark membership
  obtain ⟨number, isSeen, reached⟩ := reaches other otherMembership
  rw [sameSource] at isSeen
  exact ⟨number, isSeen, le.trans reached⟩

end Marks

section Gaps

variable {known seen brought : Source → Number → Prop} {mark : Source × Number}

/-- Of the known numbers, none is missing below one that was seen. -/
def GapFree (known seen : Source → Number → Prop) : Prop :=
  ∀ source number later, known source number → seen source later → number ≤ later →
    seen source number

/-- With every number, the known ones below it are brought as well, unless they were seen. -/
def InOrder (known seen brought : Source → Number → Prop) : Prop :=
  ∀ source number later, known source number → brought source later → number ≤ later →
    seen source number ∨ brought source number

/-- Without gaps a reached mark was itself seen. -/
theorem GapFree.seen_of_reaches (gapFree : GapFree known seen) (isKnown : known mark.1 mark.2)
    (reaches : Reaches seen mark) : seen mark.1 mark.2 := by
  obtain ⟨number, isSeen, le⟩ := reaches
  exact gapFree mark.1 mark.2 number isKnown isSeen le

theorem GapFree.bring (gapFree : GapFree known seen) (inOrder : InOrder known seen brought) :
    GapFree known fun source number => seen source number ∨ brought source number := by
  intro source number later isKnown added le
  rcases added with isSeen | isBrought
  · exact .inl (gapFree source number later isKnown isSeen le)
  · exact inOrder source number later isKnown isBrought le

end Gaps

end Slate.Foundation
