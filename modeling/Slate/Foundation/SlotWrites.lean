import Slate.Foundation.LastWriter
import Mathlib.Data.Set.Basic
import Mathlib.Data.List.Perm.Basic

/-!
# Stamped writes to overlapping slots

Each write belongs to a slot. It clears some rows and may insert one. A write takes
effect only if no earlier write of its slot has a larger stamp. Writes of one slot
clear each other's rows, but a write may also clear rows of other slots; this module
says exactly when the order of the writes does not matter.
-/

namespace Slate.Foundation

universe u v w z

/-- Writes with a slot, a stamp and an effect on rows. -/
structure SlotWrites (Op : Type u) (Row : Type v) (Slot : Type w) (Stamp : Type z) where
  slot : Op → Slot
  stamp : Op → Stamp
  Clears : Op → Row → Prop
  inserts : Op → Option Row
  /-- Writes of one slot clear each other's rows. -/
  clears_of_slot_eq : ∀ first second row, slot first = slot second →
    inserts second = some row → Clears first row
  /-- A row tells which slot it was written by. -/
  slot_eq_of_inserts : ∀ first second row, inserts first = some row →
    inserts second = some row → slot first = slot second

namespace SlotWrites

variable {Op : Type u} {Row : Type v} {Slot : Type w} {Stamp : Type z}
  [LinearOrder Stamp] (writes : SlotWrites Op Row Slot Stamp)

/-- The rows after one write. -/
def write (rows : Set Row) (op : Op) : Set Row :=
  { row | writes.inserts op = some row ∨ (row ∈ rows ∧ ¬ writes.Clears op row) }

/-- The rows after a sequence of writes. -/
def writeAll (rows : Set Row) (ops : List Op) : Set Row :=
  ops.foldl writes.write rows

open Classical in
/-- The writes that take effect: those larger than all earlier ones of their slot. -/
noncomputable def effective : List Op → List Op → List Op
  | _, [] => []
  | seen, op :: rest =>
      if ∀ earlier ∈ seen, writes.slot earlier = writes.slot op →
          writes.stamp earlier < writes.stamp op then
        op :: effective (op :: seen) rest
      else effective (op :: seen) rest

attribute [local grind =] effective

/-- A write that no other write of its slot beats. -/
def IsTop (ops : List Op) (op : Op) : Prop :=
  op ∈ ops ∧ ∀ other ∈ ops, writes.slot other = writes.slot op →
    writes.stamp other ≤ writes.stamp op

/-- Different writes of one slot have different stamps. -/
def Distinct (ops : List Op) : Prop :=
  ∀ first ∈ ops, ∀ second ∈ ops, writes.slot first = writes.slot second →
    writes.stamp first = writes.stamp second → first = second

variable {writes}

section Effects

omit [LinearOrder Stamp] in
/-- A row is there at the end if its last insertion was not cleared, or if it was there
at the start and nothing cleared it. -/
theorem mem_writeAll_iff {rows : Set Row} {ops : List Op} {row : Row} :
    row ∈ writes.writeAll rows ops ↔
      (∃ before op after, ops = before ++ op :: after ∧ writes.inserts op = some row ∧
        ∀ later ∈ after, ¬ writes.Clears later row) ∨
      (row ∈ rows ∧ ∀ op ∈ ops, ¬ writes.Clears op row) := by
  induction ops generalizing rows with
  | nil => simp [writeAll]
  | cons op rest inductionHypothesis =>
      have unfolded : writes.writeAll rows (op :: rest) =
          writes.writeAll (writes.write rows op) rest := rfl
      rw [unfolded, inductionHypothesis]
      constructor
      · rintro (⟨before, last, after, rfl, inserted, kept⟩ | ⟨inserted | ⟨old, kept⟩, rest⟩)
        · exact .inl ⟨op :: before, last, after, rfl, inserted, kept⟩
        · exact .inl ⟨[], op, _, rfl, inserted, rest⟩
        · refine .inr ⟨old, ?_⟩
          intro other membership
          rcases List.mem_cons.mp membership with rfl | inRest
          · exact kept
          · exact rest other inRest
      · rintro (⟨before, last, after, split, inserted, kept⟩ | ⟨old, kept⟩)
        · cases before with
          | nil =>
              obtain ⟨rfl, rfl⟩ := List.cons.inj split
              exact .inr ⟨.inl inserted, kept⟩
          | cons first before =>
              obtain ⟨rfl, rfl⟩ := List.cons.inj split
              exact .inl ⟨before, last, after, rfl, inserted, kept⟩
        · exact .inr ⟨.inr ⟨old, kept op (by simp)⟩, fun other membership =>
            kept other (by simp [membership])⟩

end Effects

section Effective

theorem effective_cons_of_larger {seen rest : List Op} {op : Op}
    (larger : ∀ earlier ∈ seen, writes.slot earlier = writes.slot op →
      writes.stamp earlier < writes.stamp op) :
    writes.effective seen (op :: rest) = op :: writes.effective (op :: seen) rest := by
  rw [effective, if_pos larger]

theorem effective_cons_of_not_larger {seen rest : List Op} {op : Op}
    (smaller : ¬ ∀ earlier ∈ seen, writes.slot earlier = writes.slot op →
      writes.stamp earlier < writes.stamp op) :
    writes.effective seen (op :: rest) = writes.effective (op :: seen) rest := by
  rw [effective, if_neg smaller]

theorem mem_effective {seen ops : List Op} {op : Op}
    (membership : op ∈ writes.effective seen ops) :
    op ∈ ops ∧ ∀ earlier ∈ seen, writes.slot earlier = writes.slot op →
      writes.stamp earlier < writes.stamp op := by
  induction ops generalizing seen with
  | nil => simp [effective] at membership
  | cons head rest inductionHypothesis =>
      have later : op ∈ writes.effective (head :: seen) rest →
          op ∈ head :: rest ∧ ∀ earlier ∈ seen, writes.slot earlier = writes.slot op →
            writes.stamp earlier < writes.stamp op := by
        intro inRest
        obtain ⟨inRest, larger⟩ := inductionHypothesis inRest
        exact ⟨by simp [inRest], fun earlier h => larger earlier (by simp [h])⟩
      rw [effective] at membership
      split at membership
      next larger =>
        rcases List.mem_cons.mp membership with rfl | inRest
        · exact ⟨by simp, larger⟩
        · exact later inRest
      next => exact later membership

variable (writes) in
/-- Stamps grow along the effective writes of a slot. -/
theorem pairwise_effective (seen ops : List Op) :
    (writes.effective seen ops).Pairwise fun first second =>
      writes.slot first = writes.slot second → writes.stamp first < writes.stamp second := by
  induction ops generalizing seen with
  | nil => simp [effective]
  | cons head rest inductionHypothesis =>
      rw [effective]
      split
      · refine List.Pairwise.cons ?_ (inductionHypothesis (head :: seen))
        intro later membership
        exact (mem_effective membership).2 head (by simp)
      · exact inductionHypothesis (head :: seen)

theorem effective_append (seen first second : List Op) :
    writes.effective seen (first ++ second) =
      writes.effective seen first ++ writes.effective (first.reverse ++ seen) second := by
  induction first generalizing seen with
  | nil => simp [effective]
  | cons head rest inductionHypothesis =>
      simp only [List.cons_append, effective, inductionHypothesis, List.reverse_cons,
        List.append_assoc, List.nil_append]
      split <;> simp

/-- The top write of a slot takes effect in every order. -/
theorem IsTop.mem_effective {ops : List Op} {op : Op} (top : writes.IsTop ops op)
    (distinct : writes.Distinct ops) {order : List Op} (perm : order.Perm ops) :
    op ∈ writes.effective [] order := by
  have general : ∀ rest seen : List Op, (∀ other ∈ rest, other ∈ ops) → op ∈ rest →
      (∀ earlier ∈ seen, writes.slot earlier = writes.slot op →
        writes.stamp earlier < writes.stamp op) → op ∈ writes.effective seen rest := by
    intro rest
    induction rest with
    | nil => simp
    | cons head rest inductionHypothesis =>
        intro seen subset membership smaller
        by_cases same : head = op
        · subst same
          rw [effective, if_pos smaller]
          simp
        · have inRest : op ∈ rest := by
            rcases List.mem_cons.mp membership with rfl | inRest
            · exact absurd rfl same
            · exact inRest
          have headMem : head ∈ ops := subset head (by simp)
          have below : ∀ earlier ∈ head :: seen, writes.slot earlier = writes.slot op →
              writes.stamp earlier < writes.stamp op := by
            intro earlier earlierMem sameSlot
            rcases List.mem_cons.mp earlierMem with rfl | inSeen
            · refine lt_of_le_of_ne (top.2 _ headMem sameSlot) fun sameStamp => ?_
              exact same (distinct _ headMem op top.1 sameSlot sameStamp)
            · exact smaller earlier inSeen sameSlot
          have found := inductionHypothesis (head :: seen)
            (fun other h => subset other (by simp [h])) inRest below
          rw [effective]
          split
          · exact List.mem_cons_of_mem _ found
          · exact found
  exact general order [] (fun other h => perm.mem_iff.mp h) (perm.mem_iff.mpr top.1) (by simp)

variable (writes) in
theorem exists_isTop {ops : List Op} {op : Op} (membership : op ∈ ops) :
    ∃ top, writes.IsTop ops top ∧ writes.slot top = writes.slot op := by
  classical
  have nonempty : ops.filter (fun other => decide (writes.slot other = writes.slot op)) ≠ [] :=
    List.ne_nil_of_mem (List.mem_filter.mpr ⟨membership, by simp⟩)
  cases found : (ops.filter
      (fun other => decide (writes.slot other = writes.slot op))).argmax writes.stamp with
  | none => exact absurd (List.argmax_eq_none.mp found) nonempty
  | some top =>
      obtain ⟨topMem, largest⟩ := LastWriter.isLast_of_argmax found
      obtain ⟨topMem, topSlot⟩ := List.mem_filter.mp topMem
      have sameSlot : writes.slot top = writes.slot op := by simpa using topSlot
      refine ⟨top, ⟨topMem, fun other otherMem otherSlot => ?_⟩, sameSlot⟩
      exact largest other (List.mem_filter.mpr ⟨otherMem, by simp [otherSlot, sameSlot]⟩)

end Effective

section Orders

variable (writes) in
/-- No write of another slot clears the row of a slot's top write. -/
def TopsSurvive (ops : List Op) : Prop :=
  ∀ top, writes.IsTop ops top → ∀ row, writes.inserts top = some row →
    ∀ other ∈ ops, writes.slot other ≠ writes.slot top → ¬ writes.Clears other row

variable (writes) in
/-- A row that some write clears is cleared by a top write. -/
def ClearedByTops (rows : Set Row) (ops : List Op) : Prop :=
  ∀ row ∈ rows, ∀ op ∈ ops, writes.Clears op row →
    ∃ top, writes.IsTop ops top ∧ writes.Clears top row

/-- After a top write, no write of its slot takes effect. -/
theorem IsTop.slot_ne_of_after {ops : List Op} {top : Op} (isTop : writes.IsTop ops top)
    {order before after : List Op} (perm : order.Perm ops)
    (split : writes.effective [] order = before ++ top :: after) {later : Op}
    (membership : later ∈ after) : later ∈ ops ∧ writes.slot later ≠ writes.slot top := by
  have laterMem : later ∈ writes.effective [] order := by simp [split, membership]
  have inOps : later ∈ ops := perm.mem_iff.mp (SlotWrites.mem_effective laterMem).1
  refine ⟨inOps, fun same => ?_⟩
  have ordered := pairwise_effective writes [] order
  rw [split, List.pairwise_append] at ordered
  have smaller := (List.pairwise_cons.mp ordered.2.1).1 later membership same.symm
  exact absurd (isTop.2 later inOps same) (not_le.mpr smaller)

/-- What is stored after any order, when tops survive and clear what is cleared. -/
theorem mem_writeAll_effective_iff {rows : Set Row} {ops : List Op}
    (distinct : writes.Distinct ops) (survive : writes.TopsSurvive ops)
    (cleared : writes.ClearedByTops rows ops) {order : List Op} (perm : order.Perm ops)
    {row : Row} :
    row ∈ writes.writeAll rows (writes.effective [] order) ↔
      (∃ top, writes.IsTop ops top ∧ writes.inserts top = some row) ∨
      (row ∈ rows ∧ ∀ top, writes.IsTop ops top → ¬ writes.Clears top row) := by
  have subset : ∀ op ∈ writes.effective [] order, op ∈ ops := fun op membership =>
    perm.mem_iff.mp (SlotWrites.mem_effective membership).1
  rw [mem_writeAll_iff]
  constructor
  · rintro (⟨before, op, after, split, inserted, kept⟩ | ⟨old, kept⟩)
    · have opMem : op ∈ writes.effective [] order := by simp [split]
      obtain ⟨top, isTop, sameSlot⟩ := exists_isTop writes (subset op opMem)
      -- The top write comes later than a smaller one and would have cleared its row.
      by_cases same : op = top
      · exact .inl ⟨top, isTop, same ▸ inserted⟩
      · exfalso
        have topMem := isTop.mem_effective distinct perm
        rw [split] at topMem
        have ordered := pairwise_effective writes [] order
        rw [split, List.pairwise_append] at ordered
        rcases List.mem_append.mp topMem with inBefore | inRest
        · have smaller := ordered.2.2 top inBefore op (by simp) sameSlot
          exact absurd (isTop.2 op (subset op opMem) sameSlot.symm) (not_le.mpr smaller)
        · rcases List.mem_cons.mp inRest with rfl | inAfter
          · exact same rfl
          · exact kept top inAfter (writes.clears_of_slot_eq top op row sameSlot inserted)
    · exact .inr ⟨old, fun top isTop => kept top (isTop.mem_effective distinct perm)⟩
  · rintro (⟨top, isTop, inserted⟩ | ⟨old, kept⟩)
    · obtain ⟨before, after, split⟩ :=
        List.append_of_mem (isTop.mem_effective distinct perm)
      refine .inl ⟨before, top, after, split, inserted, ?_⟩
      intro later membership
      obtain ⟨inOps, otherSlot⟩ := isTop.slot_ne_of_after perm split membership
      exact survive top isTop row inserted later inOps otherSlot
    · refine .inr ⟨old, fun op membership clears => ?_⟩
      obtain ⟨top, isTop, topClears⟩ := cleared row old op (subset op membership) clears
      exact kept top isTop topClears

section Necessity

variable {rows : Set Row} {ops : List Op}
  (independent : ∀ first second : List Op, first.Perm ops → second.Perm ops →
    writes.writeAll rows (writes.effective [] first) =
      writes.writeAll rows (writes.effective [] second))
include independent

/-- If the order never matters, no top write is cleared by another slot. -/
theorem topsSurvive_of_orderIndependent (distinct : writes.Distinct ops) (nodup : ops.Nodup) :
    writes.TopsSurvive ops := by
  classical
  intro top isTop row inserted other otherMem otherSlot clears
  -- Written last, the row of the top write is there.
  have lastPerm : (ops.erase top ++ [top]).Perm ops :=
    (List.perm_append_singleton top (ops.erase top)).trans (List.perm_cons_erase isTop.1).symm
  have smaller : ∀ earlier ∈ (ops.erase top).reverse ++ [],
      writes.slot earlier = writes.slot top → writes.stamp earlier < writes.stamp top := by
    intro earlier membership sameSlot
    have erased : earlier ∈ ops.erase top := by simpa using membership
    obtain ⟨different, inOps⟩ := (List.Nodup.mem_erase_iff nodup).mp erased
    refine lt_of_le_of_ne (isTop.2 earlier inOps sameSlot) fun sameStamp => ?_
    exact different (distinct earlier inOps top isTop.1 sameSlot sameStamp)
  have present : row ∈ writes.writeAll rows (writes.effective [] (ops.erase top ++ [top])) := by
    have last : writes.effective [] (ops.erase top ++ [top]) =
        writes.effective [] (ops.erase top) ++ [top] := by
      rw [effective_append, effective, if_pos smaller, effective]
    exact mem_writeAll_iff.mpr (.inl ⟨_, top, [], last, inserted, by simp⟩)
  -- Written first and followed by the other write, it is not.
  have different : other ≠ top := fun same => otherSlot (congrArg writes.slot same)
  have firstPerm : (top :: other :: (ops.erase top).erase other).Perm ops := by
    have inErased : other ∈ ops.erase top := (List.mem_erase_of_ne different).mpr otherMem
    exact ((List.perm_cons_erase inErased).symm.cons top).trans
      (List.perm_cons_erase isTop.1).symm
  rw [independent _ _ lastPerm firstPerm] at present
  have order : writes.effective [] (top :: other :: (ops.erase top).erase other) =
      [] ++ top :: other :: writes.effective [other, top] ((ops.erase top).erase other) := by
    simp [effective, otherSlot.symm]
  rcases mem_writeAll_iff.mp present with
    ⟨before, op, after, split, opInserts, kept⟩ | ⟨-, kept⟩
  · have sameSlot := writes.slot_eq_of_inserts op top row opInserts inserted
    cases before with
    | nil =>
        rw [order, List.nil_append, List.nil_append] at split
        obtain ⟨rfl, rfl⟩ := List.cons.inj split
        exact kept other (by simp) clears
    | cons first before =>
        rw [order] at split
        have opAfter : op ∈ other ::
            writes.effective [other, top] ((ops.erase top).erase other) := by
          rw [(List.cons.inj split).2]
          simp
        exact (isTop.slot_ne_of_after firstPerm order opAfter).2 sameSlot
  · refine kept top (isTop.mem_effective distinct firstPerm) ?_
    exact writes.clears_of_slot_eq top top row rfl inserted

/-- If the order never matters, what is cleared at all is cleared by a top write. -/
theorem clearedByTops_of_orderIndependent :
    writes.ClearedByTops rows ops := by
  classical
  intro row stored op opMem clears
  by_contra noTop
  have kept : ∀ top, writes.IsTop ops top → ¬ writes.Clears top row := by
    intro top isTop topClears
    exact noTop ⟨top, isTop, topClears⟩
  -- With the top writes first, nothing else takes effect and the row stays.
  have topsPerm : (ops.filter (fun op => decide (writes.IsTop ops op)) ++
      ops.filter (fun op => !decide (writes.IsTop ops op))).Perm ops :=
    List.filter_append_perm _ ops
  have present : row ∈ writes.writeAll rows (writes.effective []
      (ops.filter (fun op => decide (writes.IsTop ops op)) ++
        ops.filter (fun op => !decide (writes.IsTop ops op)))) := by
    refine mem_writeAll_iff.mpr (.inr ⟨stored, ?_⟩)
    intro other membership
    rw [effective_append] at membership
    rcases List.mem_append.mp membership with inTops | inRest
    · have isTop := (List.mem_filter.mp (SlotWrites.mem_effective inTops).1).2
      exact kept other (by simpa using isTop)
    · exfalso
      obtain ⟨inOthers, larger⟩ := SlotWrites.mem_effective inRest
      obtain ⟨otherMem, -⟩ := List.mem_filter.mp inOthers
      obtain ⟨top, isTop, sameSlot⟩ := exists_isTop writes otherMem
      have below := larger top (by simp [isTop, isTop.1]) sameSlot
      exact absurd (isTop.2 other otherMem sameSlot.symm) (not_le.mpr below)
  -- With the clearing write first, the row is gone.
  have clearingPerm : (op :: ops.erase op).Perm ops := (List.perm_cons_erase opMem).symm
  rw [independent _ _ topsPerm clearingPerm] at present
  rcases mem_writeAll_iff.mp present with
    ⟨before, last, after, split, inserted, -⟩ | ⟨-, untouched⟩
  · have inEffect : last ∈ writes.effective [] (op :: ops.erase op) := by simp [split]
    have lastMem : last ∈ ops :=
      clearingPerm.mem_iff.mp (SlotWrites.mem_effective inEffect).1
    obtain ⟨top, isTop, sameSlot⟩ := exists_isTop writes lastMem
    exact kept top isTop (writes.clears_of_slot_eq top last row sameSlot inserted)
  · exact untouched op (by simp [effective]) clears

end Necessity

/-- The order of the writes never matters exactly when top writes survive and clear
everything that any write clears. -/
theorem orderIndependent_iff {rows : Set Row} {ops : List Op}
    (distinct : writes.Distinct ops) (nodup : ops.Nodup) :
    (∀ first second : List Op, first.Perm ops → second.Perm ops →
      writes.writeAll rows (writes.effective [] first) =
        writes.writeAll rows (writes.effective [] second)) ↔
      writes.TopsSurvive ops ∧ writes.ClearedByTops rows ops := by
  constructor
  · intro independent
    exact ⟨topsSurvive_of_orderIndependent independent distinct nodup,
      clearedByTops_of_orderIndependent independent⟩
  · rintro ⟨survive, cleared⟩ first second firstPerm secondPerm
    ext row
    rw [mem_writeAll_effective_iff distinct survive cleared firstPerm,
      mem_writeAll_effective_iff distinct survive cleared secondPerm]

end Orders

end SlotWrites

end Slate.Foundation
