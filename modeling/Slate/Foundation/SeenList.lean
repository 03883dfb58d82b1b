import Mathlib.Data.Finset.Insert
import Mathlib.Data.List.Infix

/-!
# Lists with a seen-set

A list is collected item by item; a set of the items seen keeps an item from entering it twice.
What is collected is the list of first occurrences.
-/

namespace Slate.Foundation

universe u

section FirstOccurrences

variable {Item : Type u} [BEq Item] [LawfulBEq Item] {items : List Item} {item : Item}

theorem eraseDups_concat :
    (items ++ [item]).eraseDups =
      if item ∈ items then items.eraseDups else items.eraseDups ++ [item] := by
  rw [List.eraseDups_append]
  by_cases isMember : item ∈ items
  · simp [isMember, List.removeAll]
  · simp [isMember, List.removeAll, List.eraseDups_cons]

theorem eraseDups_filter (keeps : Item → Bool) (items : List Item) :
    (items.filter keeps).eraseDups = items.eraseDups.filter keeps := by
  induction items using List.reverseRecOn with
  | nil => rfl
  | append_singleton items item inductionHypothesis =>
      rw [eraseDups_concat, List.filter_append]
      cases isKept : keeps item with
      | false =>
          rw [List.filter_cons_of_neg (by simp [isKept]), List.filter_nil, List.append_nil,
            inductionHypothesis]
          split
          · rfl
          · simp [isKept]
      | true =>
          rw [List.filter_cons_of_pos isKept, List.filter_nil, eraseDups_concat]
          by_cases isMember : item ∈ items
          · rw [if_pos isMember, if_pos (List.mem_filter.mpr ⟨isMember, isKept⟩),
              inductionHypothesis]
          · rw [if_neg isMember, if_neg fun inKept => isMember (List.mem_filter.mp inKept).1,
              inductionHypothesis]
            simp [isKept]

theorem nodup_eraseDups (items : List Item) : items.eraseDups.Nodup := by
  induction items using List.reverseRecOn with
  | nil => exact List.nodup_nil
  | append_singleton items item inductionHypothesis =>
      rw [eraseDups_concat]
      split
      · exact inductionHypothesis
      · rename_i isNew
        simpa [List.nodup_append, inductionHypothesis] using
          fun (other : Item) (isMember : other ∈ items) (same : other = item) =>
            isNew (same ▸ isMember)

/-- The items stand in the order in which they occur first. -/
theorem pairwise_idxOf_eraseDups (items : List Item) :
    items.eraseDups.Pairwise fun first second => items.idxOf first < items.idxOf second := by
  induction items using List.reverseRecOn with
  | nil => exact List.Pairwise.nil
  | append_singleton items item inductionHypothesis =>
      have before : items.eraseDups.Pairwise fun first second =>
          (items ++ [item]).idxOf first < (items ++ [item]).idxOf second := by
        apply inductionHypothesis.imp_of_mem
        intro first second isFirst isSecond less
        rwa [List.idxOf_append_of_mem (List.mem_eraseDups.mp isFirst),
          List.idxOf_append_of_mem (List.mem_eraseDups.mp isSecond)]
      rw [eraseDups_concat]
      split
      · exact before
      · rename_i isNew
        apply List.pairwise_append.mpr
        refine ⟨before, List.pairwise_singleton _ _, fun first isFirst second isSecond => ?_⟩
        have isMember := List.mem_eraseDups.mp isFirst
        rw [List.mem_singleton.mp isSecond, List.idxOf_append_of_mem isMember,
          List.idxOf_append_of_notMem isNew]
        exact Nat.lt_add_right _ (List.idxOf_lt_length_iff.mpr isMember)

end FirstOccurrences

section Collecting

variable {Item : Type u} [DecidableEq Item]

/-- A collected list with the set of its items. -/
structure SeenList (Item : Type u) [DecidableEq Item] where
  seen : Finset Item
  items : List Item
  agrees : ∀ item, item ∈ seen ↔ item ∈ items
  nodup : items.Nodup

namespace SeenList

def empty : SeenList Item where
  seen := ∅
  items := []
  agrees := by simp
  nodup := List.nodup_nil

/-- An item is collected unless it was seen before. -/
def pushNew (list : SeenList Item) (item : Item) : SeenList Item :=
  if isSeen : item ∈ list.seen then list
  else {
    seen := insert item list.seen
    items := list.items ++ [item]
    agrees := by
      intro other
      simp [list.agrees other, or_comm]
    nodup := by
      have isNew : item ∉ list.items := fun isMember => isSeen ((list.agrees item).mpr isMember)
      exact List.nodup_append.mpr ⟨list.nodup, List.nodup_singleton item, by
        rintro other isMember _ isItem rfl
        exact isNew (List.mem_singleton.mp isItem ▸ isMember)⟩ }

theorem pushNew_of_mem {list : SeenList Item} {item : Item} (isSeen : item ∈ list.seen) :
    list.pushNew item = list := by
  unfold pushNew
  rw [dif_pos isSeen]

theorem items_pushNew (list : SeenList Item) (item : Item) :
    (list.pushNew item).items =
      if item ∈ list.items then list.items else list.items ++ [item] := by
  unfold pushNew
  split
  · rename_i isSeen
    rw [if_pos ((list.agrees item).mp isSeen)]
  · rename_i isNew
    rw [if_neg fun isMember => isNew ((list.agrees item).mpr isMember)]

theorem mem_pushNew {list : SeenList Item} {item other : Item} :
    other ∈ (list.pushNew item).items ↔ other ∈ list.items ∨ other = item := by
  rw [items_pushNew]
  split
  · rename_i isMember
    constructor
    · exact .inl
    · rintro (inList | rfl)
      · exact inList
      · exact isMember
  · simp

/-- Pushing the items one by one collects their first occurrences. -/
theorem items_pushNew_eraseDups {list : SeenList Item} {items : List Item} {item : Item}
    (collected : list.items = items.eraseDups) :
    (list.pushNew item).items = (items ++ [item]).eraseDups := by
  rw [items_pushNew, eraseDups_concat, collected]
  simp only [List.mem_eraseDups]

end SeenList

end Collecting

end Slate.Foundation
