import Mathlib.Data.List.Nodup
import Mathlib.Data.List.Perm.Basic

/-!
# Keyed rows

A table with a primary key is a list of rows. Writing a row whose key is
present merges it into the row that is there; otherwise the row goes to the end
of the table. Reads by key are described through `lookup`.
-/

namespace Slate.Foundation.Rows

universe u v

variable {Row : Type u} {Key : Type v} [DecidableEq Key]

/-- The row stored under a key. -/
def lookup (key : Row → Key) (wanted : Key) (rows : List Row) : Option Row :=
  rows.find? fun row => decide (key row = wanted)

/-- Insert a row, or merge it into the row that has its key. -/
def upsert (key : Row → Key) (merge : Row → Row → Row) (row : Row) :
    List Row → List Row
  | [] => [row]
  | existing :: rest =>
      if key existing = key row then merge existing row :: rest
      else existing :: upsert key merge row rest

attribute [local grind =] upsert

/-- Remove the row stored under a key. -/
def erase (key : Row → Key) (wanted : Key) (rows : List Row) : List Row :=
  rows.filter fun row => !decide (key row = wanted)

/-- No two rows have the same key. -/
def UniqueKeys (key : Row → Key) (rows : List Row) : Prop :=
  (rows.map key).Nodup

section Lookup

variable {key : Row → Key} {merge : Row → Row → Row} {row : Row} {wanted : Key}

@[simp]
theorem lookup_nil : lookup key wanted ([] : List Row) = none := rfl

theorem lookup_cons (existing : Row) (rest : List Row) :
    lookup key wanted (existing :: rest) =
      if key existing = wanted then some existing else lookup key wanted rest := by
  by_cases same : key existing = wanted
  · simp [lookup, same]
  · simp [lookup, same]

theorem mem_of_lookup {rows : List Row} {found : Row}
    (h : lookup key wanted rows = some found) :
    found ∈ rows ∧ key found = wanted := by
  refine ⟨List.mem_of_find?_eq_some h, ?_⟩
  simpa using List.find?_some h

theorem lookup_eq_none_iff {rows : List Row} :
    lookup key wanted rows = none ↔ ∀ row ∈ rows, key row ≠ wanted := by
  simp [lookup]

/-- Under a primary key a lookup returns exactly the row with that key. -/
theorem lookup_eq_some_iff {rows : List Row} (unique : UniqueKeys key rows)
    {found : Row} :
    lookup key wanted rows = some found ↔ found ∈ rows ∧ key found = wanted := by
  refine ⟨mem_of_lookup, ?_⟩
  rintro ⟨membership, rfl⟩
  induction rows with
  | nil => simp at membership
  | cons head rest inductionHypothesis =>
      obtain ⟨fresh, restUnique⟩ := List.nodup_cons.mp unique
      rw [lookup_cons]
      rcases List.mem_cons.mp membership with rfl | inRest
      · simp
      · have different : key head ≠ key found := by
          intro same
          exact fresh (same ▸ List.mem_map_of_mem inRest)
        rw [if_neg different]
        exact inductionHypothesis restUnique inRest

/-- Rewriting rows in place rewrites what a lookup returns. -/
theorem lookup_map {update : Row → Row} (keepsKey : ∀ row, key (update row) = key row)
    (rows : List Row) :
    lookup key wanted (rows.map update) = (lookup key wanted rows).map update := by
  induction rows with
  | nil => rfl
  | cons head rest inductionHypothesis =>
      rw [List.map_cons, lookup_cons, lookup_cons, keepsKey, inductionHypothesis]
      by_cases same : key head = wanted
      · simp [same]
      · simp [same]

omit [DecidableEq Key] in
theorem uniqueKeys_map {update : Row → Row} (keepsKey : ∀ row, key (update row) = key row)
    {rows : List Row} (unique : UniqueKeys key rows) : UniqueKeys key (rows.map update) := by
  rw [UniqueKeys, List.map_map, show key ∘ update = key from funext keepsKey]
  exact unique

end Lookup

section Upsert

variable {key : Row → Key} {merge : Row → Row → Row} {row : Row} {wanted : Key}

/-- The written key holds the merged row, or the new row if it was free. -/
theorem lookup_upsert_self
    (keepsKey : ∀ existing, key existing = key row →
      key (merge existing row) = key row)
    (rows : List Row) :
    lookup key (key row) (upsert key merge row rows) =
      some (((lookup key (key row) rows).map (merge · row)).getD row) := by
  induction rows with
  | nil => simp [upsert, lookup_cons]
  | cons head rest inductionHypothesis =>
      by_cases same : key head = key row
      · simp [upsert, lookup_cons, same, keepsKey head same]
      · simp [upsert, lookup_cons, same, inductionHypothesis]

theorem lookup_upsert_of_ne
    (keepsKey : ∀ existing, key existing = key row →
      key (merge existing row) = key row)
    (different : key row ≠ wanted) (rows : List Row) :
    lookup key wanted (upsert key merge row rows) = lookup key wanted rows := by
  induction rows with
  | nil => simp [upsert, lookup_cons, different]
  | cons head rest inductionHypothesis =>
      by_cases same : key head = key row
      · have headOther : key head ≠ wanted := by rwa [same]
        simp [upsert, lookup_cons, same, keepsKey head same, different]
      · simp [upsert, lookup_cons, same, inductionHypothesis]

theorem lookup_upsert
    (keepsKey : ∀ existing, key existing = key row →
      key (merge existing row) = key row)
    (rows : List Row) :
    lookup key wanted (upsert key merge row rows) =
      if key row = wanted then some (((lookup key wanted rows).map (merge · row)).getD row)
      else lookup key wanted rows := by
  split
  next same =>
    rw [← same]
    exact lookup_upsert_self keepsKey rows
  next different => exact lookup_upsert_of_ne keepsKey different rows

/-- Changing every row in a way that the table does not notice commutes with writing one. -/
theorem map_upsert (change : Row → Row)
    (keepsKey : ∀ existing, key (change existing) = key existing)
    (merges : ∀ existing, change (merge existing row) = merge (change existing) (change row))
    (rows : List Row) :
    (upsert key merge row rows).map change = upsert key merge (change row) (rows.map change) := by
  induction rows with
  | nil => rfl
  | cons head rest inductionHypothesis =>
      simp only [upsert, List.map_cons, keepsKey]
      split
      · rw [List.map_cons, merges]
      · rw [List.map_cons, inductionHypothesis]

/-- Writing what is there already changes nothing. -/
theorem upsert_eq_self {rows : List Row} {existing : Row}
    (found : lookup key (key row) rows = some existing)
    (same : merge existing row = existing) : upsert key merge row rows = rows := by
  induction rows with
  | nil => cases found
  | cons head rest inductionHypothesis =>
      rw [lookup_cons] at found
      rw [upsert]
      split at found
      · rename_i own
        obtain rfl := Option.some.inj found
        rw [if_pos own, same]
      · rename_i other
        rw [if_neg other, inductionHypothesis found]

/-- Neither does changing every row first, where only the written one has changed and the write
changes it back. -/
theorem upsert_map_eq_self {change : Row → Row} (keepsKey : ∀ row, key (change row) = key row)
    {rows : List Row} (unique : UniqueKeys key rows) {existing : Row}
    (found : lookup key (key row) rows = some existing)
    (restored : merge (change existing) row = existing)
    (others : ∀ other ∈ rows, key other ≠ key row → change other = other) :
    upsert key merge row (rows.map change) = rows := by
  induction rows with
  | nil => cases found
  | cons head rest inductionHypothesis =>
      obtain ⟨fresh, restUnique⟩ := List.nodup_cons.mp unique
      rw [lookup_cons] at found
      rw [List.map_cons, upsert, keepsKey]
      split at found
      · rename_i own
        obtain rfl := Option.some.inj found
        have unchanged : rest.map change = rest := by
          refine (List.map_congr_left fun row membership => ?_).trans (List.map_id rest)
          apply others row (List.mem_cons_of_mem _ membership)
          intro same
          apply fresh
          rw [own, ← same]
          exact List.mem_map_of_mem membership
        rw [if_pos own, restored, unchanged]
      · rename_i other
        rw [if_neg other, others head (List.mem_cons_self ..) other,
          inductionHypothesis restUnique found fun row membership =>
            others row (List.mem_cons_of_mem _ membership)]

theorem mem_upsert {rows : List Row} {found : Row}
    (membership : found ∈ upsert key merge row rows) :
    found ∈ rows ∨ found = row ∨
      ∃ existing ∈ rows, key existing = key row ∧ found = merge existing row := by
  induction rows with
  | nil => exact .inr (.inl (by simpa [upsert] using membership))
  | cons head rest inductionHypothesis =>
      rw [upsert] at membership
      split at membership
      next same =>
        rcases List.mem_cons.mp membership with rfl | inRest
        · exact .inr (.inr ⟨head, by simp, same, rfl⟩)
        · exact .inl (by simp [inRest])
      next =>
        rcases List.mem_cons.mp membership with rfl | inRest
        · exact .inl (by simp)
        · rcases inductionHypothesis inRest with old | new | ⟨existing, old, same, merged⟩
          · exact .inl (by simp [old])
          · exact .inr (.inl new)
          · exact .inr (.inr ⟨existing, by simp [old], same, merged⟩)

/-- A write that ignores a taken key keeps every row. -/
theorem mem_upsert_ignore {rows : List Row} {kept : Row} (membership : kept ∈ rows) :
    kept ∈ upsert key (fun existing _ => existing) row rows := by
  induction rows with
  | nil => simp at membership
  | cons head rest inductionHypothesis =>
      rw [upsert]
      split
      · exact membership
      · rcases List.mem_cons.mp membership with rfl | inRest
        · simp
        · simp [inductionHypothesis inRest]

/-- When a write replaces the row with its key, it stands beside the other rows. -/
theorem mem_upsert_replace_iff {rows : List Row} (unique : UniqueKeys key rows) {found : Row} :
    found ∈ upsert key (fun _ excluded => excluded) row rows ↔
      found = row ∨ (found ∈ rows ∧ key found ≠ key row) := by
  induction rows with
  | nil => simp [upsert]
  | cons head rest inductionHypothesis =>
      obtain ⟨fresh, restUnique⟩ := List.nodup_cons.mp unique
      rw [upsert]
      split
      next same =>
        have others : ∀ other ∈ rest, key other ≠ key row := by
          intro other membership sameKey
          exact fresh (List.mem_map.mpr ⟨other, membership, sameKey.trans same.symm⟩)
        constructor
        · intro membership
          rcases List.mem_cons.mp membership with rfl | inRest
          · exact .inl rfl
          · exact .inr ⟨by simp [inRest], others found inRest⟩
        · rintro (rfl | ⟨membership, different⟩)
          · simp
          · rcases List.mem_cons.mp membership with rfl | inRest
            · exact absurd same different
            · simp [inRest]
      next different =>
        rw [List.mem_cons, inductionHypothesis restUnique, List.mem_cons]
        constructor
        · rintro (rfl | new | ⟨inRest, other⟩)
          · exact .inr ⟨.inl rfl, different⟩
          · exact .inl new
          · exact .inr ⟨.inr inRest, other⟩
        · rintro (new | ⟨same | inRest, other⟩)
          · exact .inr (.inl new)
          · exact .inl same
          · exact .inr (.inr ⟨inRest, other⟩)

/-- A write to a row that is filtered out is not seen. -/
theorem filter_upsert_of_dropped {keep : Row → Bool} (rowDropped : keep row = false)
    (dropped : ∀ existing, key existing = key row →
      keep existing = false ∧ keep (merge existing row) = false) (rows : List Row) :
    (upsert key merge row rows).filter keep = rows.filter keep := by
  induction rows with
  | nil => simp [upsert, rowDropped]
  | cons head rest inductionHypothesis =>
      by_cases same : key head = key row
      · simp [upsert, same, dropped head same]
      · simp [upsert, same, List.filter_cons, inductionHypothesis]

theorem filter_erase_of_dropped {keep : Row → Bool}
    (dropped : ∀ existing, key existing = wanted → keep existing = false) (rows : List Row) :
    (erase key wanted rows).filter keep = rows.filter keep := by
  rw [erase, List.filter_filter]
  refine List.filter_congr fun existing _ => ?_
  by_cases same : key existing = wanted
  · simp [dropped existing same]
  · simp [same]

theorem map_key_upsert
    (keepsKey : ∀ existing, key existing = key row →
      key (merge existing row) = key row)
    (rows : List Row) :
    (upsert key merge row rows).map key =
      if key row ∈ rows.map key then rows.map key else rows.map key ++ [key row] := by
  induction rows with
  | nil => simp [upsert]
  | cons head rest inductionHypothesis =>
      by_cases same : key head = key row
      · simp [upsert, same, keepsKey head same]
      · have other : ¬ key row = key head := fun h => same h.symm
        simp only [upsert, same, if_false, List.map_cons, inductionHypothesis,
          List.mem_cons, other, false_or]
        split <;> simp

/-- The keys of a table after a write. -/
theorem key_mem_upsert
    (keepsKey : ∀ existing, key existing = key row →
      key (merge existing row) = key row)
    {rows : List Row} (present : wanted ∈ rows.map key ∨ wanted = key row) :
    ∃ found ∈ upsert key merge row rows, key found = wanted := by
  refine List.mem_map.mp ?_
  rw [map_key_upsert keepsKey]
  split
  next stored =>
    rcases present with old | rfl
    · exact old
    · exact stored
  next =>
    rcases present with old | rfl
    · exact List.mem_append_left _ old
    · simp

/-- A write keeps keys unique. -/
theorem uniqueKeys_upsert
    (keepsKey : ∀ existing, key existing = key row →
      key (merge existing row) = key row)
    {rows : List Row} (unique : UniqueKeys key rows) :
    UniqueKeys key (upsert key merge row rows) := by
  rw [UniqueKeys, map_key_upsert keepsKey]
  split
  next => exact unique
  next fresh =>
    exact List.nodup_append.mpr ⟨unique, by simp, by
      intro first firstMem second secondMem same
      rw [List.mem_singleton] at secondMem
      exact fresh (secondMem ▸ same ▸ firstMem)⟩

end Upsert

section Erase

variable {key : Row → Key} {wanted other : Key}

@[simp]
theorem lookup_erase_self (rows : List Row) :
    lookup key wanted (erase key wanted rows) = none := by
  rw [lookup_eq_none_iff]
  intro row membership
  simpa [erase] using (List.mem_filter.mp membership).2

theorem lookup_erase_of_ne (different : wanted ≠ other) (rows : List Row) :
    lookup key other (erase key wanted rows) = lookup key other rows := by
  rw [lookup, erase, List.find?_filter]
  refine congrArg (List.find? · rows) (funext fun row => ?_)
  by_cases same : key row = other
  · simp [same, different.symm]
  · simp [same]

omit [DecidableEq Key] in
theorem uniqueKeys_filter {rows : List Row} (keep : Row → Bool)
    (unique : UniqueKeys key rows) : UniqueKeys key (rows.filter keep) :=
  List.Nodup.sublist (List.Sublist.map key List.filter_sublist) unique

end Erase

end Slate.Foundation.Rows
