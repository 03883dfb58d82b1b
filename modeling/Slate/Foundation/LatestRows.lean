import Mathlib.Data.List.Sort
import Slate.Foundation.LastWriter
import Slate.Foundation.Rows

/-!
# The latest row of every key

Rows are written one after the other into a table that keeps, for each key, the row of the
largest rank. When a key and a rank determine the row, the table depends only on which rows
were written.
-/

namespace Slate.Foundation.LatestRows

universe u v w

variable {Row : Type u} {Key : Type v} {Rank : Type w} [DecidableEq Key] [LinearOrder Rank]
  {key : Row → Key} {rank : Row → Rank}

/-- The row that is there stays unless the next one ranks higher. -/
def keepLater (rank : Row → Rank) (existing next : Row) : Row :=
  if rank next ≤ rank existing then existing else next

def put (key : Row → Key) (rank : Row → Rank) (rows : List Row) (row : Row) : List Row :=
  Rows.upsert key (keepLater rank) row rows

/-- The table after all rows were written. -/
def putAll (key : Row → Key) (rank : Row → Rank) (written : List Row) : List Row :=
  written.foldl (put key rank) []

def ofKey (key : Row → Key) (wanted : Key) (written : List Row) : List Row :=
  written.filter fun row => decide (key row = wanted)

/-- No two rows of one key share a rank. -/
def Determined (key : Row → Key) (rank : Row → Rank) : Prop :=
  ∀ first second, key first = key second → rank first = rank second → first = second

omit [DecidableEq Key] in
theorem key_keepLater {row : Row} (existing : Row) (same : key existing = key row) :
    key (keepLater rank existing row) = key row := by
  unfold keepLater
  split
  · exact same
  · rfl

theorem mem_ofKey_iff {written : List Row} {row : Row} {wanted : Key} :
    row ∈ ofKey key wanted written ↔ row ∈ written ∧ key row = wanted := by
  simp only [ofKey, List.mem_filter, decide_eq_true_eq]

section Table

theorem putAll_concat (written : List Row) (row : Row) :
    putAll key rank (written ++ [row]) = put key rank (putAll key rank written) row := by
  simp only [putAll, List.foldl_append, List.foldl_cons, List.foldl_nil]

theorem uniqueKeys_putAll (written : List Row) :
    Rows.UniqueKeys key (putAll key rank written) := by
  induction written using List.reverseRecOn with
  | nil => exact List.nodup_nil
  | append_singleton written row inductionHypothesis =>
      rw [putAll_concat]
      exact Rows.uniqueKeys_upsert key_keepLater inductionHypothesis

/-- What stands under a key is the first of its rows with the largest rank. -/
theorem lookup_putAll (written : List Row) (wanted : Key) :
    Rows.lookup key wanted (putAll key rank written) =
      (ofKey key wanted written).argmax rank := by
  induction written using List.reverseRecOn with
  | nil => rfl
  | append_singleton written row inductionHypothesis =>
      rw [putAll_concat, put, Rows.lookup_upsert key_keepLater, inductionHypothesis]
      by_cases same : key row = wanted
      · have front : ofKey key wanted (written ++ [row]) = ofKey key wanted written ++ [row] := by
          simp [ofKey, same]
        rw [if_pos same, front, List.argmax_concat]
        cases (ofKey key wanted written).argmax rank with
        | none => rfl
        | some existing =>
            simp only [Option.map_some, Option.getD_some, keepLater, ← not_lt, ite_not]
            split <;> rfl
      · have front : ofKey key wanted (written ++ [row]) = ofKey key wanted written := by
          simp [ofKey, same]
        rw [if_neg same, front]

theorem mem_putAll_iff {written : List Row} {row : Row} :
    row ∈ putAll key rank written ↔ (ofKey key (key row) written).argmax rank = some row := by
  rw [← lookup_putAll, Rows.lookup_eq_some_iff (uniqueKeys_putAll written)]
  simp only [and_true]

end Table

section Latest

variable {written other : List Row}

/-- A row that is kept was written, and no row of its key ranks higher. -/
theorem isLast_of_mem_putAll {row : Row} (kept : row ∈ putAll key rank written) :
    LastWriter.IsLast rank (ofKey key (key row) written) row :=
  LastWriter.isLast_of_argmax (mem_putAll_iff.mp kept)

/-- Every key that was written is kept. -/
theorem exists_mem_putAll {row : Row} (isWritten : row ∈ written) :
    ∃ kept ∈ putAll key rank written, key kept = key row := by
  have isOfKey : row ∈ ofKey key (key row) written := mem_ofKey_iff.mpr ⟨isWritten, rfl⟩
  cases found : Rows.lookup key (key row) (putAll key rank written) with
  | none =>
      rw [lookup_putAll, List.argmax_eq_none] at found
      rw [found] at isOfKey
      cases isOfKey
  | some kept => exact ⟨kept, Rows.mem_of_lookup found⟩

theorem nodup_putAll (written : List Row) : (putAll key rank written).Nodup :=
  List.Nodup.of_map key (uniqueKeys_putAll written)

/-- Which rows are kept depends only on which rows were written. -/
theorem putAll_perm (determined : Determined key rank)
    (same : ∀ row, row ∈ written ↔ row ∈ other) :
    (putAll key rank written).Perm (putAll key rank other) := by
  rw [List.perm_ext_iff_of_nodup (nodup_putAll written) (nodup_putAll other)]
  intro row
  have distinct : LastWriter.DistinctStamps rank (ofKey key (key row) written) := by
    intro first isFirst second isSecond sameRank
    exact determined first second
      ((mem_ofKey_iff.mp isFirst).2.trans (mem_ofKey_iff.mp isSecond).2.symm) sameRank
  have sameOfKey : (ofKey key (key row) written).argmax rank =
      (ofKey key (key row) other).argmax rank :=
    LastWriter.argmax_eq_of_mem_iff distinct (by simp only [mem_ofKey_iff, same, implies_true])
  rw [mem_putAll_iff, mem_putAll_iff, sameOfKey]

/-- In the order of the keys the kept rows are the same list. -/
theorem insertionSort_putAll_eq [LinearOrder Key] (determined : Determined key rank)
    (same : ∀ row, row ∈ written ↔ row ∈ other) :
    (putAll key rank written).insertionSort (fun left right => key left ≤ key right) =
      (putAll key rank other).insertionSort fun left right => key left ≤ key right := by
  have sorted := List.pairwise_insertionSort (fun left right : Row => key left ≤ key right)
  have kept : ∀ rows : List Row,
      (rows.insertionSort fun left right => key left ≤ key right).Perm rows :=
    List.perm_insertionSort _
  apply List.Perm.eq_of_pairwise _ (sorted _) (sorted _)
    (((kept _).trans (putAll_perm determined same)).trans (kept _).symm)
  intro first second isFirst isSecond firstLe secondLe
  have sameKey : key first = key second := le_antisymm firstLe secondLe
  have isFirstKept := (kept _).mem_iff.mp isFirst
  have isSecondKept := (putAll_perm determined same).mem_iff.mpr ((kept _).mem_iff.mp isSecond)
  exact List.inj_on_of_nodup_map (uniqueKeys_putAll written) isFirstKept isSecondKept sameKey

/-- A row that no row of its key ranks above is kept if it is written first. -/
theorem mem_putAll_cons {row : Row}
    (largest : ∀ other ∈ written, key other = key row → rank other ≤ rank row) :
    row ∈ putAll key rank (row :: written) := by
  have front : ofKey key (key row) (row :: written) = row :: ofKey key (key row) written := by
    simp [ofKey]
  rw [mem_putAll_iff, front, List.argmax_cons]
  cases found : (ofKey key (key row) written).argmax rank with
  | none => rfl
  | some other =>
      obtain ⟨isOther, sameKey⟩ := mem_ofKey_iff.mp (List.argmax_mem found)
      exact if_neg (not_lt.mpr (largest other isOther sameKey))

end Latest

section First

variable {written : List Row} {row : Row}

/-- The first row of every key. -/
def putFirst (key : Row → Key) (written : List Row) : List Row := putAll key (fun _ => ()) written

theorem argmax_const {Stamp : Type} [LinearOrder Stamp] (stamp : Stamp) (rows : List Row) :
    rows.argmax (fun _ => stamp) = rows.head? := by
  cases rows with
  | nil => rfl
  | cons first rest =>
      rw [List.argmax_cons]
      cases rest.argmax fun _ => stamp with
      | none => rfl
      | some later => exact if_neg (lt_irrefl stamp)

theorem mem_putFirst_iff :
    row ∈ putFirst key written ↔ (ofKey key (key row) written).head? = some row := by
  rw [putFirst, mem_putAll_iff, argmax_const]

end First

section Index

variable {merge : Row → Row → Row} {row : Row} {rows : List Row}

/-- The keys of a table, each with the position of its row. -/
def index (key : Row → Key) (rows : List Row) : List (Key × Nat) := (rows.map key).zipIdx

/-- The position that an index has for a key. -/
def position (wanted : Key) (entries : List (Key × Nat)) : Option Nat :=
  (entries.find? fun entry => decide (entry.1 = wanted)).map (·.2)

/-- A row whose key is not in the table goes to its end. -/
theorem upsert_of_fresh (fresh : ∀ existing ∈ rows, key existing ≠ key row) :
    Rows.upsert key merge row rows = rows ++ [row] := by
  induction rows with
  | nil => rfl
  | cons head rest inductionHypothesis =>
      rw [Rows.upsert, if_neg (fresh head (List.mem_cons_self ..)), List.cons_append,
        inductionHypothesis fun existing isExisting =>
          fresh existing (List.mem_cons_of_mem _ isExisting)]

/-- A row whose key is in the table takes the place of the row that has it. -/
theorem upsert_of_getElem? (unique : Rows.UniqueKeys key rows) {place : Nat} {existing : Row}
    (stands : rows[place]? = some existing) (same : key existing = key row) :
    Rows.upsert key merge row rows = rows.set place (merge existing row) := by
  induction rows generalizing place with
  | nil => simp at stands
  | cons head rest inductionHypothesis =>
      obtain ⟨headFresh, restUnique⟩ := List.nodup_cons.mp unique
      cases place with
      | zero =>
          obtain rfl : head = existing := by simpa using stands
          rw [Rows.upsert, if_pos same, List.set_cons_zero]
      | succ place =>
          have standsLater : rest[place]? = some existing := by simpa using stands
          have different : key head ≠ key row := by
            intro sameHead
            apply headFresh
            rw [sameHead, ← same]
            exact List.mem_map_of_mem (List.mem_of_getElem? standsLater)
          rw [Rows.upsert, if_neg different, List.set_cons_succ,
            inductionHypothesis restUnique standsLater]

theorem fresh_of_position_eq_none {wanted : Key}
    (absent : position wanted (index key rows) = none) :
    ∀ existing ∈ rows, key existing ≠ wanted := by
  intro existing isExisting same
  obtain ⟨place, stands⟩ := List.mem_iff_getElem?.mp isExisting
  have isEntry : (key existing, place) ∈ index key rows :=
    List.mk_mem_zipIdx_iff_getElem?.mpr (by rw [List.getElem?_map, stands]; rfl)
  have notFound := List.find?_eq_none.mp (Option.map_eq_none_iff.mp absent) _ isEntry
  exact notFound (decide_eq_true same)

theorem getElem?_of_position_eq_some {wanted : Key} {place : Nat}
    (found : position wanted (index key rows) = some place) :
    ∃ existing, rows[place]? = some existing ∧ key existing = wanted := by
  obtain ⟨entry, isFound, rfl⟩ := Option.map_eq_some_iff.mp found
  have isEntry := List.mem_zipIdx_iff_getElem?.mp (List.mem_of_find?_eq_some isFound)
  have same : entry.1 = wanted := by simpa using List.find?_some isFound
  rw [List.getElem?_map, Option.map_eq_some_iff] at isEntry
  obtain ⟨existing, stands, isKey⟩ := isEntry
  exact ⟨existing, stands, isKey.trans same⟩

theorem put_of_position_eq_none (absent : position (key row) (index key rows) = none) :
    put key rank rows row = rows ++ [row] :=
  upsert_of_fresh (fresh_of_position_eq_none absent)

theorem put_of_position_eq_some (unique : Rows.UniqueKeys key rows) {place : Nat}
    (found : position (key row) (index key rows) = some place) :
    ∃ existing, rows[place]? = some existing ∧ key existing = key row ∧
      put key rank rows row = rows.set place (keepLater rank existing row) := by
  obtain ⟨existing, stands, same⟩ := getElem?_of_position_eq_some found
  exact ⟨existing, stands, same, upsert_of_getElem? unique stands same⟩

/-- A row that takes another one's place leaves the keys where they are. -/
theorem index_put_of_position_eq_some {place : Nat}
    (found : position (key row) (index key rows) = some place) :
    index key (put key rank rows row) = index key rows := by
  obtain ⟨existing, stands, same⟩ := getElem?_of_position_eq_some found
  have isKey : key row ∈ rows.map key := by
    rw [← same]
    exact List.mem_map_of_mem (List.mem_of_getElem? stands)
  rw [index, put, Rows.map_key_upsert key_keepLater, if_pos isKey, index]

omit [DecidableEq Key] in
theorem index_concat : index key (rows ++ [row]) = index key rows ++ [(key row, rows.length)] := by
  simp [index, List.zipIdx_append]

/-- What a row displaces and what is left are what was there and the row. -/
theorem cons_set_perm {place : Nat} {existing : Row} (stands : rows[place]? = some existing) :
    (existing :: rows.set place row).Perm (row :: rows) := by
  induction rows generalizing place with
  | nil => simp at stands
  | cons head rest inductionHypothesis =>
      cases place with
      | zero =>
          obtain rfl : head = existing := by simpa using stands
          exact List.Perm.swap row head rest
      | succ place =>
          have standsLater : rest[place]? = some existing := by simpa using stands
          have later := inductionHypothesis standsLater
          exact ((List.Perm.swap head existing _).trans (later.cons head)).trans
            (List.Perm.swap row head rest)

end Index

section FirstRows

variable {written : List Row} {row : Row}

theorem putFirst_concat_of_mem (present : key row ∈ (putFirst key written).map key) :
    putFirst key (written ++ [row]) = putFirst key written := by
  obtain ⟨existing, isExisting, same⟩ := List.mem_map.mp present
  have found : Rows.lookup key (key row) (putFirst key written) = some existing :=
    (Rows.lookup_eq_some_iff (uniqueKeys_putAll written)).mpr ⟨isExisting, same⟩
  rw [putFirst, putAll_concat]
  exact Rows.upsert_eq_self found (if_pos le_rfl)

theorem putFirst_concat_of_not_mem (fresh : key row ∉ (putFirst key written).map key) :
    putFirst key (written ++ [row]) = putFirst key written ++ [row] := by
  rw [putFirst, putAll_concat]
  apply upsert_of_fresh
  intro existing isExisting same
  apply fresh
  rw [← same]
  exact List.mem_map_of_mem isExisting

/-- Rows that are written later change nothing about those that are there. -/
theorem putFirst_prefix_append (written later : List Row) :
    putFirst key written <+: putFirst key (written ++ later) := by
  induction later using List.reverseRecOn with
  | nil => simp
  | append_singleton later row inductionHypothesis =>
      rw [← List.append_assoc]
      apply inductionHypothesis.trans
      by_cases present : key row ∈ (putFirst key (written ++ later)).map key
      · simp only [putFirst_concat_of_mem present, List.prefix_rfl]
      · rw [putFirst_concat_of_not_mem present]
        exact List.prefix_append _ _

/-- No more rows are kept than were written. -/
theorem length_putFirst_le (written : List Row) :
    (putFirst key written).length ≤ written.length := by
  induction written using List.reverseRecOn with
  | nil => exact le_rfl
  | append_singleton written row inductionHypothesis =>
      by_cases present : key row ∈ (putFirst key written).map key
      · rw [putFirst_concat_of_mem present, List.length_append]
        omega
      · rw [putFirst_concat_of_not_mem present, List.length_append, List.length_append]
        omega

end FirstRows

end Slate.Foundation.LatestRows
