import Slate.Foundation.LastWriter
import Slate.Storage.Operations

/-!
# The settings log

Every operation that touches `settings_changes`, `settings_revisions` or
`settings_values` does so by one of two steps: a change that beats the current
winner of its key is appended as applied and becomes the stored value, or a change
that does not is appended without being applied. The invariants of the log are
proved for these steps and hold of every run.
-/

namespace Slate.Storage

open Slate.Foundation

/-- The three tables of the log. -/
@[ext]
structure SettingsLog where
  changes : List SyncChangeRecord
  revisions : List SyncRevisionRecord
  values : List SyncSettingValueRecord

/-- The log of a database. -/
def SlateProfileDatabase.log (db : SlateProfileDatabase) : SettingsLog :=
  { changes := db.settingsChanges, revisions := db.settingsRevisions
    values := db.settingsValues }

section Stamps

theorem SyncChangeRecord.stamp_le_of_rank_le {first second : SyncChangeRecord}
    (h : first.rank ≤ second.rank) : first.stamp ≤ second.stamp := by
  rcases WinnerRank.le_iff.mp h with older | ⟨same, -⟩
  · exact le_of_lt older
  · exact le_of_eq same

theorem ChangeStamp.lt_of_clock_lt {first second : ChangeStamp}
    (h : first.logicalClock < second.logicalClock) : first < second :=
  ChangeStamp.lt_iff.mpr (.inl h)

theorem SyncChangeRecord.stamp_eq_iff {first second : SyncChangeRecord} :
    first.stamp = second.stamp ↔ first.logicalClock = second.logicalClock ∧
      first.deviceId = second.deviceId ∧ first.deviceSequence = second.deviceSequence := by
  simp [stamp]

@[simp]
theorem SyncChangeRecord.content_stamp (change : SyncChangeRecord) :
    change.content.stamp = change.stamp := rfl

@[simp]
theorem SyncChangeRecord.content_slot (change : SyncChangeRecord) :
    change.content.slot = change.slot := rfl

@[simp]
theorem SyncChangeRecord.content_sequenceKey (change : SyncChangeRecord) :
    change.content.sequenceKey = change.sequenceKey := rfl

end Stamps

namespace SettingsLog

/-- The applied changes on one key. -/
def applied (slot : String × String × String) (log : SettingsLog) :
    List SyncChangeRecord :=
  log.changes.filter fun change =>
    decide (change.slot = slot) && (change.operation == "set_text" &&
      change.appliedAt.isSome)

def winner (slot : String × String × String) (log : SettingsLog) :
    Option SyncChangeRecord :=
  (log.applied slot).argmax SyncChangeRecord.rank

/-- The stored value and kind of a key. -/
def value (slot : String × String × String) (log : SettingsLog) :
    Option (String × String) :=
  (Rows.lookup SlateProfileDatabase.valueKey slot log.values).map
    fun row => (row.value, row.valueKind)

/-- The row a change is recorded as. -/
def newRecord (change : IncomingSyncSettingText) (now : Int) (appliedAt : Option Int)
    (log : SettingsLog) : SyncChangeRecord :=
  { id := (log.changes.length : Int) + 1, profile := change.profile
    domain := change.domain, entityKey := change.key, operation := "set_text"
    payload := change.value, deviceId := change.deviceId
    deviceSequence := change.deviceSequence, logicalClock := change.logicalClock
    createdAt := now, appliedAt }

/-- The revision given to an applied change. -/
def newRevision (change : IncomingSyncSettingText) (now : Int) (log : SettingsLog) :
    SyncRevisionRecord :=
  { revision := (log.revisions.length : Int) + 1, profile := change.profile
    domain := change.domain, changeId := (log.changes.length : Int) + 1, createdAt := now }

/-- The value row an applied change is stored as. -/
def newValue (change : IncomingSyncSettingText) (now : Int) (log : SettingsLog) :
    SyncSettingValueRecord :=
  { profile := change.profile, domain := change.domain, key := change.key
    value := change.value, valueKind := "text"
    revision := (log.revisions.length : Int) + 1, updatedAt := now }

/-- Append a change that was not applied. -/
def appendRecorded (change : IncomingSyncSettingText) (now : Int) (log : SettingsLog) :
    SettingsLog :=
  { log with changes := log.changes ++ [log.newRecord change now none] }

/-- Append a change, give it a revision and store its value. -/
def appendApplied (change : IncomingSyncSettingText) (now : Int) (log : SettingsLog) :
    SettingsLog :=
  { changes := log.changes ++ [log.newRecord change now (some now)]
    revisions := log.revisions ++ [log.newRevision change now]
    values :=
      Rows.upsert SlateProfileDatabase.valueKey
        (fun existing excluded =>
          { existing with
            value := excluded.value, valueKind := excluded.valueKind
            revision := excluded.revision, updatedAt := excluded.updatedAt })
        (log.newValue change now) log.values }

/-- No recorded change has this device and sequence. -/
def Fresh (change : IncomingSyncSettingText) (log : SettingsLog) : Prop :=
  ∀ recorded ∈ log.changes, recorded.sequenceKey ≠ change.sequenceKey

/-- The two ways the log grows. -/
inductive Step : SettingsLog → SettingsLog → Prop where
  | applied (log : SettingsLog) (change : IncomingSyncSettingText) (now : Int)
      (fresh : log.Fresh change)
      (wins : ∀ winner, log.winner change.slot = some winner →
        winner.stamp < change.stamp) :
      Step log (log.appendApplied change now)
  | recorded (log : SettingsLog) (change : IncomingSyncSettingText) (now : Int)
      (winner : SyncChangeRecord) (fresh : log.Fresh change)
      (found : log.winner change.slot = some winner)
      (loses : change.stamp ≤ winner.stamp) :
      Step log (log.appendRecorded change now)

/-- Any number of steps. -/
abbrev Run : SettingsLog → SettingsLog → Prop :=
  Relation.ReflTransGen Step

/-- What holds of the log of every reachable database. -/
structure WellFormed (log : SettingsLog) : Prop where
  uniqueSequence : Rows.UniqueKeys SyncChangeRecord.sequenceKey log.changes
  setText : ∀ change ∈ log.changes, change.operation = "set_text"
  changeIds : ∀ change ∈ log.changes, change.id ≤ log.changes.length
  revisionChanges : ∀ revision ∈ log.revisions, revision.changeId ≤ log.changes.length
  bounded : ∀ change ∈ log.changes, ∃ winner,
    log.winner change.slot = some winner ∧ change.stamp ≤ winner.stamp
  stored : ∀ slot, log.value slot =
    (log.winner slot).map fun winner => (winner.payload, "text")

theorem wellFormed_empty : WellFormed { changes := [], revisions := [], values := [] } where
  uniqueSequence := List.nodup_nil
  setText := by simp
  changeIds := by simp
  revisionChanges := by simp
  bounded := by simp
  stored := fun _ => rfl

section Winner

variable {log : SettingsLog} {slot : String × String × String}

theorem mem_applied_iff {change : SyncChangeRecord} :
    change ∈ log.applied slot ↔ change ∈ log.changes ∧ change.slot = slot ∧
      change.operation = "set_text" ∧ change.appliedAt.isSome := by
  simp [applied, List.mem_filter]

theorem winner_mem {winner : SyncChangeRecord} (found : log.winner slot = some winner) :
    winner ∈ log.changes ∧ winner.slot = slot ∧ winner.appliedAt.isSome := by
  obtain ⟨membership, onSlot, -, isApplied⟩ :=
    mem_applied_iff.mp (List.argmax_mem found)
  exact ⟨membership, onSlot, isApplied⟩

theorem winner_append_of_slot_ne (record : SyncChangeRecord) (different : record.slot ≠ slot)
    (revisions : List SyncRevisionRecord) (values : List SyncSettingValueRecord) :
    winner slot { changes := log.changes ++ [record], revisions, values } =
      log.winner slot := by
  simp [winner, applied, List.filter_append, different]

theorem winner_append_of_unapplied (record : SyncChangeRecord)
    (unapplied : record.appliedAt = none)
    (revisions : List SyncRevisionRecord) (values : List SyncSettingValueRecord) :
    winner slot { changes := log.changes ++ [record], revisions, values } =
      log.winner slot := by
  simp [winner, applied, List.filter_append, unapplied]

/-- A change that beats the winner becomes the winner. -/
theorem winner_appendApplied_self (change : IncomingSyncSettingText) (now : Int)
    (wins : ∀ winner, log.winner change.slot = some winner → winner.stamp < change.stamp) :
    (log.appendApplied change now).winner change.slot =
      some (log.newRecord change now (some now)) := by
  have split : (log.appendApplied change now).applied change.slot =
      log.applied change.slot ++ [log.newRecord change now (some now)] := by
    simp [applied, appendApplied, List.filter_append, newRecord,
      SyncChangeRecord.slot, IncomingSyncSettingText.slot]
  rw [winner, split, List.argmax_concat]
  cases found : (log.applied change.slot).argmax SyncChangeRecord.rank with
  | none => rfl
  | some existing =>
      have beaten : existing.stamp < (log.newRecord change now (some now)).stamp :=
        wins existing found
      have ordered : existing.rank < (log.newRecord change now (some now)).rank := by
        by_contra reversed
        exact absurd (SyncChangeRecord.stamp_le_of_rank_le (not_lt.mp reversed))
          (not_le.mpr beaten)
      simp [ordered]

theorem winner_appendApplied_of_ne (change : IncomingSyncSettingText) (now : Int)
    (different : change.slot ≠ slot) :
    (log.appendApplied change now).winner slot = log.winner slot :=
  winner_append_of_slot_ne (log.newRecord change now (some now)) different _ _

@[simp]
theorem winner_appendRecorded (change : IncomingSyncSettingText) (now : Int) :
    (log.appendRecorded change now).winner slot = log.winner slot :=
  winner_append_of_unapplied _ rfl _ _

theorem value_appendApplied (change : IncomingSyncSettingText) (now : Int) :
    (log.appendApplied change now).value slot =
      if change.slot = slot then some (change.value, "text") else log.value slot := by
  unfold value appendApplied
  split
  next same =>
    have key : slot = SlateProfileDatabase.valueKey (log.newValue change now) := same.symm
    rw [key, Rows.lookup_upsert_self (fun _ same => same)]
    cases Rows.lookup SlateProfileDatabase.valueKey _ log.values <;> rfl
  next different =>
    have key : SlateProfileDatabase.valueKey (log.newValue change now) ≠ slot := different
    rw [Rows.lookup_upsert_of_ne (fun _ same => same) key]

end Winner

section Preservation

/-- The facts about single rows that any appended change keeps. -/
theorem WellFormed.append {log : SettingsLog} (wf : log.WellFormed)
    {change : IncomingSyncSettingText} (now : Int) (appliedAt : Option Int)
    (fresh : log.Fresh change) :
    Rows.UniqueKeys SyncChangeRecord.sequenceKey
        (log.changes ++ [log.newRecord change now appliedAt]) ∧
      (∀ recorded ∈ log.changes ++ [log.newRecord change now appliedAt],
        recorded.operation = "set_text") ∧
      ∀ recorded ∈ log.changes ++ [log.newRecord change now appliedAt],
        recorded.id ≤ (log.changes ++ [log.newRecord change now appliedAt]).length := by
  refine ⟨?_, ?_, ?_⟩
  · rw [Rows.UniqueKeys, List.map_append]
    refine List.nodup_append.mpr ⟨wf.uniqueSequence, by simp, ?_⟩
    intro first firstMem second secondMem same
    obtain ⟨recorded, membership, rfl⟩ := List.mem_map.mp firstMem
    rw [List.map_singleton, List.mem_singleton] at secondMem
    exact fresh recorded membership (same.trans secondMem)
  · exact List.forall_mem_append.mpr ⟨wf.setText, List.forall_mem_singleton.mpr rfl⟩
  · rw [List.length_append, List.length_singleton]
    refine List.forall_mem_append.mpr ⟨fun recorded old => ?_, ?_⟩
    · have := wf.changeIds recorded old
      omega
    · exact List.forall_mem_singleton.mpr (le_refl _)

theorem WellFormed.appendApplied {log : SettingsLog} (wf : log.WellFormed)
    {change : IncomingSyncSettingText} (now : Int) (fresh : log.Fresh change)
    (wins : ∀ winner, log.winner change.slot = some winner → winner.stamp < change.stamp) :
    (log.appendApplied change now).WellFormed := by
  obtain ⟨unique, setText, ids⟩ := wf.append now (some now) fresh
  refine ⟨unique, setText, ids, ?_, ?_, fun slot => ?_⟩
  · refine List.forall_mem_append.mpr ⟨fun revision old => ?_, ?_⟩
    · have := wf.revisionChanges revision old
      simp only [SettingsLog.appendApplied, List.length_append, List.length_singleton]
      omega
    · refine List.forall_mem_singleton.mpr ?_
      simp [SettingsLog.appendApplied, newRevision]
  · intro recorded membership
    rcases List.mem_append.mp membership with old | new
    · obtain ⟨winner, found, le⟩ := wf.bounded recorded old
      by_cases same : change.slot = recorded.slot
      · exact ⟨log.newRecord change now (some now),
          same ▸ winner_appendApplied_self change now wins,
          le.trans (le_of_lt (wins winner (same ▸ found)))⟩
      · exact ⟨winner, (winner_appendApplied_of_ne change now same).trans found, le⟩
    · rw [List.mem_singleton.mp new]
      exact ⟨_, winner_appendApplied_self change now wins, le_refl _⟩
  · rw [value_appendApplied]
    split
    next same =>
      rw [← same, winner_appendApplied_self change now wins]
      rfl
    next different =>
      rw [winner_appendApplied_of_ne change now different]
      exact wf.stored slot

theorem WellFormed.appendRecorded {log : SettingsLog} (wf : log.WellFormed)
    {change : IncomingSyncSettingText} (now : Int) {winner : SyncChangeRecord}
    (fresh : log.Fresh change) (found : log.winner change.slot = some winner)
    (loses : change.stamp ≤ winner.stamp) :
    (log.appendRecorded change now).WellFormed := by
  obtain ⟨unique, setText, ids⟩ := wf.append now none fresh
  refine ⟨unique, setText, ids, fun revision membership => ?_, ?_, fun slot => ?_⟩
  · have := wf.revisionChanges revision membership
    simp only [SettingsLog.appendRecorded, List.length_append, List.length_singleton]
    omega
  · intro recorded membership
    rw [winner_appendRecorded]
    rcases List.mem_append.mp membership with old | new
    · exact wf.bounded recorded old
    · rw [List.mem_singleton.mp new]
      exact ⟨winner, found, loses⟩
  · rw [winner_appendRecorded]
    exact wf.stored slot

/-- A step keeps the log well formed. -/
theorem Step.wellFormed {log next : SettingsLog} (step : Step log next)
    (wf : log.WellFormed) : next.WellFormed := by
  cases step with
  | applied change now fresh wins => exact wf.appendApplied now fresh wins
  | recorded change now winner fresh found loses =>
      exact wf.appendRecorded now fresh found loses

/-- A run keeps the log well formed. -/
theorem Run.wellFormed {log final : SettingsLog} (run : Run log final)
    (wf : log.WellFormed) : final.WellFormed := by
  induction run with
  | refl => exact wf
  | tail _ step inductionHypothesis => exact step.wellFormed inductionHypothesis

end Preservation

end SettingsLog

end Slate.Storage
