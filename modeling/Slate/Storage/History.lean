import Slate.Storage.LastWriterWins

/-!
# The history of a log

The revisions of a log number its applied changes. Read in revision order they are
the history of a profile: a run only extends it, later entries have larger revisions,
and on each key they have larger stamps.
-/

namespace Slate.Storage

open Slate.Foundation

namespace SettingsLog

/-- The join of a revision with its change. -/
def eventOf (log : SettingsLog) (revision : SyncRevisionRecord) :
    Option SyncSettingTextEvent :=
  (log.changes.find? fun change =>
    change.id == revision.changeId && change.profile == revision.profile &&
      change.operation == "set_text" && change.appliedAt.isSome).map
    fun change => { revision, change }

/-- The applied changes of a profile with their revisions, oldest first. -/
def events (profile : String) (log : SettingsLog) : List SyncSettingTextEvent :=
  (log.revisions.filter fun revision => revision.profile == profile).filterMap log.eventOf

theorem events_eq (db : SlateProfileDatabase) (profile : String) :
    db.settingsEvents profile = db.log.events profile := rfl

/-- The event an applied change becomes. -/
def newEvent (change : IncomingSyncSettingText) (now : Int) (log : SettingsLog) :
    SyncSettingTextEvent :=
  { revision := log.newRevision change now, change := log.newRecord change now (some now) }

section Append

variable {log : SettingsLog} (wf : log.WellFormed) (change : IncomingSyncSettingText) (now : Int)
include wf

/-- Rows already joined stay joined to the same change. -/
theorem eventOf_append (appliedAt : Option Int) (revisions : List SyncRevisionRecord)
    (values : List SyncSettingValueRecord) {revision : SyncRevisionRecord}
    (stored : revision ∈ log.revisions) :
    eventOf { changes := log.changes ++ [log.newRecord change now appliedAt], revisions, values }
      revision = log.eventOf revision := by
  have older := wf.revisionChanges revision stored
  have different : ¬ (log.newRecord change now appliedAt).id = revision.changeId := by
    intro same
    have : (log.changes.length : Int) + 1 = revision.changeId := same
    omega
  simp [eventOf, List.find?_append, different]

theorem events_append_of_mem (appliedAt : Option Int) (profile : String)
    (values : List SyncSettingValueRecord) :
    events profile { changes := log.changes ++ [log.newRecord change now appliedAt]
                     revisions := log.revisions, values } = log.events profile := by
  refine List.filterMap_congr fun revision membership => ?_
  exact eventOf_append wf change now appliedAt _ _ (List.mem_filter.mp membership).1

theorem events_appendRecorded (profile : String) :
    (log.appendRecorded change now).events profile = log.events profile :=
  events_append_of_mem wf change now none profile log.values

theorem events_appendApplied (profile : String) :
    (log.appendApplied change now).events profile =
      log.events profile ++
        if change.profile = profile then [log.newEvent change now] else [] := by
  have joined : (log.appendApplied change now).eventOf (log.newRevision change now) =
      some (log.newEvent change now) := by
    have unmatched : log.changes.find? (fun recorded =>
        recorded.id == (log.newRevision change now).changeId &&
          recorded.profile == (log.newRevision change now).profile &&
          recorded.operation == "set_text" && recorded.appliedAt.isSome) = none := by
      rw [List.find?_eq_none]
      intro recorded membership
      have older := wf.changeIds recorded membership
      have different : ¬ recorded.id = (log.newRevision change now).changeId := by
        intro same
        have : recorded.id = (log.changes.length : Int) + 1 := same
        omega
      simp [different]
    rw [eventOf, appendApplied, List.find?_append, unmatched]
    simp [newRecord, newRevision, newEvent]
  have older : (log.revisions.filter fun revision => revision.profile == profile).filterMap
      (log.appendApplied change now).eventOf = log.events profile := by
    refine List.filterMap_congr fun revision membership => ?_
    exact eventOf_append wf change now _ _ _ (List.mem_filter.mp membership).1
  have split : (log.appendApplied change now).revisions =
      log.revisions ++ [log.newRevision change now] := rfl
  rw [events, split, List.filter_append, List.filterMap_append, older]
  by_cases same : change.profile = profile
  · have kept : [log.newRevision change now].filter
        (fun revision => revision.profile == profile) = [log.newRevision change now] := by
      simp [newRevision, same]
    rw [kept, if_pos same, List.filterMap_cons_some joined, List.filterMap_nil]
  · simp [newRevision, same]

end Append

/-- What holds of the history of every reachable database. -/
structure WellNumbered (log : SettingsLog) : Prop where
  recorded : ∀ profile, ∀ event ∈ log.events profile,
    event.change ∈ log.changes ∧ event.change.appliedAt.isSome ∧
      event.change.profile = profile
  numbered : ∀ profile, ∀ event ∈ log.events profile,
    0 < event.revision.revision ∧ event.revision.revision ≤ log.revisions.length
  complete : ∀ change ∈ log.changes, change.appliedAt.isSome →
    ∃ event ∈ log.events change.profile, event.change = change
  ordered : ∀ profile, (log.events profile).Pairwise fun first second =>
    first.revision.revision < second.revision.revision
  stamps : ∀ profile, (log.events profile).Pairwise fun first second =>
    first.change.slot = second.change.slot → first.change.stamp < second.change.stamp

theorem wellNumbered_empty : WellNumbered { changes := [], revisions := [], values := [] } where
  recorded := by simp [events]
  numbered := by simp [events]
  complete := by simp
  ordered := by simp [events]
  stamps := by simp [events]

section Preservation

variable {log : SettingsLog} (wf : log.WellFormed) (numbered : log.WellNumbered)
  {change : IncomingSyncSettingText} (now : Int)
include wf numbered

theorem WellNumbered.appendRecorded : (log.appendRecorded change now).WellNumbered := by
  have same := events_appendRecorded wf change now
  refine ⟨?_, ?_, ?_, ?_, ?_⟩
  · intro profile event membership
    rw [same] at membership
    obtain ⟨stored, isApplied, ofProfile⟩ := numbered.recorded profile event membership
    exact ⟨List.mem_append_left _ stored, isApplied, ofProfile⟩
  · intro profile event membership
    rw [same] at membership
    exact numbered.numbered profile event membership
  · intro recorded membership isApplied
    rcases List.mem_append.mp membership with old | new
    · obtain ⟨event, found, rfl⟩ := numbered.complete recorded old isApplied
      exact ⟨event, by rwa [same], rfl⟩
    · rw [List.mem_singleton.mp new] at isApplied
      cases isApplied
  · intro profile
    rw [same]
    exact numbered.ordered profile
  · intro profile
    rw [same]
    exact numbered.stamps profile

theorem WellNumbered.appendApplied
    (wins : ∀ winner, log.winner change.slot = some winner → winner.stamp < change.stamp) :
    (log.appendApplied change now).WellNumbered := by
  have grown := events_appendApplied wf change now
  have mem_grown : ∀ profile event, event ∈ (log.appendApplied change now).events profile →
      event ∈ log.events profile ∨
        (change.profile = profile ∧ event = log.newEvent change now) := by
    intro profile event membership
    rw [grown] at membership
    rcases List.mem_append.mp membership with old | new
    · exact .inl old
    · split at new
      next same => exact .inr ⟨same, List.mem_singleton.mp new⟩
      next => simp at new
  refine ⟨?_, ?_, ?_, ?_, ?_⟩
  · intro profile event membership
    rcases mem_grown profile event membership with old | ⟨ofProfile, rfl⟩
    · obtain ⟨stored, isApplied, ofProfile⟩ := numbered.recorded profile event old
      exact ⟨List.mem_append_left _ stored, isApplied, ofProfile⟩
    · exact ⟨List.mem_append_right _ (List.mem_singleton.mpr rfl), rfl, ofProfile⟩
  · intro profile event membership
    have longer : (log.appendApplied change now).revisions.length = log.revisions.length + 1 := by
      simp [SettingsLog.appendApplied]
    rw [longer]
    rcases mem_grown profile event membership with old | ⟨ofProfile, rfl⟩
    · have bounds := numbered.numbered profile event old
      omega
    · simp only [newEvent, newRevision]
      omega
  · intro recorded membership isApplied
    rcases List.mem_append.mp membership with old | new
    · obtain ⟨event, found, rfl⟩ := numbered.complete recorded old isApplied
      exact ⟨event, by simp [grown, found], rfl⟩
    · rw [List.mem_singleton.mp new]
      refine ⟨log.newEvent change now, ?_, rfl⟩
      simp [grown, newRecord]
  · intro profile
    rw [grown]
    refine List.pairwise_append.mpr ⟨numbered.ordered profile, by split <;> simp, ?_⟩
    intro first firstMem second secondMem
    split at secondMem
    · rw [List.mem_singleton.mp secondMem]
      have bounds := numbered.numbered profile first firstMem
      simp only [newEvent, newRevision]
      omega
    · simp at secondMem
  · intro profile
    rw [grown]
    refine List.pairwise_append.mpr ⟨numbered.stamps profile, by split <;> simp, ?_⟩
    intro first firstMem second secondMem sameSlot
    split at secondMem
    · rw [List.mem_singleton.mp secondMem] at sameSlot ⊢
      obtain ⟨stored, -, -⟩ := numbered.recorded profile first firstMem
      obtain ⟨winner, found, le⟩ := wf.bounded first.change stored
      have onSlot : first.change.slot = change.slot := sameSlot
      rw [onSlot] at found
      exact lt_of_le_of_lt le (wins winner found)
    · simp at secondMem

end Preservation

theorem Step.wellNumbered {log next : SettingsLog} (step : Step log next)
    (wf : log.WellFormed) (numbered : log.WellNumbered) : next.WellNumbered := by
  cases step with
  | applied change now fresh wins => exact numbered.appendApplied wf now wins
  | recorded change now winner fresh found loses => exact numbered.appendRecorded wf now

/-- A run keeps the history well numbered. -/
theorem Run.wellNumbered {log final : SettingsLog} (run : Run log final)
    (wf : log.WellFormed) (numbered : log.WellNumbered) : final.WellNumbered := by
  induction run with
  | refl => exact numbered
  | tail before step inductionHypothesis =>
      exact step.wellNumbered (Run.wellFormed before wf) inductionHypothesis

section Growth

/-- A step keeps the recorded changes and adds one. -/
theorem Step.contents {log next : SettingsLog} (step : Step log next) :
    ∃ change, next.contents = log.contents ++ [change] := by
  cases step with
  | applied change now => exact ⟨change, contents_appendApplied log change now⟩
  | recorded change now => exact ⟨change, contents_appendRecorded log change now⟩

/-- Recorded changes are never lost. -/
theorem Run.mem_contents {log final : SettingsLog} (run : Run log final)
    {change : IncomingSyncSettingText} (membership : change ∈ log.contents) :
    change ∈ final.contents := by
  induction run with
  | refl => exact membership
  | tail _ step inductionHypothesis =>
      obtain ⟨added, grown⟩ := step.contents
      rw [grown]
      exact List.mem_append_left _ inductionHypothesis

/-- A step adds events with new revisions only. -/
theorem Step.events {log next : SettingsLog} (step : Step log next) (wf : log.WellFormed)
    (profile : String) :
    ∃ later, next.events profile = log.events profile ++ later ∧
      log.revisions.length ≤ next.revisions.length ∧
      ∀ event ∈ later, (log.revisions.length : Int) < event.revision.revision := by
  cases step with
  | applied change now =>
      refine ⟨_, events_appendApplied wf change now profile, ?_, ?_⟩
      · simp [appendApplied]
      · intro event membership
        split at membership
        · rw [List.mem_singleton.mp membership]
          simp only [newEvent, newRevision]
          omega
        · simp at membership
  | recorded change now =>
      refine ⟨[], ?_, le_refl _, by simp⟩
      rw [events_appendRecorded wf change now, List.append_nil]

/-- A run adds events with new revisions only. -/
theorem Run.events {log final : SettingsLog} (run : Run log final) (wf : log.WellFormed)
    (profile : String) :
    ∃ later, final.events profile = log.events profile ++ later ∧
      log.revisions.length ≤ final.revisions.length ∧
      ∀ event ∈ later, (log.revisions.length : Int) < event.revision.revision := by
  induction run with
  | refl => exact ⟨[], (List.append_nil _).symm, le_refl _, by simp⟩
  | tail before step inductionHypothesis =>
      obtain ⟨later, grown, longer, beyond⟩ := inductionHypothesis
      obtain ⟨latest, grownAgain, longerAgain, beyondAgain⟩ :=
        step.events (Run.wellFormed before wf) profile
      refine ⟨later ++ latest, ?_, longer.trans longerAgain, ?_⟩
      · rw [grownAgain, grown, List.append_assoc]
      · intro event membership
        rcases List.mem_append.mp membership with old | new
        · exact beyond event old
        · have := beyondAgain event new
          omega

/-- Revisions are numbered from one. -/
def Counted (log : SettingsLog) : Prop :=
  ∀ revision ∈ log.revisions, 0 < revision.revision ∧
    revision.revision ≤ log.revisions.length

theorem Run.counted {log final : SettingsLog} (run : Run log final) (counted : log.Counted) :
    final.Counted := by
  induction run with
  | refl => exact counted
  | tail _ step inductionHypothesis =>
      cases step with
      | recorded => exact inductionHypothesis
      | applied change now =>
          intro revision membership
          rw [show (appendApplied change now _).revisions.length = _ + 1 by
            simp [appendApplied]; rfl]
          rcases List.mem_append.mp membership with old | new
          · have := inductionHypothesis revision old
            omega
          · rw [List.mem_singleton.mp new]
            simp only [newRevision]
            omega

/-- A change that is still new was new before. -/
theorem Run.fresh {log final : SettingsLog} (run : Run log final)
    {change : IncomingSyncSettingText} (fresh : final.Fresh change) : log.Fresh change := by
  rw [fresh_iff_contents] at fresh ⊢
  intro recorded membership
  exact fresh recorded (run.mem_contents membership)

/-- Winners only grow. -/
theorem Run.winner_le {log final : SettingsLog} (run : Run log final) (wf : log.WellFormed)
    {slot : String × String × String} {winner : SyncChangeRecord}
    (found : log.winner slot = some winner) :
    ∃ later, final.winner slot = some later ∧ winner.stamp ≤ later.stamp := by
  obtain ⟨membership, onSlot, -⟩ := winner_mem found
  have kept := run.mem_contents (List.mem_map_of_mem membership)
  obtain ⟨row, rowMem, same⟩ := List.mem_map.mp kept
  obtain ⟨later, laterFound, le⟩ := (Run.wellFormed run wf).bounded row rowMem
  have rowSlot : row.slot = slot := by
    rw [← SyncChangeRecord.content_slot, same, SyncChangeRecord.content_slot, onSlot]
  have rowStamp : row.stamp = winner.stamp := by
    rw [← SyncChangeRecord.content_stamp, same, SyncChangeRecord.content_stamp]
  rw [rowSlot] at laterFound
  exact ⟨later, laterFound, rowStamp ▸ le⟩

end Growth

end SettingsLog

namespace SlateProfileDatabase

variable {codec : SyncPayloadCodec}

/-- The history of every reachable database is well numbered. -/
theorem Reachable.wellNumbered {db : SlateProfileDatabase} (reachable : Reachable codec db) :
    db.log.WellNumbered := by
  obtain ⟨localSyncDeviceId, path⟩ := reachable
  induction path with
  | refl => exact SettingsLog.wellNumbered_empty
  | tail before operation inductionHypothesis =>
      exact operation.run.wellNumbered (Reachable.wellFormed ⟨_, before⟩) inductionHypothesis

theorem Reachable.counted {db : SlateProfileDatabase} (reachable : Reachable codec db) :
    db.log.Counted := by
  obtain ⟨localSyncDeviceId, path⟩ := reachable
  induction path with
  | refl =>
      intro revision membership
      cases membership
  | tail _ operation inductionHypothesis => exact operation.run.counted inductionHypothesis

end SlateProfileDatabase

end Slate.Storage
