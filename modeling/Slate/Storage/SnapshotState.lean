import Slate.Storage.SnapshotMerge

/-!
# The state a snapshot holds

The log only grows, and an applied change beats every change recorded before it. So the last
event of a key up to some revision is what the key held when that revision was the newest
one, and a snapshot payload is the state of that moment, as far as the event query reaches.
-/

namespace Slate.Storage

open Slate.Foundation

namespace SettingsLog

/-- The log at the moment a revision was the newest one. -/
structure NewestAt (revision : Int) (past log : SettingsLog) : Prop where
  start : Run { changes := [], revisions := [], values := [] } past
  later : Run past log
  upTo : ∀ row ∈ past.revisions, row.revision ≤ revision
  beyond : ∀ row ∈ log.revisions, row ∉ past.revisions → revision < row.revision

section Moments

variable {log past : SettingsLog} {revision : Int}

theorem counted_empty : Counted { changes := [], revisions := [], values := [] } := by
  simp [Counted]

/-- Every revision was the newest one at some moment. -/
theorem exists_newestAt (revision : Int)
    (run : Run { changes := [], revisions := [], values := [] } log) :
    ∃ past, NewestAt revision past log := by
  induction run with
  | refl => exact ⟨_, .refl, .refl, by simp, by simp⟩
  | @tail log next before step inductionHypothesis =>
      obtain ⟨past, start, later, upTo, beyond⟩ := inductionHypothesis
      have counted := Run.counted (before.tail step) counted_empty
      by_cases reached : (next.revisions.length : Int) ≤ revision
      · exact ⟨next, before.tail step, .refl,
          fun row membership => (counted row membership).2.trans reached,
          fun row membership absent => absurd membership absent⟩
      · refine ⟨past, start, later.tail step, upTo, ?_⟩
        intro row membership absent
        cases step with
        | recorded => exact beyond row membership absent
        | applied change now fresh wins =>
            rcases List.mem_append.mp membership with old | new
            · exact beyond row old absent
            · rw [List.mem_singleton.mp new]
              simpa [appendApplied, newRevision] using reached

theorem revision_mem_of_mem_events {profile : String} {event : SyncSettingTextEvent}
    (membership : event ∈ log.events profile) : event.revision ∈ log.revisions := by
  obtain ⟨row, rowMem, joined⟩ := List.mem_filterMap.mp membership
  obtain ⟨change, -, rfl⟩ := Option.map_eq_some_iff.mp joined
  exact (List.mem_filter.mp rowMem).1

/-- The events of the moment are those up to its revision. -/
theorem NewestAt.mem_events_iff (newest : NewestAt revision past log) (profile : String)
    {event : SyncSettingTextEvent} :
    event ∈ past.events profile ↔
      event ∈ log.events profile ∧ event.revision.revision ≤ revision := by
  have wf := Run.wellFormed newest.start wellFormed_empty
  have counted := Run.counted newest.start counted_empty
  obtain ⟨added, grown, -, new⟩ := newest.later.events wf profile
  rw [grown, List.mem_append]
  constructor
  · intro old
    exact ⟨.inl old, newest.upTo _ (revision_mem_of_mem_events old)⟩
  · rintro ⟨old | later, covered⟩
    · exact old
    · have stored : event ∈ log.events profile := by
        rw [grown]
        exact List.mem_append_right _ later
      have beyond := newest.beyond _ (revision_mem_of_mem_events stored) fun old => by
        have := (counted _ old).2
        have := new event later
        omega
      omega

end Moments

section LastEvents

variable {log : SettingsLog} (wf : log.WellFormed) (numbered : log.WellNumbered)
  {profile : String} {first second event : SyncSettingTextEvent}
include numbered

/-- On one key, the later event has the larger stamp. -/
theorem stamp_lt_of_revision_lt (firstMem : first ∈ log.events profile)
    (secondMem : second ∈ log.events profile)
    (before : first.revision.revision < second.revision.revision)
    (sameSlot : first.change.slot = second.change.slot) :
    first.change.stamp < second.change.stamp := by
  obtain ⟨i, iLt, rfl⟩ := List.mem_iff_getElem.mp firstMem
  obtain ⟨j, jLt, rfl⟩ := List.mem_iff_getElem.mp secondMem
  have ordered := List.pairwise_iff_getElem.mp (numbered.ordered profile)
  have stamps := List.pairwise_iff_getElem.mp (numbered.stamps profile)
  rcases lt_trichotomy i j with earlier | same | later
  · exact stamps i j iLt jLt earlier sameSlot
  · subst same
    exact absurd before (lt_irrefl _)
  · exact absurd (ordered j i jLt iLt later) (not_lt.mpr (le_of_lt before))

theorem event_eq_of_revision_eq (firstMem : first ∈ log.events profile)
    (secondMem : second ∈ log.events profile)
    (same : first.revision.revision = second.revision.revision) : first = second := by
  obtain ⟨i, iLt, rfl⟩ := List.mem_iff_getElem.mp firstMem
  obtain ⟨j, jLt, rfl⟩ := List.mem_iff_getElem.mp secondMem
  have ordered := List.pairwise_iff_getElem.mp (numbered.ordered profile)
  rcases lt_trichotomy i j with earlier | rfl | later
  · exact absurd same (ne_of_lt (ordered i j iLt jLt earlier))
  · rfl
  · exact absurd same.symm (ne_of_lt (ordered j i jLt iLt later))

/-- A change is recorded with one revision. -/
theorem event_eq_of_change_eq (firstMem : first ∈ log.events profile)
    (secondMem : second ∈ log.events profile) (same : first.change = second.change) :
    first = second := by
  apply event_eq_of_revision_eq numbered firstMem secondMem
  by_contra different
  rcases lt_or_gt_of_ne different with before | after
  · have above := stamp_lt_of_revision_lt numbered firstMem secondMem before
      (congrArg SyncChangeRecord.slot same)
    rw [same] at above
    exact lt_irrefl _ above
  · have above := stamp_lt_of_revision_lt numbered secondMem firstMem after
      (congrArg SyncChangeRecord.slot same.symm)
    rw [same] at above
    exact lt_irrefl _ above

include wf

/-- The winner of a key is the change of the last event on it. -/
theorem winner_eq_some_iff_last {slot : String × String × String} {winner : SyncChangeRecord} :
    log.winner slot = some winner ↔
      ∃ event ∈ log.events slot.1, event.change = winner ∧ winner.slot = slot ∧
        ∀ other ∈ log.events slot.1, other.change.slot = slot →
          other.revision.revision ≤ event.revision.revision := by
  constructor
  · intro found
    obtain ⟨membership, onSlot, isApplied⟩ := winner_mem found
    obtain ⟨event, eventMem, rfl⟩ := numbered.complete winner membership isApplied
    have ofProfile : event.change.profile = slot.1 := congrArg Prod.fst onSlot
    rw [ofProfile] at eventMem
    refine ⟨event, eventMem, rfl, onSlot, ?_⟩
    intro other otherMem otherSlot
    by_contra later
    have above := stamp_lt_of_revision_lt numbered eventMem otherMem (not_le.mp later)
      (onSlot.trans otherSlot.symm)
    obtain ⟨bound, boundFound, le⟩ := wf.bounded _ (numbered.recorded _ other otherMem).1
    rw [otherSlot, found] at boundFound
    rw [← Option.some.inj boundFound] at le
    exact absurd above (not_lt.mpr le)
  · rintro ⟨event, eventMem, rfl, onSlot, isLast⟩
    obtain ⟨winner, found, le⟩ := wf.bounded _ (numbered.recorded _ event eventMem).1
    rw [onSlot] at found
    obtain ⟨membership, winnerSlot, isApplied⟩ := winner_mem found
    obtain ⟨last, lastMem, rfl⟩ := numbered.complete winner membership isApplied
    have ofProfile : last.change.profile = slot.1 := congrArg Prod.fst winnerSlot
    rw [ofProfile] at lastMem
    rcases lt_or_eq_of_le (isLast last lastMem winnerSlot) with earlier | same
    · have above := stamp_lt_of_revision_lt numbered lastMem eventMem earlier
        (winnerSlot.trans onSlot.symm)
      exact absurd above (not_lt.mpr le)
    · rw [found, event_eq_of_revision_eq numbered lastMem eventMem same]

end LastEvents

end SettingsLog

namespace SlateProfileDatabase

variable {codec : SyncPayloadCodec} {db : SlateProfileDatabase} {profile : String}
  {coversRevision : Int} {includedDomains : List String}

section Reach

/-- The revision a payload reaches: the one it is asked for, but not beyond the last event
that the event query returns. -/
def payloadRevision (profile : String) (coversRevision : Int) (db : SlateProfileDatabase) : Int :=
  match (db.settingsEvents profile)[u32Max - 1]? with
  | none => coversRevision
  | some event => min coversRevision event.revision.revision

/-- In a list ordered by revision, the events taken are those up to the revision. -/
theorem mem_takeWhile_iff {events : List SyncSettingTextEvent}
    (ordered : events.Pairwise fun first second =>
      first.revision.revision < second.revision.revision) {event : SyncSettingTextEvent} :
    event ∈ events.takeWhile (fun event => decide (event.revision.revision ≤ coversRevision)) ↔
      event ∈ events ∧ event.revision.revision ≤ coversRevision := by
  induction events with
  | nil => simp
  | cons first others inductionHypothesis =>
      obtain ⟨before, orderedOthers⟩ := List.pairwise_cons.mp ordered
      by_cases covered : first.revision.revision ≤ coversRevision
      · rw [List.takeWhile_cons_of_pos (by simpa using covered), List.mem_cons,
          inductionHypothesis orderedOthers, List.mem_cons]
        constructor
        · rintro (rfl | ⟨membership, le⟩)
          · exact ⟨.inl rfl, covered⟩
          · exact ⟨.inr membership, le⟩
        · rintro ⟨rfl | membership, le⟩
          · exact .inl rfl
          · exact .inr ⟨membership, le⟩
      · rw [List.takeWhile_cons_of_neg (by simpa using covered)]
        constructor
        · intro membership
          cases membership
        · rintro ⟨membership, le⟩
          rcases List.mem_cons.mp membership with rfl | inOthers
          · exact absurd le covered
          · have := before event inOthers
            omega

/-- In a list ordered by revision, the first so many events are those up to the last one. -/
theorem mem_take_iff {events : List SyncSettingTextEvent}
    (ordered : events.Pairwise fun first second =>
      first.revision.revision < second.revision.revision) {limit : Nat} (positive : 0 < limit)
    {event : SyncSettingTextEvent} :
    event ∈ events.take limit ↔ event ∈ events ∧
      ∀ last ∈ events[limit - 1]?, event.revision.revision ≤ last.revision.revision := by
  rw [List.pairwise_iff_getElem] at ordered
  constructor
  · intro membership
    obtain ⟨i, iLt, rfl⟩ := List.mem_iff_getElem.mp membership
    rw [List.length_take] at iLt
    rw [List.getElem_take]
    refine ⟨List.getElem_mem _, ?_⟩
    intro last isLast
    obtain ⟨lastLt, rfl⟩ := List.getElem?_eq_some_iff.mp isLast
    rcases Nat.lt_or_ge i (limit - 1) with earlier | same
    · exact le_of_lt (ordered i (limit - 1) (by omega) lastLt earlier)
    · have : i = limit - 1 := by omega
      subst this
      exact le_refl _
  · rintro ⟨membership, bounded⟩
    obtain ⟨i, iLt, rfl⟩ := List.mem_iff_getElem.mp membership
    rcases Nat.lt_or_ge i limit with inside | outside
    · rw [List.mem_take_iff_getElem]
      exact ⟨i, by omega, rfl⟩
    · have lastLt : limit - 1 < events.length := by omega
      have le := bounded _ (List.getElem?_eq_getElem lastLt)
      exact absurd (ordered (limit - 1) i lastLt iLt (by omega)) (not_lt.mpr le)

theorem le_payloadRevision_iff {revision : Int} :
    revision ≤ db.payloadRevision profile coversRevision ↔ revision ≤ coversRevision ∧
      ∀ last ∈ (db.settingsEvents profile)[u32Max - 1]?,
        revision ≤ last.revision.revision := by
  unfold payloadRevision
  cases (db.settingsEvents profile)[u32Max - 1]? with
  | none => simp
  | some last => simp

theorem mem_snapshotEvents_iff (numbered : db.log.WellNumbered) {event : SyncSettingTextEvent} :
    event ∈ db.snapshotEvents profile coversRevision includedDomains ↔
      event ∈ db.log.events profile ∧
        event.revision.revision ≤ db.payloadRevision profile coversRevision ∧
        event.change.domain ∈ normalizedSnapshotDomains includedDomains := by
  have all : (db.settingsEvents profile).filter (fun event =>
      decide (0 < event.revision.revision)) = db.log.events profile := by
    apply List.filter_eq_self.mpr
    intro event membership
    exact decide_eq_true (numbered.numbered profile event membership).1
  have ordered := numbered.ordered profile
  rw [snapshotEvents, List.mem_filter, syncSettingTextEventsAfter, all,
    mem_takeWhile_iff (ordered.sublist (List.take_sublist _ _)),
    mem_take_iff ordered (by decide), le_payloadRevision_iff, List.contains_iff_mem]
  constructor
  · rintro ⟨⟨⟨membership, reached⟩, covered⟩, included⟩
    exact ⟨membership, ⟨covered, reached⟩, included⟩
  · rintro ⟨membership, ⟨covered, reached⟩, included⟩
    exact ⟨⟨⟨membership, reached⟩, covered⟩, included⟩

end Reach

section State

/-- The values of a snapshot are those a log holds for the keys of the listed domains. -/
structure HoldsState (profile : String) (includedDomains : List String) (past : SettingsLog)
    (snapshot : ProfileSyncSettingsSnapshot) : Prop where
  domains : snapshot.includedDomains = normalizedSnapshotDomains includedDomains
  uniqueKeys : Rows.UniqueKeys (fun value : ProfileSyncSettingsSnapshotValue =>
    (value.domain, value.key)) snapshot.values
  values : ∀ domain key value valueKind,
    (∃ revision, ⟨domain, key, value, valueKind, revision⟩ ∈ snapshot.values) ↔
      domain ∈ normalizedSnapshotDomains includedDomains ∧
        past.value (profile, domain, key) = some (value, valueKind)

theorem mem_payload_values_iff (numbered : db.log.WellNumbered) (now : Int)
    {value : ProfileSyncSettingsSnapshotValue} :
    value ∈ (db.settingsSyncSnapshotPayload profile coversRevision includedDomains now).values ↔
      ∃ event, IsLastEvent (db.snapshotEvents profile coversRevision includedDomains) event ∧
        value = snapshotValue event := by
  rw [← mem_foldl_insertSnapshotValue (ordered_snapshotEvents numbered)]
  exact List.mem_insertionSort _

theorem uniqueKeys_payload (now : Int) :
    Rows.UniqueKeys (fun value : ProfileSyncSettingsSnapshotValue => (value.domain, value.key))
      (db.settingsSyncSnapshotPayload profile coversRevision includedDomains now).values := by
  have folded := uniqueKeys_foldl_insertSnapshotValue
    (db.snapshotEvents profile coversRevision includedDomains)
  have sorted := List.perm_insertionSort
    (fun left right : ProfileSyncSettingsSnapshotValue =>
      toLex (left.domain, left.key) ≤ toLex (right.domain, right.key))
    ((db.snapshotEvents profile coversRevision includedDomains).foldl insertSnapshotValue [])
  exact (sorted.map _).nodup_iff.mpr folded

/-- The last event of a key up to the moment is what the key holds then. -/
theorem isLastEvent_snapshotEvents_iff {past : SettingsLog} (numbered : db.log.WellNumbered)
    (newest : SettingsLog.NewestAt (db.payloadRevision profile coversRevision) past db.log)
    {event : SyncSettingTextEvent} :
    IsLastEvent (db.snapshotEvents profile coversRevision includedDomains) event ↔
      event.change.domain ∈ normalizedSnapshotDomains includedDomains ∧
        event ∈ past.events profile ∧
          past.winner (profile, event.change.domain, event.change.entityKey) =
            some event.change := by
  have wf := SettingsLog.Run.wellFormed newest.start SettingsLog.wellFormed_empty
  have pastNumbered := SettingsLog.Run.wellNumbered newest.start SettingsLog.wellFormed_empty
    SettingsLog.wellNumbered_empty
  have covered : ∀ other, other ∈ db.snapshotEvents profile coversRevision includedDomains ↔
      other ∈ past.events profile ∧
        other.change.domain ∈ normalizedSnapshotDomains includedDomains := by
    intro other
    rw [mem_snapshotEvents_iff numbered, newest.mem_events_iff, and_assoc]
  have slot : ∀ other ∈ past.events profile, other.change.slot =
      (profile, other.change.domain, other.change.entityKey) := by
    intro other membership
    rw [SyncChangeRecord.slot, (pastNumbered.recorded profile other membership).2.2]
  rw [SettingsLog.winner_eq_some_iff_last wf pastNumbered]
  constructor
  · rintro ⟨membership, isLast⟩
    obtain ⟨held, included⟩ := (covered event).mp membership
    refine ⟨included, held, event, held, rfl, slot event held, ?_⟩
    intro other otherHeld sameSlot
    rw [slot other otherHeld] at sameSlot
    obtain ⟨domain, key⟩ := Prod.mk.inj (Prod.mk.inj sameSlot).2
    exact isLast other ((covered other).mpr ⟨otherHeld, domain ▸ included⟩) domain key
  · rintro ⟨included, held, last, lastHeld, sameChange, -, isLast⟩
    refine ⟨(covered event).mpr ⟨held, included⟩, ?_⟩
    intro other membership domain key
    obtain ⟨otherHeld, -⟩ := (covered other).mp membership
    rw [← SettingsLog.event_eq_of_change_eq pastNumbered lastHeld held sameChange]
    apply isLast other otherHeld
    rw [slot other otherHeld, domain, key]

/-- A payload holds the state of the moment it reaches. -/
theorem holdsState_payload {past : SettingsLog} (numbered : db.log.WellNumbered)
    (newest : SettingsLog.NewestAt (db.payloadRevision profile coversRevision) past db.log)
    (now : Int) :
    HoldsState profile includedDomains past
      (db.settingsSyncSnapshotPayload profile coversRevision includedDomains now) where
  domains := rfl
  uniqueKeys := uniqueKeys_payload now
  values domain key value valueKind := by
    have wf := SettingsLog.Run.wellFormed newest.start SettingsLog.wellFormed_empty
    have pastNumbered := SettingsLog.Run.wellNumbered newest.start SettingsLog.wellFormed_empty
      SettingsLog.wellNumbered_empty
    rw [wf.stored]
    constructor
    · rintro ⟨revision, membership⟩
      obtain ⟨event, isLast, same⟩ := (mem_payload_values_iff numbered now).mp membership
      obtain ⟨rfl, rfl, rfl, rfl, rfl⟩ := ProfileSyncSettingsSnapshotValue.mk.inj same
      obtain ⟨included, -, winner⟩ := (isLastEvent_snapshotEvents_iff numbered newest).mp isLast
      exact ⟨included, by rw [winner]; rfl⟩
    · rintro ⟨included, held⟩
      obtain ⟨winner, found, same⟩ := Option.map_eq_some_iff.mp held
      obtain ⟨rfl, rfl⟩ := Prod.mk.inj same
      obtain ⟨event, eventHeld, rfl, onSlot, -⟩ :=
        (SettingsLog.winner_eq_some_iff_last wf pastNumbered).mp found
      obtain ⟨ofDomain, ofKey⟩ := Prod.mk.inj (Prod.mk.inj onSlot).2
      have ofDomain : event.change.domain = domain := ofDomain
      have ofKey : event.change.entityKey = key := ofKey
      subst ofDomain ofKey
      refine ⟨event.revision.revision, (mem_payload_values_iff numbered now).mpr
        ⟨event, (isLastEvent_snapshotEvents_iff numbered newest).mpr
          ⟨included, eventHeld, found⟩, rfl⟩⟩

/-- The log of a reachable database is what a run from the empty log leads to. -/
theorem Reachable.log_run (reachable : Reachable codec db) :
    SettingsLog.Run { changes := [], revisions := [], values := [] } db.log := by
  obtain ⟨_, path⟩ := reachable
  induction path with
  | refl => exact .refl
  | tail _ operation inductionHypothesis => exact inductionHypothesis.trans operation.run

/-- A snapshot payload is the state at the moment its revision was the newest one. A profile
with more events than the event query returns is taken at the last event returned. -/
theorem settingsSyncSnapshotPayload_holds_state (reachable : Reachable codec db)
    (profile : String) (coversRevision : Int) (includedDomains : List String) (now : Int) :
    (∃ past, SettingsLog.NewestAt (db.payloadRevision profile coversRevision) past db.log) ∧
    ∀ past, SettingsLog.NewestAt (db.payloadRevision profile coversRevision) past db.log →
      HoldsState profile includedDomains past
        (db.settingsSyncSnapshotPayload profile coversRevision includedDomains now) := by
  constructor
  · exact SettingsLog.exists_newestAt _ (Reachable.log_run reachable)
  · intro past newest
    exact holdsState_payload reachable.wellNumbered newest now

/-- The laptop's theme is in the payload of its first revision. -/
theorem settingsSyncSnapshotPayload_holds_state_laptop :
    (∃ past, SettingsLog.NewestAt ((withTheme "laptop" "dark").payloadRevision "default" 1) past
      (withTheme "laptop" "dark").log) ∧
    ∀ past, SettingsLog.NewestAt ((withTheme "laptop" "dark").payloadRevision "default" 1) past
        (withTheme "laptop" "dark").log →
      HoldsState "default" ["settings"] past
        ((withTheme "laptop" "dark").settingsSyncSnapshotPayload "default" 1 ["settings"] 20) :=
  @settingsSyncSnapshotPayload_holds_state plainTextCodec _
    (reachable_withTheme "laptop" "dark") "default" 1 ["settings"] 20

end State

section LongHistory

/-- The n-th change of the phone's theme. -/
def themeChange (index : Nat) : IncomingSyncSettingText :=
  { profile := "default", domain := "settings", key := "theme", value := "dark"
    deviceId := "phone", deviceSequence := (index : Int) + 1, logicalClock := (index : Int) + 1 }

/-- The change of another key that comes after so many changes of the theme. -/
def languageChange (index : Nat) : IncomingSyncSettingText :=
  { themeChange index with key := "language", value := "en" }

/-- Every recorded change is older than the next one. -/
def OlderThan (index : Nat) (db : SlateProfileDatabase) : Prop :=
  ∀ change ∈ db.log.changes, change.logicalClock ≤ index ∧ change.deviceSequence ≤ index

theorem takesEffect_of_olderThan {index : Nat} (older : db.OlderThan index)
    {change : IncomingSyncSettingText} (clock : change.logicalClock = (index : Int) + 1)
    (sequence : change.deviceSequence = (index : Int) + 1) : db.TakesEffect change := by
  constructor
  · intro recorded membership sameKey
    have same : recorded.deviceSequence = change.deviceSequence :=
      (Prod.mk.inj (Prod.mk.inj sameKey).2).2
    have := (older recorded membership).2
    omega
  · intro winner found
    apply ChangeStamp.lt_of_clock_lt
    have := (older winner (SettingsLog.winner_mem found).1).1
    change winner.logicalClock < change.logicalClock
    omega

/-- Delivering the next change of the phone extends the history. -/
theorem exists_next {index : Nat} (reachable : Reachable plainTextCodec db)
    (older : db.OlderThan index) {change : IncomingSyncSettingText}
    (ofDomain : change.domain = "settings")
    (clock : change.logicalClock = (index : Int) + 1)
    (sequence : change.deviceSequence = (index : Int) + 1) :
    ∃ next, Reachable plainTextCodec next ∧ next.OlderThan (index + 1) ∧
      next.log = db.log.appendApplied change 10 := by
  have effective := takesEffect_of_olderThan older clock sequence
  obtain ⟨record, next, delivery⟩ := @applySyncSettingText_succeeds plainTextCodec change db
    (fun _ => wellFormedValue_of_settings _ ofDomain) 10
  have log : next.log = db.log.appendApplied change 10 := by
    rcases applySyncSettingTextInTransaction_cases (databaseError_eq_ok_iff.mp delivery) with
      ⟨membership, sameKey, -⟩ | ⟨-, -, viewed, view, inserted⟩ | ⟨-, loses, -⟩
    · exact absurd sameKey (effective.1 record membership)
    · rw [show next = _ from congrArg Prod.snd inserted, log_insertChange,
        (sameButViews_applySyncSettingMaterializedView view).log, log_recordSyncDeviceSeen]
    · obtain ⟨winner, found, le⟩ := loses
      exact absurd (effective.2 winner found) (not_lt.mpr le)
  obtain ⟨device, path⟩ := reachable
  refine ⟨next, ⟨device, path.tail (.applySyncSettingText delivery)⟩, ?_, log⟩
  intro recorded membership
  rw [log] at membership
  rcases List.mem_append.mp membership with old | new
  · have := older recorded old
    omega
  · rw [List.mem_singleton.mp new]
    simp only [SettingsLog.newRecord]
    omega

/-- A history of any length about one key. -/
theorem exists_themeHistory (length : Nat) :
    ∃ db, Reachable plainTextCodec db ∧ db.OlderThan length ∧
      (db.log.events "default").length = length ∧
      ∀ event ∈ db.log.events "default", event.change.entityKey = "theme" := by
  induction length with
  | zero =>
      refine ⟨{ localSyncDeviceId := "laptop" }, ⟨"laptop", .refl⟩, ?_, rfl, ?_⟩
      · intro change membership
        cases membership
      · intro event membership
        cases membership
  | succ length inductionHypothesis =>
      obtain ⟨db, reachable, older, counted, aboutTheme⟩ := inductionHypothesis
      obtain ⟨next, nextReachable, nextOlder, log⟩ := @exists_next _ _ reachable older
        (themeChange length) rfl rfl rfl
      have grown := SettingsLog.events_appendApplied (Reachable.wellFormed reachable)
        (themeChange length) 10 "default"
      rw [if_pos (show (themeChange length).profile = "default" from rfl)] at grown
      refine ⟨next, nextReachable, nextOlder, ?_, ?_⟩
      · rw [log, grown, List.length_append, counted, List.length_singleton]
      · rw [log, grown]
        exact List.forall_mem_append.mpr ⟨aboutTheme, List.forall_mem_singleton.mpr rfl⟩

/-- A key that is first set after as many events as the query returns is missing from the
payload of the newest revision. -/
theorem payload_misses_late_key :
    ¬ ∀ (codec : SyncPayloadCodec) (db : SlateProfileDatabase), Reachable codec db →
      ∀ (profile : String) (coversRevision : Int) (includedDomains : List String) (now : Int),
        ∀ past, SettingsLog.NewestAt coversRevision past db.log →
          HoldsState profile includedDomains past
            (db.settingsSyncSnapshotPayload profile coversRevision includedDomains now) := by
  intro always
  obtain ⟨db, reachable, older, counted, aboutTheme⟩ := exists_themeHistory u32Max
  obtain ⟨next, nextReachable, -, log⟩ := @exists_next _ _ reachable older
    (languageChange u32Max) rfl rfl rfl
  have newest : SettingsLog.NewestAt next.log.revisions.length next.log next.log :=
    { start := Reachable.log_run nextReachable
      later := .refl
      upTo := fun row membership => (Reachable.counted nextReachable row membership).2
      beyond := fun row membership absent => absurd membership absent }
  have held := (always plainTextCodec next nextReachable "default" _ ["settings"] 20 _
    newest).values "settings" "language" "en" "text"
  have stored : next.log.value ("default", "settings", "language") = some ("en", "text") := by
    rw [log, SettingsLog.value_appendApplied]
    exact if_pos rfl
  obtain ⟨revision, membership⟩ := held.mpr ⟨by decide, stored⟩
  obtain ⟨event, isLast, same⟩ :=
    (mem_payload_values_iff (Reachable.wellNumbered nextReachable) 20).mp membership
  have grown := SettingsLog.events_appendApplied (Reachable.wellFormed reachable)
    (languageChange u32Max) 10 "default"
  rw [if_pos (show (languageChange u32Max).profile = "default" from rfl), ← log] at grown
  have numbered := Reachable.wellNumbered nextReachable
  obtain ⟨isEvent, covered, -⟩ := (mem_snapshotEvents_iff numbered).mp isLast.1
  have inFirst : event ∈ (next.log.events "default").take u32Max :=
    (mem_take_iff (numbered.ordered "default") (by decide)).mpr
      ⟨isEvent, (le_payloadRevision_iff.mp covered).2⟩
  rw [grown, List.take_left' counted] at inFirst
  have key : "language" = event.change.entityKey :=
    congrArg ProfileSyncSettingsSnapshotValue.key same
  rw [aboutTheme event inFirst] at key
  exact absurd key (by decide)

end LongHistory

end SlateProfileDatabase

end Slate.Storage
