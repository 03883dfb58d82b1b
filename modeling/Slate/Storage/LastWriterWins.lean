import Slate.Storage.Runs

/-!
# Last-writer-wins convergence

The stored value of a key is that of the largest recorded change on it, and the
set of recorded changes after a delivery does not depend on the order or the
repetition of the deliveries. So databases that receive the same changes agree.
-/

namespace Slate.Storage

open Slate.Foundation

namespace SettingsLog

/-- The recorded changes without their bookkeeping columns. -/
def contents (log : SettingsLog) : List IncomingSyncSettingText :=
  log.changes.map SyncChangeRecord.content

/-- The recorded changes on one key. -/
def contentsOn (slot : String × String × String) (log : SettingsLog) :
    List IncomingSyncSettingText :=
  log.contents.filter fun change => decide (change.slot = slot)

theorem mem_contentsOn_iff {log : SettingsLog} {slot : String × String × String}
    {change : IncomingSyncSettingText} :
    change ∈ log.contentsOn slot ↔ change ∈ log.contents ∧ change.slot = slot := by
  simp [contentsOn]

theorem contents_appendApplied (log : SettingsLog) (change : IncomingSyncSettingText)
    (now : Int) : (log.appendApplied change now).contents = log.contents ++ [change] := by
  simp [contents, appendApplied, newRecord, SyncChangeRecord.content]

theorem contents_appendRecorded (log : SettingsLog) (change : IncomingSyncSettingText)
    (now : Int) : (log.appendRecorded change now).contents = log.contents ++ [change] := by
  simp [contents, appendRecorded, newRecord, SyncChangeRecord.content]

theorem fresh_iff_contents {log : SettingsLog} {change : IncomingSyncSettingText} :
    log.Fresh change ↔
      ∀ recorded ∈ log.contents, recorded.sequenceKey ≠ change.sequenceKey := by
  simp [Fresh, contents]

namespace WellFormed

variable {log : SettingsLog} (wf : log.WellFormed)
include wf

theorem eq_of_sequenceKey_eq {first second : SyncChangeRecord}
    (firstMem : first ∈ log.changes) (secondMem : second ∈ log.changes)
    (same : first.sequenceKey = second.sequenceKey) : first = second :=
  List.inj_on_of_nodup_map wf.uniqueSequence firstMem secondMem same

/-- Recorded changes on one key have distinct stamps. -/
theorem distinctStamps (slot : String × String × String) :
    LastWriter.DistinctStamps IncomingSyncSettingText.stamp (log.contentsOn slot) := by
  intro first firstMem second secondMem same
  obtain ⟨firstRecorded, firstSlot⟩ := mem_contentsOn_iff.mp firstMem
  obtain ⟨secondRecorded, secondSlot⟩ := mem_contentsOn_iff.mp secondMem
  obtain ⟨firstRow, firstRowMem, rfl⟩ := List.mem_map.mp firstRecorded
  obtain ⟨secondRow, secondRowMem, rfl⟩ := List.mem_map.mp secondRecorded
  obtain ⟨-, sameDevice, sameSequence⟩ := SyncChangeRecord.stamp_eq_iff.mp same
  have sameProfile : firstRow.profile = secondRow.profile :=
    congrArg Prod.fst (firstSlot.trans secondSlot.symm)
  have sameKey : firstRow.sequenceKey = secondRow.sequenceKey := by
    exact Prod.ext sameProfile (Prod.ext sameDevice sameSequence)
  rw [wf.eq_of_sequenceKey_eq firstRowMem secondRowMem sameKey]

/-- The winner is the last writer among all recorded changes on its key. -/
theorem winner_isLast {slot : String × String × String} {winner : SyncChangeRecord}
    (found : log.winner slot = some winner) :
    LastWriter.IsLast IncomingSyncSettingText.stamp (log.contentsOn slot)
      winner.content := by
  obtain ⟨membership, onSlot, -⟩ := winner_mem found
  refine ⟨mem_contentsOn_iff.mpr ⟨List.mem_map_of_mem membership, onSlot⟩, ?_⟩
  intro other otherMem
  obtain ⟨otherRecorded, otherSlot⟩ := mem_contentsOn_iff.mp otherMem
  obtain ⟨row, rowMem, rfl⟩ := List.mem_map.mp otherRecorded
  obtain ⟨bound, boundFound, le⟩ := wf.bounded row rowMem
  rw [show row.slot = slot from otherSlot, found] at boundFound
  rw [Option.some.inj boundFound]
  exact le

theorem winner_content (slot : String × String × String) :
    (log.winner slot).map SyncChangeRecord.content =
      (log.contentsOn slot).argmax IncomingSyncSettingText.stamp := by
  cases found : log.winner slot with
  | some winner =>
      exact ((LastWriter.argmax_eq_some_iff_isLast (wf.distinctStamps slot)).mpr
        (wf.winner_isLast found)).symm
  | none =>
      refine (List.argmax_eq_none.mpr (List.eq_nil_iff_forall_not_mem.mpr ?_)).symm
      intro change membership
      obtain ⟨recorded, onSlot⟩ := mem_contentsOn_iff.mp membership
      obtain ⟨row, rowMem, rfl⟩ := List.mem_map.mp recorded
      obtain ⟨bound, boundFound, -⟩ := wf.bounded row rowMem
      rw [show row.slot = slot from onSlot, found] at boundFound
      cases boundFound

/-- The stored value is that of the last writer. -/
theorem value_eq (slot : String × String × String) :
    log.value slot =
      ((log.contentsOn slot).argmax IncomingSyncSettingText.stamp).map
        fun change => (change.value, "text") := by
  rw [wf.stored slot, ← wf.winner_content slot, Option.map_map]
  rfl

end WellFormed

/-- Logs with the same recorded changes store the same values. -/
theorem value_eq_of_contents {first second : SettingsLog} (firstWf : first.WellFormed)
    (secondWf : second.WellFormed)
    (same : ∀ change, change ∈ first.contents ↔ change ∈ second.contents)
    (slot : String × String × String) : first.value slot = second.value slot := by
  rw [firstWf.value_eq, secondWf.value_eq,
    LastWriter.argmax_eq_of_mem_iff (firstWf.distinctStamps slot)]
  intro change
  rw [mem_contentsOn_iff, mem_contentsOn_iff, same change]

end SettingsLog

namespace SlateProfileDatabase

variable (codec : SyncPayloadCodec)

/-- The value of a change passes the checks of the table it is projected into. -/
structure WellFormedValue (change : IncomingSyncSettingText) : Prop where
  bookmark : change.domain = syncDomainBookmarks →
    startsWith change.key bookmarkHomeSlotSyncKeyPrefix →
    ∃ payload, decodeBookmarkSlot codec change = .ok payload
  app : ∀ domain, change.domain = (appDomainSpec domain).domain →
    startsWith change.key (appDomainSpec domain).keyPrefix →
    ∃ payload, decodeAppPayload codec domain change = .ok payload

theorem wellFormedValue_of_settings {change : IncomingSyncSettingText}
    (settings : change.domain = syncDomainSettings) : WellFormedValue codec change where
  bookmark bookmarks := absurd (settings.symm.trans bookmarks) (by decide)
  app domain projected := absurd (settings.symm.trans projected) (by cases domain <;> decide)

/-- Apply changes one after another, each at its own time. -/
def deliver (deliveries : List (IncomingSyncSettingText × Int)) :
    SlateProfileDatabase → Except StorageError (List SyncChangeRecord × SlateProfileDatabase) :=
  forEach (fun delivery => applySyncSettingText codec delivery.1 delivery.2) deliveries

/-- The change is new and beats the winner of its key. -/
def TakesEffect (change : IncomingSyncSettingText) (db : SlateProfileDatabase) : Prop :=
  db.log.Fresh change ∧
    ∀ winner, db.log.winner change.slot = some winner → winner.stamp < change.stamp

/-- On an empty database every change takes effect. -/
theorem takesEffect_empty (change : IncomingSyncSettingText) (localSyncDeviceId : String) :
    TakesEffect change { localSyncDeviceId } := by
  simp [TakesEffect, SettingsLog.Fresh, log, SettingsLog.winner, SettingsLog.applied]

/-- The largest recorded change on a key. -/
def IsWinningChange (slot : String × String × String) (db : SlateProfileDatabase)
    (winner : SyncChangeRecord) : Prop :=
  winner ∈ db.settingsChanges ∧ winner.slot = slot ∧
    ∀ other ∈ db.settingsChanges, other.slot = slot → other.stamp ≤ winner.stamp

/-- The winner query finds the largest recorded change. -/
theorem isWinningChange_iff {db : SlateProfileDatabase} (wf : db.log.WellFormed)
    {slot : String × String × String} {winner : SyncChangeRecord} :
    db.IsWinningChange slot winner ↔ db.log.winner slot = some winner := by
  constructor
  · rintro ⟨membership, onSlot, largest⟩
    obtain ⟨bound, found, le⟩ := wf.bounded winner membership
    rw [onSlot] at found
    obtain ⟨boundMem, boundSlot, -⟩ := SettingsLog.winner_mem found
    obtain ⟨-, sameDevice, sameSequence⟩ :=
      SyncChangeRecord.stamp_eq_iff.mp (le_antisymm le (largest bound boundMem boundSlot))
    have sameProfile : winner.profile = bound.profile :=
      congrArg Prod.fst (onSlot.trans boundSlot.symm)
    rw [found, wf.eq_of_sequenceKey_eq membership boundMem
      (Prod.ext sameProfile (Prod.ext sameDevice sameSequence))]
  · intro found
    obtain ⟨membership, onSlot, -⟩ := SettingsLog.winner_mem found
    refine ⟨membership, onSlot, fun other otherMem otherSlot => ?_⟩
    obtain ⟨bound, boundFound, le⟩ := wf.bounded other otherMem
    rw [otherSlot, found] at boundFound
    rw [Option.some.inj boundFound]
    exact le

variable {codec}

section Progress

/-- A payload that was validated can be written. -/
theorem toSql_of_validatePayload {domain : AppDomain} {payload : AppSyncPayload domain}
    (valid : (appDomainSpec domain).validatePayload payload = .ok ()) :
    (appDomainSpec domain).toSql payload = .ok () := by
  cases domain with
  | calendar => rfl
  | chat => rfl
  | contacts => rfl
  | downloads => exact (bind_eq_ok_iff.mp valid).choose_spec.2
  | files =>
      obtain ⟨_, -, valid⟩ := bind_eq_ok_iff.mp valid
      obtain ⟨_, -, valid⟩ := bind_eq_ok_iff.mp valid
      exact (bind_eq_ok_iff.mp valid).choose_spec.2
  | storage =>
      obtain ⟨_, -, valid⟩ := bind_eq_ok_iff.mp valid
      obtain ⟨_, -, valid⟩ := bind_eq_ok_iff.mp valid
      exact (bind_eq_ok_iff.mp valid).choose_spec.1

theorem decodeAppPayload_eq_ok {domain : AppDomain} {change : IncomingSyncSettingText}
    {payload : AppSyncPayload domain}
    (h : decodeAppPayload codec domain change = .ok payload) :
    (codec.app domain).fromText change.value = .ok payload ∧
      (appDomainSpec domain).validatePayload payload = .ok () ∧
      change.key = (appDomainSpec domain).syncKey
        ((appDomainSpec domain).payloadId payload) := by
  simp only [decodeAppPayload] at h
  split at h
  · cases h
  next decoded text =>
    obtain ⟨_, valid, h⟩ := bind_eq_ok_iff.mp h
    split at h
    next key =>
      cases h
      exact ⟨text, valid, key⟩
    next => cases h

theorem applyAppView_succeeds (domain : AppDomain) {change : IncomingSyncSettingText}
    (wellFormed : WellFormedValue codec change) (now : Int) (db : SlateProfileDatabase) :
    ∃ next, db.applyAppView codec domain change now = .ok next := by
  unfold applyAppView
  split
  next projected =>
    obtain ⟨payload, decoded⟩ := wellFormed.app domain projected.1 projected.2
    rw [decoded, ok_bind, applyAppSyncPayload]
    split
    · exact ⟨_, rfl⟩
    · rw [upsertAppRecordInTransaction,
        toSql_of_validatePayload (decodeAppPayload_eq_ok decoded).2.1]
      exact ⟨_, rfl⟩
  next => exact ⟨db, rfl⟩

theorem applySyncSettingMaterializedView_succeeds {change : IncomingSyncSettingText}
    (wellFormed : WellFormedValue codec change) (now : Int) (db : SlateProfileDatabase) :
    ∃ next, db.applySyncSettingMaterializedView codec change now = .ok next := by
  have bookmarks : ∃ next, (db.applySettingsView change now).applyBookmarkView codec change
      now = .ok next := by
    unfold applyBookmarkView
    split
    next projected =>
      obtain ⟨payload, decoded⟩ := wellFormed.bookmark projected.1 projected.2
      rw [decoded]
      exact ⟨_, rfl⟩
    next => exact ⟨_, rfl⟩
  obtain ⟨first, bookmarks⟩ := bookmarks
  obtain ⟨second, calendar⟩ := applyAppView_succeeds .calendar wellFormed now first
  obtain ⟨third, chat⟩ := applyAppView_succeeds .chat wellFormed now second
  obtain ⟨fourth, contacts⟩ := applyAppView_succeeds .contacts wellFormed now third
  obtain ⟨fifth, downloads⟩ := applyAppView_succeeds .downloads wellFormed now fourth
  obtain ⟨sixth, files⟩ := applyAppView_succeeds .files wellFormed now fifth
  obtain ⟨last, storage⟩ := applyAppView_succeeds .storage wellFormed now sixth
  refine ⟨last, ?_⟩
  simp only [applySyncSettingMaterializedView, bookmarks, calendar, chat, contacts, downloads,
    files, storage, ok_bind]

/-- A change is accepted if it is well formed or does not take effect. -/
theorem applySyncSettingText_succeeds {change : IncomingSyncSettingText}
    {db : SlateProfileDatabase}
    (wellFormed : db.TakesEffect change → WellFormedValue codec change) (now : Int) :
    ∃ record next, db.applySyncSettingText codec change now = .ok (record, next) := by
  unfold applySyncSettingText applySyncSettingTextInTransaction
  simp only [syncSettingWinner_eq, log_recordSyncDeviceSeen]
  split
  · exact ⟨_, _, rfl⟩
  next notFound =>
    split
    next wins =>
      have effective : db.TakesEffect change :=
        ⟨Rows.lookup_eq_none_iff.mp notFound, (settingChangeWins_iff _ _).mp wins⟩
      obtain ⟨viewed, view⟩ := applySyncSettingMaterializedView_succeeds
        (wellFormed effective) now (db.recordSyncDeviceSeen change.profile change.deviceId now)
      rw [view]
      exact ⟨_, _, rfl⟩
    next => exact ⟨_, _, rfl⟩

theorem wellFormedValue_of_applySyncSettingMaterializedView {change : IncomingSyncSettingText}
    {now : Int} {db next : SlateProfileDatabase}
    (h : db.applySyncSettingMaterializedView codec change now = .ok next) :
    WellFormedValue codec change := by
  have decodes : ∀ {domain : AppDomain} {before after : SlateProfileDatabase},
      before.applyAppView codec domain change now = .ok after →
      change.domain = (appDomainSpec domain).domain →
      startsWith change.key (appDomainSpec domain).keyPrefix →
      ∃ payload, decodeAppPayload codec domain change = .ok payload := by
    intro domain before after viewed ofDomain ofKey
    rw [applyAppView, if_pos ⟨ofDomain, ofKey⟩] at viewed
    obtain ⟨payload, decoded, -⟩ := bind_eq_ok_iff.mp viewed
    exact ⟨payload, decoded⟩
  obtain ⟨_, bookmarks, h⟩ := bind_eq_ok_iff.mp h
  obtain ⟨_, calendar, h⟩ := bind_eq_ok_iff.mp h
  obtain ⟨_, chat, h⟩ := bind_eq_ok_iff.mp h
  obtain ⟨_, contacts, h⟩ := bind_eq_ok_iff.mp h
  obtain ⟨_, downloads, h⟩ := bind_eq_ok_iff.mp h
  obtain ⟨_, files, storage⟩ := bind_eq_ok_iff.mp h
  refine ⟨fun ofDomain ofKey => ?_, fun domain => ?_⟩
  · rw [applyBookmarkView, if_pos ⟨ofDomain, ofKey⟩] at bookmarks
    obtain ⟨payload, decoded, -⟩ := bind_eq_ok_iff.mp bookmarks
    exact ⟨payload, decoded⟩
  · cases domain with
    | calendar => exact decodes calendar
    | chat => exact decodes chat
    | contacts => exact decodes contacts
    | downloads => exact decodes downloads
    | files => exact decodes files
    | storage => exact decodes storage

/-- A change that took effect was well formed. -/
theorem wellFormedValue_of_applySyncSettingText {change : IncomingSyncSettingText} {now : Int}
    {db next : SlateProfileDatabase} {record : SyncChangeRecord}
    (h : db.applySyncSettingText codec change now = .ok (record, next))
    (effective : db.TakesEffect change) : WellFormedValue codec change := by
  rcases applySyncSettingTextInTransaction_cases (databaseError_eq_ok_iff.mp h) with
    ⟨membership, sameKey, -⟩ | ⟨-, -, viewed, view, -⟩ | ⟨-, ⟨winner, found, loses⟩, -⟩
  · exact absurd sameKey (effective.1 record membership)
  · exact wellFormedValue_of_applySyncSettingMaterializedView view
  · exact absurd (effective.2 winner found) (not_lt.mpr loses)

end Progress

section Delivery

variable {db next : SlateProfileDatabase}

/-- One application records a change exactly when its sequence number is new. -/
theorem contents_applySyncSettingText {change : IncomingSyncSettingText} {now : Int}
    {record : SyncChangeRecord}
    (h : db.applySyncSettingText codec change now = .ok (record, next)) :
    (¬ db.log.Fresh change ∧ next.log.contents = db.log.contents) ∨
      (db.log.Fresh change ∧ next.log.contents = db.log.contents ++ [change]) := by
  rcases applySyncSettingTextInTransaction_cases (databaseError_eq_ok_iff.mp h) with
    ⟨membership, sameKey, rfl⟩ | ⟨fresh, -, viewed, view, inserted⟩ | ⟨fresh, -, inserted⟩
  · exact .inl ⟨fun fresh => fresh record membership sameKey, rfl⟩
  · refine .inr ⟨fresh, ?_⟩
    rw [show next = _ from congrArg Prod.snd inserted, log_insertChange,
      SettingsLog.contents_appendApplied,
      (sameButViews_applySyncSettingMaterializedView view).log, log_recordSyncDeviceSeen]
  · refine .inr ⟨fresh, ?_⟩
    rw [show next = _ from congrArg Prod.snd inserted, log_insertChangeRecord,
      SettingsLog.contents_appendRecorded, log_recordSyncDeviceSeen]

/-- A delivery records the changes whose sequence numbers were new, in any order. -/
theorem mem_contents_deliver {deliveries : List (IncomingSyncSettingText × Int)}
    (distinct : ∀ first ∈ deliveries, ∀ second ∈ deliveries,
      first.1.sequenceKey = second.1.sequenceKey → first.1 = second.1)
    {records : List SyncChangeRecord} (h : deliver codec deliveries db = .ok (records, next))
    (change : IncomingSyncSettingText) :
    change ∈ next.log.contents ↔ change ∈ db.log.contents ∨
      (change ∈ deliveries.map Prod.fst ∧ db.log.Fresh change) := by
  induction deliveries generalizing db records with
  | nil =>
      cases h
      simp
  | cons delivery rest inductionHypothesis =>
      obtain ⟨record, middle, others, first, tail, -⟩ := forEach_cons_eq_ok_iff.mp h
      have restDistinct : ∀ first ∈ rest, ∀ second ∈ rest,
          first.1.sequenceKey = second.1.sequenceKey → first.1 = second.1 :=
        fun a ha b hb => distinct a (by simp [ha]) b (by simp [hb])
      rw [inductionHypothesis restDistinct tail]
      rcases contents_applySyncSettingText first with ⟨stale, same⟩ | ⟨fresh, grown⟩
      · -- A duplicate: the delivered change was not new and is not new now.
        simp only [SettingsLog.fresh_iff_contents, same, List.map_cons, List.mem_cons]
        rw [SettingsLog.fresh_iff_contents] at stale
        constructor
        · rintro (old | ⟨delivered, new⟩)
          · exact .inl old
          · exact .inr ⟨.inr delivered, new⟩
        · rintro (old | ⟨rfl | delivered, new⟩)
          · exact .inl old
          · exact absurd new stale
          · exact .inr ⟨delivered, new⟩
      · simp only [SettingsLog.fresh_iff_contents, grown, List.map_cons, List.mem_cons,
          List.mem_append, List.not_mem_nil, or_false]
        rw [SettingsLog.fresh_iff_contents] at fresh
        constructor
        · rintro ((old | rfl) | ⟨delivered, new⟩)
          · exact .inl old
          · exact .inr ⟨.inl rfl, fresh⟩
          · exact .inr ⟨.inr delivered, fun recorded membership => new recorded (.inl membership)⟩
        · rintro (old | ⟨rfl | delivered, new⟩)
          · exact .inl (.inl old)
          · exact .inl (.inr rfl)
          · by_cases sameKey : delivery.1.sequenceKey = change.sequenceKey
            · obtain ⟨other, otherMem, rfl⟩ := List.mem_map.mp delivered
              exact .inl (.inr (distinct delivery (by simp) other (by simp [otherMem])
                sameKey).symm)
            · refine .inr ⟨delivered, ?_⟩
              rintro recorded (membership | rfl)
              · exact new recorded membership
              · exact sameKey

theorem deliver_run {deliveries : List (IncomingSyncSettingText × Int)}
    {records : List SyncChangeRecord} (h : deliver codec deliveries db = .ok (records, next)) :
    SettingsLog.Run db.log next.log :=
  forEach_invariant (fun state => SettingsLog.Run db.log state.log)
    (fun _ _ _ _ _ stepped reached => reached.trans (applySyncSettingText_run stepped))
    h .refl

theorem deliver_succeeds {deliveries : List (IncomingSyncSettingText × Int)}
    (wellFormed : ∀ delivery ∈ deliveries, WellFormedValue codec delivery.1)
    (db : SlateProfileDatabase) :
    ∃ records next, deliver codec deliveries db = .ok (records, next) := by
  have progress : ∀ delivery ∈ deliveries, ∀ state : SlateProfileDatabase, True →
      ∃ record next, applySyncSettingText codec delivery.1 delivery.2 state =
        .ok (record, next) ∧ True := by
    intro delivery membership state _
    obtain ⟨record, next, applied⟩ := applySyncSettingText_succeeds
      (fun _ : state.TakesEffect delivery.1 => wellFormed delivery membership) delivery.2
    exact ⟨record, next, applied, trivial⟩
  obtain ⟨records, next, run, -⟩ := forEach_succeeds (fun _ => True) progress trivial
  exact ⟨records, next, run⟩

end Delivery

/-- Any two deliveries of the same changes succeed and store the same values: on each
key, the value of the largest change recorded there. -/
theorem deliver_converges {db : SlateProfileDatabase} (reachable : Reachable codec db)
    {changes : List IncomingSyncSettingText}
    (distinct : ∀ first ∈ changes, ∀ second ∈ changes,
      first.sequenceKey = second.sequenceKey → first = second)
    (wellFormed : ∀ change ∈ changes, WellFormedValue codec change)
    {first second : List (IncomingSyncSettingText × Int)}
    (firstDelivers : ∀ change, change ∈ first.map Prod.fst ↔ change ∈ changes)
    (secondDelivers : ∀ change, change ∈ second.map Prod.fst ↔ change ∈ changes) :
    ∃ firstRecords firstFinal secondRecords secondFinal,
      deliver codec first db = .ok (firstRecords, firstFinal) ∧
      deliver codec second db = .ok (secondRecords, secondFinal) ∧
      (∀ profile domain key,
        (firstFinal.getSyncSettingText profile domain key).map
            (fun row => (row.value, row.valueKind)) =
          (secondFinal.getSyncSettingText profile domain key).map
            (fun row => (row.value, row.valueKind))) ∧
      (∀ change, change ∈ firstFinal.log.contents ↔ change ∈ db.log.contents ∨
        (change ∈ changes ∧ db.log.Fresh change)) ∧
      ∀ profile domain key,
        (firstFinal.getSyncSettingText profile domain key = none ∧
          ∀ change ∈ firstFinal.settingsChanges,
            (change.profile, change.domain, change.entityKey) ≠ (profile, domain, key)) ∨
        ∃ largest ∈ firstFinal.settingsChanges,
          (largest.profile, largest.domain, largest.entityKey) = (profile, domain, key) ∧
          (∀ change ∈ firstFinal.settingsChanges,
            (change.profile, change.domain, change.entityKey) = (profile, domain, key) →
            change.stamp ≤ largest.stamp) ∧
          (firstFinal.getSyncSettingText profile domain key).map
            (fun row => (row.value, row.valueKind)) = some (largest.payload, "text") := by
  have distinctKeys : ∀ deliveries : List (IncomingSyncSettingText × Int),
      (∀ change, change ∈ deliveries.map Prod.fst ↔ change ∈ changes) →
      ∀ a ∈ deliveries, ∀ b ∈ deliveries, a.1.sequenceKey = b.1.sequenceKey → a.1 = b.1 := by
    intro deliveries delivers a ha b hb same
    exact distinct a.1 ((delivers _).mp (List.mem_map_of_mem ha)) b.1
      ((delivers _).mp (List.mem_map_of_mem hb)) same
  have accepted : ∀ deliveries : List (IncomingSyncSettingText × Int),
      (∀ change, change ∈ deliveries.map Prod.fst ↔ change ∈ changes) →
      ∀ delivery ∈ deliveries, WellFormedValue codec delivery.1 := fun _ delivers _ membership =>
    wellFormed _ ((delivers _).mp (List.mem_map_of_mem membership))
  obtain ⟨firstRecords, firstFinal, firstRun⟩ := deliver_succeeds (accepted first firstDelivers) db
  obtain ⟨secondRecords, secondFinal, secondRun⟩ :=
    deliver_succeeds (accepted second secondDelivers) db
  have firstWf := (deliver_run firstRun).wellFormed reachable.wellFormed
  have secondWf := (deliver_run secondRun).wellFormed reachable.wellFormed
  have firstContents := mem_contents_deliver (distinctKeys first firstDelivers) firstRun
  have secondContents := mem_contents_deliver (distinctKeys second secondDelivers) secondRun
  refine ⟨firstRecords, firstFinal, secondRecords, secondFinal, firstRun, secondRun, ?_, ?_, ?_⟩
  · intro profile domain key
    rw [getSyncSettingText_eq, getSyncSettingText_eq]
    refine SettingsLog.value_eq_of_contents firstWf secondWf (fun change => ?_) _
    rw [firstContents, secondContents, firstDelivers, secondDelivers]
  · intro change
    rw [firstContents, firstDelivers]
  · intro profile domain key
    cases found : firstFinal.log.winner (profile, domain, key) with
    | none =>
        refine .inl ⟨?_, fun change membership same => ?_⟩
        · have stored := firstWf.stored (profile, domain, key)
          rw [found, ← getSyncSettingText_eq] at stored
          exact Option.map_eq_none_iff.mp stored
        · obtain ⟨winner, bound, -⟩ := firstWf.bounded change membership
          rw [show change.slot = _ from same, found] at bound
          cases bound
    | some winner =>
        obtain ⟨membership, onSlot, -⟩ := SettingsLog.winner_mem found
        refine .inr ⟨winner, membership, onSlot, fun change changeMem same => ?_, ?_⟩
        · obtain ⟨bound, boundFound, le⟩ := firstWf.bounded change changeMem
          rw [show change.slot = _ from same, found] at boundFound
          rw [Option.some.inj boundFound]
          exact le
        · rw [getSyncSettingText_eq, firstWf.stored, found]
          rfl

/-- The serializers where no change carries a typed payload: any text is rejected. -/
def plainTextCodec : SyncPayloadCodec where
  bookmark := { toText := fun _ => "", fromText := fun _ => .error "expected value" }
  app := fun _ => { toText := fun _ => "", fromText := fun _ => .error "expected value" }

/-- Two devices wrote one key; the later clock is stored whichever arrives first. -/
theorem deliver_converges_two_devices :
    ∃ firstRecords firstFinal secondRecords secondFinal,
      deliver plainTextCodec
        [(⟨"default", "settings", "theme", "dark", "laptop", 1, 5⟩, 10),
         (⟨"default", "settings", "theme", "light", "phone", 1, 4⟩, 11)]
        { localSyncDeviceId := "tablet" } = .ok (firstRecords, firstFinal) ∧
      deliver plainTextCodec
        [(⟨"default", "settings", "theme", "light", "phone", 1, 4⟩, 10),
         (⟨"default", "settings", "theme", "dark", "laptop", 1, 5⟩, 11),
         (⟨"default", "settings", "theme", "light", "phone", 1, 4⟩, 12)]
        { localSyncDeviceId := "tablet" } = .ok (secondRecords, secondFinal) ∧
      ∀ profile domain key,
        (firstFinal.getSyncSettingText profile domain key).map
            (fun row => (row.value, row.valueKind)) =
          (secondFinal.getSyncSettingText profile domain key).map
            (fun row => (row.value, row.valueKind)) := by
  obtain ⟨firstRecords, firstFinal, secondRecords, secondFinal, first, second, same, -⟩ :=
    @deliver_converges plainTextCodec { localSyncDeviceId := "tablet" } ⟨"tablet", .refl⟩
      [⟨"default", "settings", "theme", "dark", "laptop", 1, 5⟩,
        ⟨"default", "settings", "theme", "light", "phone", 1, 4⟩]
      (by decide)
      (by
        intro change membership
        refine wellFormedValue_of_settings _ ?_
        revert change
        decide)
      [(⟨"default", "settings", "theme", "dark", "laptop", 1, 5⟩, 10),
        (⟨"default", "settings", "theme", "light", "phone", 1, 4⟩, 11)]
      [(⟨"default", "settings", "theme", "light", "phone", 1, 4⟩, 10),
        (⟨"default", "settings", "theme", "dark", "laptop", 1, 5⟩, 11),
        (⟨"default", "settings", "theme", "light", "phone", 1, 4⟩, 12)]
      (by simp)
      (by
        intro change
        simp only [List.map_cons, List.map_nil, List.mem_cons, List.not_mem_nil, or_false]
        tauto)
  exact ⟨firstRecords, firstFinal, secondRecords, secondFinal, first, second, same⟩

end SlateProfileDatabase

end Slate.Storage
