import Slate.Storage.SettingsLog

/-!
# Operations as runs of the log

Every operation of the database takes the log along a run of log steps, so what
the log steps preserve holds in every reachable database.
-/

namespace Slate.Storage

open Slate.Foundation

namespace SlateProfileDatabase

variable {codec : SyncPayloadCodec}

section Frame

/-- A database with other view tables. -/
structure SameButViews (db next : SlateProfileDatabase) : Prop where
  localSyncDeviceId : next.localSyncDeviceId = db.localSyncDeviceId
  appSyncDomains : next.appSyncDomains = db.appSyncDomains
  syncDevices : next.syncDevices = db.syncDevices
  syncDevicePublicKeys : next.syncDevicePublicKeys = db.syncDevicePublicKeys
  syncContentKeyEpochs : next.syncContentKeyEpochs = db.syncContentKeyEpochs
  settingsSnapshots : next.settingsSnapshots = db.settingsSnapshots
  syncState : next.syncState = db.syncState
  log : next.log = db.log

theorem SameButViews.refl (db : SlateProfileDatabase) : SameButViews db db :=
  ⟨rfl, rfl, rfl, rfl, rfl, rfl, rfl, rfl⟩

theorem SameButViews.trans {first second third : SlateProfileDatabase}
    (h : SameButViews first second) (h' : SameButViews second third) :
    SameButViews first third where
  localSyncDeviceId := h'.localSyncDeviceId.trans h.localSyncDeviceId
  appSyncDomains := h'.appSyncDomains.trans h.appSyncDomains
  syncDevices := h'.syncDevices.trans h.syncDevices
  syncDevicePublicKeys := h'.syncDevicePublicKeys.trans h.syncDevicePublicKeys
  syncContentKeyEpochs := h'.syncContentKeyEpochs.trans h.syncContentKeyEpochs
  settingsSnapshots := h'.settingsSnapshots.trans h.settingsSnapshots
  syncState := h'.syncState.trans h.syncState
  log := h'.log.trans h.log

variable {db next : SlateProfileDatabase} {change : IncomingSyncSettingText} {now : Int}

theorem sameButViews_applySettingsView : SameButViews db (db.applySettingsView change now) := by
  unfold applySettingsView
  split
  · exact ⟨rfl, rfl, rfl, rfl, rfl, rfl, rfl, rfl⟩
  · exact .refl db

theorem sameButViews_applyBookmarkSlotSyncPayload (profile : String)
    (payload : BookmarkSlotSyncPayload) :
    SameButViews db (db.applyBookmarkSlotSyncPayload profile payload now) := by
  unfold applyBookmarkSlotSyncPayload
  split <;> exact ⟨rfl, rfl, rfl, rfl, rfl, rfl, rfl, rfl⟩

theorem sameButViews_applyBookmarkView (h : db.applyBookmarkView codec change now = .ok next) :
    SameButViews db next := by
  unfold applyBookmarkView at h
  split at h
  · obtain ⟨payload, -, h⟩ := bind_eq_ok_iff.mp h
    cases h
    exact sameButViews_applyBookmarkSlotSyncPayload change.profile payload
  · cases h
    exact .refl db

theorem sameButViews_updateAppTable (domain : AppDomain) (table : List (AppRecord domain)) :
    SameButViews db (db.updateAppTable domain table) :=
  ⟨rfl, rfl, rfl, rfl, rfl, rfl, rfl, rfl⟩

theorem sameButViews_upsertAppRecordInTransaction {domain : AppDomain} {profile : String}
    {payload : AppSyncPayload domain}
    (h : db.upsertAppRecordInTransaction domain profile payload now = .ok next) :
    SameButViews db next := by
  obtain ⟨_, -, h⟩ := bind_eq_ok_iff.mp h
  cases h
  exact sameButViews_updateAppTable domain _

theorem sameButViews_applyAppView {domain : AppDomain}
    (h : db.applyAppView codec domain change now = .ok next) : SameButViews db next := by
  unfold applyAppView at h
  split at h
  · obtain ⟨payload, -, h⟩ := bind_eq_ok_iff.mp h
    unfold applyAppSyncPayload at h
    split at h
    · cases h
      exact sameButViews_updateAppTable domain _
    · exact sameButViews_upsertAppRecordInTransaction h
  · cases h
    exact .refl db

/-- Projecting a change touches the view tables only. -/
theorem sameButViews_applySyncSettingMaterializedView
    (h : db.applySyncSettingMaterializedView codec change now = .ok next) :
    SameButViews db next := by
  obtain ⟨_, bookmarks, h⟩ := bind_eq_ok_iff.mp h
  obtain ⟨_, calendar, h⟩ := bind_eq_ok_iff.mp h
  obtain ⟨_, chat, h⟩ := bind_eq_ok_iff.mp h
  obtain ⟨_, contacts, h⟩ := bind_eq_ok_iff.mp h
  obtain ⟨_, downloads, h⟩ := bind_eq_ok_iff.mp h
  obtain ⟨_, files, storage⟩ := bind_eq_ok_iff.mp h
  exact sameButViews_applySettingsView.trans <|
    (sameButViews_applyBookmarkView bookmarks).trans <|
    (sameButViews_applyAppView calendar).trans <|
    (sameButViews_applyAppView chat).trans <|
    (sameButViews_applyAppView contacts).trans <|
    (sameButViews_applyAppView downloads).trans <|
    (sameButViews_applyAppView files).trans (sameButViews_applyAppView storage)

end Frame

section Log

variable {db next : SlateProfileDatabase}

@[simp]
theorem log_recordSyncDeviceSeen (profile deviceId : String) (now : Int) :
    (db.recordSyncDeviceSeen profile deviceId now).log = db.log := rfl

@[simp]
theorem log_insertChange (change : IncomingSyncSettingText) (now : Int) :
    (db.insertChange change now).2.log = db.log.appendApplied change now := rfl

@[simp]
theorem log_insertChangeRecord (change : IncomingSyncSettingText) (now : Int) :
    (db.insertChangeRecord change now none).2.log = db.log.appendRecorded change now := rfl

theorem syncSettingWinner_eq (profile domain key : String) :
    db.syncSettingWinner profile domain key = db.log.winner (profile, domain, key) := by
  have same : db.appliedChanges profile domain key =
      db.log.applied (profile, domain, key) := by
    refine List.filter_congr fun change _ => ?_
    simp [SyncChangeRecord.slot, Bool.and_assoc, Bool.beq_eq_decide_eq]
  rw [syncSettingWinner, SettingsLog.winner, same]

theorem getSyncSettingText_eq (profile domain key : String) :
    (db.getSyncSettingText profile domain key).map (fun row => (row.value, row.valueKind)) =
      db.log.value (profile, domain, key) := rfl

theorem settingChangeWins_iff (change : IncomingSyncSettingText)
    (existing : Option SyncChangeRecord) :
    settingChangeWins change existing = true ↔
      ∀ winner, existing = some winner → winner.stamp < change.stamp := by
  cases existing <;> simp [settingChangeWins]

theorem lt_of_mem_of_nextInteger {column : List Int} {found entry : Int}
    (h : nextInteger column = .ok found) (membership : entry ∈ column) : entry < found := by
  simp only [nextInteger] at h
  split at h
  · cases largest : column.max? with
    | none => simp [List.max?_eq_none_iff.mp largest] at membership
    | some maximum =>
        have le := (List.max?_eq_some_iff.mp largest).2 entry membership
        rw [← Except.ok.inj h, largest, Option.getD_some]
        omega
  · cases h

/-- The change a local write appends. -/
theorem recordSyncSettingText_eq_ok {profile domain key value deviceId : String} {now : Int}
    {record : SyncChangeRecord}
    (h : db.recordSyncSettingText profile domain key value deviceId now =
      .ok (record, next)) :
    ∃ deviceSequence logicalClock,
      (∀ change ∈ db.settingsChanges, change.profile = profile →
        change.deviceId = deviceId → change.deviceSequence < deviceSequence) ∧
      (∀ change ∈ db.settingsChanges, change.profile = profile →
        change.logicalClock < logicalClock) ∧
      (record, next) = db.insertChange
        { profile, domain, key, value, deviceId, deviceSequence, logicalClock } now := by
  obtain ⟨deviceSequence, sequenceFound, h⟩ := bind_eq_ok_iff.mp h
  obtain ⟨logicalClock, clockFound, h⟩ := bind_eq_ok_iff.mp h
  refine ⟨deviceSequence, logicalClock, ?_, ?_, (Except.ok.inj h).symm⟩
  · intro change membership sameProfile sameDevice
    exact lt_of_mem_of_nextInteger sequenceFound
      (List.mem_map.mpr ⟨change, by simp [membership, sameProfile, sameDevice], rfl⟩)
  · intro change membership sameProfile
    exact lt_of_mem_of_nextInteger clockFound
      (List.mem_map.mpr ⟨change, by simp [membership, sameProfile], rfl⟩)

/-- A local write is an applied step of the log. -/
theorem recordSyncSettingText_step {profile domain key value deviceId : String} {now : Int}
    {record : SyncChangeRecord}
    (h : db.recordSyncSettingText profile domain key value deviceId now =
      .ok (record, next)) : SettingsLog.Step db.log next.log := by
  obtain ⟨deviceSequence, logicalClock, sequences, clocks, inserted⟩ :=
    recordSyncSettingText_eq_ok h
  rw [show next = _ from congrArg Prod.snd inserted, log_insertChange]
  refine .applied _ _ _ (fun recorded membership same => ?_) (fun winner found => ?_)
  · obtain ⟨sameProfile, sameDevice, sameSequence⟩ : recorded.profile = profile ∧
        recorded.deviceId = deviceId ∧ recorded.deviceSequence = deviceSequence := by
      simpa [SyncChangeRecord.sequenceKey, IncomingSyncSettingText.sequenceKey] using same
    exact absurd sameSequence (ne_of_lt (sequences recorded membership sameProfile sameDevice))
  · obtain ⟨membership, onSlot, -⟩ := SettingsLog.winner_mem found
    have sameProfile : winner.profile = profile := congrArg Prod.fst onSlot
    exact ChangeStamp.lt_of_clock_lt (clocks winner membership sameProfile)

/-- The outcomes of applying a change: a duplicate, a new winner, a loser. -/
theorem applySyncSettingTextInTransaction_cases {change : IncomingSyncSettingText} {now : Int}
    {record : SyncChangeRecord}
    (h : db.applySyncSettingTextInTransaction codec change now = .ok (record, next)) :
    (record ∈ db.settingsChanges ∧ record.sequenceKey = change.sequenceKey ∧
        next = db.recordSyncDeviceSeen change.profile change.deviceId now) ∨
    (db.log.Fresh change ∧
        (∀ winner, db.log.winner change.slot = some winner →
          winner.stamp < change.stamp) ∧
        ∃ viewed, (db.recordSyncDeviceSeen change.profile change.deviceId now
            ).applySyncSettingMaterializedView codec change now = .ok viewed ∧
          (record, next) = viewed.insertChange change now) ∨
    (db.log.Fresh change ∧
        (∃ winner, db.log.winner change.slot = some winner ∧
          change.stamp ≤ winner.stamp) ∧
        (record, next) = (db.recordSyncDeviceSeen change.profile change.deviceId now
          ).insertChangeRecord change now none) := by
  unfold applySyncSettingTextInTransaction at h
  simp only [syncSettingWinner_eq, log_recordSyncDeviceSeen] at h
  split at h
  next existing found =>
    cases h
    obtain ⟨membership, sameKey⟩ := Rows.mem_of_lookup found
    exact .inl ⟨membership, sameKey, rfl⟩
  next notFound =>
    have fresh : db.log.Fresh change := Rows.lookup_eq_none_iff.mp notFound
    split at h
    next wins =>
      obtain ⟨viewed, view, h⟩ := bind_eq_ok_iff.mp h
      refine .inr (.inl ⟨fresh, (settingChangeWins_iff _ _).mp wins, viewed, view, ?_⟩)
      exact (Except.ok.inj h).symm
    next loses =>
      rw [settingChangeWins_iff] at loses
      push Not at loses
      exact .inr (.inr ⟨fresh, loses, (Except.ok.inj h).symm⟩)

/-- Applying a change is a run of at most one log step. -/
theorem applySyncSettingText_run {change : IncomingSyncSettingText} {now : Int}
    {record : SyncChangeRecord}
    (h : db.applySyncSettingText codec change now = .ok (record, next)) :
    SettingsLog.Run db.log next.log := by
  rw [applySyncSettingText, databaseError_eq_ok_iff] at h
  rcases applySyncSettingTextInTransaction_cases h with
    ⟨-, -, rfl⟩ | ⟨fresh, wins, viewed, view, inserted⟩ | ⟨fresh, loses, inserted⟩
  · exact .refl
  · rw [show next = _ from congrArg Prod.snd inserted, log_insertChange,
      (sameButViews_applySyncSettingMaterializedView view).log, log_recordSyncDeviceSeen]
    exact .single (.applied _ _ _ fresh wins)
  · obtain ⟨winner, found, le⟩ := loses
    rw [show next = _ from congrArg Prod.snd inserted, log_insertChangeRecord,
      log_recordSyncDeviceSeen]
    exact .single (.recorded _ _ _ winner fresh found le)

theorem applySettingsSnapshot_run {snapshot : ProfileSyncSettingsSnapshot} {now : Int}
    {records : List SyncChangeRecord}
    (h : db.applySettingsSnapshot codec snapshot now = .ok (records, next)) :
    SettingsLog.Run db.log next.log := by
  unfold applySettingsSnapshot at h
  split at h
  · cases h
  · exact forEach_invariant (fun state => SettingsLog.Run db.log state.log)
      (fun _ _ _ _ _ stepped reached => reached.trans (applySyncSettingText_run stepped))
      h .refl

theorem applyManifestSnapshot_run {manifest : ProfileSyncManifest}
    {snapshot : Option VerifiedProfileSyncSettingsSnapshot} {now : Int}
    {records : List SyncChangeRecord}
    (h : db.applyManifestSnapshot codec manifest snapshot now = .ok (records, next)) :
    SettingsLog.Run db.log next.log := by
  cases snapshot with
  | none =>
      cases h
      exact .refl
  | some verified =>
      obtain ⟨⟨changes, applied⟩, snapshotApplied, h⟩ := bind_eq_ok_iff.mp h
      obtain ⟨rfl, rfl⟩ := ok_pair_inj h
      have applied := applySettingsSnapshot_run snapshotApplied
      exact applied

theorem setProfileSyncRoot_eq_ok {profile rootId objectId : String} {now : Int}
    (h : db.setProfileSyncRoot profile rootId objectId now = .ok ((), next)) :
    rootId ≠ "" ∧
      next = { db with
        syncState :=
          Rows.upsert stateKey
            (fun existing excluded =>
              { existing with value := excluded.value, updatedAt := excluded.updatedAt })
            { profile, key := profileSyncRootKey rootId, value := objectId
              updatedAt := now }
            db.syncState } := by
  unfold setProfileSyncRoot at h
  split at h
  · cases h
  next nonempty =>
    cases h
    exact ⟨nonempty, rfl⟩

/-- The stages of a manifest application. -/
theorem applyVerifiedSettingsManifest_eq_ok
    {objects : VerifiedProfileSyncSettingsManifestObjects} {now : Int}
    {application : ProfileSyncSettingsManifestApplication}
    (h : db.applyVerifiedSettingsManifest codec objects now = .ok (application, next)) :
    validateSettingsManifestApplication objects.manifest objects.snapshot
        objects.tailChanges = .ok () ∧
      ∃ snapshotRecords afterSnapshot tailRecords afterTail,
        db.applyManifestSnapshot codec objects.manifest objects.snapshot now =
          .ok (snapshotRecords, afterSnapshot) ∧
        forEach (fun change => applySyncSettingText codec change now)
          (objects.tailChanges.map (·.change)) afterSnapshot =
            .ok (tailRecords, afterTail) ∧
        afterTail.setProfileSyncRoot objects.manifest.profile objects.manifest.rootId
          objects.manifestObjectId now = .ok ((), next) := by
  obtain ⟨_, valid, h⟩ := bind_eq_ok_iff.mp h
  obtain ⟨⟨snapshotRecords, afterSnapshot⟩, snapshotApplied, h⟩ := bind_eq_ok_iff.mp h
  obtain ⟨⟨tailRecords, afterTail⟩, tailApplied, h⟩ := bind_eq_ok_iff.mp h
  obtain ⟨⟨_, final⟩, rootSet, h⟩ := bind_eq_ok_iff.mp h
  cases h
  exact ⟨valid, snapshotRecords, afterSnapshot, tailRecords, afterTail, snapshotApplied,
    tailApplied, rootSet⟩

/-- A manifest whose stages succeed is applied. -/
theorem applyVerifiedSettingsManifest_of_stages
    {objects : VerifiedProfileSyncSettingsManifestObjects} {now : Int}
    {snapshotRecords tailRecords : List SyncChangeRecord}
    {afterSnapshot afterTail : SlateProfileDatabase}
    (valid : validateSettingsManifestApplication objects.manifest objects.snapshot
      objects.tailChanges = .ok ())
    (snapshotApplied : db.applyManifestSnapshot codec objects.manifest objects.snapshot now =
      .ok (snapshotRecords, afterSnapshot))
    (tailApplied : forEach (fun change => applySyncSettingText codec change now)
      (objects.tailChanges.map (·.change)) afterSnapshot = .ok (tailRecords, afterTail))
    (rootSet : afterTail.setProfileSyncRoot objects.manifest.profile objects.manifest.rootId
      objects.manifestObjectId now = .ok ((), next)) :
    ∃ application, db.applyVerifiedSettingsManifest codec objects now =
      .ok (application, next) := by
  unfold applyVerifiedSettingsManifest
  simp only [valid, snapshotApplied, tailApplied, rootSet, ok_bind]
  exact ⟨_, rfl⟩

theorem applyVerifiedSettingsManifest_run
    {objects : VerifiedProfileSyncSettingsManifestObjects} {now : Int}
    {application : ProfileSyncSettingsManifestApplication}
    (h : db.applyVerifiedSettingsManifest codec objects now = .ok (application, next)) :
    SettingsLog.Run db.log next.log := by
  obtain ⟨-, _, afterSnapshot, _, afterTail, snapshotApplied, tailApplied, rootSet⟩ :=
    applyVerifiedSettingsManifest_eq_ok h
  rw [(setProfileSyncRoot_eq_ok rootSet).2]
  exact (applyManifestSnapshot_run snapshotApplied).trans <|
    forEach_invariant (fun state => SettingsLog.Run afterSnapshot.log state.log)
      (fun _ _ _ _ _ stepped reached => reached.trans (applySyncSettingText_run stepped))
      tailApplied .refl

/-- The stages of a typed upsert: the row is written, then the change. -/
theorem upsertAppRecord_eq_ok {domain : AppDomain} {update : AppUpdate domain} {now : Int}
    {record : AppRecord domain}
    (h : db.upsertAppRecord codec domain update now = .ok (record, next)) :
    (appDomainSpec domain).validateUpdate update = .ok () ∧
      ∃ upserted change,
        db.upsertAppRecordInTransaction domain ((appDomainSpec domain).updateProfile update)
          ((appDomainSpec domain).payloadOf update) now = .ok upserted ∧
        upserted.recordSyncSettingText ((appDomainSpec domain).updateProfile update)
          (appDomainSpec domain).domain
          ((appDomainSpec domain).syncKey ((appDomainSpec domain).updateId update))
          ((codec.app domain).toText ((appDomainSpec domain).payloadOf update))
          upserted.localSyncDeviceId now = .ok (change, next) := by
  obtain ⟨_, valid, h⟩ := bind_eq_ok_iff.mp h
  obtain ⟨upserted, written, h⟩ := bind_eq_ok_iff.mp h
  obtain ⟨⟨change, recorded⟩, logged, h⟩ := bind_eq_ok_iff.mp h
  simp only at h
  refine ⟨valid, upserted, change, databaseError_eq_ok_iff.mp written, ?_⟩
  split at h
  · obtain ⟨rfl, rfl⟩ := ok_pair_inj h
    exact databaseError_eq_ok_iff.mp logged
  · cases h

/-- The stages of a typed removal: only a row that was there leaves a tombstone. -/
theorem removeAppRecord_eq_ok {domain : AppDomain} {profile id : String} {now : Int}
    {removed : Option SyncChangeRecord}
    (h : db.removeAppRecord codec domain profile id now = .ok (removed, next)) :
    (db.appRecordById domain profile id = none ∧
        next = db.updateAppTable domain (Rows.erase (appDomainSpec domain).recordKey
          (profile, id) (db.appTables domain))) ∨
      ∃ record change, db.appRecordById domain profile id = some record ∧
        (db.updateAppTable domain (Rows.erase (appDomainSpec domain).recordKey
          (profile, id) (db.appTables domain))).recordSyncSettingText profile
            (appDomainSpec domain).domain
            ((appDomainSpec domain).syncKey ((appDomainSpec domain).recordId record))
            ((codec.app domain).toText ((appDomainSpec domain).tombstone record))
            db.localSyncDeviceId now = .ok (change, next) := by
  obtain ⟨_, -, h⟩ := bind_eq_ok_iff.mp h
  simp only at h
  split at h
  next notFound =>
    exact .inl ⟨notFound, (ok_pair_inj h).2.symm⟩
  next record found =>
    obtain ⟨⟨change, recorded⟩, logged, h⟩ := bind_eq_ok_iff.mp h
    obtain ⟨rfl, rfl⟩ := ok_pair_inj h
    exact .inr ⟨record, change, found, databaseError_eq_ok_iff.mp logged⟩

theorem upsertAppRecord_step {domain : AppDomain} {update : AppUpdate domain} {now : Int}
    {record : AppRecord domain}
    (h : db.upsertAppRecord codec domain update now = .ok (record, next)) :
    SettingsLog.Step db.log next.log := by
  obtain ⟨-, upserted, change, written, logged⟩ := upsertAppRecord_eq_ok h
  have stepped := recordSyncSettingText_step logged
  rwa [(sameButViews_upsertAppRecordInTransaction written).log] at stepped

theorem removeAppRecord_run {domain : AppDomain} {profile id : String} {now : Int}
    {removed : Option SyncChangeRecord}
    (h : db.removeAppRecord codec domain profile id now = .ok (removed, next)) :
    SettingsLog.Run db.log next.log := by
  rcases removeAppRecord_eq_ok h with ⟨-, rfl⟩ | ⟨record, change, -, logged⟩
  · exact .refl
  · have stepped := recordSyncSettingText_step logged
    exact .single stepped

theorem setSyncSettingText_step {profile domain key value : String} {now : Int}
    {record : SyncChangeRecord}
    (h : db.setSyncSettingText profile domain key value now = .ok (record, next)) :
    SettingsLog.Step db.log next.log := by
  have stepped := recordSyncSettingText_step (databaseError_eq_ok_iff.mp h)
  split at stepped <;> exact stepped

theorem removeBookmark_run {profile url : String} {now : Int}
    {removed : Option SyncChangeRecord}
    (h : db.removeBookmark codec profile url now = .ok (removed, next)) :
    SettingsLog.Run db.log next.log := by
  simp only [removeBookmark] at h
  split at h
  · cases h
    exact .refl
  · obtain ⟨⟨change, recorded⟩, logged, h⟩ := bind_eq_ok_iff.mp h
    obtain ⟨rfl, rfl⟩ := ok_pair_inj h
    have stepped := recordSyncSettingText_step (databaseError_eq_ok_iff.mp logged)
    exact .single stepped

end Log

/-- One successful operation, or any change to the tables outside the log. -/
inductive Operation (codec : SyncPayloadCodec) :
    SlateProfileDatabase → SlateProfileDatabase → Prop where
  | setSettingText {db next : SlateProfileDatabase} {key value : String} {now : Int}
      {record : SyncChangeRecord}
      (h : db.setSettingText key value now = .ok (record, next)) : Operation codec db next
  | setSyncSettingText {db next : SlateProfileDatabase}
      {profile domain key value : String} {now : Int} {record : SyncChangeRecord}
      (h : db.setSyncSettingText profile domain key value now = .ok (record, next)) :
      Operation codec db next
  | setBookmarkSlot {db next : SlateProfileDatabase} {bookmark : BookmarkUpdate}
      {replacedUrl : Option String} {now : Int} {record : SyncChangeRecord}
      (h : db.setBookmarkSlot codec bookmark replacedUrl now = .ok (record, next)) :
      Operation codec db next
  | removeBookmark {db next : SlateProfileDatabase} {profile url : String} {now : Int}
      {removed : Option SyncChangeRecord}
      (h : db.removeBookmark codec profile url now = .ok (removed, next)) :
      Operation codec db next
  | upsertAppRecord {db next : SlateProfileDatabase} {domain : AppDomain}
      {update : AppUpdate domain} {now : Int} {record : AppRecord domain}
      (h : db.upsertAppRecord codec domain update now = .ok (record, next)) :
      Operation codec db next
  | removeAppRecord {db next : SlateProfileDatabase} {domain : AppDomain}
      {profile id : String} {now : Int} {removed : Option SyncChangeRecord}
      (h : db.removeAppRecord codec domain profile id now = .ok (removed, next)) :
      Operation codec db next
  | applySyncSettingText {db next : SlateProfileDatabase}
      {change : IncomingSyncSettingText} {now : Int} {record : SyncChangeRecord}
      (h : db.applySyncSettingText codec change now = .ok (record, next)) :
      Operation codec db next
  | applySettingsSnapshot {db next : SlateProfileDatabase}
      {snapshot : ProfileSyncSettingsSnapshot} {now : Int} {records : List SyncChangeRecord}
      (h : db.applySettingsSnapshot codec snapshot now = .ok (records, next)) :
      Operation codec db next
  | applyVerifiedSettingsManifest {db next : SlateProfileDatabase}
      {objects : VerifiedProfileSyncSettingsManifestObjects} {now : Int}
      {application : ProfileSyncSettingsManifestApplication}
      (h : db.applyVerifiedSettingsManifest codec objects now = .ok (application, next)) :
      Operation codec db next
  | otherTables {db next : SlateProfileDatabase} (h : next.log = db.log) :
      Operation codec db next

/-- The databases that operations lead to from an empty one. -/
def Reachable (codec : SyncPayloadCodec) (db : SlateProfileDatabase) : Prop :=
  ∃ localSyncDeviceId,
    Relation.ReflTransGen (Operation codec) { localSyncDeviceId } db

theorem Operation.run {db next : SlateProfileDatabase} (operation : Operation codec db next) :
    SettingsLog.Run db.log next.log := by
  cases operation with
  | setSettingText h =>
      have stepped := recordSyncSettingText_step (databaseError_eq_ok_iff.mp h)
      exact .single stepped
  | setSyncSettingText h => exact .single (setSyncSettingText_step h)
  | setBookmarkSlot h =>
      have stepped := recordSyncSettingText_step (databaseError_eq_ok_iff.mp h)
      rw [(sameButViews_applyBookmarkSlotSyncPayload _ _).log] at stepped
      exact .single stepped
  | removeBookmark h => exact removeBookmark_run h
  | upsertAppRecord h => exact .single (upsertAppRecord_step h)
  | removeAppRecord h => exact removeAppRecord_run h
  | applySyncSettingText h => exact applySyncSettingText_run h
  | applySettingsSnapshot h => exact applySettingsSnapshot_run h
  | applyVerifiedSettingsManifest h => exact applyVerifiedSettingsManifest_run h
  | otherTables h => rw [h]

/-- The log of every reachable database is well formed. -/
theorem Reachable.wellFormed {db : SlateProfileDatabase} (reachable : Reachable codec db) :
    db.log.WellFormed := by
  obtain ⟨_, path⟩ := reachable
  induction path with
  | refl => exact SettingsLog.wellFormed_empty
  | tail _ operation inductionHypothesis =>
      exact operation.run.wellFormed inductionHypothesis

end SlateProfileDatabase

end Slate.Storage
