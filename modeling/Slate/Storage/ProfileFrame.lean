import Slate.Storage.TypedProjection

/-!
# What an application leaves alone

Applying changes, snapshots and manifests writes rows of one profile only. Keys, devices'
authority, registered domains and content keys are never touched.
-/

namespace Slate.Storage

open Slate.Foundation

namespace SlateProfileDatabase

variable {codec : SyncPayloadCodec} {db next : SlateProfileDatabase} {profile : String} {now : Int}

/-- The tables that decide who is trusted and what is synced. -/
structure SameControl (db next : SlateProfileDatabase) : Prop where
  localSyncDeviceId : next.localSyncDeviceId = db.localSyncDeviceId
  appSyncDomains : next.appSyncDomains = db.appSyncDomains
  syncDevicePublicKeys : next.syncDevicePublicKeys = db.syncDevicePublicKeys
  syncAccountMembershipRecords :
    next.syncAccountMembershipRecords = db.syncAccountMembershipRecords
  syncContentKeyEpochs : next.syncContentKeyEpochs = db.syncContentKeyEpochs

/-- The tables that applying changes writes, except for the rows of one profile. The legacy
settings table has no profile column and belongs to the default profile. -/
structure SameRowsOutside (profile : String) (db next : SlateProfileDatabase) : Prop where
  settings : profile ≠ defaultProfileId → next.settings = db.settings
  bookmarks : next.bookmarks.filter (fun row => row.profile != profile) =
    db.bookmarks.filter fun row => row.profile != profile
  appTables : ∀ domain,
    (next.appTables domain).filter (fun row =>
      ((appDomainSpec domain).recordKey row).1 != profile) =
    (db.appTables domain).filter fun row => ((appDomainSpec domain).recordKey row).1 != profile
  syncDevices : next.syncDevices.filter (fun row => row.profile != profile) =
    db.syncDevices.filter fun row => row.profile != profile
  settingsChanges : next.settingsChanges.filter (fun row => row.profile != profile) =
    db.settingsChanges.filter fun row => row.profile != profile
  settingsRevisions : next.settingsRevisions.filter (fun row => row.profile != profile) =
    db.settingsRevisions.filter fun row => row.profile != profile
  settingsValues : next.settingsValues.filter (fun row => row.profile != profile) =
    db.settingsValues.filter fun row => row.profile != profile
  settingsSnapshots : next.settingsSnapshots.filter (fun row => row.profile != profile) =
    db.settingsSnapshots.filter fun row => row.profile != profile

theorem SameControl.refl (db : SlateProfileDatabase) : SameControl db db :=
  ⟨rfl, rfl, rfl, rfl, rfl⟩

theorem SameControl.trans {first second third : SlateProfileDatabase}
    (before : SameControl first second) (after : SameControl second third) :
    SameControl first third where
  localSyncDeviceId := after.localSyncDeviceId.trans before.localSyncDeviceId
  appSyncDomains := after.appSyncDomains.trans before.appSyncDomains
  syncDevicePublicKeys := after.syncDevicePublicKeys.trans before.syncDevicePublicKeys
  syncAccountMembershipRecords :=
    after.syncAccountMembershipRecords.trans before.syncAccountMembershipRecords
  syncContentKeyEpochs := after.syncContentKeyEpochs.trans before.syncContentKeyEpochs

theorem SameRowsOutside.refl (profile : String) (db : SlateProfileDatabase) :
    SameRowsOutside profile db db :=
  ⟨fun _ => rfl, rfl, fun _ => rfl, rfl, rfl, rfl, rfl, rfl⟩

theorem SameRowsOutside.trans {first second third : SlateProfileDatabase}
    (before : SameRowsOutside profile first second)
    (after : SameRowsOutside profile second third) : SameRowsOutside profile first third where
  settings other := (after.settings other).trans (before.settings other)
  bookmarks := after.bookmarks.trans before.bookmarks
  appTables domain := (after.appTables domain).trans (before.appTables domain)
  syncDevices := after.syncDevices.trans before.syncDevices
  settingsChanges := after.settingsChanges.trans before.settingsChanges
  settingsRevisions := after.settingsRevisions.trans before.settingsRevisions
  settingsValues := after.settingsValues.trans before.settingsValues
  settingsSnapshots := after.settingsSnapshots.trans before.settingsSnapshots

/-- A step that writes rows of one profile and no control table. -/
structure Confined (profile : String) (db next : SlateProfileDatabase) : Prop where
  control : SameControl db next
  rows : SameRowsOutside profile db next
  syncState : next.syncState = db.syncState

theorem Confined.refl (profile : String) (db : SlateProfileDatabase) : Confined profile db db :=
  ⟨.refl db, .refl profile db, rfl⟩

theorem Confined.trans {first second third : SlateProfileDatabase}
    (before : Confined profile first second) (after : Confined profile second third) :
    Confined profile first third :=
  ⟨before.control.trans after.control, before.rows.trans after.rows,
    after.syncState.trans before.syncState⟩

section Views

theorem confined_applySettingsView (change : IncomingSyncSettingText) :
    Confined change.profile db (db.applySettingsView change now) := by
  unfold applySettingsView
  split
  · next isDefault =>
      refine ⟨⟨rfl, rfl, rfl, rfl, rfl⟩, ⟨?_, rfl, fun _ => rfl, rfl, rfl, rfl, rfl, rfl⟩, rfl⟩
      intro other
      exact absurd isDefault.1 other
  · exact .refl change.profile db

theorem bookmarks_applyBookmarkSlotSyncPayload (payload : BookmarkSlotSyncPayload) :
    (db.applyBookmarkSlotSyncPayload profile payload now).bookmarks.filter
        (fun row => row.profile != profile) =
      db.bookmarks.filter fun row => row.profile != profile := by
  have kept : (db.bookmarks.filter fun bookmark =>
      !clearsBookmark profile payload.position payload.url payload.replacedUrl bookmark).filter
        (fun row => row.profile != profile) =
      db.bookmarks.filter fun row => row.profile != profile := by
    rw [List.filter_filter]
    refine List.filter_congr fun row _ => ?_
    by_cases same : row.profile = profile
    · simp [same]
    · simp [clearsBookmark, same]
  simp only [applyBookmarkSlotSyncPayload]
  split
  · exact kept
  · rw [List.filter_append, kept]
    simp

theorem confined_applyBookmarkSlotSyncPayload (payload : BookmarkSlotSyncPayload) :
    Confined profile db (db.applyBookmarkSlotSyncPayload profile payload now) := by
  have onlyBookmarks : db.applyBookmarkSlotSyncPayload profile payload now =
      { db with
        bookmarks := (db.applyBookmarkSlotSyncPayload profile payload now).bookmarks } := by
    simp only [applyBookmarkSlotSyncPayload]
    split <;> rfl
  rw [onlyBookmarks]
  exact ⟨⟨rfl, rfl, rfl, rfl, rfl⟩,
    ⟨fun _ => rfl, bookmarks_applyBookmarkSlotSyncPayload payload, fun _ => rfl, rfl, rfl, rfl,
      rfl, rfl⟩, rfl⟩

theorem confined_applyBookmarkView {change : IncomingSyncSettingText}
    (h : db.applyBookmarkView codec change now = .ok next) : Confined change.profile db next := by
  unfold applyBookmarkView at h
  split at h
  · obtain ⟨payload, -, h⟩ := bind_eq_ok_iff.mp h
    cases h
    exact confined_applyBookmarkSlotSyncPayload payload
  · cases h
    exact .refl change.profile db

/-- Replacing a typed table is confined to a profile when the table's other rows stay. -/
theorem confined_updateAppTable (domain : AppDomain) (table : List (AppRecord domain))
    (kept : table.filter (fun row => ((appDomainSpec domain).recordKey row).1 != profile) =
      (db.appTables domain).filter fun row =>
        ((appDomainSpec domain).recordKey row).1 != profile) :
    Confined profile db (db.updateAppTable domain table) := by
  refine ⟨⟨rfl, rfl, rfl, rfl, rfl⟩,
    ⟨fun _ => rfl, rfl, fun other => ?_, rfl, rfl, rfl, rfl, rfl⟩, rfl⟩
  by_cases same : other = domain
  · subst same
    simpa [updateAppTable] using kept
  · simp [updateAppTable, same]

theorem confined_applyAppSyncPayload {domain : AppDomain} {payload : AppSyncPayload domain}
    (h : db.applyAppSyncPayload domain profile payload now = .ok next) :
    Confined profile db next := by
  unfold applyAppSyncPayload at h
  split at h
  · cases h
    apply confined_updateAppTable
    apply Rows.filter_erase_of_dropped
    intro existing same
    simp [same]
  · obtain ⟨_, -, h⟩ := bind_eq_ok_iff.mp h
    cases h
    apply confined_updateAppTable
    apply Rows.filter_upsert_of_dropped
    · simp [recordKey_row]
    · intro existing same
      rw [recordKey_row] at same
      simp [recordKey_merge, same]

theorem confined_applyAppView {domain : AppDomain} {change : IncomingSyncSettingText}
    (h : db.applyAppView codec domain change now = .ok next) :
    Confined change.profile db next := by
  unfold applyAppView at h
  split at h
  · obtain ⟨payload, -, h⟩ := bind_eq_ok_iff.mp h
    exact confined_applyAppSyncPayload h
  · cases h
    exact .refl change.profile db

theorem confined_applySyncSettingMaterializedView {change : IncomingSyncSettingText}
    (h : db.applySyncSettingMaterializedView codec change now = .ok next) :
    Confined change.profile db next := by
  obtain ⟨_, bookmarks, h⟩ := bind_eq_ok_iff.mp h
  obtain ⟨_, calendar, h⟩ := bind_eq_ok_iff.mp h
  obtain ⟨_, chat, h⟩ := bind_eq_ok_iff.mp h
  obtain ⟨_, contacts, h⟩ := bind_eq_ok_iff.mp h
  obtain ⟨_, downloads, h⟩ := bind_eq_ok_iff.mp h
  obtain ⟨_, files, storage⟩ := bind_eq_ok_iff.mp h
  exact (confined_applySettingsView change).trans <|
    (confined_applyBookmarkView bookmarks).trans <|
    (confined_applyAppView calendar).trans <|
    (confined_applyAppView chat).trans <|
    (confined_applyAppView contacts).trans <|
    (confined_applyAppView downloads).trans <|
    (confined_applyAppView files).trans (confined_applyAppView storage)

end Views

section Log

theorem confined_recordSyncDeviceSeen (deviceId : String) :
    Confined profile db (db.recordSyncDeviceSeen profile deviceId now) := by
  refine ⟨⟨rfl, rfl, rfl, rfl, rfl⟩,
    ⟨fun _ => rfl, rfl, fun _ => rfl, ?_, rfl, rfl, rfl, rfl⟩, rfl⟩
  apply Rows.filter_upsert_of_dropped
  · simp
  · intro existing same
    have sameProfile : existing.profile = profile := congrArg Prod.fst same
    simp [sameProfile]

theorem confined_insertChangeRecord (change : IncomingSyncSettingText) (appliedAt : Option Int) :
    Confined change.profile db (db.insertChangeRecord change now appliedAt).2 := by
  refine ⟨⟨rfl, rfl, rfl, rfl, rfl⟩,
    ⟨fun _ => rfl, rfl, fun _ => rfl, rfl, ?_, rfl, rfl, rfl⟩, rfl⟩
  simp [insertChangeRecord, List.filter_append]

theorem confined_insertChange (change : IncomingSyncSettingText) :
    Confined change.profile db (db.insertChange change now).2 := by
  refine ⟨⟨rfl, rfl, rfl, rfl, rfl⟩,
    ⟨fun _ => rfl, rfl, fun _ => rfl, rfl, ?_, ?_, ?_, rfl⟩, rfl⟩
  · simp [insertChange, insertChangeRecord, List.filter_append]
  · simp [insertChange, insertChangeRecord, List.filter_append]
  · apply Rows.filter_upsert_of_dropped
    · simp
    · intro existing same
      have sameProfile : existing.profile = change.profile := congrArg Prod.fst same
      simp [sameProfile]

theorem confined_applySyncSettingText {change : IncomingSyncSettingText}
    {record : SyncChangeRecord}
    (h : db.applySyncSettingText codec change now = .ok (record, next)) :
    Confined change.profile db next := by
  rw [applySyncSettingText, databaseError_eq_ok_iff] at h
  have seen : Confined change.profile db
      (db.recordSyncDeviceSeen change.profile change.deviceId now) :=
    confined_recordSyncDeviceSeen change.deviceId
  rcases applySyncSettingTextInTransaction_cases h with
    ⟨-, -, rfl⟩ | ⟨-, -, viewed, view, inserted⟩ | ⟨-, -, inserted⟩
  · exact seen
  · rw [show next = _ from congrArg Prod.snd inserted]
    exact seen.trans <| (confined_applySyncSettingMaterializedView view).trans <|
      confined_insertChange change
  · rw [show next = _ from congrArg Prod.snd inserted]
    exact seen.trans (confined_insertChangeRecord change none)

theorem confined_applyChanges {changes : List IncomingSyncSettingText}
    {records : List SyncChangeRecord}
    (ofProfile : ∀ change ∈ changes, change.profile = profile)
    (h : forEach (fun change => applySyncSettingText codec change now) changes db =
      .ok (records, next)) : Confined profile db next := by
  induction changes generalizing db records with
  | nil =>
      obtain ⟨-, rfl⟩ := ok_pair_inj h
      exact .refl profile _
  | cons change rest inductionHypothesis =>
      obtain ⟨record, middle, others, applied, appliedRest, -⟩ := forEach_cons_eq_ok_iff.mp h
      have first := confined_applySyncSettingText applied
      rw [ofProfile change (List.mem_cons_self ..)] at first
      refine first.trans (inductionHypothesis ?_ appliedRest)
      intro other membership
      exact ofProfile other (List.mem_cons_of_mem _ membership)

end Log

section Manifest

theorem profile_of_mem_snapshotChanges {snapshot : ProfileSyncSettingsSnapshot}
    {change : IncomingSyncSettingText} (membership : change ∈ snapshotChanges snapshot) :
    change.profile = snapshot.profile := by
  obtain ⟨value, -, rfl⟩ := List.mem_map.mp membership
  rfl

theorem confined_applySettingsSnapshot {snapshot : ProfileSyncSettingsSnapshot}
    {records : List SyncChangeRecord}
    (h : db.applySettingsSnapshot codec snapshot now = .ok (records, next)) :
    Confined snapshot.profile db next := by
  unfold applySettingsSnapshot at h
  split at h
  · cases h
  · exact confined_applyChanges (fun _ membership => profile_of_mem_snapshotChanges membership) h

theorem confined_recordSyncSnapshot (snapshot : SyncSnapshotRegistration) (now : Int) :
    Confined snapshot.profile db (db.recordSyncSnapshot snapshot now) := by
  refine ⟨⟨rfl, rfl, rfl, rfl, rfl⟩,
    ⟨fun _ => rfl, rfl, fun _ => rfl, rfl, rfl, rfl, rfl, ?_⟩, rfl⟩
  apply Rows.filter_upsert_of_dropped
  · simp
  · intro existing same
    have sameProfile : existing.profile = snapshot.profile := congrArg Prod.fst same
    simp [sameProfile]

/-- A manifest that passes validation has one profile throughout. -/
theorem profiles_of_validateSettingsManifestApplication {manifest : ProfileSyncManifest}
    {snapshot : Option VerifiedProfileSyncSettingsSnapshot}
    {tailChanges : List VerifiedProfileSyncSettingsTailChange} {result : Unit}
    (h : validateSettingsManifestApplication manifest snapshot tailChanges = .ok result) :
    (∀ verified, snapshot = some verified → verified.snapshot.profile = manifest.profile) ∧
      ∀ tail ∈ tailChanges, tail.change.profile = manifest.profile := by
  unfold validateSettingsManifestApplication at h
  obtain ⟨-, h⟩ := check_then_eq_ok_iff.mp h
  obtain ⟨-, h⟩ := check_then_eq_ok_iff.mp h
  obtain ⟨-, h⟩ := check_then_eq_ok_iff.mp h
  obtain ⟨_, current, h⟩ := bind_eq_ok_iff.mp h
  obtain ⟨-, tails⟩ := check_then_eq_ok_iff.mp h
  constructor
  · rintro verified rfl
    simp only [validateCurrentSnapshot] at current
    split at current
    · split at current
      · unfold validateManifestSnapshot at current
        split at current
        · cases current
        next same => exact not_not.mp same
      · cases current
    · cases current
  · intro tail membership
    have valid := forM_eq_ok_iff.mp tails tail membership
    unfold validateManifestTailChange at valid
    split at valid
    · cases valid
    next same => exact not_not.mp same

/-- A manifest application writes rows of the manifest's profile and one root. -/
theorem applyVerifiedSettingsManifest_confined
    {objects : VerifiedProfileSyncSettingsManifestObjects}
    {application : ProfileSyncSettingsManifestApplication}
    (h : db.applyVerifiedSettingsManifest codec objects now = .ok (application, next)) :
    ∃ applied, Confined objects.manifest.profile db applied ∧
      applied.setProfileSyncRoot objects.manifest.profile objects.manifest.rootId
        objects.manifestObjectId now = .ok ((), next) := by
  obtain ⟨valid, _, afterSnapshot, _, afterTail, snapshotApplied, tailApplied, rootSet⟩ :=
    applyVerifiedSettingsManifest_eq_ok h
  obtain ⟨snapshotProfile, tailProfiles⟩ := profiles_of_validateSettingsManifestApplication valid
  refine ⟨afterTail, ?_, rootSet⟩
  have tail : Confined objects.manifest.profile afterSnapshot afterTail := by
    refine confined_applyChanges ?_ tailApplied
    intro change membership
    obtain ⟨tail, tailMem, rfl⟩ := List.mem_map.mp membership
    exact tailProfiles tail tailMem
  refine Confined.trans ?_ tail
  cases found : objects.snapshot with
  | none =>
      rw [found] at snapshotApplied
      cases snapshotApplied
      exact .refl _ db
  | some verified =>
      rw [found] at snapshotApplied
      obtain ⟨⟨changes, applied⟩, isApplied, recorded⟩ := bind_eq_ok_iff.mp snapshotApplied
      have first := confined_applySettingsSnapshot isApplied
      rw [snapshotProfile verified found] at first
      have known : Confined objects.manifest.profile applied _ := confined_recordSyncSnapshot
        { profile := objects.manifest.profile
          snapshotId := settingsSyncSnapshotId verified.snapshot.coversRevision
          backendObjectId := some verified.objectId
          coversRevision := verified.snapshot.coversRevision
          includedDomains := verified.snapshot.includedDomains } now
      rw [← (ok_pair_inj recorded).2]
      exact first.trans known

end Manifest

end SlateProfileDatabase

end Slate.Storage
