import Slate.ProfileSync.Publications
import Slate.Storage.SnapshotMerge

/-!
# The steps of a publisher

A publisher publishes a full snapshot, a tail behind the latest recorded snapshot, or a
compaction. Each is taken apart once into what it read, what it published and what it
recorded.
-/

namespace Slate.ProfileSync

open Slate.Foundation Slate.Storage
open Slate.Storage.SlateProfileDatabase

variable {profile : String} {now : Int} {db next : SlateProfileDatabase}

section Domains

/-- The domains a publication may take changes from. -/
def enabledDomains (profile : String) (now : Int) (db : SlateProfileDatabase) : List String :=
  (enabledSettingsSyncDomainIds profile now db).1

/-- A database with other registered domains. -/
def SameButDomains (db next : SlateProfileDatabase) : Prop :=
  next = { db with appSyncDomains := next.appSyncDomains }

theorem sameButDomains_seedDefaultAppSyncDomain (domain : DefaultAppSyncDomain) :
    SameButDomains db (seedDefaultAppSyncDomain profile now db domain) := rfl

theorem sameButDomains_ensureAppSyncDomains :
    SameButDomains db (ensureAppSyncDomains profile now db) := by
  have seeded : ∀ (domains : List DefaultAppSyncDomain) (start : SlateProfileDatabase),
      SameButDomains db start →
      SameButDomains db (domains.foldl (seedDefaultAppSyncDomain profile now) start) := by
    intro domains
    induction domains with
    | nil => exact fun _ same => same
    | cons domain rest inductionHypothesis =>
        intro start same
        apply inductionHypothesis
        have step : SameButDomains start (seedDefaultAppSyncDomain profile now start domain) :=
          sameButDomains_seedDefaultAppSyncDomain domain
        unfold SameButDomains at same step ⊢
        rw [step, same]
  unfold ensureAppSyncDomains
  split
  · exact seeded _ db rfl
  · rfl

theorem appSyncDomainsOf_ensureAppSyncDomains :
    ¬ ((ensureAppSyncDomains profile now db).appSyncDomainsOf profile).isEmpty := by
  unfold ensureAppSyncDomains
  split
  · -- The domain that is registered last is there.
    obtain ⟨earlier, last, seeded⟩ : ∃ earlier last, db.ensureDefaultAppSyncDomains profile now =
        seedDefaultAppSyncDomain profile now earlier last := ⟨_, _, rfl⟩
    let merge (existing excluded : AppSyncDomainRecord) : AppSyncDomainRecord :=
      { existing with
        schemaVersion := excluded.schemaVersion
        privacyClassification := excluded.privacyClassification
        syncContent := excluded.syncContent, updatedAt := excluded.updatedAt }
    let row : AppSyncDomainRecord :=
      ⟨profile, last.domain, last.schemaVersion, last.defaultEnabled,
        last.privacyClassification, last.syncContent, now, now⟩
    have keepsKey : ∀ existing, appSyncDomainKey existing = appSyncDomainKey row →
        appSyncDomainKey (merge existing row) = appSyncDomainKey row := fun _ same => same
    obtain ⟨found, membership, sameKey⟩ : ∃ found ∈ (seedDefaultAppSyncDomain profile now earlier
        last).appSyncDomains, appSyncDomainKey found = appSyncDomainKey row :=
      Rows.key_mem_upsert keepsKey (.inr rfl)
    have ofProfile : found.profile = profile := congrArg Prod.fst sameKey
    rw [seeded, List.isEmpty_iff, List.eq_nil_iff_forall_not_mem]
    intro none
    apply none found
    rw [appSyncDomainsOf, List.mem_insertionSort, List.mem_filter]
    exact ⟨membership, by simp [ofProfile]⟩
  · assumption

/-- Once a profile has domains, reading them registers nothing. -/
theorem ensureAppSyncDomains_idempotent (later : Int) :
    ensureAppSyncDomains profile later (ensureAppSyncDomains profile now db) =
      ensureAppSyncDomains profile now db := by
  rw [ensureAppSyncDomains, if_neg appSyncDomainsOf_ensureAppSyncDomains]

theorem enabledDomains_ensureAppSyncDomains (later : Int) :
    enabledDomains profile later (ensureAppSyncDomains profile now db) =
      enabledDomains profile now db := by
  rw [enabledDomains, enabledSettingsSyncDomainIds, ensureAppSyncDomains_idempotent]
  rfl

end Domains

section Events

theorem mem_enabledSettingsSyncTextEventsAfter {afterRevision : Int} {limit : Nat}
    {event : SyncSettingTextEvent}
    (membership : event ∈ (enabledSettingsSyncTextEventsAfter profile afterRevision limit now
      db).1) :
    event.change.domain ∈ enabledDomains profile now db ∧
      afterRevision < event.revision.revision ∧
      event ∈ (ensureAppSyncDomains profile now db).settingsEvents profile := by
  have sorted := List.mem_of_mem_take membership
  rw [List.mem_insertionSort] at sorted
  obtain ⟨domain, enabled, found⟩ := List.mem_flatMap.mp sorted
  obtain ⟨known, matching⟩ := List.mem_filter.mp (List.mem_of_mem_take found)
  simp only [Bool.and_eq_true, beq_iff_eq, decide_eq_true_eq] at matching
  refine ⟨?_, matching.2, known⟩
  rw [matching.1.2]
  exact enabled

/-- The changes of the enabled domains behind a revision. -/
def changesAfter (profile : String) (afterRevision : Int) (now : Int)
    (db : SlateProfileDatabase) : List SyncChangeRecord :=
  (enabledSettingsSyncTextEventsAfter profile afterRevision u32Max now db).1.map (·.change)

/-- The device's own changes among them. -/
def localChangesAfter (profile : String) (afterRevision : Int) (now : Int)
    (db : SlateProfileDatabase) : List SyncChangeRecord :=
  ((enabledSettingsSyncTextEventsAfter profile afterRevision u32Max now db).1.filter fun event =>
    event.change.deviceId == db.localSyncDeviceId).map (·.change)

theorem domain_of_mem_changesAfter {afterRevision : Int} {change : SyncChangeRecord}
    (membership : change ∈ changesAfter profile afterRevision now db) :
    change.domain ∈ enabledDomains profile now db := by
  obtain ⟨event, found, rfl⟩ := List.mem_map.mp membership
  exact (mem_enabledSettingsSyncTextEventsAfter found).1

theorem domain_of_mem_localChangesAfter {afterRevision : Int} {change : SyncChangeRecord}
    (membership : change ∈ localChangesAfter profile afterRevision now db) :
    change.domain ∈ enabledDomains profile now db := by
  obtain ⟨event, found, rfl⟩ := List.mem_map.mp membership
  exact (mem_enabledSettingsSyncTextEventsAfter (List.mem_filter.mp found).1).1

/-- The changes a tail's manifest counts as covered by its snapshot. -/
def changesCoveredBy (profile : String) (coversRevision : Int) (now : Int)
    (db : SlateProfileDatabase) : List SyncChangeRecord :=
  ((enabledSettingsSyncTextEventsAfter profile 0 u32Max now db).1.takeWhile fun event =>
    decide (event.revision.revision ≤ coversRevision)).map (·.change)

/-- The events a compaction divides into covered ones and a tail. -/
def compactionEvents (profile : String) (target : SyncCompactionTarget) (now : Int)
    (db : SlateProfileDatabase) : List SyncSettingTextEvent :=
  ((ensureAppSyncDomains profile now db).syncSettingTextEventsAfter profile
    target.previousSnapshotCoversRevision u32Max).filter fun event =>
      (enabledDomains profile now db).contains event.change.domain

end Events

section Steps

variable {scheme : SyncObjectScheme} {settingsRootId : String} {credentials : SyncCredentials}
  {retentionPolicy : ProfileSyncRetentionPolicy} {state final : SyncState}

theorem setProfileSyncRoots_eq_ok {roots : List ProfileSyncRootRegistration} {units : List Unit}
    (h : db.setProfileSyncRoots roots now = .ok (units, next)) :
    next = { db with syncState := next.syncState } := by
  refine forEach_invariant
    (fun reached => reached = { db with syncState := reached.syncState }) ?_ h rfl
  intro root _ before _ after rootSet same
  rw [(setProfileSyncRoot_eq_ok rootSet).2]
  rw [same]

/-- A compaction has nothing to cover, or covers the front of the events behind the latest
snapshot and publishes the others as the tail. -/
theorem compactAndPublishSettings_cases {found : Option PublishedSettingsCompaction}
    (h : compactAndPublishSettings scheme profile settingsRootId credentials retentionPolicy now
      state = .ok (found, final)) :
    (found = none ∧
      final = { state with database := ensureAppSyncDomains profile now state.database }) ∨
    ∃ target published covered tail snapshot units,
      found = some { target, publication := published } ∧
      covered = ((compactionEvents profile target now state.database).take
        target.coveredChangeCount).map (·.change) ∧
      tail = ((compactionEvents profile target now state.database).drop
        target.coveredChangeCount).map (·.change) ∧
      snapshot = (ensureAppSyncDomains profile now state.database).settingsSyncSnapshotPayload
        profile target.coversRevision (changedDomains covered) now ∧
      publishSignedSettingsSnapshotManifest scheme profile settingsRootId snapshot covered tail
        credentials retentionPolicy state.store = .ok (published, final.store) ∧
      ((ensureAppSyncDomains profile now state.database).recordSyncSnapshot
        { profile, snapshotId := settingsSyncSnapshotId target.coversRevision
          backendObjectId := some published.snapshotObjectId
          coversRevision := target.coversRevision
          includedDomains := snapshot.includedDomains } now).setProfileSyncRoots
        [{ profile, rootId := settingsRootId, objectId := published.manifestObjectId }] now =
          .ok (units, final.database) := by
  unfold compactAndPublishSettings at h
  simp only [enabledSettingsSyncDomainIds] at h
  split at h
  · obtain ⟨rfl, rfl⟩ := ok_pair_inj h
    exact .inl ⟨rfl, rfl⟩
  next target isTarget =>
    obtain ⟨⟨published, store⟩, isPublished, h⟩ := bind_eq_ok_iff.mp h
    obtain ⟨⟨units, database⟩, recorded, h⟩ := bind_eq_ok_iff.mp h
    obtain ⟨rfl, rfl⟩ := ok_pair_inj h
    exact .inr ⟨target, published, _, _, _, units, rfl, rfl, rfl, rfl, isPublished,
      mapError_eq_ok_iff.mp recorded⟩

/-- A full snapshot is published if there is an event and a change of the device itself. -/
theorem publishFullLocalSettingsSnapshotHead_cases {found : Option PublishedLocalSettingsHead}
    (h : publishFullLocalSettingsSnapshotHead scheme profile settingsRootId credentials
      retentionPolicy now state = .ok (found, final)) :
    (found = none ∧
      final = { state with database := ensureAppSyncDomains profile now state.database }) ∨
    ∃ lastEvent headChange snapshot published middle deviceHead units,
      found = some { publication := published, deviceHead } ∧
      (enabledSettingsSyncTextEventsAfter profile 0 u32Max now state.database).1.getLast? =
        some lastEvent ∧
      latestLocalDeviceChangeForHead state.database.localSyncDeviceId
        (changesAfter profile 0 now state.database) = some headChange ∧
      snapshot = (ensureAppSyncDomains profile now state.database).settingsSyncSnapshotPayload
        profile lastEvent.revision.revision
        (changedDomains (changesAfter profile 0 now state.database)) now ∧
      publishSignedSettingsSnapshotManifest scheme profile settingsRootId snapshot
        (changesAfter profile 0 now state.database) [] credentials retentionPolicy state.store =
          .ok (published, middle) ∧
      publishSignedProfileSyncDeviceHead scheme profile
        (settingsDeviceHeadRootId state.database.localSyncDeviceId)
        { profile, deviceId := state.database.localSyncDeviceId
          rootId := settingsDeviceHeadRootId state.database.localSyncDeviceId
          schemaVersion := profileSyncDeviceHeadSchemaVersion
          membershipEpoch := defaultProfileSyncMembershipEpoch
          latestManifestObjectId := published.manifestObjectId
          latestChangeObjectId := none
          deviceSequence := headChange.deviceSequence
          logicalClock := headChange.logicalClock
          createdAt := headChange.createdAt } credentials middle = .ok (deviceHead, final.store) ∧
      ((ensureAppSyncDomains profile now state.database).recordSyncSnapshot
        { profile, snapshotId := settingsSyncSnapshotId lastEvent.revision.revision
          backendObjectId := some published.snapshotObjectId
          coversRevision := lastEvent.revision.revision
          includedDomains := snapshot.includedDomains } now).setProfileSyncRoots
        [{ profile, rootId := settingsRootId, objectId := published.manifestObjectId },
         { profile, rootId := deviceHead.rootId, objectId := deviceHead.objectId }] now =
          .ok (units, final.database) := by
  have sameDevice : (ensureAppSyncDomains profile now state.database).localSyncDeviceId =
      state.database.localSyncDeviceId := by
    rw [sameButDomains_ensureAppSyncDomains]
  unfold publishFullLocalSettingsSnapshotHead at h
  simp only [enabledSettingsSyncTextEventsAfter, enabledSettingsSyncDomainIds, sameDevice] at h
  split at h
  next lastEvent headChange isLast isHead =>
    obtain ⟨⟨published, middle⟩, isPublished, h⟩ := bind_eq_ok_iff.mp h
    obtain ⟨⟨deviceHead, store⟩, headPublished, h⟩ := bind_eq_ok_iff.mp h
    obtain ⟨⟨units, database⟩, recorded, h⟩ := bind_eq_ok_iff.mp h
    obtain ⟨rfl, rfl⟩ := ok_pair_inj h
    exact .inr ⟨lastEvent, headChange, _, published, middle, deviceHead, units, rfl, isLast, isHead,
      rfl, isPublished, headPublished, mapError_eq_ok_iff.mp recorded⟩
  · obtain ⟨rfl, rfl⟩ := ok_pair_inj h
    exact .inl ⟨rfl, rfl⟩

/-- A tail is published behind the latest recorded snapshot, whose object is named again. -/
theorem publishLocalSettingsTailHead_cases {found : Option PublishedLocalSettingsHead}
    (h : publishLocalSettingsTailHead scheme profile settingsRootId credentials retentionPolicy
      now state = .ok (found, final)) :
    (found = none ∧ final.store = state.store ∧
      (final.database = state.database ∨
        final.database = ensureAppSyncDomains profile now state.database)) ∨
    ∃ snapshotRecord snapshotObjectId headChange frontier published middle deviceHead units,
      found = some { publication := published, deviceHead } ∧
      state.database.latestSyncSnapshot profile = some snapshotRecord ∧
      snapshotRecord.backendObjectId = some snapshotObjectId ∧
      latestLocalDeviceChangeForHead state.database.localSyncDeviceId
        (localChangesAfter profile snapshotRecord.coversRevision now state.database) =
          some headChange ∧
      publishSignedExistingSettingsSnapshotManifest scheme profile settingsRootId snapshotObjectId
        ((ensureAppSyncDomains profile now state.database).settingsSyncSnapshotPayload profile
          snapshotRecord.coversRevision snapshotRecord.includedDomains now)
        (changesCoveredBy profile snapshotRecord.coversRevision now state.database)
        (localChangesAfter profile snapshotRecord.coversRevision now state.database) credentials
        retentionPolicy state.store = .ok (published, middle) ∧
      (published.manifest.deviceFrontiers.find? fun frontier =>
        frontier.deviceId == state.database.localSyncDeviceId) = some frontier ∧
      publishSignedProfileSyncDeviceHead scheme profile
        (settingsDeviceHeadRootId state.database.localSyncDeviceId)
        { profile, deviceId := state.database.localSyncDeviceId
          rootId := settingsDeviceHeadRootId state.database.localSyncDeviceId
          schemaVersion := profileSyncDeviceHeadSchemaVersion
          membershipEpoch := defaultProfileSyncMembershipEpoch
          latestManifestObjectId := published.manifestObjectId
          latestChangeObjectId := frontier.latestChangeObjectId
          deviceSequence := frontier.latestSequence
          logicalClock := headChange.logicalClock
          createdAt := headChange.createdAt } credentials middle = .ok (deviceHead, final.store) ∧
      (ensureAppSyncDomains profile now state.database).setProfileSyncRoots
        [{ profile, rootId := settingsRootId, objectId := published.manifestObjectId },
         { profile, rootId := deviceHead.rootId, objectId := deviceHead.objectId }] now =
          .ok (units, final.database) := by
  have sameDevice : (ensureAppSyncDomains profile now state.database).localSyncDeviceId =
      state.database.localSyncDeviceId := by
    rw [sameButDomains_ensureAppSyncDomains]
  unfold publishLocalSettingsTailHead at h
  simp only [enabledSettingsSyncTextEventsAfter, enabledSettingsSyncDomainIds, sameDevice,
    ensureAppSyncDomains_idempotent] at h
  split at h
  · obtain ⟨rfl, rfl⟩ := ok_pair_inj h
    exact .inl ⟨rfl, rfl, .inl rfl⟩
  next snapshotRecord isLatest =>
    split at h
    · cases h
    next snapshotObjectId hasObject =>
      split at h
      · obtain ⟨rfl, rfl⟩ := ok_pair_inj h
        exact .inl ⟨rfl, rfl, .inr rfl⟩
      next headChange isHead =>
        obtain ⟨⟨published, middle⟩, isPublished, h⟩ := bind_eq_ok_iff.mp h
        simp only at h
        split at h
        · cases h
        next frontier isFrontier =>
          obtain ⟨⟨deviceHead, store⟩, headPublished, h⟩ := bind_eq_ok_iff.mp h
          obtain ⟨⟨units, database⟩, recorded, h⟩ := bind_eq_ok_iff.mp h
          obtain ⟨rfl, rfl⟩ := ok_pair_inj h
          exact .inr ⟨snapshotRecord, snapshotObjectId, headChange, frontier, published, middle,
            deviceHead, units, rfl, isLatest, hasObject, isHead, isPublished, isFrontier,
            headPublished, mapError_eq_ok_iff.mp recorded⟩

/-- Pending changes are published as a full snapshot or as a tail, or there are none. -/
theorem publishPendingLocalSettingsHead_cases {status : LocalSettingsHeadPublishStatus}
    (h : publishPendingLocalSettingsHead scheme profile settingsRootId credentials retentionPolicy
      now state = .ok (status, final)) :
    (∃ published, status = .publishedFullSnapshot published ∧
      publishFullLocalSettingsSnapshotHead scheme profile settingsRootId credentials
        retentionPolicy now state = .ok (some published, final)) ∨
    (∃ published, status = .publishedIncrementalTail published ∧
      publishLocalSettingsTailHead scheme profile settingsRootId credentials retentionPolicy now
        { state with database := ensureAppSyncDomains profile now state.database } =
          .ok (some published, final)) ∨
    (status.isIdle ∧
      final = { state with database := ensureAppSyncDomains profile now state.database }) := by
  have ensuredTwice : ensureAppSyncDomains profile now
      (ensureAppSyncDomains profile now state.database) =
        ensureAppSyncDomains profile now state.database := ensureAppSyncDomains_idempotent now
  have full : publishFullOrNothing scheme profile settingsRootId credentials retentionPolicy now
      state = .ok (status, final) →
      (∃ published, status = .publishedFullSnapshot published ∧
        publishFullLocalSettingsSnapshotHead scheme profile settingsRootId credentials
          retentionPolicy now state = .ok (some published, final)) ∨
      (status.isIdle ∧
        final = { state with database := ensureAppSyncDomains profile now state.database }) := by
    intro h
    obtain ⟨⟨found, reached⟩, published, h⟩ := bind_eq_ok_iff.mp h
    cases found with
    | none =>
        obtain ⟨rfl, rfl⟩ := ok_pair_inj h
        rcases publishFullLocalSettingsSnapshotHead_cases published with
          ⟨-, same⟩ | ⟨_, _, _, _, _, _, _, absurdFound, -⟩
        · exact .inr ⟨rfl, same⟩
        · cases absurdFound
    | some publication =>
        obtain ⟨rfl, rfl⟩ := ok_pair_inj h
        exact .inl ⟨publication, rfl, published⟩
  have tail : ∀ snapshotRecord, publishTailOrUpToDate scheme profile settingsRootId credentials
      retentionPolicy now snapshotRecord
        { state with database := ensureAppSyncDomains profile now state.database } =
          .ok (status, final) →
      (∃ published, status = .publishedIncrementalTail published ∧
        publishLocalSettingsTailHead scheme profile settingsRootId credentials retentionPolicy now
          { state with database := ensureAppSyncDomains profile now state.database } =
            .ok (some published, final)) ∨
      (status.isIdle ∧
        final = { state with database := ensureAppSyncDomains profile now state.database }) := by
    intro snapshotRecord h
    obtain ⟨⟨found, reached⟩, published, h⟩ := bind_eq_ok_iff.mp h
    cases found with
    | none =>
        obtain ⟨rfl, rfl⟩ := ok_pair_inj h
        rcases publishLocalSettingsTailHead_cases published with
          ⟨-, sameStore, same | same⟩ | ⟨_, _, _, _, _, _, _, _, absurdFound, -⟩
        · refine .inr ⟨rfl, ?_⟩
          cases reached
          exact congrArg₂ SyncState.mk same sameStore
        · refine .inr ⟨rfl, ?_⟩
          cases reached
          exact congrArg₂ SyncState.mk (same.trans ensuredTwice) sameStore
        · cases absurdFound
    | some publication =>
        obtain ⟨rfl, rfl⟩ := ok_pair_inj h
        exact .inl ⟨publication, rfl, published⟩
  unfold publishPendingLocalSettingsHead at h
  split at h
  next snapshotRecord isLatest =>
    split at h
    · unfold publishPendingTail at h
      simp only [enabledSettingsSyncTextEventsAfter, enabledSettingsSyncDomainIds] at h
      split at h
      · obtain ⟨rfl, rfl⟩ := ok_pair_inj h
        exact .inr (.inr ⟨rfl, rfl⟩)
      · obtain ⟨ownHead, -, h⟩ := bind_eq_ok_iff.mp h
        cases ownHead with
        | none => exact .inr (tail snapshotRecord h)
        | some deviceHead =>
            simp only at h
            split at h
            · obtain ⟨rfl, rfl⟩ := ok_pair_inj h
              exact .inr (.inr ⟨rfl, rfl⟩)
            · exact .inr (tail snapshotRecord h)
    · exact (full h).imp_right .inr
  · exact (full h).imp_right .inr

end Steps

end Slate.ProfileSync
