import Slate.ProfileSync.PublisherSteps
import Slate.ProfileSync.Reception

/-!
# Disabled domains

A publication takes changes of the domains that are enabled when it is made. A tail names
the snapshot that was recorded last, and that one has the values of the domains that were
enabled when it was taken.
-/

namespace Slate.ProfileSync

open Slate.Foundation Slate.Storage
open Slate.Storage.SlateProfileDatabase

variable {codec : SyncPayloadCodec} {scheme : SyncObjectScheme} {profile : String} {now : Int}
  {db next : SlateProfileDatabase}

section Snapshots

theorem domain_of_mem_foldl_insertSnapshotValue {events : List SyncSettingTextEvent}
    {values : List ProfileSyncSettingsSnapshotValue} {value : ProfileSyncSettingsSnapshotValue}
    (membership : value ∈ events.foldl insertSnapshotValue values) :
    value ∈ values ∨ ∃ event ∈ events, value.domain = event.change.domain := by
  induction events generalizing values with
  | nil => exact .inl membership
  | cons event rest inductionHypothesis =>
      rcases inductionHypothesis membership with inserted | ⟨other, otherMem, sameDomain⟩
      · rcases Rows.mem_upsert inserted with old | rfl | ⟨existing, -, -, rfl⟩
        · exact .inl old
        · exact .inr ⟨event, List.mem_cons_self .., rfl⟩
        · exact .inr ⟨event, List.mem_cons_self .., rfl⟩
      · exact .inr ⟨other, List.mem_cons_of_mem _ otherMem, sameDomain⟩

/-- A snapshot has values of the domains it includes only. -/
theorem domain_of_mem_settingsSyncSnapshotPayload {coversRevision : Int}
    {includedDomains : List String} {value : ProfileSyncSettingsSnapshotValue}
    (membership : value ∈ (db.settingsSyncSnapshotPayload profile coversRevision includedDomains
      now).values) :
    value.domain ∈ normalizedSnapshotDomains includedDomains := by
  have folded := (List.mem_insertionSort _).mp membership
  rcases domain_of_mem_foldl_insertSnapshotValue folded with none | ⟨event, found, sameDomain⟩
  · cases none
  · rw [sameDomain]
    exact List.contains_iff_mem.mp (List.mem_filter.mp found).2

theorem domain_of_mem_recordedSnapshot {coversRevision : Int} {includedDomains : List String}
    {value : ProfileSyncSettingsSnapshotValue}
    (membership : value ∈ (db.settingsSyncSnapshotPayload profile coversRevision includedDomains
      now).values) :
    value.domain ∈ normalizedSnapshotDomains
      (db.settingsSyncSnapshotPayload profile coversRevision includedDomains now).includedDomains := by
  have included := domain_of_mem_settingsSyncSnapshotPayload membership
  have sameDomains : (db.settingsSyncSnapshotPayload profile coversRevision includedDomains
      now).includedDomains = normalizedSnapshotDomains includedDomains := rfl
  rw [sameDomains, mem_normalizedSnapshotDomains]
  exact ⟨included, (mem_normalizedSnapshotDomains.mp included).2⟩

end Snapshots

section Runs

/-- A write of the device itself. -/
inductive LocalWrite (codec : SyncPayloadCodec) :
    SlateProfileDatabase → SlateProfileDatabase → Prop where
  | setSettingText {db next : SlateProfileDatabase} {key value : String} {now : Int}
      {record : SyncChangeRecord}
      (h : db.setSettingText key value now = .ok (record, next)) : LocalWrite codec db next
  | setSyncSettingText {db next : SlateProfileDatabase}
      {profile domain key value : String} {now : Int} {record : SyncChangeRecord}
      (h : db.setSyncSettingText profile domain key value now = .ok (record, next)) :
      LocalWrite codec db next
  | setBookmarkSlot {db next : SlateProfileDatabase} {bookmark : BookmarkUpdate}
      {replacedUrl : Option String} {now : Int} {record : SyncChangeRecord}
      (h : db.setBookmarkSlot codec bookmark replacedUrl now = .ok (record, next)) :
      LocalWrite codec db next
  | removeBookmark {db next : SlateProfileDatabase} {profile url : String} {now : Int}
      {removed : Option SyncChangeRecord}
      (h : db.removeBookmark codec profile url now = .ok (removed, next)) :
      LocalWrite codec db next
  | upsertAppRecord {db next : SlateProfileDatabase} {domain : AppDomain}
      {update : AppUpdate domain} {now : Int} {record : AppRecord domain}
      (h : db.upsertAppRecord codec domain update now = .ok (record, next)) :
      LocalWrite codec db next
  | removeAppRecord {db next : SlateProfileDatabase} {domain : AppDomain}
      {profile id : String} {now : Int} {removed : Option SyncChangeRecord}
      (h : db.removeAppRecord codec domain profile id now = .ok (removed, next)) :
      LocalWrite codec db next

theorem settingsSnapshots_recordSyncSettingText {domain key value deviceId : String}
    {record : SyncChangeRecord}
    (h : db.recordSyncSettingText profile domain key value deviceId now = .ok (record, next)) :
    next.settingsSnapshots = db.settingsSnapshots := by
  obtain ⟨deviceSequence, logicalClock, -, -, inserted⟩ := recordSyncSettingText_eq_ok h
  rw [show next = _ from congrArg Prod.snd inserted]
  rfl

/-- Writing a setting leaves the recorded snapshots alone. -/
theorem LocalWrite.settingsSnapshots (write : LocalWrite codec db next) :
    next.settingsSnapshots = db.settingsSnapshots := by
  cases write with
  | setSettingText h =>
      have kept := settingsSnapshots_recordSyncSettingText (databaseError_eq_ok_iff.mp h)
      exact kept
  | setSyncSettingText h =>
      have kept := settingsSnapshots_recordSyncSettingText (databaseError_eq_ok_iff.mp h)
      split at kept <;> exact kept
  | setBookmarkSlot h =>
      have kept := settingsSnapshots_recordSyncSettingText (databaseError_eq_ok_iff.mp h)
      rwa [(sameButViews_applyBookmarkSlotSyncPayload _ _).settingsSnapshots] at kept
  | removeBookmark h =>
      simp only [SlateProfileDatabase.removeBookmark] at h
      split at h
      · cases h
        rfl
      · obtain ⟨⟨change, recorded⟩, logged, h⟩ := bind_eq_ok_iff.mp h
        obtain ⟨rfl, rfl⟩ := ok_pair_inj h
        have kept := settingsSnapshots_recordSyncSettingText (databaseError_eq_ok_iff.mp logged)
        exact kept
  | upsertAppRecord h =>
      obtain ⟨-, upserted, change, written, logged⟩ := upsertAppRecord_eq_ok h
      rw [settingsSnapshots_recordSyncSettingText logged,
        (sameButViews_upsertAppRecordInTransaction written).settingsSnapshots]
  | removeAppRecord h =>
      rcases removeAppRecord_eq_ok h with ⟨-, rfl⟩ | ⟨record, change, -, logged⟩
      · rfl
      · have kept := settingsSnapshots_recordSyncSettingText logged
        exact kept

/-- The manifest a publication of pending changes leaves, if it leaves one. -/
def manifestOf : LocalSettingsHeadPublishStatus → Option ProfileSyncManifest
  | .publishedFullSnapshot published => some published.publication.manifest
  | .publishedIncrementalTail published => some published.publication.manifest
  | .noLocalSettingsChanges => none
  | .upToDate _ => none

inductive PublisherAction where
  | publishPending
  | compact
deriving DecidableEq, Repr

/-- A manifest that was published, with the states around its publication. -/
structure PublicationEvent where
  action : PublisherAction
  profile : String
  now : Int
  before : SyncState
  manifest : ProfileSyncManifest
  after : SyncState

/-- The runs of a device that writes, switches domains, publishes and compacts, in a store
that others may add to, with the manifests it publishes. -/
inductive PublisherRun (codec : SyncPayloadCodec) (scheme : SyncObjectScheme)
    (start : SyncState) : List PublicationEvent → SyncState → Prop where
  | refl : PublisherRun codec scheme start [] start
  | write {events : List PublicationEvent} {state : SyncState} {written : SlateProfileDatabase}
      (run : PublisherRun codec scheme start events state)
      (write : LocalWrite codec state.database written) :
      PublisherRun codec scheme start events { state with database := written }
  | registerDomain {events : List PublicationEvent} {state : SyncState}
      (run : PublisherRun codec scheme start events state)
      (domain : AppSyncDomainRegistration) (now : Int) :
      PublisherRun codec scheme start events
        { state with database := state.database.registerAppSyncDomain domain now }
  | storeGrows {events : List PublicationEvent} {state : SyncState} {store : ObjectStore}
      (run : PublisherRun codec scheme start events state) (grown : state.store.Extends store) :
      PublisherRun codec scheme start events { state with store }
  | publishPending {events : List PublicationEvent} {state final : SyncState}
      {profile settingsRootId : String} {credentials : SyncCredentials}
      {retentionPolicy : ProfileSyncRetentionPolicy} {now : Int}
      {status : LocalSettingsHeadPublishStatus}
      (run : PublisherRun codec scheme start events state)
      (h : publishPendingLocalSettingsHead scheme profile settingsRootId credentials
        retentionPolicy now state = .ok (status, final)) :
      PublisherRun codec scheme start
        (events ++ (manifestOf status).toList.map fun manifest =>
          ⟨.publishPending, profile, now, state, manifest, final⟩) final
  | compact {events : List PublicationEvent} {state final : SyncState}
      {profile settingsRootId : String} {credentials : SyncCredentials}
      {retentionPolicy : ProfileSyncRetentionPolicy} {now : Int}
      {published : Option PublishedSettingsCompaction}
      (run : PublisherRun codec scheme start events state)
      (h : compactAndPublishSettings scheme profile settingsRootId credentials retentionPolicy now
        state = .ok (published, final)) :
      PublisherRun codec scheme start
        (events ++ published.toList.map fun published =>
          ⟨.compact, profile, now, state, published.publication.manifest, final⟩) final

end Runs

section Publications

/-- The snapshot and the changes that a manifest names were sealed without a value of the
domain. -/
structure KeepsOut (scheme : SyncObjectScheme) (profile domain : String)
    (manifest : ProfileSyncManifest) (store : ObjectStore) : Prop where
  snapshot : ∀ objectId, manifest.currentSnapshotObjectId = some objectId →
    ∃ snapshot credentials,
      CarriesSnapshot scheme profile objectId snapshot credentials store ∧
      ∀ value ∈ snapshot.values, value.domain ≠ domain
  tail : ∀ objectId ∈ manifest.tailChangeObjectIds, ∃ change credentials,
    CarriesChange scheme profile objectId change credentials store ∧ change.domain ≠ domain

/-- The recorded snapshots are in the store, with values of their included domains only. -/
def SnapshotsStored (scheme : SyncObjectScheme) (state : SyncState) : Prop :=
  ∀ record ∈ state.database.settingsSnapshots, ∀ objectId,
    record.backendObjectId = some objectId →
    ∃ snapshot credentials,
      CarriesSnapshot scheme record.profile objectId snapshot credentials state.store ∧
      ∀ value ∈ snapshot.values, value.domain ∈ record.includedDomains

variable {state final : SyncState} {settingsRootId : String} {credentials : SyncCredentials}
  {retentionPolicy : ProfileSyncRetentionPolicy}

theorem SnapshotsStored.extends (lawful : scheme.Lawful) {store : ObjectStore}
    (stored : SnapshotsStored scheme state) (grown : state.store.Extends store)
    (same : next.settingsSnapshots = state.database.settingsSnapshots) :
    SnapshotsStored scheme { database := next, store } := by
  intro record membership objectId hasObject
  have membership : record ∈ next.settingsSnapshots := membership
  rw [same] at membership
  obtain ⟨snapshot, credentials, carried, included⟩ := stored record membership objectId hasObject
  exact ⟨snapshot, credentials, carried.extends lawful grown, included⟩

theorem settingsSnapshots_ensureAppSyncDomains :
    (ensureAppSyncDomains profile now db).settingsSnapshots = db.settingsSnapshots := by
  rw [sameButDomains_ensureAppSyncDomains]

/-- A snapshot that is recorded with the object it was stored as. -/
theorem SnapshotsStored.record (lawful : scheme.Lawful) {store : ObjectStore}
    {snapshotId objectId : String} {coversRevision : Int}
    {roots : List ProfileSyncRootRegistration} {units : List Unit}
    {snapshot : ProfileSyncSettingsSnapshot} (stored : SnapshotsStored scheme state)
    (grown : state.store.Extends store)
    (carried : CarriesSnapshot scheme profile objectId snapshot credentials store)
    (included : ∀ value ∈ snapshot.values,
      value.domain ∈ normalizedSnapshotDomains snapshot.includedDomains)
    (same : db.settingsSnapshots = state.database.settingsSnapshots)
    (recorded : (db.recordSyncSnapshot
      { profile, snapshotId, backendObjectId := some objectId, coversRevision
        includedDomains := snapshot.includedDomains } now).setProfileSyncRoots roots now =
          .ok (units, next)) : SnapshotsStored scheme { database := next, store } := by
  intro record membership foundId hasObject
  have membership : record ∈ next.settingsSnapshots := membership
  rw [setProfileSyncRoots_eq_ok recorded] at membership
  rcases Rows.mem_upsert membership with old | rfl | ⟨existing, -, sameKey, rfl⟩
  · rw [same] at old
    obtain ⟨found, foundCredentials, foundCarried, foundIncluded⟩ :=
      stored record old foundId hasObject
    exact ⟨found, foundCredentials, foundCarried.extends lawful grown, foundIncluded⟩
  · obtain rfl := Option.some.inj hasObject
    exact ⟨snapshot, credentials, carried, included⟩
  · have sameProfile : existing.profile = profile := congrArg Prod.fst sameKey
    obtain rfl := Option.some.inj hasObject
    refine ⟨snapshot, credentials, ?_, included⟩
    rw [← sameProfile] at carried
    exact carried

/-- A manifest keeps a domain out if its snapshot does and none of its tail changes is of
the domain. -/
theorem keepsOut_of_manifestPublished {store stored : ObjectStore} {domain : String}
    {snapshot described : ProfileSyncSettingsSnapshot}
    {coveredChanges tailChanges : List SyncChangeRecord}
    {published : PublishedSettingsSnapshotManifest} {snapshotCredentials : SyncCredentials}
    (manifest : ManifestPublished scheme profile settingsRootId described coveredChanges
      tailChanges credentials retentionPolicy published store stored)
    (carried : CarriesSnapshot scheme profile published.snapshotObjectId snapshot
      snapshotCredentials stored)
    (notInSnapshot : ∀ value ∈ snapshot.values, value.domain ≠ domain)
    (notInTail : ∀ change ∈ tailChanges, change.domain ≠ domain) :
    KeepsOut scheme profile domain published.manifest stored := by
  obtain ⟨tailPublications, sameChanges, tailCarried, built⟩ := manifest.tail
  have isManifest := (settingsSyncManifest_eq_ok_iff.mp built).2.2.2
  constructor
  · intro objectId current
    rw [isManifest] at current
    obtain rfl := Option.some.inj current
    exact ⟨snapshot, snapshotCredentials, carried, notInSnapshot⟩
  · intro objectId membership
    rw [isManifest] at membership
    obtain ⟨tail, tailMem, rfl⟩ := List.mem_map.mp membership
    refine ⟨tail.change.content, credentials, tailCarried tail tailMem, ?_⟩
    apply notInTail tail.change
    rw [← sameChanges]
    exact List.mem_map_of_mem tailMem

theorem KeepsOut.extends (lawful : scheme.Lawful) {domain : String}
    {manifest : ProfileSyncManifest} {store stored : ObjectStore} (grown : store.Extends stored)
    (keepsOut : KeepsOut scheme profile domain manifest store) :
    KeepsOut scheme profile domain manifest stored where
  snapshot objectId current := by
    obtain ⟨snapshot, credentials, carried, out⟩ := keepsOut.snapshot objectId current
    exact ⟨snapshot, credentials, carried.extends lawful grown, out⟩
  tail objectId membership := by
    obtain ⟨change, credentials, carried, out⟩ := keepsOut.tail objectId membership
    exact ⟨change, credentials, carried.extends lawful grown, out⟩

/-- The domains of a list of changes are enabled if the changes are. -/
theorem mem_changedDomains {changes : List SyncChangeRecord} {domain : String} :
    domain ∈ changedDomains changes ↔ ∃ change ∈ changes, change.domain = domain := by
  simp [changedDomains, List.mem_insertionSort]

theorem compact_keepsOut (lawful : scheme.Lawful)
    {found : Option PublishedSettingsCompaction} (stored : SnapshotsStored scheme state)
    (h : compactAndPublishSettings scheme profile settingsRootId credentials retentionPolicy now
      state = .ok (found, final)) :
    SnapshotsStored scheme final ∧
      ∀ published ∈ found, ∀ domain ∉ enabledDomains profile now state.database,
        KeepsOut scheme profile domain published.publication.manifest final.store := by
  rcases compactAndPublishSettings_cases h with
    ⟨rfl, rfl⟩ | ⟨target, published, covered, tail, snapshot, units, rfl, isCovered, isTail,
      isSnapshot, isPublished, recorded⟩
  · exact ⟨stored.extends lawful (.refl _) settingsSnapshots_ensureAppSyncDomains, by simp⟩
  · obtain ⟨carried, manifest⟩ := publishSignedSettingsSnapshotManifest_spec lawful isPublished
    have eventEnabled : ∀ event ∈ compactionEvents profile target now state.database,
        event.change.domain ∈ enabledDomains profile now state.database := by
      intro event membership
      exact List.contains_iff_mem.mp (List.mem_filter.mp membership).2
    have valueIncluded : ∀ value ∈ snapshot.values,
        value.domain ∈ normalizedSnapshotDomains (changedDomains covered) := by
      intro value membership
      rw [isSnapshot] at membership
      exact domain_of_mem_settingsSyncSnapshotPayload membership
    refine ⟨?_, ?_⟩
    · have same : (ensureAppSyncDomains profile now state.database).settingsSnapshots =
          state.database.settingsSnapshots := settingsSnapshots_ensureAppSyncDomains
      refine stored.record lawful manifest.grown carried ?_ same recorded
      rw [isSnapshot]
      exact fun value membership => domain_of_mem_recordedSnapshot membership
    · rintro _ ⟨⟩ domain disabled
      refine keepsOut_of_manifestPublished manifest carried ?_ ?_
      · rintro value membership rfl
        apply disabled
        obtain ⟨change, changeMem, same⟩ := mem_changedDomains.mp
          (mem_normalizedSnapshotDomains.mp (valueIncluded value membership)).1
        rw [isCovered] at changeMem
        obtain ⟨event, eventMem, rfl⟩ := List.mem_map.mp changeMem
        rw [← same]
        exact eventEnabled event (List.mem_of_mem_take eventMem)
      · rintro change membership rfl
        apply disabled
        rw [isTail] at membership
        obtain ⟨event, eventMem, rfl⟩ := List.mem_map.mp membership
        exact eventEnabled event (List.mem_of_mem_drop eventMem)

theorem full_keepsOut (lawful : scheme.Lawful) {published : PublishedLocalSettingsHead}
    (stored : SnapshotsStored scheme state)
    (h : publishFullLocalSettingsSnapshotHead scheme profile settingsRootId credentials
      retentionPolicy now state = .ok (some published, final)) :
    SnapshotsStored scheme final ∧
      ∀ domain ∉ enabledDomains profile now state.database,
        KeepsOut scheme profile domain published.publication.manifest final.store := by
  rcases publishFullLocalSettingsSnapshotHead_cases h with
    ⟨absurdFound, -⟩ | ⟨lastEvent, headChange, snapshot, publication, middle, deviceHead, units,
      isFound, -, -, isSnapshot, isPublished, headPublished, recorded⟩
  · cases absurdFound
  · obtain rfl := Option.some.inj isFound
    obtain ⟨carried, manifest⟩ := publishSignedSettingsSnapshotManifest_spec lawful isPublished
    obtain ⟨headGrown, -⟩ := publishSignedProfileSyncDeviceHead_spec lawful headPublished
    have valueIncluded : ∀ value ∈ snapshot.values, value.domain ∈ normalizedSnapshotDomains
        (changedDomains (changesAfter profile 0 now state.database)) := by
      intro value membership
      rw [isSnapshot] at membership
      exact domain_of_mem_settingsSyncSnapshotPayload membership
    refine ⟨?_, fun domain disabled => ?_⟩
    · have same : (ensureAppSyncDomains profile now state.database).settingsSnapshots =
          state.database.settingsSnapshots := settingsSnapshots_ensureAppSyncDomains
      refine stored.record lawful (manifest.grown.trans headGrown)
        (carried.extends lawful headGrown) ?_ same recorded
      rw [isSnapshot]
      exact fun value membership => domain_of_mem_recordedSnapshot membership
    · have notInSnapshot : ∀ value ∈ snapshot.values, value.domain ≠ domain := by
        rintro value membership rfl
        apply disabled
        obtain ⟨change, changeMem, same⟩ := mem_changedDomains.mp
          (mem_normalizedSnapshotDomains.mp (valueIncluded value membership)).1
        rw [← same]
        exact domain_of_mem_changesAfter changeMem
      have keepsOut : KeepsOut scheme profile domain publication.manifest middle :=
        keepsOut_of_manifestPublished manifest carried notInSnapshot (by simp)
      exact keepsOut.extends lawful headGrown

theorem mem_of_latestSyncSnapshot {record : SyncSnapshotRecord}
    (latest : db.latestSyncSnapshot profile = some record) :
    record ∈ db.settingsSnapshots ∧ record.profile = profile := by
  obtain ⟨membership, ofProfile⟩ := List.mem_filter.mp (List.argmax_mem latest)
  exact ⟨membership, eq_of_beq ofProfile⟩

/-- A tail keeps a domain out if the snapshot it continues does. -/
theorem tail_keepsOut (lawful : scheme.Lawful) {published : PublishedLocalSettingsHead}
    (stored : SnapshotsStored scheme state)
    (enabled : ∀ record, state.database.latestSyncSnapshot profile = some record →
      record.backendObjectId.isSome →
      ∀ domain ∈ record.includedDomains, domain ∈ enabledDomains profile now state.database)
    (h : publishLocalSettingsTailHead scheme profile settingsRootId credentials retentionPolicy
      now state = .ok (some published, final)) :
    SnapshotsStored scheme final ∧
      ∀ domain ∉ enabledDomains profile now state.database,
        KeepsOut scheme profile domain published.publication.manifest final.store := by
  rcases publishLocalSettingsTailHead_cases h with
    ⟨absurdFound, -⟩ | ⟨snapshotRecord, snapshotObjectId, headChange, frontier, publication, middle,
      deviceHead, units, isFound, isLatest, hasObject, -, isPublished, -, headPublished, recorded⟩
  · cases absurdFound
  · obtain rfl := Option.some.inj isFound
    obtain ⟨sameId, manifest⟩ :=
      publishSignedExistingSettingsSnapshotManifest_spec lawful isPublished
    obtain ⟨headGrown, -⟩ := publishSignedProfileSyncDeviceHead_spec lawful headPublished
    obtain ⟨membership, rfl⟩ := mem_of_latestSyncSnapshot isLatest
    obtain ⟨snapshot, snapshotCredentials, carried, included⟩ :=
      stored snapshotRecord membership snapshotObjectId hasObject
    refine ⟨?_, fun domain disabled => ?_⟩
    · refine stored.extends lawful (manifest.grown.trans headGrown) ?_
      rw [setProfileSyncRoots_eq_ok recorded]
      exact settingsSnapshots_ensureAppSyncDomains
    · rw [← sameId] at carried
      have notInSnapshot : ∀ value ∈ snapshot.values, value.domain ≠ domain := by
        rintro value valueMem rfl
        apply disabled
        exact enabled snapshotRecord isLatest (by simp [hasObject]) _ (included value valueMem)
      have keepsOut : KeepsOut scheme snapshotRecord.profile domain publication.manifest middle := by
        refine keepsOut_of_manifestPublished manifest (carried.extends lawful manifest.grown)
          notInSnapshot ?_
        rintro change changeMem rfl
        exact disabled (domain_of_mem_localChangesAfter changeMem)
      exact keepsOut.extends lawful headGrown

/-- Whenever pending changes are published behind a recorded snapshot, every domain of that
snapshot is enabled. -/
def PublicationEvent.SnapshotEnabled (event : PublicationEvent) : Prop :=
  event.action = .publishPending →
    ∀ record, event.before.database.latestSyncSnapshot event.profile = some record →
      record.backendObjectId.isSome →
      ∀ domain ∈ record.includedDomains,
        domain ∈ enabledDomains event.profile event.now event.before.database

def PublicationEvent.KeepsDisabledOut (scheme : SyncObjectScheme) (event : PublicationEvent) :
    Prop :=
  ∀ domain ∉ enabledDomains event.profile event.now event.before.database,
    KeepsOut scheme event.profile domain event.manifest event.after.store

theorem publishPending_keepsOut (lawful : scheme.Lawful) {status : LocalSettingsHeadPublishStatus}
    (stored : SnapshotsStored scheme state)
    (h : publishPendingLocalSettingsHead scheme profile settingsRootId credentials retentionPolicy
      now state = .ok (status, final))
    (enabled : ∀ manifest ∈ manifestOf status, PublicationEvent.SnapshotEnabled
      ⟨.publishPending, profile, now, state, manifest, final⟩) :
    SnapshotsStored scheme final ∧
      ∀ manifest ∈ manifestOf status, PublicationEvent.KeepsDisabledOut scheme
        ⟨.publishPending, profile, now, state, manifest, final⟩ := by
  rcases publishPendingLocalSettingsHead_cases h with
    ⟨published, rfl, full⟩ | ⟨published, rfl, tail⟩ | ⟨idle, rfl⟩
  · obtain ⟨storedFinal, keepsOut⟩ := full_keepsOut lawful stored full
    refine ⟨storedFinal, ?_⟩
    rintro _ ⟨⟩
    exact keepsOut
  · have sameSnapshots : (ensureAppSyncDomains profile now state.database).settingsSnapshots =
        state.database.settingsSnapshots := settingsSnapshots_ensureAppSyncDomains
    have ensured : SnapshotsStored scheme
        { state with database := ensureAppSyncDomains profile now state.database } :=
      stored.extends lawful (.refl _) sameSnapshots
    obtain ⟨storedFinal, keepsOut⟩ := tail_keepsOut lawful ensured (by
      intro record isLatest hasObject domain membership
      rw [enabledDomains_ensureAppSyncDomains]
      refine enabled _ rfl rfl record ?_ hasObject domain membership
      rwa [latestSyncSnapshot, sameSnapshots] at isLatest) tail
    refine ⟨storedFinal, ?_⟩
    rintro _ ⟨⟩ domain disabled
    apply keepsOut
    rwa [enabledDomains_ensureAppSyncDomains]
  · refine ⟨stored.extends lawful (.refl _) settingsSnapshots_ensureAppSyncDomains, ?_⟩
    intro manifest isManifest
    cases status with
    | noLocalSettingsChanges => cases isManifest
    | upToDate record => cases isManifest
    | publishedFullSnapshot published => cases idle
    | publishedIncrementalTail published => cases idle

/-- In a run from a device without snapshots in which every snapshot that is published again
has enabled domains only, no publication names a value of a domain that is disabled when it
is made. -/
theorem publisher_run_keeps_disabled_out (lawful : scheme.Lawful) {start : SyncState}
    {events : List PublicationEvent} (unpublished : start.database.settingsSnapshots = [])
    (run : PublisherRun codec scheme start events final)
    (enabled : ∀ event ∈ events, event.SnapshotEnabled) :
    ∀ event ∈ events, event.KeepsDisabledOut scheme := by
  suffices holds : SnapshotsStored scheme final ∧ ∀ event ∈ events, event.KeepsDisabledOut scheme by
    exact holds.2
  induction run with
  | refl =>
      refine ⟨?_, by simp⟩
      intro record membership
      rw [unpublished] at membership
      cases membership
  | write run write inductionHypothesis =>
      obtain ⟨stored, keptOut⟩ := inductionHypothesis enabled
      exact ⟨stored.extends lawful (.refl _) write.settingsSnapshots, keptOut⟩
  | registerDomain run domain now inductionHypothesis =>
      obtain ⟨stored, keptOut⟩ := inductionHypothesis enabled
      exact ⟨stored.extends lawful (.refl _) rfl, keptOut⟩
  | storeGrows run grown inductionHypothesis =>
      obtain ⟨stored, keptOut⟩ := inductionHypothesis enabled
      exact ⟨stored.extends lawful grown rfl, keptOut⟩
  | publishPending run h inductionHypothesis =>
      obtain ⟨before, now⟩ := List.forall_mem_append.mp enabled
      obtain ⟨stored, keptOut⟩ := inductionHypothesis before
      obtain ⟨storedFinal, published⟩ := publishPending_keepsOut lawful stored h (by
        intro manifest isManifest
        exact now _ (List.mem_map_of_mem (Option.mem_toList.mpr isManifest)))
      refine ⟨storedFinal, List.forall_mem_append.mpr ⟨keptOut, ?_⟩⟩
      intro event membership
      obtain ⟨manifest, isManifest, rfl⟩ := List.mem_map.mp membership
      exact published manifest (Option.mem_toList.mp isManifest)
  | compact run h inductionHypothesis =>
      obtain ⟨before, -⟩ := List.forall_mem_append.mp enabled
      obtain ⟨stored, keptOut⟩ := inductionHypothesis before
      obtain ⟨storedFinal, published⟩ := compact_keepsOut lawful stored h
      refine ⟨storedFinal, List.forall_mem_append.mpr ⟨keptOut, ?_⟩⟩
      intro event membership
      obtain ⟨compaction, isCompaction, rfl⟩ := List.mem_map.mp membership
      exact published compaction (Option.mem_toList.mp isCompaction)

end Publications

section Sample

theorem mem_publishedEvents {events : List PublicationEvent}
    {status : LocalSettingsHeadPublishStatus} {manifest : ProfileSyncManifest}
    (event : ProfileSyncManifest → PublicationEvent) (isManifest : manifestOf status = some manifest) :
    event manifest ∈ events ++ (manifestOf status).toList.map event :=
  List.mem_append_right _ (List.mem_map_of_mem (Option.mem_toList.mpr isManifest))

def bookmarksDomain (enabled : Bool) : AppSyncDomainRegistration :=
  ⟨"default", "bookmarks", 1, enabled, "low-risk", false⟩

set_option maxRecDepth 20000 in
/-- The laptop publishes a bookmark, switches bookmarks off and publishes a theme. The second
manifest names the snapshot of the first, which has the bookmark. -/
theorem disabled_bookmark_published :
    ∃ events final,
      PublisherRun plainTextCodec plainScheme
        { database := householdDevice "laptop", store := {} } events final ∧
      ∃ event ∈ events, "bookmarks" ∉ enabledDomains event.profile event.now
          event.before.database ∧
        ∃ objectId snapshot,
          event.manifest.currentSnapshotObjectId = some objectId ∧
          CarriesSnapshot plainScheme event.profile objectId snapshot laptopCredentials
            event.after.store ∧
          ∃ value ∈ snapshot.values, value.domain = "bookmarks" := by
  have run : ∃ bookmark written status published theme again status' final,
      ((householdDevice "laptop").registerAppSyncDomain (bookmarksDomain true) 1).setSyncSettingText
        "default" "bookmarks" "home" "slate" 2 = .ok (bookmark, written) ∧
      publishPendingLocalSettingsHead plainScheme "default" "settings/latest" laptopCredentials {} 3
        { database := written, store := {} } = .ok (status, published) ∧
      (published.database.registerAppSyncDomain (bookmarksDomain false) 4).setSyncSettingText
        "default" "settings" "theme" "dark" 5 = .ok (theme, again) ∧
      publishPendingLocalSettingsHead plainScheme "default" "settings/latest" laptopCredentials {} 6
        { published with database := again } = .ok (status', final) ∧
      ∃ manifest, manifestOf status' = some manifest ∧
        "bookmarks" ∉ enabledDomains "default" 6 again ∧
        ∃ objectId snapshot,
          manifest.currentSnapshotObjectId = some objectId ∧
          CarriesSnapshot plainScheme "default" objectId snapshot laptopCredentials final.store ∧
          ∃ value ∈ snapshot.values, value.domain = "bookmarks" := by
    refine ⟨_, _, _, _, _, _, _, _, rfl, rfl, rfl, rfl, _, rfl, ?_, _, _, rfl, ⟨0, rfl⟩, _,
      List.mem_cons_self .., rfl⟩
    decide +kernel
  obtain ⟨bookmark, written, status, published, theme, again, lastStatus, final, isWritten,
    isPublished, isWrittenAgain, isPublishedAgain, manifest, isManifest, disabled, carried⟩ := run
  have start : PublisherRun plainTextCodec plainScheme
      { database := householdDevice "laptop", store := {} } [] _ := .refl
  have bookmarkWritten := (start.registerDomain (bookmarksDomain true) 1).write
    (.setSyncSettingText isWritten)
  have themeWritten := ((bookmarkWritten.publishPending isPublished).registerDomain
    (bookmarksDomain false) 4).write (.setSyncSettingText isWrittenAgain)
  exact ⟨_, final, themeWritten.publishPending isPublishedAgain, _,
    mem_publishedEvents _ isManifest, disabled, carried⟩

set_option maxRecDepth 20000 in
/-- The laptop publishes a theme while bookmarks are off. -/
theorem disabled_bookmarks_kept_out :
    ∃ events final,
      PublisherRun plainTextCodec plainScheme
        { database := householdDevice "laptop", store := {} } events final ∧
      ∃ event ∈ events, "bookmarks" ∉ enabledDomains event.profile event.now
          event.before.database ∧
        KeepsOut plainScheme event.profile "bookmarks" event.manifest event.after.store := by
  have steps : ∃ theme written status final,
      (householdDevice "laptop").setSyncSettingText "default" "settings" "theme" "dark" 2 =
        .ok (theme, written) ∧
      publishPendingLocalSettingsHead plainScheme "default" "settings/latest" laptopCredentials {} 3
        { database := written, store := {} } = .ok (status, final) ∧
      written.latestSyncSnapshot "default" = none ∧
      "bookmarks" ∉ enabledDomains "default" 3 written ∧
      ∃ manifest, manifestOf status = some manifest := by
    refine ⟨_, _, _, _, rfl, rfl, rfl, ?_, _, rfl⟩
    decide +kernel
  obtain ⟨theme, written, status, final, isWritten, isPublished, unpublished, disabled, manifest,
    isManifest⟩ := steps
  have run : PublisherRun plainTextCodec plainScheme
      { database := householdDevice "laptop", store := {} } _ final :=
    (PublisherRun.refl.write (.setSyncSettingText isWritten)).publishPending isPublished
  refine ⟨_, final, run, _, mem_publishedEvents _ isManifest, disabled, ?_⟩
  refine publisher_run_keeps_disabled_out plainScheme_lawful rfl run ?_ _
    (mem_publishedEvents _ isManifest) _ disabled
  intro event membership
  obtain ⟨other, -, rfl⟩ := List.mem_map.mp membership
  intro _ record isLatest
  have isLatest : written.latestSyncSnapshot "default" = some record := isLatest
  rw [unpublished] at isLatest
  cases isLatest

end Sample

end Slate.ProfileSync
