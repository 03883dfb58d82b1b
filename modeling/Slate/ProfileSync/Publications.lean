import Slate.ProfileSync.Envelopes

/-!
# What a publication leaves behind

Each publishing function is described once: when it succeeds, what it puts into the store
and what it records in the database.
-/

namespace Slate.ProfileSync

open Slate.Foundation Slate.Storage
open Slate.Storage.SlateProfileDatabase

section Store

/-- The store has this payload under the id, sealed and signed with these credentials. -/
def Carries (scheme : SyncObjectScheme) (profile objectId domain objectKind : String)
    (payload : List Nat) (credentials : SyncCredentials) (store : ObjectStore) : Prop :=
  ∃ drawn, store.find scheme profile objectId =
    some (signEncryptedJsonObject scheme profile domain objectKind payload credentials drawn)

variable {scheme : SyncObjectScheme} {profile objectId domain objectKind : String}
  {payload : List Nat} {credentials : SyncCredentials} {store next : ObjectStore}

theorem Carries.extends (lawful : scheme.Lawful) (grown : store.Extends next)
    (carried : Carries scheme profile objectId domain objectKind payload credentials store) :
    Carries scheme profile objectId domain objectKind payload credentials next := by
  obtain ⟨drawn, found⟩ := carried
  exact ⟨drawn, grown.find lawful found⟩

theorem putSealedObject_spec (lawful : scheme.Lawful)
    (put : putSealedObject scheme profile profile domain objectKind payload credentials store =
      .ok (objectId, next)) :
    store.Extends next ∧ next.roots = store.roots ∧ objectId ≠ "" ∧
      Carries scheme profile objectId domain objectKind payload credentials next := by
  have stored := (ObjectStore.putRetainedObject_eq_ok_iff lawful).mp (mapError_eq_ok_iff.mp put)
  obtain ⟨grown, roots, found, nonempty⟩ := ObjectStore.putEncryptedObject_spec lawful stored
  exact ⟨grown, roots, nonempty, _, found⟩

theorem putSealedRoot_spec (lawful : scheme.Lawful) {rootId : String}
    (put : putSealedRoot scheme profile rootId profile objectKind payload credentials store =
      .ok (objectId, next)) :
    store.Extends next ∧ next.roots = (store.publishRoot profile rootId objectId).roots ∧
      objectId ≠ "" ∧
      Carries scheme profile objectId syncDomainSettings objectKind payload credentials next := by
  obtain ⟨stored, storedPut, rfl⟩ :=
    (ObjectStore.putRetainedRoot_eq_ok_iff lawful).mp (mapError_eq_ok_iff.mp put)
  obtain ⟨grown, roots, found, nonempty⟩ := ObjectStore.putEncryptedObject_spec lawful storedPut
  refine ⟨grown, ?_, nonempty, _, found⟩
  simp only [ObjectStore.publishRoot, roots]

end Store

section Manifest

variable {profile rootId : String} {snapshot : ProfileSyncSettingsSnapshotPublication}
  {tailChanges : List ProfileSyncSettingsTailChangePublication}
  {retentionPolicy : ProfileSyncRetentionPolicy} {manifest : ProfileSyncManifest}

theorem validateCoveredChange_eq_ok_iff {domains : List String} {change : SyncChangeRecord} :
    validateCoveredChange profile domains change = .ok () ↔
      change.profile = profile ∧ change.operation = "set_text" ∧ change.domain ∈ domains := by
  unfold validateCoveredChange
  simp only [check_then_eq_ok_iff, check_eq_ok_iff, not_not, ne_eq, Bool.not_eq_true',
    Bool.not_eq_false, List.contains_iff_mem]

theorem validateTailPublication_eq_ok_iff {tail : ProfileSyncSettingsTailChangePublication} :
    validateTailPublication profile tail = .ok () ↔
      tail.objectId ≠ "" ∧ tail.change.profile = profile ∧
        tail.change.operation = "set_text" := by
  unfold validateTailPublication
  simp only [check_then_eq_ok_iff, check_eq_ok_iff, not_not, ne_eq]

/-- The frontiers of a manifest, before they are sorted. -/
def manifestFrontiers (coveredChanges : List SyncChangeRecord)
    (tailChanges : List ProfileSyncSettingsTailChangePublication) :
    List ProfileSyncDeviceFrontier :=
  (tailChanges.map tailFrontier).foldl upsertDeviceFrontier
    ((coveredChanges.map coveredFrontier).foldl upsertDeviceFrontier [])

theorem settingsSyncManifest_eq_ok_iff :
    settingsSyncManifestForSnapshotAndTailChanges profile rootId snapshot tailChanges
        retentionPolicy = .ok manifest ↔
      (rootId ≠ "" ∧ snapshot.objectId ≠ "" ∧ snapshot.snapshot.profile = profile ∧
        snapshot.snapshot.schemaVersion = profileSyncSettingsSnapshotSchemaVersion) ∧
      (∀ change ∈ snapshot.coveredChanges, change.profile = profile ∧
        change.operation = "set_text" ∧
        change.domain ∈ normalizedSnapshotDomains snapshot.snapshot.includedDomains) ∧
      (∀ tail ∈ tailChanges, tail.objectId ≠ "" ∧ tail.change.profile = profile ∧
        tail.change.operation = "set_text") ∧
      manifest =
        { profile, rootId, schemaVersion := profileSyncManifestSchemaVersion
          membershipEpoch := defaultProfileSyncMembershipEpoch
          currentSnapshotObjectId := some snapshot.objectId
          tailChangeObjectIds := tailChanges.map (·.objectId)
          includedDomains :=
            (normalizedSnapshotDomains snapshot.snapshot.includedDomains ++
              tailChanges.map (·.change.domain)).dedup.insertionSort (· ≤ ·)
          deviceFrontiers :=
            (manifestFrontiers snapshot.coveredChanges tailChanges).insertionSort
              fun left right => left.deviceId ≤ right.deviceId
          retentionPolicy
          createdAt := (tailChanges.map (·.change.createdAt)).foldl laterOf
            snapshot.snapshot.createdAt } := by
  unfold settingsSyncManifestForSnapshotAndTailChanges
  simp only [check_then_eq_ok_iff, not_not, ne_eq, bind_eq_ok_iff, forM_eq_ok_iff,
    validateCoveredChange_eq_ok_iff, validateTailPublication_eq_ok_iff]
  constructor
  · rintro ⟨root, object, ofProfile, schema, _, covered, _, tails, built⟩
    exact ⟨⟨root, object, ofProfile, schema⟩, covered, tails, (Except.ok.inj built).symm⟩
  · rintro ⟨⟨root, object, ofProfile, schema⟩, covered, tails, rfl⟩
    exact ⟨root, object, ofProfile, schema, (), covered, (), tails, rfl⟩

end Manifest

section Publish

variable {scheme : SyncObjectScheme} {profile rootId : String} {credentials : SyncCredentials}
  {store next : ObjectStore}

/-- A setting change is in the store under this id. -/
def CarriesChange (scheme : SyncObjectScheme) (profile objectId : String)
    (change : IncomingSyncSettingText) (credentials : SyncCredentials) (store : ObjectStore) :
    Prop :=
  Carries scheme profile objectId change.domain profileSyncSettingChangeObjectKind
    (scheme.settingText.toBytes change) credentials store

/-- A settings snapshot is in the store under this id. -/
def CarriesSnapshot (scheme : SyncObjectScheme) (profile objectId : String)
    (snapshot : ProfileSyncSettingsSnapshot) (credentials : SyncCredentials)
    (store : ObjectStore) : Prop :=
  Carries scheme profile objectId syncDomainSettings profileSyncSettingsSnapshotObjectKind
    (scheme.snapshot.toBytes snapshot) credentials store

/-- A settings manifest is in the store under this id. -/
def CarriesManifest (scheme : SyncObjectScheme) (profile objectId : String)
    (manifest : ProfileSyncManifest) (credentials : SyncCredentials) (store : ObjectStore) :
    Prop :=
  Carries scheme profile objectId syncDomainSettings profileSyncManifestObjectKind
    (scheme.manifest.toBytes manifest) credentials store

/-- A device head is in the store under this id. -/
def CarriesHead (scheme : SyncObjectScheme) (profile objectId : String)
    (deviceHead : ProfileSyncDeviceHead) (credentials : SyncCredentials) (store : ObjectStore) :
    Prop :=
  Carries scheme profile objectId syncDomainSettings profileSyncDeviceHeadObjectKind
    (scheme.deviceHead.toBytes deviceHead) credentials store

theorem publishSettingsTailChange_spec (lawful : scheme.Lawful) {change : SyncChangeRecord}
    {publication : ProfileSyncSettingsTailChangePublication} (ofProfile : change.profile = profile)
    (h : publishSettingsTailChange scheme profile credentials change store =
      .ok (publication, next)) :
    store.Extends next ∧ next.roots = store.roots ∧ publication.change = change ∧
      publication.objectId ≠ "" ∧
      CarriesChange scheme profile publication.objectId change.content credentials next := by
  obtain ⟨⟨objectId, stored⟩, put, h⟩ := bind_eq_ok_iff.mp h
  obtain ⟨rfl, rfl⟩ := ok_pair_inj h
  have sameProfile : change.content.profile = profile := ofProfile
  rw [sameProfile] at put
  obtain ⟨grown, roots, nonempty, carried⟩ := putSealedObject_spec lawful put
  exact ⟨grown, roots, rfl, nonempty, carried⟩

theorem publishSettingsTailChangePublications_spec (lawful : scheme.Lawful)
    {changes : List SyncChangeRecord}
    {publications : List ProfileSyncSettingsTailChangePublication}
    (ofProfile : ∀ change ∈ changes, change.profile = profile)
    (h : publishSettingsTailChangePublications scheme profile changes credentials store =
      .ok (publications, next)) :
    store.Extends next ∧ next.roots = store.roots ∧ publications.map (·.change) = changes ∧
      ∀ publication ∈ publications, publication.objectId ≠ "" ∧
        CarriesChange scheme profile publication.objectId publication.change.content credentials
          next := by
  induction changes generalizing store publications with
  | nil =>
      obtain ⟨rfl, rfl⟩ := ok_pair_inj h
      exact ⟨.refl store, rfl, rfl, by simp⟩
  | cons change rest inductionHypothesis =>
      obtain ⟨publication, middle, others, published, publishedRest, rfl⟩ :=
        forEach_cons_eq_ok_iff.mp h
      obtain ⟨grown, roots, sameChange, nonempty, carried⟩ := publishSettingsTailChange_spec lawful
        (ofProfile change (List.mem_cons_self ..)) published
      obtain ⟨grownRest, rootsRest, sameRest, carriedRest⟩ := inductionHypothesis
        (fun other membership => ofProfile other (List.mem_cons_of_mem _ membership)) publishedRest
      refine ⟨grown.trans grownRest, rootsRest.trans roots, ?_, ?_⟩
      · rw [List.map_cons, sameChange, sameRest]
      · refine List.forall_mem_cons.mpr ⟨⟨nonempty, ?_⟩, carriedRest⟩
        rw [sameChange]
        exact carried.extends lawful grownRest

/-- What a publication leaves in a store: the manifest of its snapshot under the settings
root, and the tail changes that the manifest names. -/
structure ManifestPublished (scheme : SyncObjectScheme) (profile rootId : String)
    (snapshot : ProfileSyncSettingsSnapshot) (coveredChanges tailChanges : List SyncChangeRecord)
    (credentials : SyncCredentials) (retentionPolicy : ProfileSyncRetentionPolicy)
    (published : PublishedSettingsSnapshotManifest) (store next : ObjectStore) : Prop where
  grown : store.Extends next
  nonempty : published.manifestObjectId ≠ ""
  roots : next.roots = (store.publishRoot profile rootId published.manifestObjectId).roots
  carried : CarriesManifest scheme profile published.manifestObjectId published.manifest
    credentials next
  tail : ∃ tailPublications : List ProfileSyncSettingsTailChangePublication,
    tailPublications.map (·.change) = tailChanges ∧
      (∀ tail ∈ tailPublications, CarriesChange scheme profile tail.objectId tail.change.content
        credentials next) ∧
      settingsSyncManifestForSnapshotAndTailChanges profile rootId
        { objectId := published.snapshotObjectId, snapshot, coveredChanges } tailPublications
        retentionPolicy = .ok published.manifest

theorem profiles_of_validateSettingChangesForPublish {changes : List SyncChangeRecord}
    {label : String} {result : Unit}
    (h : validateSettingChangesForPublish profile changes label = .ok result) :
    ∀ change ∈ changes, change.profile = profile := by
  intro change membership
  have valid := forM_eq_ok_iff.mp h change membership
  unfold validateSettingChangeForPublish at valid
  exact not_not.mp (check_then_eq_ok_iff.mp valid).1

section Manifest

variable {snapshot : ProfileSyncSettingsSnapshot}
  {coveredChanges tailChanges : List SyncChangeRecord}
  {retentionPolicy : ProfileSyncRetentionPolicy} {published : PublishedSettingsSnapshotManifest}

theorem publishManifestOfSnapshot_spec (lawful : scheme.Lawful) {snapshotObjectId : String}
    (ofProfile : ∀ change ∈ tailChanges, change.profile = profile)
    (h : publishManifestOfSnapshot scheme profile rootId snapshotObjectId snapshot coveredChanges
      tailChanges credentials retentionPolicy store = .ok (published, next)) :
    published.snapshotObjectId = snapshotObjectId ∧
      ManifestPublished scheme profile rootId snapshot coveredChanges tailChanges credentials
        retentionPolicy published store next := by
  obtain ⟨⟨tailPublications, tailStore⟩, tailPublished, h⟩ := bind_eq_ok_iff.mp h
  obtain ⟨manifest, built, h⟩ := bind_eq_ok_iff.mp h
  have built := mapError_eq_ok_iff.mp built
  obtain ⟨⟨manifestObjectId, manifestStore⟩, put, h⟩ := bind_eq_ok_iff.mp h
  obtain ⟨rfl, rfl⟩ := ok_pair_inj h
  have sameProfile : manifest.profile = profile := by
    rw [(settingsSyncManifest_eq_ok_iff.mp built).2.2.2]
  rw [sameProfile] at put
  obtain ⟨grown, roots, sameChanges, carried⟩ :=
    publishSettingsTailChangePublications_spec lawful ofProfile tailPublished
  obtain ⟨grownAgain, rootPublished, nonempty, manifestCarried⟩ := putSealedRoot_spec lawful put
  refine ⟨rfl, grown.trans grownAgain, nonempty, ?_, manifestCarried, tailPublications,
    sameChanges, ?_, built⟩
  · simp only [ObjectStore.publishRoot] at rootPublished ⊢
    rw [rootPublished, roots]
  · intro tail membership
    exact (carried tail membership).2.extends lawful grownAgain

/-- A new snapshot is put into the store in front of its manifest. -/
theorem publishSignedSettingsSnapshotManifest_spec (lawful : scheme.Lawful)
    (h : publishSignedSettingsSnapshotManifest scheme profile rootId snapshot coveredChanges
      tailChanges credentials retentionPolicy store = .ok (published, next)) :
    CarriesSnapshot scheme profile published.snapshotObjectId snapshot credentials next ∧
      ManifestPublished scheme profile rootId snapshot coveredChanges tailChanges credentials
        retentionPolicy published store next := by
  obtain ⟨_, valid, h⟩ := bind_eq_ok_iff.mp h
  obtain ⟨_, -, h⟩ := bind_eq_ok_iff.mp h
  obtain ⟨_, tailValid, h⟩ := bind_eq_ok_iff.mp h
  obtain ⟨⟨snapshotObjectId, snapshotStore⟩, put, h⟩ := bind_eq_ok_iff.mp h
  have valid := mapError_eq_ok_iff.mp valid
  unfold validateSnapshotForPublish at valid
  have sameProfile : snapshot.profile = profile := not_not.mp (check_then_eq_ok_iff.mp valid).1
  rw [sameProfile] at put
  obtain ⟨grown, roots, -, snapshotCarried⟩ := putSealedObject_spec lawful put
  obtain ⟨sameId, manifest⟩ := publishManifestOfSnapshot_spec lawful
    (profiles_of_validateSettingChangesForPublish (mapError_eq_ok_iff.mp tailValid)) h
  refine ⟨?_, grown.trans manifest.grown, manifest.nonempty, ?_, manifest.carried, manifest.tail⟩
  · rw [sameId]
    exact snapshotCarried.extends lawful manifest.grown
  · rw [manifest.roots]
    simp only [ObjectStore.publishRoot, roots]

/-- A snapshot that is already stored is named again. -/
theorem publishSignedExistingSettingsSnapshotManifest_spec (lawful : scheme.Lawful)
    {snapshotObjectId : String}
    (h : publishSignedExistingSettingsSnapshotManifest scheme profile rootId snapshotObjectId
      snapshot coveredChanges tailChanges credentials retentionPolicy store =
        .ok (published, next)) :
    published.snapshotObjectId = snapshotObjectId ∧
      ManifestPublished scheme profile rootId snapshot coveredChanges tailChanges credentials
        retentionPolicy published store next := by
  unfold publishSignedExistingSettingsSnapshotManifest at h
  obtain ⟨-, h⟩ := check_then_eq_ok_iff.mp h
  obtain ⟨_, -, h⟩ := bind_eq_ok_iff.mp h
  obtain ⟨_, -, h⟩ := bind_eq_ok_iff.mp h
  obtain ⟨_, tailValid, h⟩ := bind_eq_ok_iff.mp h
  obtain ⟨_, -, h⟩ := bind_eq_ok_iff.mp h
  exact publishManifestOfSnapshot_spec lawful
    (profiles_of_validateSettingChangesForPublish (mapError_eq_ok_iff.mp tailValid)) h

theorem publishSignedProfileSyncDeviceHead_spec (lawful : scheme.Lawful)
    {deviceHead : ProfileSyncDeviceHead} {published : PublishedProfileSyncDeviceHead}
    (h : publishSignedProfileSyncDeviceHead scheme profile rootId deviceHead credentials store =
      .ok (published, next)) :
    store.Extends next ∧ published.rootId = rootId ∧ published.deviceHead = deviceHead ∧
      next.roots = (store.publishRoot profile rootId published.objectId).roots ∧
      CarriesHead scheme profile published.objectId deviceHead credentials next := by
  obtain ⟨_, valid, h⟩ := bind_eq_ok_iff.mp h
  obtain ⟨⟨objectId, stored⟩, put, h⟩ := bind_eq_ok_iff.mp h
  obtain ⟨rfl, rfl⟩ := ok_pair_inj h
  unfold validateDeviceHeadForPublish at valid
  obtain ⟨-, valid⟩ := check_then_eq_ok_iff.mp valid
  have sameProfile : deviceHead.profile = profile := not_not.mp (check_then_eq_ok_iff.mp valid).1
  rw [sameProfile] at put
  obtain ⟨grown, roots, -, carried⟩ := putSealedRoot_spec lawful put
  exact ⟨grown, rfl, rfl, roots, carried⟩

end Manifest

end Publish

end Slate.ProfileSync
