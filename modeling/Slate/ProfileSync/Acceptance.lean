import Slate.ProfileSync.ManifestBuilders
import Slate.ProfileSync.PublisherSteps
import Slate.ProfileSync.Reception
import Slate.ProfileSync.SkippedTails

/-!
# Which published heads are received

A device seals a head, a manifest and its tail with today's key and writes the first membership
epoch into them. A receiver compares that epoch with the one at which it trusts the signer. It
opens the snapshot with today's key as well, also one that an earlier publication sealed.
-/

namespace Slate.ProfileSync

open Slate.Foundation Slate.Storage
open Slate.Storage.SlateProfileDatabase

section Membership

/-- What membership records decide about a signer: its key and the epoch of the key. -/
def trustedSigner (profile deviceId : String) (db : SlateProfileDatabase) :
    Option (ProfileSyncDevicePublicKey × Int) :=
  (trustedKey profile deviceId db).map fun record => (record.publicKey, record.membershipEpoch)

/-- Two databases that have applied the same membership records. -/
structure SharesMembership (profile : String) (db other : SlateProfileDatabase) : Prop where
  signers : ∀ deviceId, trustedSigner profile deviceId other = trustedSigner profile deviceId db
  providers : ∀ deviceId, isProvider profile deviceId other = isProvider profile deviceId db

variable {scheme : SyncObjectScheme} {profile keyId : String} {contentKey bytes : List Nat}
  {db other : SlateProfileDatabase}

theorem sharesMembership_of_tables
    (sameKeys : other.syncDevicePublicKeys = db.syncDevicePublicKeys)
    (sameDevices : other.syncDevices = db.syncDevices) : SharesMembership profile db other where
  signers deviceId := by rw [trustedSigner, trustedSigner, trustedKey, trustedKey, sameKeys]
  providers deviceId := by rw [isProvider, isProvider, sameDevices]

theorem SharesMembership.symm (shares : SharesMembership profile db other) :
    SharesMembership profile other db where
  signers deviceId := (shares.signers deviceId).symm
  providers deviceId := (shares.providers deviceId).symm

theorem SharesMembership.trustedKey (shares : SharesMembership profile db other)
    {deviceId : String} {record : SyncDevicePublicKeyRecord}
    (found : ProfileSync.trustedKey profile deviceId db = some record) :
    ∃ otherRecord, ProfileSync.trustedKey profile deviceId other = some otherRecord ∧
      otherRecord.publicKey = record.publicKey ∧
      otherRecord.membershipEpoch = record.membershipEpoch := by
  have same := shares.signers deviceId
  rw [trustedSigner, trustedSigner, found, Option.map_some, Option.map_eq_some_iff] at same
  obtain ⟨otherRecord, otherFound, same⟩ := same
  obtain ⟨sameKey, sameEpoch⟩ := Prod.mk.inj same
  exact ⟨otherRecord, otherFound, sameKey, sameEpoch⟩

theorem SharesMembership.acceptsSigner (shares : SharesMembership profile db other)
    {publicKey : ProfileSyncDevicePublicKey} {membershipEpoch : Int}
    (accepts : AcceptsSigner profile publicKey membershipEpoch db) :
    AcceptsSigner profile publicKey membershipEpoch other := by
  obtain ⟨⟨record, found, isKey, le⟩, notProvider⟩ := accepts
  obtain ⟨otherRecord, otherFound, sameKey, sameEpoch⟩ := shares.trustedKey found
  exact ⟨⟨otherRecord, otherFound, sameKey.trans isKey, sameEpoch ▸ le⟩,
    (shares.providers _).trans notProvider⟩

theorem SharesMembership.validateSignedObjectMembershipEpoch
    (shares : SharesMembership profile db other) {membershipEpoch : Int}
    (valid : db.validateSignedObjectMembershipEpoch scheme bytes profile membershipEpoch =
      .ok ()) :
    other.validateSignedObjectMembershipEpoch scheme bytes profile membershipEpoch = .ok () := by
  obtain ⟨signed, isSigned, valid⟩ := bind_eq_ok_iff.mp valid
  obtain ⟨record, trusted, valid⟩ := bind_eq_ok_iff.mp valid
  obtain ⟨validId, found⟩ := trustedPublicKeyRecordForSignedObject_eq_ok_iff.mp trusted
  obtain ⟨otherRecord, otherFound, -, sameEpoch⟩ := shares.trustedKey found
  refine bind_eq_ok_iff.mpr ⟨signed, isSigned, bind_eq_ok_iff.mpr ⟨otherRecord,
    trustedPublicKeyRecordForSignedObject_eq_ok_iff.mpr ⟨validId, otherFound⟩, ?_⟩⟩
  rw [sameEpoch]
  exact valid

theorem SharesMembership.openTrustedSignedEncryptedSyncPayload
    (shares : SharesMembership profile db other) {domain objectKind : String}
    {payload : List Nat}
    (opened : db.openTrustedSignedEncryptedSyncPayload scheme bytes contentKey profile domain
      objectKind keyId = .ok payload) :
    other.openTrustedSignedEncryptedSyncPayload scheme bytes contentKey profile domain objectKind
      keyId = .ok payload := by
  obtain ⟨signed, isSigned, opened⟩ := bind_eq_ok_iff.mp opened
  obtain ⟨publicKey, trusted, opened⟩ := bind_eq_ok_iff.mp opened
  obtain ⟨validId, notProvider, record, found, rfl⟩ :=
    trustedProfileStatePublicKeyForSignedObject_eq_ok_iff.mp trusted
  obtain ⟨otherRecord, otherFound, sameKey, -⟩ := shares.trustedKey found
  exact bind_eq_ok_iff.mpr ⟨signed, isSigned, bind_eq_ok_iff.mpr ⟨record.publicKey,
    trustedProfileStatePublicKeyForSignedObject_eq_ok_iff.mpr
      ⟨validId, (shares.providers _).trans notProvider, otherRecord, otherFound, sameKey⟩,
    opened⟩⟩

theorem SharesMembership.openManifestSnapshot (shares : SharesMembership profile db other)
    {membershipEpoch : Int} {object : ProfileSyncObjectBytes}
    {verified : VerifiedProfileSyncSettingsSnapshot}
    (opened : db.openManifestSnapshot scheme contentKey profile keyId membershipEpoch object =
      .ok verified) :
    other.openManifestSnapshot scheme contentKey profile keyId membershipEpoch object =
      .ok verified := by
  obtain ⟨_, valid, opened⟩ := bind_eq_ok_iff.mp opened
  obtain ⟨snapshot, payloadOpened, opened⟩ := bind_eq_ok_iff.mp opened
  obtain ⟨payload, payloadOpened, decoded⟩ := bind_eq_ok_iff.mp payloadOpened
  exact bind_eq_ok_iff.mpr ⟨(), shares.validateSignedObjectMembershipEpoch valid,
    bind_eq_ok_iff.mpr ⟨snapshot, bind_eq_ok_iff.mpr ⟨payload,
      shares.openTrustedSignedEncryptedSyncPayload payloadOpened, decoded⟩, opened⟩⟩

end Membership

section Reception

/-- A receiver opens the head behind a root, its manifest, its snapshot and every tail change, and
may apply them. -/
def Receives (scheme : SyncObjectScheme) (profile rootId : String) (credentials : SyncCredentials)
    (store : ObjectStore) (receiver : SlateProfileDatabase) : Prop :=
  ∃ head objects,
    receiver.pullTrustedSignedProfileSyncDeviceHead scheme (store.source scheme) profile rootId
      credentials.contentKey credentials.keyId = .ok (some head) ∧
    receiver.pullTrustedSignedProfileSyncSettingsManifestObjectsFromDeviceHead scheme
      (store.source scheme) profile head credentials.contentKey credentials.keyId = .ok objects ∧
    validateSettingsManifestApplication objects.manifest objects.snapshot objects.tailChanges =
      .ok ()

/-- A head and what it names are stored, sealed with the credentials, the snapshot apart. -/
structure HeadStored (scheme : SyncObjectScheme) (profile rootId objectId : String)
    (head : ProfileSyncDeviceHead) (manifest : ProfileSyncManifest)
    (snapshot : ProfileSyncSettingsSnapshotPublication)
    (tail : List ProfileSyncSettingsTailChangePublication) (credentials : SyncCredentials)
    (store : ObjectStore) : Prop where
  resolved : store.resolveProfileSyncRoot profile rootId = some objectId
  headCarried : CarriesHead scheme profile objectId head credentials store
  headProfile : head.profile = profile
  headRoot : head.rootId = rootId
  schema : head.schemaVersion = profileSyncDeviceHeadSchemaVersion
  ofDevice : head.deviceId = credentials.signer.deviceId
  epoch : head.membershipEpoch = defaultProfileSyncMembershipEpoch
  frontier : validateProfileSyncDeviceHeadManifest head manifest = .ok ()
  manifestCarried : CarriesManifest scheme profile head.latestManifestObjectId manifest credentials
    store
  built : ∃ settingsRootId retentionPolicy,
    settingsSyncManifestForSnapshotAndTailChanges profile settingsRootId snapshot tail
      retentionPolicy = .ok manifest
  tailCarried : ∀ change ∈ tail, CarriesChange scheme profile change.objectId
    change.change.content credentials store

variable {scheme : SyncObjectScheme} {profile rootId objectId : String}
  {head : ProfileSyncDeviceHead} {manifest : ProfileSyncManifest}
  {snapshot : ProfileSyncSettingsSnapshotPublication}
  {tail : List ProfileSyncSettingsTailChangePublication} {credentials : SyncCredentials}
  {store : ObjectStore} {receiver : SlateProfileDatabase}

theorem fetchTrustedProfileSyncObject_eq_ok_iff {object : ProfileSyncObjectBytes} :
    fetchTrustedProfileSyncObject (store.source scheme) profile objectId = .ok object ↔
      object.objectId = objectId ∧ store.find scheme profile objectId = some object.bytes := by
  unfold fetchTrustedProfileSyncObject
  simp only [bind_eq_ok_iff, mapError_eq_ok_iff]
  constructor
  · rintro ⟨found, got, fetched⟩
    obtain ⟨-, fetched⟩ := check_then_eq_ok_iff.mp fetched
    obtain rfl := Except.ok.inj fetched
    exact ObjectStore.getProfileSyncObject_eq_ok_iff.mp got
  · intro stored
    refine ⟨object, ObjectStore.getProfileSyncObject_eq_ok_iff.mpr stored, ?_⟩
    exact check_then_eq_ok_iff.mpr ⟨not_not.mpr stored.1, rfl⟩

/-- The stored head opens for those who accept its signer at the first epoch, and is the head. -/
theorem HeadStored.pullHead_iff (lawful : scheme.Lawful)
    (stored : HeadStored scheme profile rootId objectId head manifest snapshot tail credentials
      store) {pulled : VerifiedProfileSyncDeviceHead} :
    receiver.pullTrustedSignedProfileSyncDeviceHead scheme (store.source scheme) profile rootId
        credentials.contentKey credentials.keyId = .ok (some pulled) ↔
      AcceptsSigner profile (credentials.signer.publicKey scheme)
          defaultProfileSyncMembershipEpoch receiver ∧
        pulled = { objectId, deviceHead := head } := by
  obtain ⟨drawn, found⟩ := stored.headCarried
  have opens := @openTrustedSignedProfileSyncDeviceHead_sealed scheme profile credentials drawn
    receiver lawful head
  rw [stored.epoch] at opens
  constructor
  · intro h
    obtain ⟨resolved, -, bytes, bytesFound, opened⟩ :=
      pullTrustedSignedProfileSyncDeviceHead_eq_ok h
    obtain rfl := Option.some.inj (stored.resolved.symm.trans resolved)
    obtain rfl := Option.some.inj (found.symm.trans bytesFound)
    obtain ⟨accepts, isHead⟩ :=
      (opens stored.headProfile stored.schema stored.ofDevice).mp opened
    refine ⟨accepts, ?_⟩
    rw [← isHead]
  · rintro ⟨accepts, rfl⟩
    have opened := (opens stored.headProfile stored.schema stored.ofDevice).mpr ⟨accepts, rfl⟩
    have isRoot : validateProfileSyncDeviceHeadRoot head rootId = .ok () := if_pos stored.headRoot
    unfold pullTrustedSignedProfileSyncDeviceHead
    refine bind_eq_ok_iff.mpr ⟨some objectId,
      mapError_eq_ok_iff.mpr (congrArg Except.ok stored.resolved), ?_⟩
    refine bind_eq_ok_iff.mpr
      ⟨⟨objectId, _⟩, fetchTrustedProfileSyncObject_eq_ok_iff.mpr ⟨rfl, found⟩, ?_⟩
    refine bind_eq_ok_iff.mpr ⟨head, mapError_eq_ok_iff.mpr opened, ?_⟩
    exact bind_eq_ok_iff.mpr ⟨(), mapError_eq_ok_iff.mpr isRoot, rfl⟩

/-- Carried tail changes are fetched and opened by those who accept their signer. -/
theorem exists_verifiedTail (lawful : scheme.Lawful) {membershipEpoch : Int}
    (accepts : AcceptsSigner profile (credentials.signer.publicKey scheme) membershipEpoch receiver)
    (ofProfile : ∀ publication ∈ tail, publication.change.profile = profile)
    (carried : ∀ publication ∈ tail, CarriesChange scheme profile publication.objectId
      publication.change.content credentials store) :
    ∃ objects,
      (tail.map (·.objectId)).mapM (fetchTrustedProfileSyncObject (store.source scheme) profile) =
        .ok objects ∧
      objects.mapM (receiver.openManifestTailChange scheme credentials.contentKey profile
        credentials.keyId membershipEpoch) = .ok (tail.map verifiedTailChange) := by
  induction tail with
  | nil => exact ⟨[], rfl, rfl⟩
  | cons first rest inductionHypothesis =>
      obtain ⟨ofFirst, ofRest⟩ := List.forall_mem_cons.mp ofProfile
      obtain ⟨⟨drawn, found⟩, carriedRest⟩ := List.forall_mem_cons.mp carried
      obtain ⟨objects, fetched, opened⟩ := inductionHypothesis ofRest carriedRest
      have isFetched := (@fetchTrustedProfileSyncObject_eq_ok_iff scheme profile first.objectId store
        ⟨first.objectId, _⟩).mpr ⟨rfl, found⟩
      have isOpened := @openManifestTailChange_sealed scheme profile credentials drawn receiver lawful
        first.change.content ofFirst first.objectId membershipEpoch accepts
      exact ⟨_, mapM_eq_ok_iff.mpr (.cons isFetched (mapM_eq_ok_iff.mp fetched)),
        mapM_eq_ok_iff.mpr (.cons isOpened (mapM_eq_ok_iff.mp opened))⟩

/-- For those who accept the signer, only the snapshot is left to open. -/
theorem HeadStored.pullObjects_iff (lawful : scheme.Lawful)
    (stored : HeadStored scheme profile rootId objectId head manifest snapshot tail credentials
      store)
    (accepts : AcceptsSigner profile (credentials.signer.publicKey scheme)
      defaultProfileSyncMembershipEpoch receiver)
    {objects : VerifiedProfileSyncSettingsManifestObjects} :
    receiver.pullTrustedSignedProfileSyncSettingsManifestObjectsFromDeviceHead scheme
        (store.source scheme) profile { objectId, deviceHead := head } credentials.contentKey
        credentials.keyId = .ok objects ↔
      ∃ bytes verified, store.find scheme profile snapshot.objectId = some bytes ∧
        receiver.openManifestSnapshot scheme credentials.contentKey profile credentials.keyId
          defaultProfileSyncMembershipEpoch { objectId := snapshot.objectId, bytes } =
            .ok verified ∧
        objects =
          { manifestObjectId := head.latestManifestObjectId, manifest, snapshot := some verified
            tailChanges := tail.map verifiedTailChange } := by
  obtain ⟨settingsRootId, retentionPolicy, built⟩ := stored.built
  obtain ⟨-, -, tailValid, isManifest⟩ := settingsSyncManifest_eq_ok_iff.mp built
  have epoch : manifest.membershipEpoch = defaultProfileSyncMembershipEpoch := by rw [isManifest]
  have namesSnapshot : manifest.currentSnapshotObjectId = some snapshot.objectId := by
    rw [isManifest]
  have namesTail : manifest.tailChangeObjectIds = tail.map (·.objectId) := by rw [isManifest]
  obtain ⟨drawn, found⟩ := stored.manifestCarried
  obtain ⟨tailObjects, tailFetched, tailOpened⟩ := exists_verifiedTail lawful accepts
    (fun publication membership => (tailValid publication membership).2.1) stored.tailCarried
  obtain ⟨notProvider, trusted, trustedEpoch⟩ := acceptsSigner_iff.mp accepts
  have manifestFetched := (@fetchTrustedProfileSyncObject_eq_ok_iff scheme profile
    head.latestManifestObjectId store ⟨head.latestManifestObjectId, _⟩).mpr ⟨rfl, found⟩
  have manifestOpened := (@openTrustedSignedProfileSyncManifest_sealed scheme profile credentials
    drawn receiver lawful manifest manifest).mpr ⟨notProvider, trusted, rfl⟩
  have manifestEpoch := (@validateSignedObjectMembershipEpoch_sealed scheme profile
    syncDomainSettings profileSyncManifestObjectKind (scheme.manifest.toBytes manifest) credentials
    drawn receiver lawful manifest.membershipEpoch).mpr (epoch ▸ trustedEpoch)
  unfold pullTrustedSignedProfileSyncSettingsManifestObjectsFromDeviceHead
  constructor
  · intro pulled
    obtain ⟨-, pulled⟩ := check_then_eq_ok_iff.mp pulled
    obtain ⟨manifestObject, isFetched, pulled⟩ := bind_eq_ok_iff.mp pulled
    obtain rfl := Except.ok.inj (manifestFetched.symm.trans isFetched)
    obtain ⟨opened, isOpened, pulled⟩ := bind_eq_ok_iff.mp pulled
    obtain rfl := Except.ok.inj (manifestOpened.symm.trans (mapError_eq_ok_iff.mp isOpened))
    obtain ⟨snapshotObject, snapshotFetched, pulled⟩ := bind_eq_ok_iff.mp pulled
    rw [namesSnapshot, Option.mapM_some] at snapshotFetched
    obtain ⟨⟨snapshotId, bytes⟩, fetched, rfl⟩ := map_eq_ok_iff.mp snapshotFetched
    obtain ⟨rfl, bytesFound⟩ := fetchTrustedProfileSyncObject_eq_ok_iff.mp fetched
    obtain ⟨fetchedTail, isFetchedTail, pulled⟩ := bind_eq_ok_iff.mp pulled
    rw [namesTail] at isFetchedTail
    obtain rfl := Except.ok.inj (tailFetched.symm.trans isFetchedTail)
    obtain ⟨openedObjects, isOpenedObjects, pulled⟩ := bind_eq_ok_iff.mp pulled
    obtain ⟨_, -, pulled⟩ := bind_eq_ok_iff.mp pulled
    obtain rfl := Except.ok.inj pulled
    have isOpenedObjects := mapError_eq_ok_iff.mp isOpenedObjects
    obtain ⟨again, isOpenedAgain, rest⟩ := bind_eq_ok_iff.mp isOpenedObjects
    obtain rfl := Except.ok.inj (manifestOpened.symm.trans isOpenedAgain)
    obtain ⟨_, -, rest⟩ := bind_eq_ok_iff.mp rest
    obtain ⟨openedSnapshot, snapshotOpened, rest⟩ := bind_eq_ok_iff.mp rest
    obtain ⟨verified, verifiedOpened, rfl⟩ := map_eq_ok_iff.mp snapshotOpened
    obtain ⟨openedChanges, changesOpened, rest⟩ := bind_eq_ok_iff.mp rest
    rw [epoch] at changesOpened verifiedOpened
    obtain rfl := Except.ok.inj (tailOpened.symm.trans changesOpened)
    exact ⟨bytes, verified, bytesFound, verifiedOpened, (Except.ok.inj rest).symm⟩
  · rintro ⟨bytes, verified, bytesFound, snapshotOpened, rfl⟩
    have snapshotFetched := (@fetchTrustedProfileSyncObject_eq_ok_iff scheme profile
      snapshot.objectId store ⟨snapshot.objectId, bytes⟩).mpr ⟨rfl, bytesFound⟩
    refine check_then_eq_ok_iff.mpr ⟨not_not.mpr stored.headProfile, ?_⟩
    refine bind_eq_ok_iff.mpr ⟨_, manifestFetched, ?_⟩
    refine bind_eq_ok_iff.mpr ⟨_, mapError_eq_ok_iff.mpr manifestOpened, ?_⟩
    rw [namesSnapshot, Option.mapM_some, namesTail]
    refine bind_eq_ok_iff.mpr ⟨_, map_eq_ok_iff.mpr ⟨_, snapshotFetched, rfl⟩, ?_⟩
    refine bind_eq_ok_iff.mpr ⟨_, tailFetched, ?_⟩
    refine bind_eq_ok_iff.mpr
      ⟨{ manifestObjectId := head.latestManifestObjectId, manifest, snapshot := some verified
         tailChanges := tail.map verifiedTailChange }, mapError_eq_ok_iff.mpr ?_, ?_⟩
    · refine bind_eq_ok_iff.mpr ⟨_, manifestOpened, bind_eq_ok_iff.mpr ⟨(), manifestEpoch, ?_⟩⟩
      rw [epoch]
      exact bind_eq_ok_iff.mpr ⟨_, map_eq_ok_iff.mpr ⟨_, snapshotOpened, rfl⟩,
        bind_eq_ok_iff.mpr ⟨_, tailOpened, rfl⟩⟩
    · exact bind_eq_ok_iff.mpr ⟨(), mapError_eq_ok_iff.mpr stored.frontier, rfl⟩

theorem objectId_of_openManifestSnapshot {membershipEpoch : Int} {object : ProfileSyncObjectBytes}
    {contentKey : List Nat} {keyId : String} {verified : VerifiedProfileSyncSettingsSnapshot}
    (opened : receiver.openManifestSnapshot scheme contentKey profile keyId membershipEpoch object =
      .ok verified) : verified.objectId = object.objectId := by
  obtain ⟨_, -, opened⟩ := bind_eq_ok_iff.mp opened
  obtain ⟨_, -, opened⟩ := bind_eq_ok_iff.mp opened
  rw [← Except.ok.inj opened]

/-- Only the snapshot can keep a built manifest of a named profile from being applied. -/
theorem validate_builtManifest_iff_current {settingsRootId : String}
    {published : Option ProfileSyncSettingsSnapshotPublication}
    {retentionPolicy : ProfileSyncRetentionPolicy}
    {opened : Option VerifiedProfileSyncSettingsSnapshot}
    (buildable : Buildable profile settingsRootId published tail) :
    validateSettingsManifestApplication
        (builtManifest profile settingsRootId published tail retentionPolicy) opened
        (tail.map verifiedTailChange) = .ok () ↔
      profile ≠ "" ∧ validateCurrentSnapshot
        (builtManifest profile settingsRootId published tail retentionPolicy) opened = .ok () := by
  rw [validateSettingsManifestApplication_eq_ok_iff]
  have tails : ∀ change ∈ tail.map verifiedTailChange,
      change.change.profile = profile ∧ change.change.domain ∈
        (builtManifest profile settingsRootId published tail retentionPolicy).includedDomains := by
    intro change isVerified
    obtain ⟨publication, isPublished, rfl⟩ := List.mem_map.mp isVerified
    exact ⟨(buildable.tailValid publication isPublished).2.1,
      mem_builtManifest_includedDomains.mpr (.inr ⟨publication, isPublished, rfl⟩)⟩
  have ids : (tail.map verifiedTailChange).map (·.objectId) = tail.map (·.objectId) := by
    rw [List.map_map]
    rfl
  constructor
  · rintro ⟨-, hasProfile, -, valid, -⟩
    exact ⟨hasProfile, valid⟩
  · rintro ⟨hasProfile, valid⟩
    exact ⟨rfl, hasProfile, buildable.hasRootId, valid, ids, tails⟩

/-- The stored manifest may be applied with a snapshot of the profile whose domains it names. -/
theorem HeadStored.validate_iff
    (stored : HeadStored scheme profile rootId objectId head manifest snapshot tail credentials
      store) {verified : VerifiedProfileSyncSettingsSnapshot}
    (sameId : verified.objectId = snapshot.objectId) :
    validateSettingsManifestApplication manifest (some verified) (tail.map verifiedTailChange) =
        .ok () ↔
      profile ≠ "" ∧ verified.snapshot.profile = profile ∧
        ∀ domain ∈ verified.snapshot.includedDomains, domain ∈ manifest.includedDomains := by
  obtain ⟨settingsRootId, retentionPolicy, built⟩ := stored.built
  have built : buildSettingsManifest profile settingsRootId (some snapshot) tail retentionPolicy =
    .ok manifest := built
  obtain ⟨buildable, rfl⟩ := buildSettingsManifest_eq_ok_iff.mp built
  have named : validateCurrentSnapshot
      (builtManifest profile settingsRootId (some snapshot) tail retentionPolicy) (some verified) =
    validateManifestSnapshot
      (builtManifest profile settingsRootId (some snapshot) tail retentionPolicy) verified :=
    if_pos sameId.symm
  rw [validate_builtManifest_iff_current buildable, named, validateManifestSnapshot_eq_ok_iff]
  exact Iff.rfl

/-- A stored head is received by those who accept its signer at the first epoch, if they open the
snapshot and it fits the manifest. -/
theorem HeadStored.receives_iff (lawful : scheme.Lawful)
    (stored : HeadStored scheme profile rootId objectId head manifest snapshot tail credentials
      store) :
    Receives scheme profile rootId credentials store receiver ↔
      AcceptsSigner profile (credentials.signer.publicKey scheme)
          defaultProfileSyncMembershipEpoch receiver ∧
        profile ≠ "" ∧ ∃ bytes verified, store.find scheme profile snapshot.objectId = some bytes ∧
          receiver.openManifestSnapshot scheme credentials.contentKey profile credentials.keyId
            defaultProfileSyncMembershipEpoch { objectId := snapshot.objectId, bytes } =
              .ok verified ∧
          verified.snapshot.profile = profile ∧
          ∀ domain ∈ verified.snapshot.includedDomains, domain ∈ manifest.includedDomains := by
  constructor
  · rintro ⟨pulled, objects, headPulled, objectsPulled, valid⟩
    obtain ⟨accepts, rfl⟩ := (stored.pullHead_iff lawful).mp headPulled
    obtain ⟨bytes, verified, found, opened, rfl⟩ :=
      (stored.pullObjects_iff lawful accepts).mp objectsPulled
    have sameId := objectId_of_openManifestSnapshot opened
    obtain ⟨hasProfile, ofProfile, included⟩ := (stored.validate_iff sameId).mp valid
    exact ⟨accepts, hasProfile, bytes, verified, found, opened, ofProfile, included⟩
  · rintro ⟨accepts, hasProfile, bytes, verified, found, opened, ofProfile, included⟩
    have sameId := objectId_of_openManifestSnapshot opened
    exact ⟨_, _, (stored.pullHead_iff lawful).mpr ⟨accepts, rfl⟩,
      (stored.pullObjects_iff lawful accepts).mpr ⟨bytes, verified, found, opened, rfl⟩,
      (stored.validate_iff sameId).mpr ⟨hasProfile, ofProfile, included⟩⟩

end Reception

section HeadChanges

theorem laterHeadChange_spec (first second : SyncChangeRecord) :
    (laterHeadChange first second = first ∨ laterHeadChange first second = second) ∧
      first.deviceSequence ≤ (laterHeadChange first second).deviceSequence ∧
      second.deviceSequence ≤ (laterHeadChange first second).deviceSequence := by
  unfold laterHeadChange
  split
  · exact ⟨.inl rfl, le_rfl, by omega⟩
  · exact ⟨.inr rfl, by omega, le_rfl⟩

theorem foldl_laterHeadChange (first : SyncChangeRecord) (rest : List SyncChangeRecord) :
    rest.foldl laterHeadChange first ∈ first :: rest ∧
      ∀ change ∈ first :: rest,
        change.deviceSequence ≤ (rest.foldl laterHeadChange first).deviceSequence := by
  induction rest generalizing first with
  | nil => simp
  | cons next rest inductionHypothesis =>
      obtain ⟨isOne, atMost⟩ := inductionHypothesis (laterHeadChange first next)
      obtain ⟨ofLater, ofRest⟩ := List.forall_mem_cons.mp atMost
      obtain ⟨isEither, leFirst, leNext⟩ := laterHeadChange_spec first next
      refine ⟨?_, List.forall_mem_cons.mpr
        ⟨leFirst.trans ofLater, List.forall_mem_cons.mpr ⟨leNext.trans ofLater, ofRest⟩⟩⟩
      rw [List.foldl_cons, List.mem_cons, List.mem_cons]
      rcases List.mem_cons.mp isOne with same | isRest
      · rw [same]
        exact isEither.imp_right .inl
      · exact .inr (.inr isRest)

/-- The change of a head has the largest sequence of its device. -/
theorem isGreatest_latestLocalDeviceChangeForHead {deviceId : String}
    {changes : List SyncChangeRecord} {headChange : SyncChangeRecord}
    (isHead : latestLocalDeviceChangeForHead deviceId changes = some headChange) :
    IsGreatest {sequence | ∃ change ∈ changes,
      change.deviceId = deviceId ∧ change.deviceSequence = sequence}
      headChange.deviceSequence := by
  unfold latestLocalDeviceChangeForHead at isHead
  have local_iff : ∀ change, change ∈ changes.filter (fun change => change.deviceId == deviceId) ↔
      change ∈ changes ∧ change.deviceId = deviceId := by
    intro change
    rw [List.mem_filter, beq_iff_eq]
  split at isHead
  · cases isHead
  next first rest kept =>
    rw [kept] at local_iff
    obtain ⟨isOne, atMost⟩ := foldl_laterHeadChange first rest
    rw [Option.some.inj isHead] at isOne atMost
    obtain ⟨isChange, ofDevice⟩ := (local_iff headChange).mp isOne
    refine ⟨⟨headChange, isChange, ofDevice, rfl⟩, ?_⟩
    rintro sequence ⟨change, isOther, otherDevice, rfl⟩
    exact atMost change ((local_iff change).mpr ⟨isOther, otherDevice⟩)

/-- Without a tail, the frontier of the device is at its head change and names no object. -/
theorem frontier_of_coveredChanges {deviceId : String} {coveredChanges : List SyncChangeRecord}
    {headChange : SyncChangeRecord}
    (isHead : latestLocalDeviceChangeForHead deviceId coveredChanges = some headChange) :
    ∃ frontier, ((manifestFrontiers coveredChanges []).insertionSort
        fun left right => left.deviceId ≤ right.deviceId).find?
          (fun frontier => frontier.deviceId == deviceId) = some frontier ∧
      frontier.latestSequence = headChange.deviceSequence ∧
      frontier.latestChangeObjectId = none := by
  have greatest := isGreatest_latestLocalDeviceChangeForHead isHead
  have published : publishedChanges coveredChanges [] = coveredChanges := List.append_nil _
  have frontiers := fun sequence =>
    @isGreatest_iff_mem_manifestFrontiers coveredChanges [] deviceId sequence
  simp only [published] at frontiers
  obtain ⟨kept, isKept, keptDevice, -⟩ := (frontiers _).mpr greatest
  cases found : ((manifestFrontiers coveredChanges []).insertionSort
      fun left right => left.deviceId ≤ right.deviceId).find?
        (fun frontier => frontier.deviceId == deviceId) with
  | none =>
      have absent := List.find?_eq_none.mp found kept ((List.mem_insertionSort _).mpr isKept)
      exact absurd (beq_iff_eq.mpr keptDevice) absent
  | some frontier =>
      have isFrontier := (List.mem_insertionSort _).mp (List.mem_of_find?_eq_some found)
      have sameDevice := List.find?_some found
      have ofDevice : frontier.deviceId = deviceId := beq_iff_eq.mp sameDevice
      refine ⟨frontier, rfl, ?_, ?_⟩
      · exact ((frontiers _).mp ⟨frontier, isFrontier, ofDevice, rfl⟩).unique greatest
      · rw [manifestFrontiers_eq] at isFrontier
        obtain ⟨isOfDevice, -⟩ := LatestRows.isLast_of_mem_putAll isFrontier
        have isPublished := (LatestRows.mem_ofKey_iff.mp isOfDevice).1
        rw [publishedFrontiers, List.map_nil, List.append_nil] at isPublished
        obtain ⟨change, -, rfl⟩ := List.mem_map.mp isPublished
        rfl

theorem validateProfileSyncDeviceHeadManifest_of_find {head : ProfileSyncDeviceHead}
    {manifest : ProfileSyncManifest} {frontier : ProfileSyncDeviceFrontier}
    (epoch : manifest.membershipEpoch = head.membershipEpoch)
    (found : manifest.deviceFrontiers.find? (fun frontier => frontier.deviceId == head.deviceId) =
      some frontier)
    (sequence : frontier.latestSequence = head.deviceSequence)
    (objectId : frontier.latestChangeObjectId = head.latestChangeObjectId) :
    validateProfileSyncDeviceHeadManifest head manifest = .ok () := by
  unfold validateProfileSyncDeviceHeadManifest
  refine check_then_eq_ok_iff.mpr ⟨not_not.mpr epoch, ?_⟩
  rw [found]
  exact if_neg (by simp [sequence, objectId])

end HeadChanges

section Publishers

variable {scheme : SyncObjectScheme} {profile rootId settingsRootId : String}
  {credentials : SyncCredentials} {retentionPolicy : ProfileSyncRetentionPolicy} {now : Int}
  {state final : SyncState} {receiver : SlateProfileDatabase}
  {published : PublishedLocalSettingsHead}

theorem validateDeviceHeadForPublish_eq_ok_iff {head : ProfileSyncDeviceHead}
    {signer : ProfileSyncDeviceSigner} :
    validateDeviceHeadForPublish profile rootId head signer = .ok () ↔
      rootId ≠ "" ∧ head.profile = profile ∧ head.rootId = rootId ∧
        head.schemaVersion = profileSyncDeviceHeadSchemaVersion ∧
        head.deviceId = signer.deviceId ∧ head.latestManifestObjectId ≠ "" := by
  unfold validateDeviceHeadForPublish
  simp only [check_then_eq_ok_iff, check_eq_ok_iff, not_not, ne_eq]

/-- A head that is published behind its manifest is stored with what it names. -/
theorem headStored_of_published (lawful : scheme.Lawful) {snapshot : ProfileSyncSettingsSnapshot}
    {coveredChanges tailChanges : List SyncChangeRecord}
    {manifest : PublishedSettingsSnapshotManifest} {head : ProfileSyncDeviceHead}
    {deviceHead : PublishedProfileSyncDeviceHead} {store middle next : ObjectStore}
    (isPublished : ManifestPublished scheme profile settingsRootId snapshot coveredChanges
      tailChanges credentials retentionPolicy manifest store middle)
    (headPublished : publishSignedProfileSyncDeviceHead scheme profile rootId head credentials
      middle = .ok (deviceHead, next))
    (ofManifest : head.latestManifestObjectId = manifest.manifestObjectId)
    (epoch : head.membershipEpoch = defaultProfileSyncMembershipEpoch)
    (frontier : validateProfileSyncDeviceHeadManifest head manifest.manifest = .ok ()) :
    ∃ tail : List ProfileSyncSettingsTailChangePublication,
      tail.map (·.change) = tailChanges ∧
      HeadStored scheme profile deviceHead.rootId deviceHead.objectId deviceHead.deviceHead
        manifest.manifest { objectId := manifest.snapshotObjectId, snapshot, coveredChanges } tail
        credentials next := by
  obtain ⟨tail, sameChanges, tailCarried, built⟩ := isPublished.tail
  obtain ⟨_, valid, -⟩ := bind_eq_ok_iff.mp headPublished
  obtain ⟨-, ofProfile, ofRoot, schema, ofDevice, -⟩ :=
    validateDeviceHeadForPublish_eq_ok_iff.mp valid
  obtain ⟨grown, sameRoot, sameHead, roots, carried⟩ :=
    publishSignedProfileSyncDeviceHead_spec lawful headPublished
  refine ⟨tail, sameChanges, ?_⟩
  rw [sameRoot, sameHead]
  exact
    { resolved := by
        rw [ObjectStore.resolveProfileSyncRoot, roots]
        exact ObjectStore.resolveProfileSyncRoot_publishRoot rootId
      headCarried := carried
      headProfile := ofProfile
      headRoot := ofRoot
      schema
      ofDevice
      epoch
      frontier
      manifestCarried := ofManifest ▸ isPublished.carried.extends lawful grown
      built := ⟨settingsRootId, retentionPolicy, built⟩
      tailCarried := fun change membership => (tailCarried change membership).extends lawful grown }

/-- A full snapshot is stored with its head, and the snapshot with it. -/
theorem headStored_of_publishFull (lawful : scheme.Lawful)
    (h : publishFullLocalSettingsSnapshotHead scheme profile settingsRootId credentials
      retentionPolicy now state = .ok (some published, final)) :
    ∃ snapshot : ProfileSyncSettingsSnapshotPublication,
      (∃ domains, snapshot.snapshot.includedDomains = normalizedSnapshotDomains domains) ∧
      CarriesSnapshot scheme profile snapshot.objectId snapshot.snapshot credentials final.store ∧
      HeadStored scheme profile published.deviceHead.rootId published.deviceHead.objectId
        published.deviceHead.deviceHead published.publication.manifest snapshot [] credentials
        final.store := by
  rcases publishFullLocalSettingsSnapshotHead_cases h with
    ⟨none, -⟩ | ⟨_, headChange, snapshot, manifest, middle, deviceHead, _, found, -, isHead,
      isSnapshot, isPublished, headPublished, -⟩
  · cases none
  · obtain rfl := Option.some.inj found
    obtain ⟨snapshotCarried, isPublished⟩ :=
      publishSignedSettingsSnapshotManifest_spec lawful isPublished
    obtain ⟨grown, -⟩ := publishSignedProfileSyncDeviceHead_spec lawful headPublished
    obtain ⟨tail, noTail, -, built⟩ := isPublished.tail
    obtain rfl := List.map_eq_nil_iff.mp noTail
    obtain ⟨frontier, isFrontier, sequence, objectId⟩ := frontier_of_coveredChanges isHead
    have manifestIs := (settingsSyncManifest_eq_ok_iff.mp built).2.2.2
    have valid : validateProfileSyncDeviceHeadManifest
        { profile, deviceId := state.database.localSyncDeviceId
          rootId := settingsDeviceHeadRootId state.database.localSyncDeviceId
          schemaVersion := profileSyncDeviceHeadSchemaVersion
          membershipEpoch := defaultProfileSyncMembershipEpoch
          latestManifestObjectId := manifest.manifestObjectId
          latestChangeObjectId := none
          deviceSequence := headChange.deviceSequence
          logicalClock := headChange.logicalClock
          createdAt := headChange.createdAt } manifest.manifest = .ok () := by
      rw [manifestIs]
      exact validateProfileSyncDeviceHeadManifest_of_find rfl isFrontier sequence objectId
    obtain ⟨tail, noTail, stored⟩ :=
      headStored_of_published lawful isPublished headPublished rfl rfl valid
    obtain rfl := List.map_eq_nil_iff.mp noTail
    exact ⟨{ objectId := manifest.snapshotObjectId, snapshot, coveredChanges := _ },
      ⟨_, congrArg (·.includedDomains) isSnapshot⟩, snapshotCarried.extends lawful grown, stored⟩

theorem find_of_publishExisting {snapshotObjectId : String}
    {snapshot : ProfileSyncSettingsSnapshot} {coveredChanges tailChanges : List SyncChangeRecord}
    {manifest : PublishedSettingsSnapshotManifest} {store next : ObjectStore}
    (h : publishSignedExistingSettingsSnapshotManifest scheme profile rootId snapshotObjectId
      snapshot coveredChanges tailChanges credentials retentionPolicy store =
        .ok (manifest, next)) :
    ∃ bytes, store.find scheme profile snapshotObjectId = some bytes := by
  unfold publishSignedExistingSettingsSnapshotManifest at h
  obtain ⟨-, h⟩ := check_then_eq_ok_iff.mp h
  obtain ⟨_, -, h⟩ := bind_eq_ok_iff.mp h
  obtain ⟨_, -, h⟩ := bind_eq_ok_iff.mp h
  obtain ⟨_, -, h⟩ := bind_eq_ok_iff.mp h
  obtain ⟨_, retained, -⟩ := bind_eq_ok_iff.mp h
  exact ObjectStore.retainObject_eq_ok_iff.mp (mapError_eq_ok_iff.mp retained)

/-- A tail is stored with its head, behind the object of the latest recorded snapshot. -/
theorem headStored_of_publishTail (lawful : scheme.Lawful)
    (h : publishLocalSettingsTailHead scheme profile settingsRootId credentials retentionPolicy
      now state = .ok (some published, final)) :
    ∃ (record : SyncSnapshotRecord) (snapshot : ProfileSyncSettingsSnapshotPublication)
      (tail : List ProfileSyncSettingsTailChangePublication) (bytes : List Nat),
      state.database.latestSyncSnapshot profile = some record ∧
      record.backendObjectId = some snapshot.objectId ∧
      state.store.find scheme profile snapshot.objectId = some bytes ∧
      final.store.find scheme profile snapshot.objectId = some bytes ∧
      snapshot.snapshot.includedDomains = normalizedSnapshotDomains record.includedDomains ∧
      tail.map (·.change) = localChangesAfter profile record.coversRevision now state.database ∧
      HeadStored scheme profile published.deviceHead.rootId published.deviceHead.objectId
        published.deviceHead.deviceHead published.publication.manifest snapshot tail credentials
        final.store := by
  rcases publishLocalSettingsTailHead_cases h with
    ⟨none, -⟩ | ⟨record, snapshotObjectId, headChange, frontier, manifest, middle, deviceHead, _,
      found, isLatest, hasObject, -, isPublished, isFrontier, headPublished, -⟩
  · cases none
  · obtain rfl := Option.some.inj found
    obtain ⟨bytes, bytesFound⟩ := find_of_publishExisting isPublished
    obtain ⟨sameId, isPublished⟩ :=
      publishSignedExistingSettingsSnapshotManifest_spec lawful isPublished
    obtain ⟨grown, -⟩ := publishSignedProfileSyncDeviceHead_spec lawful headPublished
    obtain ⟨_, -, -, built⟩ := isPublished.tail
    have epoch : manifest.manifest.membershipEpoch = defaultProfileSyncMembershipEpoch := by
      rw [(settingsSyncManifest_eq_ok_iff.mp built).2.2.2]
    obtain ⟨tail, sameChanges, stored⟩ := headStored_of_published lawful isPublished headPublished
      rfl rfl (validateProfileSyncDeviceHeadManifest_of_find epoch isFrontier rfl rfl)
    refine ⟨record, _, tail, bytes, isLatest, ?_, ?_, ?_, rfl, sameChanges, stored⟩
    · rw [hasObject, sameId]
    · rw [sameId]
      exact bytesFound
    · rw [sameId]
      exact (isPublished.grown.trans grown).find lawful bytesFound

/-- The device's own key is from the first membership epoch, and the device is no provider. -/
structure PublishesAtFirstEpoch (profile deviceId : String) (db : SlateProfileDatabase) :
    Prop where
  hasProfile : profile ≠ ""
  firstEpoch : ∃ record, trustedKey profile deviceId db = some record ∧
    record.membershipEpoch ≤ defaultProfileSyncMembershipEpoch
  notProvider : isProvider profile deviceId db = false

/-- The object of the latest recorded snapshot opens with the credentials for the device itself,
and its domains are those of the record and of the tail. -/
structure OpensLatestSnapshot (scheme : SyncObjectScheme) (profile : String)
    (credentials : SyncCredentials) (now : Int) (state : SyncState) : Prop where
  opens : ∃ record objectId bytes verified,
    state.database.latestSyncSnapshot profile = some record ∧
    record.backendObjectId = some objectId ∧
    state.store.find scheme profile objectId = some bytes ∧
    state.database.openManifestSnapshot scheme credentials.contentKey profile credentials.keyId
      defaultProfileSyncMembershipEpoch { objectId, bytes } = .ok verified ∧
    verified.snapshot.profile = profile ∧
    ∀ domain ∈ verified.snapshot.includedDomains,
      (domain ∈ record.includedDomains ∧ domain ≠ "") ∨
        ∃ change ∈ localChangesAfter profile record.coversRevision now state.database,
          change.domain = domain

theorem trustedKey_of_validCredentials {db : SlateProfileDatabase}
    (valid : validateSettingsSyncCycleCredentials scheme profile credentials.keyId
      credentials.signer db = .ok ()) :
    ∃ record, trustedKey profile credentials.signer.deviceId db = some record ∧
      record.publicKey = credentials.signer.publicKey scheme := by
  unfold validateSettingsSyncCycleCredentials at valid
  obtain ⟨_, -, valid⟩ := bind_eq_ok_iff.mp valid
  obtain ⟨-, valid⟩ := check_then_eq_ok_iff.mp valid
  obtain ⟨-, valid⟩ := check_then_eq_ok_iff.mp valid
  obtain ⟨found, isFound, valid⟩ := bind_eq_ok_iff.mp valid
  have isFound := mapError_eq_ok_iff.mp isFound
  unfold syncDevicePublicKey at isFound
  split at isFound
  · cases found with
    | none => cases valid
    | some record =>
        obtain ⟨trusted, valid⟩ := check_then_eq_ok_iff.mp valid
        obtain ⟨sameKey, -⟩ := check_then_eq_ok_iff.mp valid
        exact ⟨record, trustedKey_eq_some_iff.mpr ⟨Except.ok.inj isFound, by simpa using trusted⟩,
          not_not.mp sameKey⟩
  · cases isFound

theorem acceptsSigner_iff_of_validCredentials
    (valid : validateSettingsSyncCycleCredentials scheme profile credentials.keyId
      credentials.signer state.database = .ok ())
    (shares : SharesMembership profile state.database receiver) :
    AcceptsSigner profile (credentials.signer.publicKey scheme) defaultProfileSyncMembershipEpoch
        receiver ∧ profile ≠ "" ↔
      PublishesAtFirstEpoch profile credentials.signer.deviceId state.database := by
  obtain ⟨record, found, isKey⟩ := trustedKey_of_validCredentials valid
  constructor
  · rintro ⟨accepts, hasProfile⟩
    obtain ⟨⟨own, ownFound, -, le⟩, notProvider⟩ := shares.symm.acceptsSigner accepts
    exact ⟨hasProfile, ⟨own, ownFound, le⟩, notProvider⟩
  · rintro ⟨hasProfile, ⟨own, ownFound, le⟩, notProvider⟩
    obtain rfl := Option.some.inj (found.symm.trans ownFound)
    exact ⟨shares.acceptsSigner ⟨⟨record, found, isKey, le⟩, notProvider⟩, hasProfile⟩

theorem full_snapshot_received_iff (lawful : scheme.Lawful)
    (valid : validateSettingsSyncCycleCredentials scheme profile credentials.keyId
      credentials.signer state.database = .ok ())
    (shares : SharesMembership profile state.database receiver)
    (h : publishFullLocalSettingsSnapshotHead scheme profile settingsRootId credentials
      retentionPolicy now state = .ok (some published, final)) :
    Receives scheme profile published.deviceHead.rootId credentials final.store receiver ↔
      PublishesAtFirstEpoch profile credentials.signer.deviceId state.database := by
  obtain ⟨snapshot, ⟨domains, normalized⟩, ⟨drawn, found⟩, stored⟩ :=
    headStored_of_publishFull lawful h
  rw [← acceptsSigner_iff_of_validCredentials valid shares, stored.receives_iff lawful]
  constructor
  · rintro ⟨accepts, hasProfile, -⟩
    exact ⟨accepts, hasProfile⟩
  · rintro ⟨accepts, hasProfile⟩
    obtain ⟨settingsRoot, policy, built⟩ := stored.built
    obtain ⟨⟨-, -, ofProfile, -⟩, -, -, isManifest⟩ := settingsSyncManifest_eq_ok_iff.mp built
    refine ⟨accepts, hasProfile, _, _, found, openManifestSnapshot_sealed lawful accepts,
      ofProfile, fun domain isIncluded => ?_⟩
    have notEmpty : domain ≠ "" := by
      rw [normalized] at isIncluded
      exact (mem_normalizedSnapshotDomains.mp isIncluded).2
    rw [isManifest, List.mem_insertionSort, List.mem_dedup]
    exact List.mem_append_left _ (mem_normalizedSnapshotDomains.mpr ⟨isIncluded, notEmpty⟩)

theorem tail_received_iff (lawful : scheme.Lawful)
    (valid : validateSettingsSyncCycleCredentials scheme profile credentials.keyId
      credentials.signer state.database = .ok ())
    (shares : SharesMembership profile state.database receiver)
    (h : publishLocalSettingsTailHead scheme profile settingsRootId credentials
      retentionPolicy now state = .ok (some published, final)) :
    Receives scheme profile published.deviceHead.rootId credentials final.store receiver ↔
      PublishesAtFirstEpoch profile credentials.signer.deviceId state.database ∧
        OpensLatestSnapshot scheme profile credentials now state := by
  obtain ⟨record, snapshot, tail, bytes, isLatest, hasObject, found, finalFound, normalized,
    sameChanges, stored⟩ := headStored_of_publishTail lawful h
  obtain ⟨settingsRoot, policy, built⟩ := stored.built
  have isManifest := (settingsSyncManifest_eq_ok_iff.mp built).2.2.2
  have domains : ∀ domain, domain ∈ published.publication.manifest.includedDomains ↔
      (domain ∈ record.includedDomains ∧ domain ≠ "") ∨
        ∃ change ∈ localChangesAfter profile record.coversRevision now state.database,
          change.domain = domain := by
    intro domain
    rw [isManifest, ← sameChanges]
    simp only [List.mem_insertionSort, List.mem_dedup, List.mem_append,
      mem_normalizedSnapshotDomains, normalized, List.mem_map, exists_exists_and_eq_and]
    tauto
  rw [← acceptsSigner_iff_of_validCredentials valid shares, stored.receives_iff lawful]
  constructor
  · rintro ⟨accepts, hasProfile, finalBytes, verified, isFound, opened, ofProfile, included⟩
    obtain rfl := Option.some.inj (finalFound.symm.trans isFound)
    refine ⟨⟨accepts, hasProfile⟩, ⟨record, snapshot.objectId, bytes, verified, isLatest,
      hasObject, found, shares.symm.openManifestSnapshot opened, ofProfile, ?_⟩⟩
    exact fun domain isIncluded => (domains domain).mp (included domain isIncluded)
  · rintro ⟨⟨accepts, hasProfile⟩, own, objectId, ownBytes, verified, ownLatest, ownObject,
      ownFound, opened, ofProfile, included⟩
    obtain rfl := Option.some.inj (isLatest.symm.trans ownLatest)
    obtain rfl := Option.some.inj (hasObject.symm.trans ownObject)
    obtain rfl := Option.some.inj (found.symm.trans ownFound)
    refine ⟨accepts, hasProfile, bytes, verified, finalFound, shares.openManifestSnapshot opened,
      ofProfile, ?_⟩
    exact fun domain isIncluded => (domains domain).mpr (included domain isIncluded)

/-- A receiver with the same membership records and content key receives every head that is
published, when the publisher's key is from the first epoch and, behind a tail, the snapshot that
is named again still opens. -/
theorem published_heads_received_iff (lawful : scheme.Lawful)
    (valid : validateSettingsSyncCycleCredentials scheme profile credentials.keyId
      credentials.signer state.database = .ok ())
    (shares : SharesMembership profile state.database receiver) :
    (publishFullLocalSettingsSnapshotHead scheme profile settingsRootId credentials
        retentionPolicy now state = .ok (some published, final) →
      (Receives scheme profile published.deviceHead.rootId credentials final.store receiver ↔
        PublishesAtFirstEpoch profile credentials.signer.deviceId state.database)) ∧
      (publishLocalSettingsTailHead scheme profile settingsRootId credentials retentionPolicy now
          state = .ok (some published, final) →
        (Receives scheme profile published.deviceHead.rootId credentials final.store receiver ↔
          PublishesAtFirstEpoch profile credentials.signer.deviceId state.database ∧
            OpensLatestSnapshot scheme profile credentials now state)) :=
  ⟨full_snapshot_received_iff lawful valid shares, tail_received_iff lawful valid shares⟩

end Publishers

section Sample

/-- The laptop of the household with the content key and a key from this membership epoch. -/
def epochLaptop (membershipEpoch : Int) : SlateProfileDatabase :=
  { householdDevice "laptop" with
    syncContentKeyEpochs := [householdKey]
    syncDevicePublicKeys := [⟨"default", ⟨"laptop", [7]⟩, membershipEpoch, true, 1, 1⟩] }

/-- A tablet that has applied the same membership records as the laptop. -/
def epochTablet (membershipEpoch : Int) : SlateProfileDatabase :=
  { epochLaptop membershipEpoch with localSyncDeviceId := "tablet" }

/-- The first write of the laptop, the snapshot it publishes then, and the state after that. -/
def laptopPublishes (membershipEpoch : Int) :
    Option (SlateProfileDatabase × PublishedLocalSettingsHead × SyncState) := do
  let (_, written) ← succeeded
    ((epochLaptop membershipEpoch).setSyncSettingText "default" "settings" "theme" "dark" 2)
  let (published, final) ← succeeded (publishFullLocalSettingsSnapshotHead plainScheme "default"
    "settings/latest" laptopCredentials {} 3 { database := written, store := {} })
  return (written, ← published, final)

theorem laptopPublishes_spec {membershipEpoch : Int} (isEpoch : membershipEpoch ∈ [1, 2]) :
    ∃ written published final,
      laptopPublishes membershipEpoch = some (written, published, final) ∧
      publishFullLocalSettingsSnapshotHead plainScheme "default" "settings/latest"
        laptopCredentials {} 3 { database := written, store := {} } = .ok (some published, final) ∧
      validateSettingsSyncCycleCredentials plainScheme "default" "key-1" laptopCredentials.signer
        written = .ok () ∧
      SharesMembership "default" written (epochTablet membershipEpoch) ∧
      (PublishesAtFirstEpoch "default" "laptop" written ↔ membershipEpoch = 1) := by
  have run : ∀ membershipEpoch ∈ [1, 2], (do
      let (written, _) ← laptopPublishes membershipEpoch
      guard (validateSettingsSyncCycleCredentials plainScheme "default" "key-1"
        laptopCredentials.signer written = .ok ())
      guard (written.syncDevicePublicKeys = (epochTablet membershipEpoch).syncDevicePublicKeys)
      guard (written.syncDevices = []) : Option Unit).isSome = true := by
    decide +kernel
  have run := run membershipEpoch isEpoch
  simp only [Option.isSome_iff_exists, Option.bind_eq_bind, Option.bind_eq_some_iff,
    Option.guard_eq_some', exists_const] at run
  obtain ⟨⟨written, published, final⟩, isRun, valid, sameKeys, noDevices⟩ := run
  refine ⟨written, published, final, isRun, ?_, valid,
    @sharesMembership_of_tables "default" written (epochTablet membershipEpoch) sameKeys.symm
      noDevices.symm, ?_⟩
  · simp only [laptopPublishes, Option.bind_eq_bind, Option.bind_eq_some_iff,
      succeeded_eq_some_iff] at isRun
    obtain ⟨⟨_, _⟩, -, ⟨_, _⟩, isPublished, _, rfl, same⟩ := isRun
    cases same
    exact isPublished
  · have isKey : trustedKey "default" "laptop" written =
        some ⟨"default", ⟨"laptop", [7]⟩, membershipEpoch, true, 1, 1⟩ := by
      rw [trustedKey, sameKeys]
      rfl
    constructor
    · rintro ⟨-, ⟨own, isOwn, le⟩, -⟩
      obtain rfl := Option.some.inj (isKey.symm.trans isOwn)
      rcases List.mem_cons.mp isEpoch with first | second
      · exact first
      · rw [List.mem_singleton.mp second] at le
        exact absurd le (by decide)
    · rintro rfl
      exact ⟨by decide, ⟨_, isKey, le_refl _⟩, by rw [isProvider, noDevices]; rfl⟩

/-- The laptop publishes its first snapshot under either epoch of its key, and the tablet receives
only that of the first one. -/
theorem laptop_snapshot_received :
    ∃ first second, laptopPublishes 1 = some first ∧ laptopPublishes 2 = some second ∧
      Receives plainScheme "default" first.2.1.deviceHead.rootId laptopCredentials first.2.2.store
        (epochTablet 1) ∧
      ¬ Receives plainScheme "default" second.2.1.deviceHead.rootId laptopCredentials
        second.2.2.store (epochTablet 2) := by
  obtain ⟨_, _, _, first, isFirst, valid, shares, received⟩ :=
    @laptopPublishes_spec 1 (by decide)
  obtain ⟨_, _, _, second, isSecond, validSecond, sharesSecond, receivedSecond⟩ :=
    @laptopPublishes_spec 2 (by decide)
  refine ⟨_, _, first, second, ?_, fun isReceived => ?_⟩
  · exact ((published_heads_received_iff plainScheme_lawful valid shares).1 isFirst).mpr
      (received.mpr rfl)
  · have isOne := receivedSecond.mp
      (((published_heads_received_iff plainScheme_lawful validSecond sharesSecond).1 isSecond).mp
        isReceived)
    exact absurd isOne (by decide)

end Sample

end Slate.ProfileSync
