import Slate.Storage.Membership

/-!
# Opening trusted objects

An object is opened with the key of the device that signed it. The trusted variants take
that key from the database: it must be trusted, must not belong to a provider, and must
not be newer than the manifest the object comes with. Objects are fetched from a source
by id.
-/

namespace Slate.Storage

open Slate.Foundation

structure ProfileSyncObjectBytes where
  objectId : String
  bytes : List Nat
deriving DecidableEq, Repr

structure ProfileSyncRootCandidate where
  publisherId : String
  objectId : String
  publishSequence : Nat
deriving DecidableEq, Repr

def ProfileSyncRootCandidate.resolvedRoot (objectId : String) : ProfileSyncRootCandidate :=
  { publisherId := "resolved-root", objectId, publishSequence := 0 }

/-- Where roots are resolved and objects are fetched. A source that cannot list the
candidates of a root has the resolved one. -/
structure ProfileSyncObjectSource (SourceError : Type) where
  resolveProfileSyncRoot : String → String → Except SourceError (Option String)
  getProfileSyncObject : String → String → Except SourceError ProfileSyncObjectBytes
  listProfileSyncRootCandidates :
      String → String → Except SourceError (List ProfileSyncRootCandidate) :=
    fun profile rootId => (resolveProfileSyncRoot profile rootId).map fun objectId =>
      (objectId.map ProfileSyncRootCandidate.resolvedRoot).toList

structure VerifiedProfileSyncDeviceHead where
  objectId : String
  deviceHead : ProfileSyncDeviceHead
deriving DecidableEq, Repr

inductive ProfileSyncTrustedOpenError where
  | storage (error : StorageError)
  | syncObject (error : SyncObjectError)
  | untrustedDevice (profile deviceId : String)
  | providerAuthoritySigner (profile deviceId : String)
  | unauthorizedDeviceEpoch (profile deviceId : String)
      (keyMembershipEpoch manifestMembershipEpoch : Int)
deriving DecidableEq, Repr

inductive ProfileSyncTrustedPullError (SourceError : Type) where
  | source (error : SourceError)
  | open (error : ProfileSyncTrustedOpenError)
  | objectIdMismatch (expected actual : String)
deriving DecidableEq, Repr

inductive ProfileSyncTrustedPullApplyError (SourceError : Type) where
  | pull (error : ProfileSyncTrustedPullError SourceError)
  | storage (error : StorageError)
deriving DecidableEq, Repr

section Signed

variable (scheme : SyncObjectScheme)

def openSignedEncryptedSyncPayload (bytes contentKey : List Nat)
    (publicKey : ProfileSyncDevicePublicKey) (profile domain objectKind keyId : String) :
    Except SyncObjectError (List Nat) := do
  let signedObject ← SignedSyncObject.fromBytes scheme bytes
  let encryptedBytes ← signedObject.verifyWith scheme publicKey
  let encryptedObject ← EncryptedSyncObject.fromBytes scheme encryptedBytes
  encryptedObject.openExpected scheme contentKey profile domain objectKind keyId

def openSignedProfileSyncDeviceHead (bytes contentKey : List Nat)
    (publicKey : ProfileSyncDevicePublicKey) (profile keyId : String) :
    Except SyncObjectError ProfileSyncDeviceHead := do
  let payload ← openSignedEncryptedSyncPayload scheme bytes contentKey publicKey profile
    syncDomainSettings profileSyncDeviceHeadObjectKind keyId
  let deviceHead ← (scheme.deviceHead.fromBytes payload).mapError SyncObjectError.decode
  if deviceHead.schemaVersion ≠ profileSyncDeviceHeadSchemaVersion then
    throw (.unsupportedSchema profileSyncDeviceHeadObjectKind deviceHead.schemaVersion)
  if deviceHead.profile ≠ profile then
    throw (.unexpectedProfile profile deviceHead.profile)
  if deviceHead.deviceId ≠ publicKey.deviceId then
    throw (.deviceKeyMismatch publicKey.deviceId deviceHead.deviceId)
  pure deviceHead

end Signed

section Heads

def validateProfileSyncDeviceHeadRoot (deviceHead : ProfileSyncDeviceHead) (rootId : String) :
    Except SyncObjectError Unit :=
  if deviceHead.rootId = rootId then .ok ()
  else .error (.unexpectedRootId rootId deviceHead.rootId)

/-- The manifest's frontier of the head's device is the head. -/
def validateProfileSyncDeviceHeadManifest (deviceHead : ProfileSyncDeviceHead)
    (manifest : ProfileSyncManifest) : Except SyncObjectError Unit := do
  if manifest.membershipEpoch ≠ deviceHead.membershipEpoch then
    throw (.unexpectedDeviceHeadManifestEpoch deviceHead.deviceId deviceHead.membershipEpoch
      manifest.membershipEpoch)
  match manifest.deviceFrontiers.find? fun frontier =>
      frontier.deviceId == deviceHead.deviceId with
  | none => throw (.unexpectedDeviceFrontier deviceHead.deviceId deviceHead.deviceSequence
      none deviceHead.latestChangeObjectId none)
  | some frontier =>
      if frontier.latestSequence ≠ deviceHead.deviceSequence ∨
          frontier.latestChangeObjectId ≠ deviceHead.latestChangeObjectId then
        throw (.unexpectedDeviceFrontier deviceHead.deviceId deviceHead.deviceSequence
          (some frontier.latestSequence) deviceHead.latestChangeObjectId
          frontier.latestChangeObjectId)

end Heads

namespace SlateProfileDatabase

variable (scheme : SyncObjectScheme)

section Trust

def trustedPublicKeyRecordForSignedObject (profile : String)
    (signedObject : SignedSyncObject) (db : SlateProfileDatabase) :
    Except ProfileSyncTrustedOpenError SyncDevicePublicKeyRecord := do
  if !isValidSyncIdentifier signedObject.deviceId then
    throw (.syncObject (.invalidDeviceId signedObject.deviceId))
  match ← (db.syncDevicePublicKey profile signedObject.deviceId).mapError
      ProfileSyncTrustedOpenError.storage with
  | none => throw (.untrustedDevice profile signedObject.deviceId)
  | some record =>
      if !record.trusted then
        throw (.untrustedDevice profile signedObject.deviceId)
      pure record

def trustedProfileStatePublicKeyForSignedObject (profile : String)
    (signedObject : SignedSyncObject) (db : SlateProfileDatabase) :
    Except ProfileSyncTrustedOpenError ProfileSyncDevicePublicKey := do
  let record ← db.trustedPublicKeyRecordForSignedObject profile signedObject
  let providerAuthority ← (db.syncDeviceProviderAuthority profile
    signedObject.deviceId).mapError ProfileSyncTrustedOpenError.storage
  if providerAuthority then
    throw (.providerAuthoritySigner profile signedObject.deviceId)
  pure record.publicKey

def validateSignedObjectMembershipEpoch (bytes : List Nat) (profile : String)
    (manifestMembershipEpoch : Int) (db : SlateProfileDatabase) :
    Except ProfileSyncTrustedOpenError Unit := do
  let signedObject ← (SignedSyncObject.fromBytes scheme bytes).mapError
    ProfileSyncTrustedOpenError.syncObject
  let record ← db.trustedPublicKeyRecordForSignedObject profile signedObject
  if record.membershipEpoch > manifestMembershipEpoch then
    throw (.unauthorizedDeviceEpoch profile signedObject.deviceId record.membershipEpoch
      manifestMembershipEpoch)

end Trust

section Open

def openTrustedSignedEncryptedSyncPayload (bytes contentKey : List Nat)
    (profile domain objectKind keyId : String) (db : SlateProfileDatabase) :
    Except ProfileSyncTrustedOpenError (List Nat) := do
  let signedObject ← (SignedSyncObject.fromBytes scheme bytes).mapError
    ProfileSyncTrustedOpenError.syncObject
  let publicKey ← db.trustedProfileStatePublicKeyForSignedObject profile signedObject
  let encryptedBytes ← (signedObject.verifyWith scheme publicKey).mapError
    ProfileSyncTrustedOpenError.syncObject
  let encryptedObject ← (EncryptedSyncObject.fromBytes scheme encryptedBytes).mapError
    ProfileSyncTrustedOpenError.syncObject
  (encryptedObject.openExpected scheme contentKey profile domain objectKind keyId).mapError
    ProfileSyncTrustedOpenError.syncObject

def openTrustedSignedProfileSyncManifest (bytes contentKey : List Nat)
    (profile keyId : String) (db : SlateProfileDatabase) :
    Except ProfileSyncTrustedOpenError ProfileSyncManifest := do
  let payload ← db.openTrustedSignedEncryptedSyncPayload scheme bytes contentKey profile
    syncDomainSettings profileSyncManifestObjectKind keyId
  (scheme.manifest.fromBytes payload).mapError fun message => .syncObject (.decode message)

def openTrustedSignedProfileSyncDeviceHead (bytes contentKey : List Nat)
    (profile keyId : String) (db : SlateProfileDatabase) :
    Except ProfileSyncTrustedOpenError ProfileSyncDeviceHead := do
  let signedObject ← (SignedSyncObject.fromBytes scheme bytes).mapError
    ProfileSyncTrustedOpenError.syncObject
  let publicKey ← db.trustedProfileStatePublicKeyForSignedObject profile signedObject
  let deviceHead ← (openSignedProfileSyncDeviceHead scheme bytes contentKey publicKey profile
    keyId).mapError ProfileSyncTrustedOpenError.syncObject
  db.validateSignedObjectMembershipEpoch scheme bytes profile deviceHead.membershipEpoch
  pure deviceHead

def openTrustedSignedProfileSyncSettingsSnapshot (bytes contentKey : List Nat)
    (profile keyId : String) (db : SlateProfileDatabase) :
    Except ProfileSyncTrustedOpenError ProfileSyncSettingsSnapshot := do
  let payload ← db.openTrustedSignedEncryptedSyncPayload scheme bytes contentKey profile
    syncDomainSettings profileSyncSettingsSnapshotObjectKind keyId
  (scheme.snapshot.fromBytes payload).mapError fun message => .syncObject (.decode message)

/-- A change may be of any domain; its envelope must name the same one. -/
def openTrustedSignedSyncSettingTextForProfile (bytes contentKey : List Nat)
    (profile keyId : String) (db : SlateProfileDatabase) :
    Except ProfileSyncTrustedOpenError IncomingSyncSettingText := do
  let signedObject ← (SignedSyncObject.fromBytes scheme bytes).mapError
    ProfileSyncTrustedOpenError.syncObject
  let publicKey ← db.trustedProfileStatePublicKeyForSignedObject profile signedObject
  let encryptedBytes ← (signedObject.verifyWith scheme publicKey).mapError
    ProfileSyncTrustedOpenError.syncObject
  let encryptedObject ← (EncryptedSyncObject.fromBytes scheme encryptedBytes).mapError
    ProfileSyncTrustedOpenError.syncObject
  if encryptedObject.profile ≠ profile then
    throw (.syncObject (.unexpectedProfile profile encryptedObject.profile))
  if encryptedObject.objectKind ≠ profileSyncSettingChangeObjectKind then
    throw (.syncObject (.unexpectedObjectKind profileSyncSettingChangeObjectKind
      encryptedObject.objectKind))
  if encryptedObject.keyId ≠ keyId then
    throw (.syncObject (.unexpectedKeyId keyId encryptedObject.keyId))
  let payload ← (encryptedObject.openWith scheme contentKey).mapError
    ProfileSyncTrustedOpenError.syncObject
  let change ← (scheme.settingText.fromBytes payload).mapError fun message =>
    ProfileSyncTrustedOpenError.syncObject (.decode message)
  if change.profile ≠ encryptedObject.profile then
    throw (.syncObject (.unexpectedProfile encryptedObject.profile change.profile))
  if change.domain ≠ encryptedObject.domain then
    throw (.syncObject (.unexpectedDomain encryptedObject.domain change.domain))
  pure change

/-- The snapshot a manifest comes with; its signer must not be newer than the manifest. -/
def openManifestSnapshot (contentKey : List Nat) (profile keyId : String)
    (membershipEpoch : Int) (db : SlateProfileDatabase) (object : ProfileSyncObjectBytes) :
    Except ProfileSyncTrustedOpenError VerifiedProfileSyncSettingsSnapshot := do
  db.validateSignedObjectMembershipEpoch scheme object.bytes profile membershipEpoch
  let snapshot ← db.openTrustedSignedProfileSyncSettingsSnapshot scheme object.bytes
    contentKey profile keyId
  pure { objectId := object.objectId, snapshot }

def openManifestTailChange (contentKey : List Nat) (profile keyId : String)
    (membershipEpoch : Int) (db : SlateProfileDatabase) (object : ProfileSyncObjectBytes) :
    Except ProfileSyncTrustedOpenError VerifiedProfileSyncSettingsTailChange := do
  db.validateSignedObjectMembershipEpoch scheme object.bytes profile membershipEpoch
  let change ← db.openTrustedSignedSyncSettingTextForProfile scheme object.bytes contentKey
    profile keyId
  pure { objectId := object.objectId, change }

def openTrustedSignedProfileSyncSettingsManifestObjects
    (manifestObject : ProfileSyncObjectBytes) (snapshotObject : Option ProfileSyncObjectBytes)
    (tailChangeObjects : List ProfileSyncObjectBytes) (contentKey : List Nat)
    (profile keyId : String) (db : SlateProfileDatabase) :
    Except ProfileSyncTrustedOpenError VerifiedProfileSyncSettingsManifestObjects := do
  let manifest ← db.openTrustedSignedProfileSyncManifest scheme manifestObject.bytes contentKey
    profile keyId
  db.validateSignedObjectMembershipEpoch scheme manifestObject.bytes profile
    manifest.membershipEpoch
  let snapshot ← snapshotObject.mapM
    (db.openManifestSnapshot scheme contentKey profile keyId manifest.membershipEpoch)
  let tailChanges ← tailChangeObjects.mapM
    (db.openManifestTailChange scheme contentKey profile keyId manifest.membershipEpoch)
  pure { manifestObjectId := manifestObject.objectId, manifest, snapshot, tailChanges }

end Open

section Pull

variable {SourceError : Type}

def fetchTrustedProfileSyncObject (source : ProfileSyncObjectSource SourceError)
    (profile objectId : String) :
    Except (ProfileSyncTrustedPullError SourceError) ProfileSyncObjectBytes := do
  let object ← (source.getProfileSyncObject profile objectId).mapError
    ProfileSyncTrustedPullError.source
  if object.objectId ≠ objectId then
    throw (.objectIdMismatch objectId object.objectId)
  pure object

def pullTrustedSignedProfileSyncDeviceHead (source : ProfileSyncObjectSource SourceError)
    (profile rootId : String) (contentKey : List Nat) (keyId : String)
    (db : SlateProfileDatabase) :
    Except (ProfileSyncTrustedPullError SourceError) (Option VerifiedProfileSyncDeviceHead) := do
  match ← (source.resolveProfileSyncRoot profile rootId).mapError
      ProfileSyncTrustedPullError.source with
  | none => pure none
  | some deviceHeadObjectId =>
      let object ← fetchTrustedProfileSyncObject source profile deviceHeadObjectId
      let deviceHead ← (db.openTrustedSignedProfileSyncDeviceHead scheme object.bytes contentKey
        profile keyId).mapError ProfileSyncTrustedPullError.open
      (validateProfileSyncDeviceHeadRoot deviceHead rootId).mapError
        fun error => ProfileSyncTrustedPullError.open (.syncObject error)
      pure (some { objectId := object.objectId, deviceHead })

def pullTrustedSignedProfileSyncSettingsManifestObjectsFromDeviceHead
    (source : ProfileSyncObjectSource SourceError) (profile : String)
    (head : VerifiedProfileSyncDeviceHead) (contentKey : List Nat) (keyId : String)
    (db : SlateProfileDatabase) :
    Except (ProfileSyncTrustedPullError SourceError)
      VerifiedProfileSyncSettingsManifestObjects := do
  if head.deviceHead.profile ≠ profile then
    throw (.open (.syncObject (.unexpectedProfile profile head.deviceHead.profile)))
  let manifestObject ← fetchTrustedProfileSyncObject source profile
    head.deviceHead.latestManifestObjectId
  let manifest ← (db.openTrustedSignedProfileSyncManifest scheme manifestObject.bytes contentKey
    profile keyId).mapError ProfileSyncTrustedPullError.open
  let snapshotObject ← manifest.currentSnapshotObjectId.mapM
    (fetchTrustedProfileSyncObject source profile)
  let tailChangeObjects ← manifest.tailChangeObjectIds.mapM
    (fetchTrustedProfileSyncObject source profile)
  let objects ← (db.openTrustedSignedProfileSyncSettingsManifestObjects scheme manifestObject
    snapshotObject tailChangeObjects contentKey profile keyId).mapError
      ProfileSyncTrustedPullError.open
  (validateProfileSyncDeviceHeadManifest head.deviceHead objects.manifest).mapError
    fun error => ProfileSyncTrustedPullError.open (.syncObject error)
  pure objects

end Pull

end SlateProfileDatabase

end Slate.Storage
