import Slate.Foundation.Statements
import Slate.Storage.Publication
import Slate.Storage.SyncSecret

/-!
# Enrolling the local device with a secret

An activation registers the local device and the content key, and then applies the records
that enroll the account authority and the local device. Each of these commits on its own: a
record that is refused leaves what came before it.
-/

namespace Slate.Storage

open Slate.Foundation

structure SyncContentKeyEpochRegistration where
  profile : String
  keyId : String
  membershipEpoch : Int
  algorithm : String
  active : Bool
deriving DecidableEq, Repr

structure ProfileSyncLocalActivationRecord where
  profile : String
  deviceId : String
  contentKeyEpoch : SyncContentKeyEpochRecord
deriving DecidableEq, Repr

namespace SlateProfileDatabase

structure ProfileSyncLocalSecretActivationRecord where
  activation : ProfileSyncLocalActivationRecord
  accountAuthorityDeviceId : String
  localDeviceId : String
  membershipApplications : List SyncAccountMembershipRecordApplication
deriving DecidableEq, Repr

structure ProfileSyncSecretHandoffApplication where
  enrollmentApplications : List SyncAccountMembershipRecordApplication
  activation : ProfileSyncLocalSecretActivationRecord
deriving DecidableEq, Repr

structure ProfileSyncPreviewProviderActivationRecord where
  provider : StorageProviderRecord
  membershipApplication : SyncAccountMembershipRecordApplication
deriving DecidableEq, Repr

section ContentKeys

def contentKeyEpochKey (record : SyncContentKeyEpochRecord) : String × String :=
  (record.profile, record.keyId)

/-- The key epochs of a profile with none of them active. -/
def deactivateSyncContentKeyEpochs (profile : String) (now : Int) (db : SlateProfileDatabase) :
    SlateProfileDatabase :=
  { db with
    syncContentKeyEpochs := db.syncContentKeyEpochs.map fun record =>
      if record.profile = profile ∧ record.active then
        { record with active := false, updatedAt := now }
      else record }

def putSyncContentKeyEpoch (registration : SyncContentKeyEpochRegistration) (now : Int)
    (db : SlateProfileDatabase) : SlateProfileDatabase :=
  { db with
    syncContentKeyEpochs :=
      Rows.upsert contentKeyEpochKey
        (fun existing excluded =>
          { existing with
            membershipEpoch := excluded.membershipEpoch, algorithm := excluded.algorithm
            active := excluded.active, updatedAt := excluded.updatedAt })
        { profile := registration.profile, keyId := registration.keyId
          membershipEpoch := registration.membershipEpoch
          algorithm := registration.algorithm, active := registration.active
          createdAt := now, updatedAt := now }
        db.syncContentKeyEpochs }

def registerSyncContentKeyEpoch (registration : SyncContentKeyEpochRegistration) (now : Int)
    (db : SlateProfileDatabase) :
    Except StorageError (SyncContentKeyEpochRecord × SlateProfileDatabase) := do
  if !isValidSyncIdentifier registration.keyId then
    throw (.invalidSyncContentKeyId registration.keyId)
  let deactivated :=
    if registration.active then db.deactivateSyncContentKeyEpochs registration.profile now
    else db
  let db := deactivated.putSyncContentKeyEpoch registration now
  match Rows.lookup contentKeyEpochKey (registration.profile, registration.keyId)
      db.syncContentKeyEpochs with
  | some record => pure (record, db)
  | none => throw (.database .queryReturnedNoRows)

end ContentKeys

section Activation

variable (scheme : SyncSecretScheme) (codec : SyncPayloadCodec)

/-- `apply_signed_sync_account_membership_record`: a batch of one record. -/
def applySignedSyncAccountMembershipRecord (signedRecord : List Nat) (now : Int)
    (db : SlateProfileDatabase) :
    Except StorageError (SyncAccountMembershipRecordApplication × SlateProfileDatabase) := do
  let (applications, db) ← db.applySignedSyncAccountMembershipRecords scheme.objects
    [signedRecord] now
  match applications.getLast? with
  | some application => pure (application, db)
  | none => throw (.database .queryReturnedNoRows)

def activateLocalProfileSyncMetadataWithKey (profile keyId : String)
    (membershipEpoch now : Int) :
    EStateM StorageError SlateProfileDatabase ProfileSyncLocalActivationRecord := do
  let localSyncDeviceId := (← get).localSyncDeviceId
  modify (·.registerSyncDevice
    { profile, deviceId := localSyncDeviceId, label := some "Local Device", membershipEpoch
      providerAuthority := false } now)
  modify (·.ensureDefaultAppSyncDomains profile now)
  let contentKeyEpoch ← statement (registerSyncContentKeyEpoch
    { profile, keyId, membershipEpoch
      algorithm := profileSyncContentKeyAlgorithmChacha20Poly1305, active := true } now)
  pure { profile, deviceId := localSyncDeviceId, contentKeyEpoch }

/-- The account authority enrolls a device with the key that the secret derives for it. -/
def enrollDerivedDevice (profile : String) (secret : SlateSyncSecret) (membershipEpoch : Int)
    (deviceId : String) (now : Int) :
    EStateM StorageError SlateProfileDatabase SyncAccountMembershipRecordApplication := do
  let signedRecord ← MonadExcept.ofExcept
    (signedEnrollDeviceRecord scheme profile secret membershipEpoch deviceId)
  statement (applySignedSyncAccountMembershipRecord scheme signedRecord now)

/-- The local device is enrolled too, unless it is the account authority. -/
def enrollLocalDevice (profile : String) (secret : SlateSyncSecret) (membershipEpoch : Int)
    (deviceId : String) (now : Int) :
    EStateM StorageError SlateProfileDatabase
      (List SyncAccountMembershipRecordApplication) :=
  if deviceId ≠ defaultProfileSyncAccountAuthorityDeviceId then do
    let application ← enrollDerivedDevice scheme profile secret membershipEpoch deviceId now
    pure [application]
  else pure []

def activateLocalProfileSyncFromSecretWithKey (profile : String) (secret : SlateSyncSecret)
    (keyId : String) (membershipEpoch now : Int) :
    EStateM StorageError SlateProfileDatabase ProfileSyncLocalSecretActivationRecord := do
  let activation ← activateLocalProfileSyncMetadataWithKey profile keyId membershipEpoch now
  let accountAuthorityApplication ← enrollDerivedDevice scheme profile secret membershipEpoch
    defaultProfileSyncAccountAuthorityDeviceId now
  let localApplications ←
    enrollLocalDevice scheme profile secret membershipEpoch activation.deviceId now
  pure
    { activation, accountAuthorityDeviceId := defaultProfileSyncAccountAuthorityDeviceId
      localDeviceId := activation.deviceId
      membershipApplications := accountAuthorityApplication :: localApplications }

def activateLocalProfileSyncFromSecret (profile : String) (secret : SlateSyncSecret)
    (now : Int) :
    EStateM StorageError SlateProfileDatabase ProfileSyncLocalSecretActivationRecord :=
  activateLocalProfileSyncFromSecretWithKey scheme profile secret
    defaultProfileSyncContentKeyId defaultProfileSyncMembershipEpoch now

/-- The row that offers the preview provider. -/
def localProfileSyncPreviewProvider (profile : String) (endpointRef : Option String) :
    StorageProviderUpdate where
  profile
  providerId := defaultProfileSyncPreviewProviderId
  providerKind := defaultProfileSyncPreviewProviderKind
  displayName := "Local Preview Provider"
  endpointRef
  discovery := true
  connectivity := true
  objectTransfer := true
  availability := true
  mutableRoots := false
  quotaBytes := none
  maxRetainedObjects := some 128
  pinningPolicy := some "manual"
  enabled := true

def activateLocalProfileSyncPreviewProviderFromSecret (profile : String)
    (secret : SlateSyncSecret) (endpointRef : Option String) (now : Int) :
    EStateM StorageError SlateProfileDatabase ProfileSyncPreviewProviderActivationRecord := do
  let membershipEpoch := defaultProfileSyncMembershipEpoch
  let accountAuthoritySigner ← MonadExcept.ofExcept <| membershipRecordError
    (secret.deriveProfileSyncDeviceSigner scheme profile
      defaultProfileSyncAccountAuthorityDeviceId membershipEpoch)
  let providerSigner ← MonadExcept.ofExcept <| membershipRecordError
    (secret.deriveProfileSyncDeviceSigner scheme profile defaultProfileSyncPreviewProviderId
      membershipEpoch)
  let signedProviderRecord := signedProfileSyncMembershipRecordBytes scheme.objects
    accountAuthoritySigner (profileSyncEnrollProviderRecord profile membershipEpoch
      (providerSigner.publicKey scheme.objects))
  let membershipApplication ← statement
    (applySignedSyncAccountMembershipRecord scheme signedProviderRecord now)
  let provider ← statement
    (upsertStorageProvider codec (localProfileSyncPreviewProvider profile endpointRef) now)
  pure { provider, membershipApplication }

def applyProfileSyncEnrollmentBundle (bundle : ProfileSyncEnrollmentBundle) (now : Int) :
    EStateM EnrollmentError SlateProfileDatabase
      (List SyncAccountMembershipRecordApplication) := do
  MonadExcept.ofExcept (validateProfileSyncEnrollmentBundle scheme bundle)
  let localSyncDeviceId := (← get).localSyncDeviceId
  if bundle.targetDeviceId ≠ localSyncDeviceId then
    throw (.invalidProfileSyncEnrollmentBundle
      ("bundle targets device " ++ bundle.targetDeviceId ++ ", but this database is for device "
        ++ localSyncDeviceId))
  statement fun db =>
    (db.applySignedSyncAccountMembershipRecords scheme.objects bundle.signedMembershipRecords
      now).mapError .storage

def applyProfileSyncSecretHandoffBundle (bundle : ProfileSyncSecretHandoffBundle)
    (now : Int) :
    EStateM EnrollmentError SlateProfileDatabase ProfileSyncSecretHandoffApplication := do
  MonadExcept.ofExcept (validateProfileSyncSecretHandoffBundle scheme bundle)
  let localSyncDeviceId := (← get).localSyncDeviceId
  if bundle.targetDeviceId ≠ localSyncDeviceId then
    throw (.invalidProfileSyncSecretHandoffBundle
      ("handoff targets device " ++ bundle.targetDeviceId ++
        ", but this database is for device " ++ localSyncDeviceId))
  let secret ← MonadExcept.ofExcept (bundle.toSyncSecret scheme)
  let enrollmentApplications ← applyProfileSyncEnrollmentBundle scheme bundle.enrollmentBundle
    now
  let activation ← EStateM.adaptExcept .storage
    (activateLocalProfileSyncFromSecret scheme bundle.profile secret now)
  pure { enrollmentApplications, activation }

end Activation

end SlateProfileDatabase

end Slate.Storage
