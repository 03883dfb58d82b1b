import Slate.Foundation.Text
import Slate.Storage.Membership

/-!
# The enrollment key of a profile

One secret enrolls a profile's devices: every device's signing key is derived from it, the
account authority's among them. The secret leaves the device as an export, alone or in a
handoff bundle together with signed membership records.
-/

namespace Slate.Storage

open Slate.Foundation

def defaultProfileSyncContentKeyId : String := "content-key-epoch-1"
def defaultProfileSyncAccountAuthorityDeviceId : String := "account-authority"
def defaultProfileSyncPreviewProviderId : String := "local-preview-provider"
def defaultProfileSyncPreviewProviderKind : String := "local-fixture"
def slateSyncSecretBytes : Nat := 32
def slateSyncSecretExportSchemaVersion : Nat := 1
def slateSyncSecretExportObjectKind : String := "slate-sync-secret-export"
def profileSyncEnrollmentBundleSchemaVersion : Nat := 1
def profileSyncSecretHandoffBundleSchemaVersion : Nat := 1
def defaultProfileSyncEnrollmentBundleMaxRecords : Nat := 128
def profileSyncSecretHandoffBundleMaxBytes : Nat := 64 * 1024

/-- Failures to read or to generate a secret. -/
inductive SyncSecretError where
  | object (error : SyncObjectError)
  | key
  | random
deriving DecidableEq, Repr

def SyncSecretError.message : SyncSecretError → String
  | .object error => error.message
  | .key => "invalid profile sync signing key"
  | .random => "failed to generate sync object nonce"

structure SlateSyncSecret where
  bytes : List Nat
  sized : bytes.length = slateSyncSecretBytes
deriving DecidableEq

structure SlateSyncSecretExport where
  profile : String
  schemaVersion : Nat
  secret : String
  createdAt : Int
deriving DecidableEq, Repr

structure ProfileSyncEnrollmentBundle where
  profile : String
  schemaVersion : Nat
  targetDeviceId : String
  createdAt : Int
  signedMembershipRecords : List (List Nat)
deriving DecidableEq, Repr

structure ProfileSyncSecretHandoffBundle where
  profile : String
  schemaVersion : Nat
  targetDeviceId : String
  createdAt : Int
  syncSecretExport : SlateSyncSecretExport
  enrollmentBundle : ProfileSyncEnrollmentBundle
deriving DecidableEq, Repr

/-- The encoders and the key derivation that secrets are used with. -/
structure SyncSecretScheme where
  objects : SyncObjectScheme
  /-- HKDF-SHA256 of a salt, the key material and a label. -/
  hkdf : String → List Nat → String → List Nat
  /-- URL-safe base64 without padding. -/
  encodeSecret : List Nat → String
  decodeSecret : String → Option (List Nat)
  secretExport : ObjectCodec SlateSyncSecretExport
  handoffBundle : ObjectCodec ProfileSyncSecretHandoffBundle

/-- Encodings can be read back, and a written envelope has bytes. -/
structure SyncSecretScheme.Lawful (scheme : SyncSecretScheme) : Prop where
  objects : scheme.objects.Lawful
  signed_ne_nil : ∀ object, scheme.objects.signed.toBytes object ≠ []
  membershipRecord : ∀ record,
    scheme.objects.membershipRecord.fromBytes (scheme.objects.membershipRecord.toBytes record) =
      .ok record
  publicKey_ne_nil : ∀ privateKey, scheme.objects.publicKey privateKey ≠ []
  decodeSecret : ∀ bytes, scheme.decodeSecret (scheme.encodeSecret bytes) = some bytes

section Secrets

variable (scheme : SyncSecretScheme)

namespace SlateSyncSecret

def deriveProfileSyncSecretBytes (profile infoLabel : String) (secret : SlateSyncSecret) :
    List Nat :=
  scheme.hkdf ("slate/profile-sync/" ++ profile) secret.bytes infoLabel

/-- The signer of a device; its seed is the manifest signing secret. -/
def deriveProfileSyncDeviceSigner (profile deviceId : String) (membershipEpoch : Int)
    (secret : SlateSyncSecret) : Except SyncObjectError ProfileSyncDeviceSigner :=
  if valid : isValidSyncIdentifier deviceId then
    .ok
      { deviceId
        privateKey := secret.deriveProfileSyncSecretBytes scheme profile
          ("manifest-signing/v1/" ++ toString membershipEpoch ++ "/" ++ deviceId)
        valid }
  else .error (.invalidDeviceId deviceId)

def exportForProfile (profile : String) (createdAt : Int) (secret : SlateSyncSecret) :
    SlateSyncSecretExport where
  profile
  schemaVersion := slateSyncSecretExportSchemaVersion
  secret := scheme.encodeSecret secret.bytes
  createdAt

end SlateSyncSecret

namespace SlateSyncSecretExport

def validateSchema (secretExport : SlateSyncSecretExport) : Except SyncSecretError Unit := do
  if secretExport.schemaVersion ≠ slateSyncSecretExportSchemaVersion then
    throw (.object (.unsupportedSchema slateSyncSecretExportObjectKind
      secretExport.schemaVersion))

def validateExpectedProfile (expectedProfile : String) (secretExport : SlateSyncSecretExport) :
    Except SyncSecretError Unit := do
  secretExport.validateSchema
  if secretExport.profile ≠ expectedProfile then
    throw (.object (.unexpectedProfile expectedProfile secretExport.profile))

def toSyncSecret (secretExport : SlateSyncSecretExport) :
    Except SyncSecretError SlateSyncSecret := do
  secretExport.validateSchema
  match scheme.decodeSecret secretExport.secret with
  | none => throw .key
  | some bytes =>
      if sized : bytes.length = slateSyncSecretBytes then pure { bytes, sized } else throw .key

/-- `SlateSyncSecret::from_export_for_profile`. -/
def toSyncSecretForProfile (expectedProfile : String) (secretExport : SlateSyncSecretExport) :
    Except SyncSecretError SlateSyncSecret := do
  secretExport.validateExpectedProfile expectedProfile
  secretExport.toSyncSecret scheme

def toBytes (secretExport : SlateSyncSecretExport) : Except SyncSecretError (List Nat) := do
  secretExport.validateSchema
  pure (scheme.secretExport.toBytes secretExport)

def fromBytes (bytes : List Nat) : Except SyncSecretError SlateSyncSecretExport := do
  let secretExport ← (scheme.secretExport.fromBytes bytes).mapError fun message =>
    .object (.decode message)
  secretExport.validateSchema
  pure secretExport

end SlateSyncSecretExport

end Secrets

section Records

def profileSyncEnrollDeviceRecordId (membershipEpoch : Int) (deviceId : String) : String :=
  "epoch-" ++ toString membershipEpoch ++ "-enroll-" ++ deviceId

/-- The record that enrolls a device's key; it is made at its epoch. -/
def profileSyncEnrollRecord (recordKind profile : String) (membershipEpoch : Int)
    (publicKey : ProfileSyncDevicePublicKey) : ProfileSyncMembershipRecord where
  profile
  recordId := profileSyncEnrollDeviceRecordId membershipEpoch publicKey.deviceId
  schemaVersion := profileSyncMembershipRecordSchemaVersion
  membershipEpoch
  recordKind
  deviceId := publicKey.deviceId
  devicePublicKey := some publicKey
  createdAt := membershipEpoch

def profileSyncEnrollDeviceRecord := profileSyncEnrollRecord recordKindEnrollDevice
def profileSyncEnrollProviderRecord := profileSyncEnrollRecord recordKindEnrollProvider

def signedProfileSyncMembershipRecordBytes (scheme : SyncObjectScheme)
    (signer : ProfileSyncDeviceSigner) (record : ProfileSyncMembershipRecord) : List Nat :=
  scheme.signed.toBytes (signer.sign scheme (scheme.membershipRecord.toBytes record))

end Records

section Bundles

/-- Failures to apply a bundle. -/
inductive EnrollmentError where
  | storage (error : StorageError)
  | invalidProfileSyncEnrollmentBundle (reason : String)
  | unsupportedProfileSyncEnrollmentBundleSchema (schemaVersion : Nat)
  | invalidProfileSyncSecretHandoffBundle (reason : String)
  | unsupportedProfileSyncSecretHandoffBundleSchema (schemaVersion : Nat)
deriving DecidableEq, Repr

variable (scheme : SyncSecretScheme)

def validateProfileSyncEnrollmentBundle (bundle : ProfileSyncEnrollmentBundle) :
    Except EnrollmentError Unit := do
  if bundle.schemaVersion ≠ profileSyncEnrollmentBundleSchemaVersion then
    throw (.unsupportedProfileSyncEnrollmentBundleSchema bundle.schemaVersion)
  if bundle.profile = "" then
    throw (.invalidProfileSyncEnrollmentBundle "bundle profile must not be empty")
  if !isValidSyncIdentifier bundle.targetDeviceId then
    throw (.storage (.invalidSyncDeviceId bundle.targetDeviceId))
  if bundle.signedMembershipRecords = [] then
    throw (.invalidProfileSyncEnrollmentBundle
      "bundle must contain at least one signed membership record")
  if bundle.signedMembershipRecords.length > defaultProfileSyncEnrollmentBundleMaxRecords then
    throw (.invalidProfileSyncEnrollmentBundle
      ("bundle has " ++ toString bundle.signedMembershipRecords.length ++
        " signed membership records, exceeding max " ++
        toString defaultProfileSyncEnrollmentBundleMaxRecords))
  let records ← bundle.signedMembershipRecords.mapM fun signedRecord => do
    let (_, record) ← (decodeSignedProfileSyncMembershipRecord scheme.objects
      signedRecord).mapError .storage
    if record.profile ≠ bundle.profile then
      throw (.invalidProfileSyncEnrollmentBundle
        ("membership record " ++ record.recordId ++ " belongs to profile " ++ record.profile ++
          ", not bundle profile " ++ bundle.profile))
    pure record
  let enrollsTarget := records.any fun record =>
    record.deviceId == bundle.targetDeviceId &&
      (record.recordKind == recordKindEnrollDevice ||
        record.recordKind == recordKindRotateDeviceKey)
  if !enrollsTarget then
    throw (.invalidProfileSyncEnrollmentBundle
      ("bundle does not include an enrollment or key-rotation record for target device " ++
        bundle.targetDeviceId))

/-- The secret in a handoff bundle. -/
def ProfileSyncSecretHandoffBundle.secret (bundle : ProfileSyncSecretHandoffBundle) :
    Except EnrollmentError SlateSyncSecret :=
  (bundle.syncSecretExport.toSyncSecretForProfile scheme bundle.profile).mapError fun error =>
    .invalidProfileSyncSecretHandoffBundle error.message

def validateProfileSyncSecretHandoffBundle (bundle : ProfileSyncSecretHandoffBundle) :
    Except EnrollmentError Unit := do
  if bundle.schemaVersion ≠ profileSyncSecretHandoffBundleSchemaVersion then
    throw (.unsupportedProfileSyncSecretHandoffBundleSchema bundle.schemaVersion)
  if Text.trim bundle.profile.toList = [] then
    throw (.invalidProfileSyncSecretHandoffBundle "missing profile id")
  if !isValidSyncIdentifier bundle.targetDeviceId then
    throw (.storage (.invalidSyncDeviceId bundle.targetDeviceId))
  if bundle.syncSecretExport.profile ≠ bundle.profile then
    throw (.invalidProfileSyncSecretHandoffBundle
      ("secret export profile " ++ bundle.syncSecretExport.profile ++
        " does not match handoff profile " ++ bundle.profile))
  if bundle.enrollmentBundle.profile ≠ bundle.profile then
    throw (.invalidProfileSyncSecretHandoffBundle
      ("enrollment bundle profile " ++ bundle.enrollmentBundle.profile ++
        " does not match handoff profile " ++ bundle.profile))
  if bundle.enrollmentBundle.targetDeviceId ≠ bundle.targetDeviceId then
    throw (.invalidProfileSyncSecretHandoffBundle
      ("enrollment bundle targets device " ++ bundle.enrollmentBundle.targetDeviceId ++
        ", not handoff target " ++ bundle.targetDeviceId))
  let _ ← bundle.secret scheme
  validateProfileSyncEnrollmentBundle scheme bundle.enrollmentBundle

/-- `ProfileSyncSecretHandoffBundle::to_sync_secret`. -/
def ProfileSyncSecretHandoffBundle.toSyncSecret (bundle : ProfileSyncSecretHandoffBundle) :
    Except EnrollmentError SlateSyncSecret := do
  validateProfileSyncSecretHandoffBundle scheme bundle
  bundle.secret scheme

def validateProfileSyncSecretHandoffBundleSize (sizeBytes : Nat) :
    Except EnrollmentError Unit := do
  if sizeBytes > profileSyncSecretHandoffBundleMaxBytes then
    throw (.invalidProfileSyncSecretHandoffBundle
      ("handoff bundle is " ++ toString sizeBytes ++ " bytes, exceeding max " ++
        toString profileSyncSecretHandoffBundleMaxBytes))

def ProfileSyncSecretHandoffBundle.toBytes (bundle : ProfileSyncSecretHandoffBundle) :
    Except EnrollmentError (List Nat) := do
  validateProfileSyncSecretHandoffBundle scheme bundle
  let bytes := scheme.handoffBundle.toBytes bundle
  validateProfileSyncSecretHandoffBundleSize bytes.length
  pure bytes

def ProfileSyncSecretHandoffBundle.fromBytes (bytes : List Nat) :
    Except EnrollmentError ProfileSyncSecretHandoffBundle := do
  validateProfileSyncSecretHandoffBundleSize bytes.length
  let bundle ← (scheme.handoffBundle.fromBytes bytes).mapError fun message =>
    .storage (.decodeSyncPayload message)
  validateProfileSyncSecretHandoffBundle scheme bundle
  pure bundle

section Creation

variable (profile : String) (secret : SlateSyncSecret) (targetDeviceId : String)
  (membershipEpoch createdAt : Int)

/-- The record that enrolls a device with its derived key, signed by the account authority. -/
def signedEnrollDeviceRecord (deviceId : String) : Except StorageError (List Nat) := do
  let accountAuthoritySigner ← membershipRecordError
    (secret.deriveProfileSyncDeviceSigner scheme profile
      defaultProfileSyncAccountAuthorityDeviceId membershipEpoch)
  let signer ← membershipRecordError
    (secret.deriveProfileSyncDeviceSigner scheme profile deviceId membershipEpoch)
  pure (signedProfileSyncMembershipRecordBytes scheme.objects accountAuthoritySigner
    (profileSyncEnrollDeviceRecord profile membershipEpoch (signer.publicKey scheme.objects)))

/-- The target's own record, unless the target is the account authority. -/
def signedTargetDeviceRecords : Except StorageError (List (List Nat)) :=
  if targetDeviceId ≠ defaultProfileSyncAccountAuthorityDeviceId then
    (fun record => [record]) <$>
      signedEnrollDeviceRecord scheme profile secret membershipEpoch targetDeviceId
  else .ok []

def profileSyncEnrollmentBundleFromSecretWithEpoch :
    Except EnrollmentError ProfileSyncEnrollmentBundle := do
  let accountAuthorityRecord ← (signedEnrollDeviceRecord scheme profile secret membershipEpoch
    defaultProfileSyncAccountAuthorityDeviceId).mapError .storage
  let targetRecords ← (signedTargetDeviceRecords scheme profile secret targetDeviceId
    membershipEpoch).mapError .storage
  let bundle : ProfileSyncEnrollmentBundle :=
    { profile, schemaVersion := profileSyncEnrollmentBundleSchemaVersion, targetDeviceId
      createdAt, signedMembershipRecords := accountAuthorityRecord :: targetRecords }
  validateProfileSyncEnrollmentBundle scheme bundle
  pure bundle

def profileSyncSecretHandoffBundleFromSecretWithEpoch :
    Except EnrollmentError ProfileSyncSecretHandoffBundle := do
  let enrollmentBundle ← profileSyncEnrollmentBundleFromSecretWithEpoch scheme profile secret
    targetDeviceId membershipEpoch createdAt
  let bundle : ProfileSyncSecretHandoffBundle :=
    { profile, schemaVersion := profileSyncSecretHandoffBundleSchemaVersion, targetDeviceId
      createdAt, syncSecretExport := secret.exportForProfile scheme profile createdAt
      enrollmentBundle }
  validateProfileSyncSecretHandoffBundle scheme bundle
  pure bundle

/-- `profile_sync_secret_handoff_bundle_from_secret`. -/
def profileSyncSecretHandoffBundleFromSecret :
    Except EnrollmentError ProfileSyncSecretHandoffBundle :=
  profileSyncSecretHandoffBundleFromSecretWithEpoch scheme profile secret targetDeviceId
    defaultProfileSyncMembershipEpoch createdAt

end Creation

end Bundles

end Slate.Storage
