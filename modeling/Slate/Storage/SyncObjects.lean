import Slate.Storage.Operations

/-!
# Signed and encrypted sync objects

Objects travel as bytes: a signed envelope whose payload is either a membership record
or an encrypted envelope around a manifest, a device head, a snapshot or a change. The
JSON encoders, the signature scheme and the cipher are parameters.
-/

namespace Slate.Storage

open Slate.Foundation

def syncObjectVersion : Nat := 1
def profileSyncNonceBytes : Nat := 12
def profileSyncManifestObjectKind : String := "manifest"
def profileSyncDeviceHeadObjectKind : String := "device-head"
def profileSyncSettingsSnapshotObjectKind : String := "settings-snapshot"
def profileSyncSettingChangeObjectKind : String := "setting-change"

structure SignedSyncObject where
  version : Nat
  deviceId : String
  publicKey : List Nat
  payload : List Nat
  signature : List Nat
deriving DecidableEq, Repr

structure EncryptedSyncObject where
  version : Nat
  profile : String
  domain : String
  objectKind : String
  keyId : String
  nonce : List Nat
  ciphertext : List Nat
deriving DecidableEq, Repr

structure ProfileSyncMembershipRecord where
  profile : String
  recordId : String
  schemaVersion : Nat
  membershipEpoch : Int
  recordKind : String
  deviceId : String
  devicePublicKey : Option ProfileSyncDevicePublicKey
  createdAt : Int
deriving DecidableEq, Repr

/-- Failures to open an object. -/
inductive SyncObjectError where
  | decrypt
  | verify
  | unsupportedVersion (version : Nat)
  | unsupportedSchema (objectKind : String) (schemaVersion : Nat)
  | invalidDeviceId (deviceId : String)
  | deviceKeyMismatch (expectedDeviceId actualDeviceId : String)
  | invalidNonceLength (actual : Nat)
  | unexpectedProfile (expected actual : String)
  | unexpectedDomain (expected actual : String)
  | unexpectedObjectKind (expected actual : String)
  | unexpectedKeyId (expected actual : String)
  | unexpectedRootId (expected actual : String)
  | unexpectedDeviceFrontier (deviceId : String) (expectedSequence : Int)
      (actualSequence : Option Int) (expectedChangeObjectId actualChangeObjectId : Option String)
  | unexpectedDeviceHeadManifestEpoch (deviceId : String)
      (headMembershipEpoch manifestMembershipEpoch : Int)
  | decode (message : String)
deriving DecidableEq, Repr

/-- Rust's debug text of an optional value. -/
def debugOption {α : Type} (debug : α → String) : Option α → String
  | none => "None"
  | some value => "Some(" ++ debug value ++ ")"

/-- The text an object error is displayed as. -/
def SyncObjectError.message : SyncObjectError → String
  | .decrypt => "failed to decrypt sync object"
  | .verify => "failed to verify sync object signature"
  | .unsupportedVersion version => "unsupported sync object version: " ++ toString version
  | .unsupportedSchema objectKind schemaVersion =>
      "unsupported " ++ objectKind ++ " sync object schema version: " ++ toString schemaVersion
  | .invalidDeviceId deviceId => "invalid sync object device id: " ++ deviceId
  | .deviceKeyMismatch expected actual =>
      "sync object device key mismatch: expected " ++ expected ++ ", got " ++ actual
  | .invalidNonceLength actual => "invalid sync object nonce length: " ++ toString actual
  | .unexpectedProfile expected actual =>
      "unexpected sync object profile: expected " ++ expected ++ ", got " ++ actual
  | .unexpectedDomain expected actual =>
      "unexpected sync object domain: expected " ++ expected ++ ", got " ++ actual
  | .unexpectedObjectKind expected actual =>
      "unexpected sync object kind: expected " ++ expected ++ ", got " ++ actual
  | .unexpectedKeyId expected actual =>
      "unexpected sync object key id: expected " ++ expected ++ ", got " ++ actual
  | .unexpectedRootId expected actual =>
      "unexpected sync object root id: expected " ++ expected ++ ", got " ++ actual
  | .unexpectedDeviceFrontier deviceId expectedSequence actualSequence expectedChange
      actualChange =>
      "unexpected sync manifest frontier for device " ++ deviceId ++ ": expected sequence " ++
        toString expectedSequence ++ " and change " ++ debugOption String.quote expectedChange ++
        ", got sequence " ++ debugOption toString actualSequence ++ " and change " ++
        debugOption String.quote actualChange
  | .unexpectedDeviceHeadManifestEpoch deviceId headEpoch manifestEpoch =>
      "unexpected sync manifest membership epoch for device " ++ deviceId ++
        ": expected head epoch " ++ toString headEpoch ++ ", got manifest epoch " ++
        toString manifestEpoch
  | .decode message => "failed to decode sync object: " ++ message

/-- A JSON encoder and decoder for one object type. -/
structure ObjectCodec (Object : Type) where
  toBytes : Object → List Nat
  fromBytes : List Nat → Except String Object

/-- The encoders, the signature scheme and the cipher of the sync objects. -/
structure SyncObjectScheme where
  signed : ObjectCodec SignedSyncObject
  encrypted : ObjectCodec EncryptedSyncObject
  membershipRecord : ObjectCodec ProfileSyncMembershipRecord
  manifest : ObjectCodec ProfileSyncManifest
  deviceHead : ObjectCodec ProfileSyncDeviceHead
  snapshot : ObjectCodec ProfileSyncSettingsSnapshot
  settingText : ObjectCodec IncomingSyncSettingText
  /-- The signature of a payload under a private key. -/
  signPayload : List Nat → List Nat → List Nat
  /-- Whether a signature of a payload verifies under a public key. -/
  verifyPayload : List Nat → List Nat → List Nat → Bool
  /-- The ciphertext under a content key, a nonce and associated data. -/
  sealPayload : List Nat → List Nat → String → List Nat → List Nat
  openPayload : List Nat → List Nat → String → List Nat → Option (List Nat)
  /-- The public key of a private key. -/
  publicKey : List Nat → List Nat
  /-- The random nonce an object is sealed with, by the number of objects before it. -/
  nonce : Nat → List Nat
  /-- The id of the n-th object of the store. -/
  objectName : Nat → String

/-- Encoders that can be read back, signatures that verify, ciphertexts that open and
object ids that do not collide. -/
structure SyncObjectScheme.Lawful (scheme : SyncObjectScheme) : Prop where
  signed : ∀ object, scheme.signed.fromBytes (scheme.signed.toBytes object) = .ok object
  encrypted : ∀ object, scheme.encrypted.fromBytes (scheme.encrypted.toBytes object) = .ok object
  manifest : ∀ object, scheme.manifest.fromBytes (scheme.manifest.toBytes object) = .ok object
  deviceHead : ∀ object,
    scheme.deviceHead.fromBytes (scheme.deviceHead.toBytes object) = .ok object
  snapshot : ∀ object, scheme.snapshot.fromBytes (scheme.snapshot.toBytes object) = .ok object
  settingText : ∀ object,
    scheme.settingText.fromBytes (scheme.settingText.toBytes object) = .ok object
  verify : ∀ privateKey payload,
    scheme.verifyPayload (scheme.publicKey privateKey) payload
      (scheme.signPayload privateKey payload) = true
  opens : ∀ contentKey nonce associatedData payload, nonce.length = profileSyncNonceBytes →
    scheme.openPayload contentKey nonce associatedData
      (scheme.sealPayload contentKey nonce associatedData payload) = some payload
  nonce : ∀ drawn, (scheme.nonce drawn).length = profileSyncNonceBytes
  objectName : Function.Injective scheme.objectName
  objectName_ne_empty : ∀ index, scheme.objectName index ≠ ""

/-- `SignedSyncObject::verify_with`. -/
def SignedSyncObject.verifyWith (scheme : SyncObjectScheme)
    (publicKey : ProfileSyncDevicePublicKey) (object : SignedSyncObject) :
    Except SyncObjectError (List Nat) :=
  if object.version ≠ syncObjectVersion then .error (.unsupportedVersion object.version)
  else if object.deviceId ≠ publicKey.deviceId ∨ object.publicKey ≠ publicKey.bytes then
    .error (.deviceKeyMismatch publicKey.deviceId object.deviceId)
  else if scheme.verifyPayload publicKey.bytes object.payload object.signature then
    .ok object.payload
  else .error .verify

/-- `SignedSyncObject::from_bytes`. -/
def SignedSyncObject.fromBytes (scheme : SyncObjectScheme) (bytes : List Nat) :
    Except SyncObjectError SignedSyncObject :=
  (scheme.signed.fromBytes bytes).mapError .decode

/-- A device's signing key; the constructors of a signer check the device id. -/
structure ProfileSyncDeviceSigner where
  deviceId : String
  privateKey : List Nat
  valid : isValidSyncIdentifier deviceId = true

namespace ProfileSyncDeviceSigner

variable (scheme : SyncObjectScheme)

def publicKey (signer : ProfileSyncDeviceSigner) : ProfileSyncDevicePublicKey :=
  { deviceId := signer.deviceId, bytes := scheme.publicKey signer.privateKey }

def sign (payload : List Nat) (signer : ProfileSyncDeviceSigner) : SignedSyncObject :=
  { version := syncObjectVersion, deviceId := signer.deviceId
    publicKey := scheme.publicKey signer.privateKey, payload
    signature := scheme.signPayload signer.privateKey payload }

end ProfileSyncDeviceSigner

/-- What a signer signed verifies under its own key only. -/
theorem verifyWith_sign {scheme : SyncObjectScheme} (lawful : scheme.Lawful) (signer : ProfileSyncDeviceSigner)
    {publicKey : ProfileSyncDevicePublicKey} {bytes verified : List Nat} :
    (signer.sign scheme bytes).verifyWith scheme publicKey = .ok verified ↔
      publicKey = signer.publicKey scheme ∧ verified = bytes := by
  obtain ⟨deviceId, keyBytes⟩ := publicKey
  unfold SignedSyncObject.verifyWith
  rw [if_neg (by simp [ProfileSyncDeviceSigner.sign])]
  by_cases same : signer.deviceId = deviceId ∧ scheme.publicKey signer.privateKey = keyBytes
  · obtain ⟨rfl, rfl⟩ := same
    have verifies := lawful.verify signer.privateKey bytes
    simp only [ProfileSyncDeviceSigner.sign, ProfileSyncDeviceSigner.publicKey, ne_eq,
      not_true_eq_false, or_self, if_false, verifies, if_true]
    constructor
    · intro h
      exact ⟨trivial, (Except.ok.inj h).symm⟩
    · rintro ⟨-, rfl⟩
      rfl
  · rw [if_pos (by simpa only [ProfileSyncDeviceSigner.sign, ne_eq, not_and_or] using same)]
    constructor
    · intro h
      cases h
    · rintro ⟨h, -⟩
      exfalso
      apply same
      simp only [ProfileSyncDeviceSigner.publicKey, ProfileSyncDevicePublicKey.mk.injEq] at h
      exact ⟨h.1.symm, h.2.symm⟩

namespace EncryptedSyncObject

variable (scheme : SyncObjectScheme)

def associatedData (object : EncryptedSyncObject) : String :=
  "slate-profile-sync:v" ++ toString object.version ++ ":" ++ object.profile ++ ":" ++
    object.domain ++ ":" ++ object.objectKind ++ ":" ++ object.keyId

def sealWithNonce (profile domain objectKind keyId : String)
    (plaintext contentKey nonce : List Nat) : EncryptedSyncObject :=
  let object : EncryptedSyncObject :=
    { version := syncObjectVersion, profile, domain, objectKind, keyId, nonce
      ciphertext := plaintext }
  { object with
    ciphertext := scheme.sealPayload contentKey nonce object.associatedData plaintext }

/-- `EncryptedSyncObject::open`. -/
def openWith (contentKey : List Nat) (object : EncryptedSyncObject) :
    Except SyncObjectError (List Nat) := do
  if object.version ≠ syncObjectVersion then
    throw (.unsupportedVersion object.version)
  if object.nonce.length ≠ profileSyncNonceBytes then
    throw (.invalidNonceLength object.nonce.length)
  match scheme.openPayload contentKey object.nonce object.associatedData object.ciphertext with
  | some payload => pure payload
  | none => throw .decrypt

def validateExpected (profile domain objectKind keyId : String)
    (object : EncryptedSyncObject) : Except SyncObjectError Unit := do
  if object.profile ≠ profile then
    throw (.unexpectedProfile profile object.profile)
  if object.domain ≠ domain then
    throw (.unexpectedDomain domain object.domain)
  if object.objectKind ≠ objectKind then
    throw (.unexpectedObjectKind objectKind object.objectKind)
  if object.keyId ≠ keyId then
    throw (.unexpectedKeyId keyId object.keyId)

def openExpected (contentKey : List Nat) (profile domain objectKind keyId : String)
    (object : EncryptedSyncObject) : Except SyncObjectError (List Nat) := do
  object.validateExpected profile domain objectKind keyId
  object.openWith scheme contentKey

def fromBytes (bytes : List Nat) : Except SyncObjectError EncryptedSyncObject :=
  (scheme.encrypted.fromBytes bytes).mapError .decode

end EncryptedSyncObject

end Slate.Storage
