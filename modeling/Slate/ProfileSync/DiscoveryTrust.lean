import Slate.Broadwebd.PeerAdvertisement
import Slate.Storage.PlainScheme
import Slate.Storage.TrustedObjects

/-!
# What a signature is good for

One device key signs membership records, encrypted objects and peer advertisements, and
nothing in what is signed names the kind. A discovered peer is trusted when its
advertisement verifies under the key the database trusts for it.
-/

namespace Slate.ProfileSync

open Slate.Foundation Slate.Storage Slate.Broadwebd
open Slate.Storage.SlateProfileDatabase

inductive ProfileSyncPeerDiscoveryTrustRejection where
  | wrongNetwork
  | localDevice
  | missingProfileSyncServiceFrameCapability
  | staleDiscoverySequence
  | replayedDiscoverySequence
  | unknownDevicePublicKey
  | untrustedDevicePublicKey
  | missingSignedIdentity
  | missingRequiredCapability
  | signatureDeviceMismatch
  | signaturePublicKeyMismatch
  | signerMembershipEpochTooNew
  | invalidSignature
deriving DecidableEq, Repr

/-- Why a discovered advertisement is not trusted, if it is not. -/
def profileSyncPeerDiscoveryTrustRejection (format : JsonFormat) (isSocketAddr : String → Bool)
    (scheme : SyncObjectScheme) (profile networkId : String)
    (advertisement : ProfileSyncPeerAdvertisement) (db : SlateProfileDatabase) :
    Except StorageError (Option ProfileSyncPeerDiscoveryTrustRejection) := do
  if advertisement.networkId ≠ networkId then
    return some .wrongNetwork
  if advertisement.nodeId = db.localSyncDeviceId then
    return some .localDevice
  if !advertisement.supportsProfileSyncServiceFrames then
    return some .missingProfileSyncServiceFrameCapability
  let some record ← db.syncDevicePublicKey profile advertisement.nodeId
    | return some .unknownDevicePublicKey
  if !record.trusted then
    return some .untrustedDevicePublicKey
  if record.membershipEpoch > advertisement.membershipEpoch then
    return some .signerMembershipEpochTooNew
  let some signature := advertisement.identitySignature
    | return some .missingSignedIdentity
  if signature.deviceId ≠ advertisement.nodeId then
    return some .signatureDeviceMismatch
  if signature.publicKey ≠ record.publicKey.bytes then
    return some .signaturePublicKeyMismatch
  let .ok payload := advertisement.signingPayloadBytes format isSocketAddr
    | return some .invalidSignature
  let signed : SignedSyncObject :=
    { version := signature.version, deviceId := signature.deviceId
      publicKey := signature.publicKey, payload, signature := signature.signature }
  match signed.verifyWith scheme record.publicKey with
  | .error _ => return some .invalidSignature
  | .ok _ => return none

section Kinds

inductive PayloadKind where
  | membershipRecord
  | encryptedObject
  | peerAdvertisement
deriving DecidableEq, Repr

/-- What a device signs. -/
inductive SigningPayload where
  | membershipRecord (record : ProfileSyncMembershipRecord)
  | encryptedObject (object : EncryptedSyncObject)
  | peerAdvertisement (advertisement : ProfileSyncPeerAdvertisement)

def SigningPayload.kind : SigningPayload → PayloadKind
  | .membershipRecord _ => .membershipRecord
  | .encryptedObject _ => .encryptedObject
  | .peerAdvertisement _ => .peerAdvertisement

/-- The bytes that are signed; an invalid advertisement has none. -/
def SigningPayload.toBytes (format : JsonFormat) (isSocketAddr : String → Bool) :
    SigningPayload → Except String (List Nat)
  | .membershipRecord record => .ok (format.toBytes record.toJson)
  | .encryptedObject object => .ok (format.toBytes object.toJson)
  | .peerAdvertisement advertisement => advertisement.signingPayloadBytes format isSocketAddr

def SigningPayload.toJson : SigningPayload → Json
  | .membershipRecord record => record.toJson
  | .encryptedObject object => object.toJson
  | .peerAdvertisement advertisement => advertisement.signingPayload

/-- A signature verifies for the payload it was made for and for no other. -/
def SignaturesBind (scheme : SyncObjectScheme) : Prop :=
  ∀ publicKey privateKey payload other,
    scheme.verifyPayload publicKey other (scheme.signPayload privateKey payload) = true →
      other = payload

end Kinds

theorem exists_ok_of_mapM_eq_ok {ε α β : Type} {convert : α → Except ε β} {items : List α}
    {results : List β} (h : items.mapM convert = .ok results) {item : α} (isItem : item ∈ items) :
    ∃ result, convert item = .ok result := by
  have converted := mapM_eq_ok_iff.mp h
  induction converted with
  | nil => cases isItem
  | cons first others inductionHypothesis =>
      rcases List.mem_cons.mp isItem with rfl | inRest
      · exact ⟨_, first⟩
      · exact inductionHypothesis (mapM_eq_ok_iff.mpr others) inRest

section Opening

variable {scheme : SyncObjectScheme} {db : SlateProfileDatabase} {contentKey : List Nat}
  {profile keyId : String} {envelope : List Nat}

theorem verifyWith_eq_ok {object : SignedSyncObject} {publicKey : ProfileSyncDevicePublicKey}
    {payload : List Nat} (h : object.verifyWith scheme publicKey = .ok payload) :
    payload = object.payload ∧
      scheme.verifyPayload publicKey.bytes object.payload object.signature = true := by
  unfold SignedSyncObject.verifyWith at h
  split_ifs at h with version key verifies
  cases h
  exact ⟨rfl, verifies⟩

/-- A decoded membership record was verified under the key its envelope names. -/
theorem verifies_of_decodeSigned {object : SignedSyncObject}
    {record : ProfileSyncMembershipRecord}
    (h : decodeSignedProfileSyncMembershipRecord scheme envelope = .ok (object, record)) :
    scheme.verifyPayload object.publicKey object.payload object.signature = true ∧
      scheme.membershipRecord.fromBytes object.payload = .ok record := by
  obtain ⟨signed, -, h⟩ := bind_eq_ok_iff.mp h
  obtain ⟨-, h⟩ := check_then_eq_ok_iff.mp h
  obtain ⟨payload, verified, h⟩ := bind_eq_ok_iff.mp h
  obtain ⟨decoded, held, h⟩ := bind_eq_ok_iff.mp h
  obtain ⟨-, h⟩ := unit_bind_eq_ok_iff.mp h
  obtain ⟨rfl, rfl⟩ := ok_pair_inj h
  obtain ⟨rfl, verifies⟩ := verifyWith_eq_ok (mapError_eq_ok_iff.mp verified)
  exact ⟨verifies, mapError_eq_ok_iff.mp (mapError_eq_ok_iff.mp held)⟩

/-- The envelope is a signed object that verifies under some key and holds an encrypted
object. -/
def HoldsEncryptedObject (scheme : SyncObjectScheme) (envelope : List Nat) : Prop :=
  ∃ object publicKey encrypted, SignedSyncObject.fromBytes scheme envelope = .ok object ∧
    scheme.verifyPayload publicKey object.payload object.signature = true ∧
    scheme.encrypted.fromBytes object.payload = .ok encrypted

theorem holds_of_verified {object : SignedSyncObject} {publicKey : ProfileSyncDevicePublicKey}
    {payload : List Nat} {encrypted : EncryptedSyncObject}
    (decoded : SignedSyncObject.fromBytes scheme envelope = .ok object)
    (verified : object.verifyWith scheme publicKey = .ok payload)
    (held : EncryptedSyncObject.fromBytes scheme payload = .ok encrypted) :
    HoldsEncryptedObject scheme envelope := by
  obtain ⟨rfl, verifies⟩ := verifyWith_eq_ok verified
  exact ⟨object, publicKey.bytes, encrypted, decoded, verifies, mapError_eq_ok_iff.mp held⟩

theorem holds_of_openTrustedSignedEncryptedSyncPayload {domain objectKind : String}
    {plaintext : List Nat}
    (h : db.openTrustedSignedEncryptedSyncPayload scheme envelope contentKey profile domain
      objectKind keyId = .ok plaintext) : HoldsEncryptedObject scheme envelope := by
  obtain ⟨object, decoded, h⟩ := bind_eq_ok_iff.mp h
  obtain ⟨publicKey, -, h⟩ := bind_eq_ok_iff.mp h
  obtain ⟨payload, verified, h⟩ := bind_eq_ok_iff.mp h
  obtain ⟨encrypted, held, -⟩ := bind_eq_ok_iff.mp h
  exact holds_of_verified (mapError_eq_ok_iff.mp decoded) (mapError_eq_ok_iff.mp verified)
    (mapError_eq_ok_iff.mp held)

theorem holds_of_openTrustedSignedProfileSyncManifest {manifest : ProfileSyncManifest}
    (h : db.openTrustedSignedProfileSyncManifest scheme envelope contentKey profile keyId =
      .ok manifest) : HoldsEncryptedObject scheme envelope := by
  obtain ⟨plaintext, opened, -⟩ := bind_eq_ok_iff.mp h
  exact holds_of_openTrustedSignedEncryptedSyncPayload opened

theorem holds_of_openTrustedSignedProfileSyncDeviceHead {deviceHead : ProfileSyncDeviceHead}
    (h : db.openTrustedSignedProfileSyncDeviceHead scheme envelope contentKey profile keyId =
      .ok deviceHead) : HoldsEncryptedObject scheme envelope := by
  obtain ⟨_, -, h⟩ := bind_eq_ok_iff.mp h
  obtain ⟨publicKey, -, h⟩ := bind_eq_ok_iff.mp h
  obtain ⟨opened, openedHead, -⟩ := bind_eq_ok_iff.mp h
  obtain ⟨plaintext, openedPayload, -⟩ := bind_eq_ok_iff.mp (mapError_eq_ok_iff.mp openedHead)
  obtain ⟨object, decoded, h⟩ := bind_eq_ok_iff.mp openedPayload
  obtain ⟨payload, verified, h⟩ := bind_eq_ok_iff.mp h
  obtain ⟨encrypted, held, -⟩ := bind_eq_ok_iff.mp h
  exact holds_of_verified decoded verified held

theorem holds_of_openTrustedSignedProfileSyncSettingsSnapshot
    {snapshot : ProfileSyncSettingsSnapshot}
    (h : db.openTrustedSignedProfileSyncSettingsSnapshot scheme envelope contentKey profile
      keyId = .ok snapshot) : HoldsEncryptedObject scheme envelope := by
  obtain ⟨plaintext, opened, -⟩ := bind_eq_ok_iff.mp h
  exact holds_of_openTrustedSignedEncryptedSyncPayload opened

theorem holds_of_openTrustedSignedSyncSettingTextForProfile {change : IncomingSyncSettingText}
    (h : db.openTrustedSignedSyncSettingTextForProfile scheme envelope contentKey profile
      keyId = .ok change) : HoldsEncryptedObject scheme envelope := by
  obtain ⟨object, decoded, h⟩ := bind_eq_ok_iff.mp h
  obtain ⟨publicKey, -, h⟩ := bind_eq_ok_iff.mp h
  obtain ⟨payload, verified, h⟩ := bind_eq_ok_iff.mp h
  obtain ⟨encrypted, held, -⟩ := bind_eq_ok_iff.mp h
  exact holds_of_verified (mapError_eq_ok_iff.mp decoded) (mapError_eq_ok_iff.mp verified)
    (mapError_eq_ok_iff.mp held)

theorem holds_of_openManifestSnapshot {membershipEpoch : Int} {object : ProfileSyncObjectBytes}
    {snapshot : VerifiedProfileSyncSettingsSnapshot}
    (h : db.openManifestSnapshot scheme contentKey profile keyId membershipEpoch object =
      .ok snapshot) : HoldsEncryptedObject scheme object.bytes := by
  obtain ⟨-, h⟩ := unit_bind_eq_ok_iff.mp h
  obtain ⟨_, opened, -⟩ := bind_eq_ok_iff.mp h
  exact holds_of_openTrustedSignedProfileSyncSettingsSnapshot opened

theorem holds_of_openManifestTailChange {membershipEpoch : Int}
    {object : ProfileSyncObjectBytes} {change : VerifiedProfileSyncSettingsTailChange}
    (h : db.openManifestTailChange scheme contentKey profile keyId membershipEpoch object =
      .ok change) : HoldsEncryptedObject scheme object.bytes := by
  obtain ⟨-, h⟩ := unit_bind_eq_ok_iff.mp h
  obtain ⟨_, opened, -⟩ := bind_eq_ok_iff.mp h
  exact holds_of_openTrustedSignedSyncSettingTextForProfile opened

/-- Every object that is opened with a manifest holds an encrypted object. -/
theorem holds_of_openTrustedSignedProfileSyncSettingsManifestObjects
    {manifestObject : ProfileSyncObjectBytes} {snapshotObject : Option ProfileSyncObjectBytes}
    {tailChangeObjects : List ProfileSyncObjectBytes}
    {objects : VerifiedProfileSyncSettingsManifestObjects}
    (h : db.openTrustedSignedProfileSyncSettingsManifestObjects scheme manifestObject
      snapshotObject tailChangeObjects contentKey profile keyId = .ok objects) :
    ∀ object ∈ manifestObject :: (snapshotObject.toList ++ tailChangeObjects),
      HoldsEncryptedObject scheme object.bytes := by
  obtain ⟨manifest, opened, h⟩ := bind_eq_ok_iff.mp h
  obtain ⟨-, -, h⟩ := bind_eq_ok_iff.mp h
  obtain ⟨snapshot, snapshotOpened, h⟩ := bind_eq_ok_iff.mp h
  obtain ⟨tailChanges, tailOpened, -⟩ := bind_eq_ok_iff.mp h
  intro object isObject
  rcases List.mem_cons.mp isObject with rfl | isObject
  · exact holds_of_openTrustedSignedProfileSyncManifest opened
  rcases List.mem_append.mp isObject with isSnapshot | isTail
  · obtain rfl := Option.mem_toList.mp isSnapshot
    obtain ⟨opened, snapshotOpened, -⟩ := bind_eq_ok_iff.mp snapshotOpened
    exact holds_of_openManifestSnapshot snapshotOpened
  · obtain ⟨change, tailOpened⟩ := exists_ok_of_mapM_eq_ok tailOpened isTail
    exact holds_of_openManifestTailChange tailOpened

end Opening

/-- No trusted open function accepts the envelope, alone or with a manifest. -/
structure TrustedOpensReject (scheme : SyncObjectScheme) (envelope : List Nat) : Prop where
  payload : ∀ contentKey profile domain objectKind keyId db plaintext,
    openTrustedSignedEncryptedSyncPayload scheme envelope contentKey profile domain objectKind
      keyId db ≠ .ok plaintext
  manifest : ∀ contentKey profile keyId db manifest,
    openTrustedSignedProfileSyncManifest scheme envelope contentKey profile keyId db ≠
      .ok manifest
  deviceHead : ∀ contentKey profile keyId db deviceHead,
    openTrustedSignedProfileSyncDeviceHead scheme envelope contentKey profile keyId db ≠
      .ok deviceHead
  settingsSnapshot : ∀ contentKey profile keyId db snapshot,
    openTrustedSignedProfileSyncSettingsSnapshot scheme envelope contentKey profile keyId db ≠
      .ok snapshot
  settingText : ∀ contentKey profile keyId db change,
    openTrustedSignedSyncSettingTextForProfile scheme envelope contentKey profile keyId db ≠
      .ok change
  manifestObjects : ∀ manifestObject snapshotObject tailChangeObjects contentKey profile keyId db
      objects,
    (∃ object ∈ manifestObject :: (Option.toList snapshotObject ++ tailChangeObjects),
      object.bytes = envelope) →
    openTrustedSignedProfileSyncSettingsManifestObjects scheme manifestObject snapshotObject
      tailChangeObjects contentKey profile keyId db ≠ .ok objects

theorem trustedOpensReject_of_not_holds {scheme : SyncObjectScheme} {envelope : List Nat}
    (other : ¬ HoldsEncryptedObject scheme envelope) : TrustedOpensReject scheme envelope where
  payload _ _ _ _ _ _ _ h := other (holds_of_openTrustedSignedEncryptedSyncPayload h)
  manifest _ _ _ _ _ h := other (holds_of_openTrustedSignedProfileSyncManifest h)
  deviceHead _ _ _ _ _ h := other (holds_of_openTrustedSignedProfileSyncDeviceHead h)
  settingsSnapshot _ _ _ _ _ h := other (holds_of_openTrustedSignedProfileSyncSettingsSnapshot h)
  settingText _ _ _ _ _ h := other (holds_of_openTrustedSignedSyncSettingTextForProfile h)
  manifestObjects _ _ _ _ _ _ _ _ included h := by
    obtain ⟨object, isObject, rfl⟩ := included
    exact other (holds_of_openTrustedSignedProfileSyncSettingsManifestObjects h object isObject)

section Separation

variable {format : JsonFormat} {isSocketAddr : String → Bool} {scheme : SyncObjectScheme}
  {payload : SigningPayload} {bytes : List Nat}

theorem toBytes_eq_ok (written : payload.toBytes format isSocketAddr = .ok bytes) :
    bytes = format.toBytes payload.toJson := by
  cases payload with
  | membershipRecord record => exact (Except.ok.inj written).symm
  | encryptedObject object => exact (Except.ok.inj written).symm
  | peerAdvertisement advertisement =>
      obtain ⟨-, written⟩ := unit_bind_eq_ok_iff.mp written
      exact (Except.ok.inj written).symm

/-- Only a membership record decodes as one. -/
theorem kind_of_membershipRecord_ofJson {record : ProfileSyncMembershipRecord}
    (decoded : ProfileSyncMembershipRecord.ofJson payload.toJson = .ok record) :
    payload.kind = .membershipRecord := by
  cases payload with
  | membershipRecord _ => rfl
  | encryptedObject object =>
      rw [SigningPayload.toJson, membershipRecord_ofJson_encryptedObject] at decoded
      cases decoded
  | peerAdvertisement advertisement =>
      rw [SigningPayload.toJson, membershipRecord_ofJson_signingPayload] at decoded
      cases decoded

/-- Only an encrypted object decodes as one. -/
theorem kind_of_encryptedObject_ofJson {object : EncryptedSyncObject}
    (decoded : EncryptedSyncObject.ofJson payload.toJson = .ok object) :
    payload.kind = .encryptedObject := by
  cases payload with
  | encryptedObject _ => rfl
  | membershipRecord record =>
      rw [SigningPayload.toJson, encryptedObject_ofJson_membershipRecord] at decoded
      cases decoded
  | peerAdvertisement advertisement =>
      rw [SigningPayload.toJson, encryptedObject_ofJson_signingPayload] at decoded
      cases decoded

/-- Only an advertisement is written as one. -/
theorem kind_of_eq_signingPayload {advertisement : ProfileSyncPeerAdvertisement}
    (same : advertisement.signingPayload = payload.toJson) :
    payload.kind = .peerAdvertisement := by
  cases payload with
  | peerAdvertisement _ => rfl
  | membershipRecord record => exact absurd same (signingPayload_ne_membershipRecord _ record)
  | encryptedObject object => exact absurd same (signingPayload_ne_encryptedObject _ object)

/-- A trusted advertisement's signature verifies for the payload it would be signed with. -/
theorem verifies_of_not_rejected {profile networkId : String} {db : SlateProfileDatabase}
    {advertisement : ProfileSyncPeerAdvertisement}
    {identity : ProfileSyncPeerAdvertisementSignature}
    (identified : advertisement.identitySignature = some identity)
    (h : profileSyncPeerDiscoveryTrustRejection format isSocketAddr scheme profile networkId
      advertisement db = .ok none) :
    ∃ publicKey, scheme.verifyPayload publicKey (format.toBytes advertisement.signingPayload)
      identity.signature = true := by
  unfold profileSyncPeerDiscoveryTrustRejection at h
  split at h
  · cases h
  split at h
  · cases h
  split at h
  · cases h
  obtain ⟨found, -, h⟩ := bind_eq_ok_iff.mp h
  cases found with
  | none => cases h
  | some record =>
      simp only [identified] at h
      split at h
      · cases h
      split at h
      · cases h
      split at h
      · cases h
      split at h
      · cases h
      split at h
      next payload written =>
        split at h
        · cases h
        next verified =>
          obtain ⟨-, written⟩ := unit_bind_eq_ok_iff.mp written
          obtain rfl := Except.ok.inj written
          exact ⟨_, (verifyWith_eq_ok verified).2⟩
      next => cases h

/-- What a device signed is good for objects of that kind only: its signature makes no
object of another kind accepted. -/
theorem signature_accepted_for_own_kind (faithful : format.Faithful)
    (serde : scheme.SerdeJson format) (binds : SignaturesBind scheme)
    (signer : ProfileSyncDeviceSigner)
    (written : payload.toBytes format isSocketAddr = .ok bytes) :
    (payload.kind ≠ .membershipRecord → ∀ envelope object record,
      decodeSignedProfileSyncMembershipRecord scheme envelope = .ok (object, record) →
        object.signature ≠ (signer.sign scheme bytes).signature) ∧
    (payload.kind ≠ .encryptedObject → ∀ envelope object,
      SignedSyncObject.fromBytes scheme envelope = .ok object →
        object.signature = (signer.sign scheme bytes).signature →
          TrustedOpensReject scheme envelope) ∧
    (payload.kind ≠ .peerAdvertisement → ∀ profile networkId advertisement identity db,
      advertisement.identitySignature = some identity →
        identity.signature = (signer.sign scheme bytes).signature →
          profileSyncPeerDiscoveryTrustRejection format isSocketAddr scheme profile networkId
            advertisement db ≠ .ok none) := by
  obtain rfl := toBytes_eq_ok written
  refine ⟨?_, ?_, ?_⟩
  · intro other envelope object record decoded same
    obtain ⟨verifies, held⟩ := verifies_of_decodeSigned decoded
    rw [same] at verifies
    rw [binds _ _ _ _ verifies, serde.membershipRecord, jsonCodec_fromBytes_toBytes faithful]
      at held
    exact other (kind_of_membershipRecord_ofJson held)
  · intro other envelope object decoded same
    apply trustedOpensReject_of_not_holds
    rintro ⟨held, publicKey, encrypted, decodedAgain, verifies, opened⟩
    obtain rfl := Except.ok.inj (decoded.symm.trans decodedAgain)
    rw [same] at verifies
    rw [binds _ _ _ _ verifies, serde.encrypted, jsonCodec_fromBytes_toBytes faithful] at opened
    exact other (kind_of_encryptedObject_ofJson opened)
  · intro other profile networkId advertisement identity db identified same trusted
    obtain ⟨publicKey, verifies⟩ := verifies_of_not_rejected identified trusted
    rw [same] at verifies
    have sameBytes := binds _ _ _ _ verifies
    exact other (kind_of_eq_signingPayload (faithful.toBytes_injective sameBytes))

end Separation

section Sample

/-- The plain scheme with its signed objects written as JSON, and with the length of the key
in front of a signature. -/
def jsonScheme : SyncObjectScheme :=
  { plainScheme with
    encrypted := jsonCodec .compact EncryptedSyncObject.toJson EncryptedSyncObject.ofJson
    membershipRecord := jsonCodec .compact ProfileSyncMembershipRecord.toJson
      ProfileSyncMembershipRecord.ofJson
    signPayload := fun privateKey payload => privateKey.length :: (privateKey ++ payload)
    verifyPayload := fun publicKey payload signature =>
      signature == publicKey.length :: (publicKey ++ payload) }

theorem signaturesBind_jsonScheme : SignaturesBind jsonScheme := by
  intro publicKey privateKey payload other verifies
  have same : privateKey.length :: (privateKey ++ payload) =
      publicKey.length :: (publicKey ++ other) := eq_of_beq verifies
  obtain ⟨lengths, texts⟩ := List.cons.inj same
  exact ((List.append_inj texts lengths).2).symm

/-- The laptop's record of the phone's enrollment. -/
def phoneEnrollment : ProfileSyncMembershipRecord :=
  { profile := "default", recordId := "epoch-1-enroll-phone", schemaVersion := 1
    membershipEpoch := 1, recordKind := "enroll-device", deviceId := "phone"
    devicePublicKey := some { deviceId := "phone", bytes := [2] }, createdAt := 1 }

/-- The laptop's signature of the enrollment makes no object of the other kinds accepted. -/
theorem signature_accepted_for_own_kind_enrollment :
    let signature := (ProfileSyncDeviceSigner.sign jsonScheme
      (JsonFormat.compact.toBytes phoneEnrollment.toJson)
      ⟨"laptop", [7], isValidSyncIdentifier_laptop⟩).signature
    (∀ envelope object, SignedSyncObject.fromBytes jsonScheme envelope = .ok object →
      object.signature = signature → TrustedOpensReject jsonScheme envelope) ∧
    ∀ profile networkId advertisement identity db,
      ProfileSyncPeerAdvertisement.identitySignature advertisement = some identity →
        identity.signature = signature →
          profileSyncPeerDiscoveryTrustRejection .compact (fun _ => false) jsonScheme profile
            networkId advertisement db ≠ .ok none := by
  have separated := @signature_accepted_for_own_kind .compact (fun _ => false)
    jsonScheme (.membershipRecord phoneEnrollment) _ JsonFormat.compact_faithful ⟨rfl, rfl⟩ signaturesBind_jsonScheme
    ⟨"laptop", [7], isValidSyncIdentifier_laptop⟩ rfl
  exact ⟨separated.2.1 (by decide), separated.2.2 (by decide)⟩

end Sample
end Slate.ProfileSync
