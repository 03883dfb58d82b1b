import Slate.ProfileSync.Receiver

/-!
# Which sealed objects open

An object that a device sealed opens for a receiver exactly when the receiver's row of the
signer is trusted, carries the key it was signed with, is not newer than the epoch the
object comes with, and does not belong to a provider.
-/

namespace Slate.ProfileSync

open Slate.Foundation Slate.Storage
open Slate.Storage.SlateProfileDatabase

section Trust

/-- The trusted row a database keeps for a device. -/
def trustedKey (profile deviceId : String) (db : SlateProfileDatabase) :
    Option SyncDevicePublicKeyRecord :=
  (Rows.lookup publicKeyKey (profile, deviceId) db.syncDevicePublicKeys).filter (·.trusted)

def isProvider (profile deviceId : String) (db : SlateProfileDatabase) : Bool :=
  (Rows.lookup deviceKey (profile, deviceId) db.syncDevices).any (·.providerAuthority)

/-- The database opens what was signed with this key and comes with this epoch. -/
structure AcceptsSigner (profile : String) (publicKey : ProfileSyncDevicePublicKey)
    (membershipEpoch : Int) (db : SlateProfileDatabase) : Prop where
  trusted : ∃ record, trustedKey profile publicKey.deviceId db = some record ∧
    record.publicKey = publicKey ∧ record.membershipEpoch ≤ membershipEpoch
  notProvider : isProvider profile publicKey.deviceId db = false

variable {scheme : SyncObjectScheme} {profile : String} {db : SlateProfileDatabase}

theorem trustedKey_eq_some_iff {deviceId : String} {record : SyncDevicePublicKeyRecord} :
    trustedKey profile deviceId db = some record ↔
      Rows.lookup publicKeyKey (profile, deviceId) db.syncDevicePublicKeys = some record ∧
        record.trusted = true := by
  simp [trustedKey, Option.filter_eq_some_iff]

theorem deviceId_of_trustedKey {deviceId : String} {record : SyncDevicePublicKeyRecord}
    (found : trustedKey profile deviceId db = some record) :
    record.publicKey.deviceId = deviceId := by
  have key := (Rows.mem_of_lookup (trustedKey_eq_some_iff.mp found).1).2
  exact congrArg Prod.snd key

theorem trustedPublicKeyRecordForSignedObject_eq_ok_iff {object : SignedSyncObject}
    {record : SyncDevicePublicKeyRecord} :
    db.trustedPublicKeyRecordForSignedObject profile object = .ok record ↔
      isValidSyncIdentifier object.deviceId = true ∧
        trustedKey profile object.deviceId db = some record := by
  unfold trustedPublicKeyRecordForSignedObject syncDevicePublicKey
  cases valid : isValidSyncIdentifier object.deviceId with
  | false =>
      constructor
      · intro h
        cases h
      · rintro ⟨h, -⟩
        cases h
  | true =>
      rw [trustedKey_eq_some_iff]
      cases Rows.lookup publicKeyKey (profile, object.deviceId) db.syncDevicePublicKeys with
      | none =>
          constructor
          · intro h
            cases h
          · rintro ⟨-, h, -⟩
            cases h
      | some found =>
          obtain ⟨ofProfile, publicKey, epoch, trusted, createdAt, updatedAt⟩ := found
          cases trusted with
          | false =>
              constructor
              · intro h
                cases h
              · rintro ⟨-, h, trusted⟩
                rw [← Option.some.inj h] at trusted
                cases trusted
          | true =>
              constructor
              · intro h
                cases h
                exact ⟨rfl, rfl, rfl⟩
              · rintro ⟨-, h, -⟩
                exact congrArg Except.ok (Option.some.inj h)

theorem trustedProfileStatePublicKeyForSignedObject_eq_ok_iff {object : SignedSyncObject}
    {publicKey : ProfileSyncDevicePublicKey} :
    db.trustedProfileStatePublicKeyForSignedObject profile object = .ok publicKey ↔
      isValidSyncIdentifier object.deviceId = true ∧
        isProvider profile object.deviceId db = false ∧
        ∃ record, trustedKey profile object.deviceId db = some record ∧
          record.publicKey = publicKey := by
  unfold trustedProfileStatePublicKeyForSignedObject
  simp only [bind_eq_ok_iff, trustedPublicKeyRecordForSignedObject_eq_ok_iff,
    mapError_eq_ok_iff]
  constructor
  · rintro ⟨record, ⟨valid, found⟩, provider, authority, h⟩
    rw [syncDeviceProviderAuthority, if_pos valid] at authority
    rw [← Except.ok.inj authority] at h
    refine ⟨valid, ?_, record, found, ?_⟩
    · cases same : isProvider profile object.deviceId db with
      | false => rfl
      | true =>
          unfold isProvider at same
          rw [same] at h
          cases h
    · cases same : isProvider profile object.deviceId db with
      | false =>
          unfold isProvider at same
          rw [same] at h
          exact Except.ok.inj h
      | true =>
          unfold isProvider at same
          rw [same] at h
          cases h
  · rintro ⟨valid, notProvider, record, found, rfl⟩
    refine ⟨record, ⟨valid, found⟩, false, ?_, rfl⟩
    rw [syncDeviceProviderAuthority, if_pos valid]
    exact congrArg Except.ok notProvider

end Trust

section Sealed

variable {scheme : SyncObjectScheme} {profile domain objectKind : String}
  {payload : List Nat} {credentials : SyncCredentials} {drawn : Nat}
  {db : SlateProfileDatabase}

theorem fromBytes_signEncryptedJsonObject (lawful : scheme.Lawful) :
    SignedSyncObject.fromBytes scheme
        (signEncryptedJsonObject scheme profile domain objectKind payload credentials drawn) =
      .ok (credentials.signer.sign scheme (scheme.encrypted.toBytes
        (EncryptedSyncObject.sealWithNonce scheme profile domain objectKind credentials.keyId
          payload credentials.contentKey (scheme.nonce drawn)))) :=
  mapError_eq_ok_iff.mpr (lawful.signed _)

theorem openWith_sealWithNonce (lawful : scheme.Lawful) {keyId : String}
    {contentKey : List Nat} :
    (EncryptedSyncObject.sealWithNonce scheme profile domain objectKind keyId payload contentKey
      (scheme.nonce drawn)).openWith scheme contentKey = .ok payload := by
  unfold EncryptedSyncObject.openWith
  have opened := lawful.opens contentKey (scheme.nonce drawn)
    (EncryptedSyncObject.sealWithNonce scheme profile domain objectKind keyId payload contentKey
      (scheme.nonce drawn)).associatedData payload (lawful.nonce drawn)
  have sealed : (EncryptedSyncObject.sealWithNonce scheme profile domain objectKind keyId payload
      contentKey (scheme.nonce drawn)).ciphertext =
        scheme.sealPayload contentKey (scheme.nonce drawn)
          (EncryptedSyncObject.sealWithNonce scheme profile domain objectKind keyId payload
            contentKey (scheme.nonce drawn)).associatedData payload := rfl
  rw [← sealed] at opened
  have length := lawful.nonce drawn
  simp only [EncryptedSyncObject.sealWithNonce, syncObjectVersion, ne_eq, not_true_eq_false,
    if_false, length] at opened ⊢
  rw [opened]
  rfl

theorem openExpected_sealWithNonce (lawful : scheme.Lawful) {keyId : String}
    {contentKey : List Nat} :
    (EncryptedSyncObject.sealWithNonce scheme profile domain objectKind keyId payload contentKey
      (scheme.nonce drawn)).openExpected scheme contentKey profile domain objectKind keyId =
        .ok payload := by
  have expected : (EncryptedSyncObject.sealWithNonce scheme profile domain objectKind keyId
      payload contentKey (scheme.nonce drawn)).validateExpected profile domain objectKind keyId =
        .ok () := by
    simp [EncryptedSyncObject.validateExpected, EncryptedSyncObject.sealWithNonce]
    rfl
  rw [EncryptedSyncObject.openExpected, expected]
  exact openWith_sealWithNonce lawful

theorem encryptedFromBytes_toBytes (lawful : scheme.Lawful) (object : EncryptedSyncObject) :
    EncryptedSyncObject.fromBytes scheme (scheme.encrypted.toBytes object) = .ok object :=
  mapError_eq_ok_iff.mpr (lawful.encrypted object)

/-- With the key it was signed with and the key it was sealed with, an object opens. -/
theorem openSignedEncryptedSyncPayload_sealed (lawful : scheme.Lawful) :
    openSignedEncryptedSyncPayload scheme
        (signEncryptedJsonObject scheme profile domain objectKind payload credentials drawn)
        credentials.contentKey (credentials.signer.publicKey scheme) profile domain objectKind
        credentials.keyId = .ok payload := by
  unfold openSignedEncryptedSyncPayload
  rw [fromBytes_signEncryptedJsonObject lawful, ok_bind,
    (verifyWith_sign lawful credentials.signer).mpr ⟨rfl, rfl⟩, ok_bind,
    encryptedFromBytes_toBytes lawful, ok_bind]
  exact openExpected_sealWithNonce lawful

theorem validateSignedObjectMembershipEpoch_sealed (lawful : scheme.Lawful)
    {membershipEpoch : Int} :
    db.validateSignedObjectMembershipEpoch scheme
        (signEncryptedJsonObject scheme profile domain objectKind payload credentials drawn)
        profile membershipEpoch = .ok () ↔
      ∃ record, trustedKey profile credentials.signer.deviceId db = some record ∧
        record.membershipEpoch ≤ membershipEpoch := by
  unfold validateSignedObjectMembershipEpoch
  rw [fromBytes_signEncryptedJsonObject lawful]
  simp only [bind_eq_ok_iff, mapError_eq_ok_iff, Except.ok.injEq, exists_eq_left',
    trustedPublicKeyRecordForSignedObject_eq_ok_iff]
  constructor
  · rintro ⟨record, ⟨-, found⟩, h⟩
    refine ⟨record, found, ?_⟩
    by_contra newer
    rw [if_pos (by omega)] at h
    cases h
  · rintro ⟨record, found, le⟩
    refine ⟨record, ⟨credentials.signer.valid, found⟩, ?_⟩
    rw [if_neg (by omega)]
    rfl

theorem openTrustedSignedEncryptedSyncPayload_sealed (lawful : scheme.Lawful)
    {opened : List Nat} :
    db.openTrustedSignedEncryptedSyncPayload scheme
        (signEncryptedJsonObject scheme profile domain objectKind payload credentials drawn)
        credentials.contentKey profile domain objectKind credentials.keyId = .ok opened ↔
      isProvider profile credentials.signer.deviceId db = false ∧
        (∃ record, trustedKey profile credentials.signer.deviceId db = some record ∧
          record.publicKey = credentials.signer.publicKey scheme) ∧
        opened = payload := by
  unfold openTrustedSignedEncryptedSyncPayload
  rw [fromBytes_signEncryptedJsonObject lawful]
  simp only [bind_eq_ok_iff, mapError_eq_ok_iff, Except.ok.injEq, exists_eq_left',
    trustedProfileStatePublicKeyForSignedObject_eq_ok_iff, verifyWith_sign lawful]
  constructor
  · rintro ⟨_, ⟨-, notProvider, record, found, rfl⟩, _, ⟨sameKey, rfl⟩, _, decoded, h⟩
    rw [encryptedFromBytes_toBytes lawful] at decoded
    rw [← Except.ok.inj decoded, openExpected_sealWithNonce lawful] at h
    exact ⟨notProvider, ⟨record, found, sameKey⟩, (Except.ok.inj h).symm⟩
  · rintro ⟨notProvider, ⟨record, found, sameKey⟩, rfl⟩
    refine ⟨_, ⟨credentials.signer.valid, notProvider, record, found, sameKey⟩, _, ⟨rfl, rfl⟩,
      _, encryptedFromBytes_toBytes lawful _, openExpected_sealWithNonce lawful⟩

/-- The two checks on an object's signer are one condition on the receiver. -/
theorem acceptsSigner_iff {membershipEpoch : Int} :
    AcceptsSigner profile (credentials.signer.publicKey scheme) membershipEpoch db ↔
      isProvider profile credentials.signer.deviceId db = false ∧
        (∃ record, trustedKey profile credentials.signer.deviceId db = some record ∧
          record.publicKey = credentials.signer.publicKey scheme) ∧
        ∃ record, trustedKey profile credentials.signer.deviceId db = some record ∧
          record.membershipEpoch ≤ membershipEpoch := by
  constructor
  · rintro ⟨⟨record, found, sameKey, le⟩, notProvider⟩
    exact ⟨notProvider, ⟨record, found, sameKey⟩, record, found, le⟩
  · rintro ⟨notProvider, ⟨record, found, sameKey⟩, other, otherFound, le⟩
    rw [Option.some.inj (otherFound.symm.trans found)] at le
    exact ⟨⟨record, found, sameKey, le⟩, notProvider⟩

end Sealed

section Kinds

variable {scheme : SyncObjectScheme} {profile : String} {credentials : SyncCredentials}
  {drawn : Nat} {db : SlateProfileDatabase}

theorem openSignedProfileSyncDeviceHead_sealed (lawful : scheme.Lawful)
    {head : ProfileSyncDeviceHead} (ofProfile : head.profile = profile)
    (schema : head.schemaVersion = profileSyncDeviceHeadSchemaVersion)
    (ofDevice : head.deviceId = credentials.signer.deviceId) :
    openSignedProfileSyncDeviceHead scheme
        (signEncryptedJsonObject scheme profile syncDomainSettings
          profileSyncDeviceHeadObjectKind (scheme.deviceHead.toBytes head) credentials drawn)
        credentials.contentKey (credentials.signer.publicKey scheme) profile
        credentials.keyId = .ok head := by
  unfold openSignedProfileSyncDeviceHead
  rw [openSignedEncryptedSyncPayload_sealed lawful, ok_bind,
    mapError_eq_ok_iff.mpr (lawful.deviceHead head), ok_bind]
  simp only [schema, ofProfile, ofDevice, ProfileSyncDeviceSigner.publicKey, ne_eq,
    not_true_eq_false, if_false]
  rfl

/-- A head opens for the receivers that accept its signer at the head's epoch. -/
theorem openTrustedSignedProfileSyncDeviceHead_sealed (lawful : scheme.Lawful)
    {head opened : ProfileSyncDeviceHead} (ofProfile : head.profile = profile)
    (schema : head.schemaVersion = profileSyncDeviceHeadSchemaVersion)
    (ofDevice : head.deviceId = credentials.signer.deviceId) :
    db.openTrustedSignedProfileSyncDeviceHead scheme
        (signEncryptedJsonObject scheme profile syncDomainSettings
          profileSyncDeviceHeadObjectKind (scheme.deviceHead.toBytes head) credentials drawn)
        credentials.contentKey profile credentials.keyId = .ok opened ↔
      AcceptsSigner profile (credentials.signer.publicKey scheme) head.membershipEpoch db ∧
        opened = head := by
  unfold openTrustedSignedProfileSyncDeviceHead
  rw [fromBytes_signEncryptedJsonObject lawful, acceptsSigner_iff]
  simp only [bind_eq_ok_iff, mapError_eq_ok_iff, Except.ok.injEq, exists_eq_left',
    trustedProfileStatePublicKeyForSignedObject_eq_ok_iff]
  constructor
  · rintro ⟨_, ⟨-, notProvider, record, found, rfl⟩, _, headOpened, _, epoch, h⟩
    have sameKey : record.publicKey = credentials.signer.publicKey scheme := by
      obtain ⟨_, opens, -⟩ := bind_eq_ok_iff.mp headOpened
      unfold openSignedEncryptedSyncPayload at opens
      rw [fromBytes_signEncryptedJsonObject lawful, ok_bind] at opens
      obtain ⟨_, verified, -⟩ := bind_eq_ok_iff.mp opens
      exact ((verifyWith_sign lawful credentials.signer).mp verified).1
    rw [sameKey, openSignedProfileSyncDeviceHead_sealed lawful ofProfile schema ofDevice]
      at headOpened
    rw [← Except.ok.inj headOpened] at epoch h
    have trusted := (validateSignedObjectMembershipEpoch_sealed lawful).mp epoch
    exact ⟨⟨notProvider, ⟨record, found, sameKey⟩, trusted⟩, (Except.ok.inj h).symm⟩
  · rintro ⟨⟨notProvider, ⟨record, found, sameKey⟩, trusted⟩, rfl⟩
    refine ⟨_, ⟨credentials.signer.valid, notProvider, record, found, sameKey⟩, _,
      openSignedProfileSyncDeviceHead_sealed lawful ofProfile schema ofDevice, (), ?_, rfl⟩
    exact (validateSignedObjectMembershipEpoch_sealed lawful).mpr trusted

theorem openTrustedSignedProfileSyncManifest_sealed (lawful : scheme.Lawful)
    {manifest opened : ProfileSyncManifest} :
    db.openTrustedSignedProfileSyncManifest scheme
        (signEncryptedJsonObject scheme profile syncDomainSettings
          profileSyncManifestObjectKind (scheme.manifest.toBytes manifest) credentials drawn)
        credentials.contentKey profile credentials.keyId = .ok opened ↔
      isProvider profile credentials.signer.deviceId db = false ∧
        (∃ record, trustedKey profile credentials.signer.deviceId db = some record ∧
          record.publicKey = credentials.signer.publicKey scheme) ∧
        opened = manifest := by
  unfold openTrustedSignedProfileSyncManifest
  simp only [bind_eq_ok_iff, mapError_eq_ok_iff,
    openTrustedSignedEncryptedSyncPayload_sealed lawful]
  constructor
  · rintro ⟨_, ⟨notProvider, trusted, rfl⟩, decoded⟩
    rw [lawful.manifest] at decoded
    exact ⟨notProvider, trusted, (Except.ok.inj decoded).symm⟩
  · rintro ⟨notProvider, trusted, rfl⟩
    exact ⟨_, ⟨notProvider, trusted, rfl⟩, lawful.manifest _⟩

theorem openManifestSnapshot_sealed (lawful : scheme.Lawful)
    {snapshot : ProfileSyncSettingsSnapshot} {objectId : String} {membershipEpoch : Int}
    (accepts : AcceptsSigner profile (credentials.signer.publicKey scheme) membershipEpoch db) :
    db.openManifestSnapshot scheme credentials.contentKey profile credentials.keyId
        membershipEpoch
        { objectId, bytes := signEncryptedJsonObject scheme profile syncDomainSettings
            profileSyncSettingsSnapshotObjectKind (scheme.snapshot.toBytes snapshot) credentials
            drawn } = .ok { objectId, snapshot } := by
  obtain ⟨notProvider, trusted, epoch⟩ := acceptsSigner_iff.mp accepts
  refine bind_eq_ok_iff.mpr
    ⟨(), (validateSignedObjectMembershipEpoch_sealed lawful).mpr epoch, ?_⟩
  refine bind_eq_ok_iff.mpr ⟨snapshot, bind_eq_ok_iff.mpr ⟨_,
    (openTrustedSignedEncryptedSyncPayload_sealed lawful).mpr ⟨notProvider, trusted, rfl⟩, ?_⟩,
    rfl⟩
  exact mapError_eq_ok_iff.mpr (lawful.snapshot snapshot)

theorem openManifestTailChange_sealed (lawful : scheme.Lawful)
    {change : IncomingSyncSettingText} (ofProfile : change.profile = profile)
    {objectId : String} {membershipEpoch : Int}
    (accepts : AcceptsSigner profile (credentials.signer.publicKey scheme) membershipEpoch db) :
    db.openManifestTailChange scheme credentials.contentKey profile credentials.keyId
        membershipEpoch
        { objectId, bytes := signEncryptedJsonObject scheme profile change.domain
            profileSyncSettingChangeObjectKind (scheme.settingText.toBytes change) credentials
            drawn } = .ok { objectId, change } := by
  obtain ⟨notProvider, ⟨record, found, sameKey⟩, epoch⟩ := acceptsSigner_iff.mp accepts
  refine bind_eq_ok_iff.mpr
    ⟨(), (validateSignedObjectMembershipEpoch_sealed lawful).mpr epoch, ?_⟩
  refine bind_eq_ok_iff.mpr ⟨change, ?_, rfl⟩
  refine bind_eq_ok_iff.mpr
    ⟨_, mapError_eq_ok_iff.mpr (fromBytes_signEncryptedJsonObject lawful), ?_⟩
  refine bind_eq_ok_iff.mpr
    ⟨_, trustedProfileStatePublicKeyForSignedObject_eq_ok_iff.mpr
      ⟨credentials.signer.valid, notProvider, record, found, sameKey⟩, ?_⟩
  refine bind_eq_ok_iff.mpr
    ⟨_, mapError_eq_ok_iff.mpr ((verifyWith_sign lawful credentials.signer).mpr ⟨rfl, rfl⟩), ?_⟩
  refine bind_eq_ok_iff.mpr
    ⟨_, mapError_eq_ok_iff.mpr (encryptedFromBytes_toBytes lawful _), ?_⟩
  rw [if_neg (fun h => h rfl), if_neg (fun h => h rfl), if_neg (fun h => h rfl)]
  refine bind_eq_ok_iff.mpr ⟨_, mapError_eq_ok_iff.mpr (openWith_sealWithNonce lawful), ?_⟩
  refine bind_eq_ok_iff.mpr ⟨_, mapError_eq_ok_iff.mpr (lawful.settingText change), ?_⟩
  rw [if_neg (fun h => h ofProfile), if_neg (fun h => h rfl)]
  rfl

end Kinds

end Slate.ProfileSync
