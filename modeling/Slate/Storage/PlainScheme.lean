import Slate.Foundation.Serial
import Slate.Storage.SyncObjects

/-!
# A scheme that can be run

The encoders, signatures and ciphers of sync objects are parameters of the model. This
scheme instantiates them with plain serializers: a signature is the key in front of the
payload, a ciphertext is the key, the nonce and the associated data in front of the
plaintext, and the n-th object is named by a text of n + 1 letters.
-/

namespace Slate.Storage

open Slate.Foundation

namespace PlainScheme

def bytes : Serial (List Nat) := Serial.list Serial.nat

def signed : Serial SignedSyncObject :=
  (Serial.nat.pair (Serial.text.pair (bytes.pair (bytes.pair bytes)))).via
    (fun object => (object.version, object.deviceId, object.publicKey, object.payload,
      object.signature))
    (fun fields => ⟨fields.1, fields.2.1, fields.2.2.1, fields.2.2.2.1, fields.2.2.2.2⟩)
    (fun _ => rfl)

def encrypted : Serial EncryptedSyncObject :=
  (Serial.nat.pair (Serial.text.pair (Serial.text.pair (Serial.text.pair (Serial.text.pair
    (bytes.pair bytes)))))).via
    (fun object => (object.version, object.profile, object.domain, object.objectKind,
      object.keyId, object.nonce, object.ciphertext))
    (fun fields => ⟨fields.1, fields.2.1, fields.2.2.1, fields.2.2.2.1, fields.2.2.2.2.1,
      fields.2.2.2.2.2.1, fields.2.2.2.2.2.2⟩)
    (fun _ => rfl)

def publicKey : Serial ProfileSyncDevicePublicKey :=
  (Serial.text.pair bytes).via (fun key => (key.deviceId, key.bytes))
    (fun fields => ⟨fields.1, fields.2⟩) (fun _ => rfl)

def membershipRecord : Serial ProfileSyncMembershipRecord :=
  (Serial.text.pair (Serial.text.pair (Serial.nat.pair (Serial.int.pair (Serial.text.pair
    (Serial.text.pair (publicKey.option.pair Serial.int))))))).via
    (fun record => (record.profile, record.recordId, record.schemaVersion,
      record.membershipEpoch, record.recordKind, record.deviceId, record.devicePublicKey,
      record.createdAt))
    (fun fields => ⟨fields.1, fields.2.1, fields.2.2.1, fields.2.2.2.1, fields.2.2.2.2.1,
      fields.2.2.2.2.2.1, fields.2.2.2.2.2.2.1, fields.2.2.2.2.2.2.2⟩)
    (fun _ => rfl)

def deviceFrontier : Serial ProfileSyncDeviceFrontier :=
  (Serial.text.pair (Serial.int.pair Serial.text.option)).via
    (fun frontier => (frontier.deviceId, frontier.latestSequence, frontier.latestChangeObjectId))
    (fun fields => ⟨fields.1, fields.2.1, fields.2.2⟩) (fun _ => rfl)

def retentionPolicy : Serial ProfileSyncRetentionPolicy :=
  (Serial.nat.pair (Serial.int.pair Serial.int)).via
    (fun policy => (policy.minTailChangeCount, policy.changeRetentionSeconds,
      policy.inactiveDeviceGraceSeconds))
    (fun fields => ⟨fields.1, fields.2.1, fields.2.2⟩) (fun _ => rfl)

def manifest : Serial ProfileSyncManifest :=
  (Serial.text.pair (Serial.text.pair (Serial.nat.pair (Serial.int.pair
    (Serial.text.option.pair (Serial.text.list.pair (Serial.text.list.pair
      (deviceFrontier.list.pair (retentionPolicy.pair Serial.int))))))))).via
    (fun manifest => (manifest.profile, manifest.rootId, manifest.schemaVersion,
      manifest.membershipEpoch, manifest.currentSnapshotObjectId, manifest.tailChangeObjectIds,
      manifest.includedDomains, manifest.deviceFrontiers, manifest.retentionPolicy,
      manifest.createdAt))
    (fun fields => ⟨fields.1, fields.2.1, fields.2.2.1, fields.2.2.2.1, fields.2.2.2.2.1,
      fields.2.2.2.2.2.1, fields.2.2.2.2.2.2.1, fields.2.2.2.2.2.2.2.1,
      fields.2.2.2.2.2.2.2.2.1, fields.2.2.2.2.2.2.2.2.2⟩)
    (fun _ => rfl)

def deviceHead : Serial ProfileSyncDeviceHead :=
  (Serial.text.pair (Serial.text.pair (Serial.text.pair (Serial.nat.pair (Serial.int.pair
    (Serial.text.pair (Serial.text.option.pair (Serial.int.pair (Serial.int.pair
      Serial.int))))))))).via
    (fun head => (head.profile, head.deviceId, head.rootId, head.schemaVersion,
      head.membershipEpoch, head.latestManifestObjectId, head.latestChangeObjectId,
      head.deviceSequence, head.logicalClock, head.createdAt))
    (fun fields => ⟨fields.1, fields.2.1, fields.2.2.1, fields.2.2.2.1, fields.2.2.2.2.1,
      fields.2.2.2.2.2.1, fields.2.2.2.2.2.2.1, fields.2.2.2.2.2.2.2.1,
      fields.2.2.2.2.2.2.2.2.1, fields.2.2.2.2.2.2.2.2.2⟩)
    (fun _ => rfl)

def snapshotValue : Serial ProfileSyncSettingsSnapshotValue :=
  (Serial.text.pair (Serial.text.pair (Serial.text.pair (Serial.text.pair Serial.int)))).via
    (fun value => (value.domain, value.key, value.value, value.valueKind, value.revision))
    (fun fields => ⟨fields.1, fields.2.1, fields.2.2.1, fields.2.2.2.1, fields.2.2.2.2⟩)
    (fun _ => rfl)

def snapshot : Serial ProfileSyncSettingsSnapshot :=
  (Serial.text.pair (Serial.nat.pair (Serial.int.pair (Serial.text.list.pair
    (snapshotValue.list.pair Serial.int))))).via
    (fun snapshot => (snapshot.profile, snapshot.schemaVersion, snapshot.coversRevision,
      snapshot.includedDomains, snapshot.values, snapshot.createdAt))
    (fun fields => ⟨fields.1, fields.2.1, fields.2.2.1, fields.2.2.2.1, fields.2.2.2.2.1,
      fields.2.2.2.2.2⟩)
    (fun _ => rfl)

def settingText : Serial IncomingSyncSettingText :=
  (Serial.text.pair (Serial.text.pair (Serial.text.pair (Serial.text.pair (Serial.text.pair
    (Serial.int.pair Serial.int)))))).via
    (fun change => (change.profile, change.domain, change.key, change.value, change.deviceId,
      change.deviceSequence, change.logicalClock))
    (fun fields => ⟨fields.1, fields.2.1, fields.2.2.1, fields.2.2.2.1, fields.2.2.2.2.1,
      fields.2.2.2.2.2.1, fields.2.2.2.2.2.2⟩)
    (fun _ => rfl)

/-- The codec of a serializer. -/
def codec {Object : Type} (serial : Serial Object) : ObjectCodec Object where
  toBytes := serial.write
  fromBytes numbers :=
    match serial.decode numbers with
    | some object => .ok object
    | none => .error "expected value"

theorem codec_fromBytes_toBytes {Object : Type} (serial : Serial Object) (object : Object) :
    (codec serial).fromBytes ((codec serial).toBytes object) = .ok object := by
  simp only [codec, serial.decode_write]

/-- What stands in front of a plaintext. -/
def sealHead (contentKey nonce : List Nat) (associatedData : String) : List Nat :=
  contentKey ++ nonce ++ associatedData.toList.map Char.toNat

def objectName (index : Nat) : String :=
  String.ofList (List.replicate (index + 1) 'o')

end PlainScheme

open PlainScheme in
def plainScheme : SyncObjectScheme where
  signed := codec signed
  encrypted := codec encrypted
  membershipRecord := codec membershipRecord
  manifest := codec manifest
  deviceHead := codec deviceHead
  snapshot := codec snapshot
  settingText := codec settingText
  signPayload privateKey payload := privateKey ++ payload
  verifyPayload publicKey payload signature := signature == publicKey ++ payload
  sealPayload contentKey nonce associatedData plaintext :=
    sealHead contentKey nonce associatedData ++ plaintext
  openPayload contentKey nonce associatedData ciphertext :=
    let front := sealHead contentKey nonce associatedData
    if front.isPrefixOf ciphertext then some (ciphertext.drop front.length) else none
  publicKey privateKey := privateKey
  nonce drawn := List.replicate profileSyncNonceBytes drawn
  objectName := objectName

theorem plainScheme_lawful : plainScheme.Lawful where
  signed := PlainScheme.codec_fromBytes_toBytes PlainScheme.signed
  encrypted := PlainScheme.codec_fromBytes_toBytes PlainScheme.encrypted
  manifest := PlainScheme.codec_fromBytes_toBytes PlainScheme.manifest
  deviceHead := PlainScheme.codec_fromBytes_toBytes PlainScheme.deviceHead
  snapshot := PlainScheme.codec_fromBytes_toBytes PlainScheme.snapshot
  settingText := PlainScheme.codec_fromBytes_toBytes PlainScheme.settingText
  verify privateKey payload := beq_self_eq_true (privateKey ++ payload)
  opens contentKey nonce associatedData payload _ := by
    have isPrefix : (PlainScheme.sealHead contentKey nonce associatedData).isPrefixOf
        (PlainScheme.sealHead contentKey nonce associatedData ++ payload) = true :=
      List.isPrefixOf_iff_prefix.mpr (List.prefix_append _ _)
    simp only [plainScheme]
    rw [if_pos isPrefix, List.drop_left]
  nonce drawn := List.length_replicate
  objectName first second same := by
    have lengths := congrArg (fun name : String => name.toList.length) same
    simp only [plainScheme, PlainScheme.objectName, String.toList_ofList,
      List.length_replicate] at lengths
    omega
  objectName_ne_empty index same := by
    have lengths := congrArg (fun name : String => name.toList.length) same
    simp [plainScheme, PlainScheme.objectName] at lengths

theorem isValidSyncIdentifier_laptop : isValidSyncIdentifier "laptop" = true := rfl

theorem isValidSyncIdentifier_phone : isValidSyncIdentifier "phone" = true := rfl

theorem isValidSyncIdentifier_desk : isValidSyncIdentifier "desk" = true := rfl

theorem isValidSyncIdentifier_tablet : isValidSyncIdentifier "tablet" = true := rfl

end Slate.Storage
