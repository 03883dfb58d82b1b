import Slate.Foundation.Json
import Slate.Storage.SyncObjects

/-!
# Sync objects as JSON

The objects a device signs are written as JSON objects with one field for each of theirs.
The decoders skip other fields; a membership record may leave out its schema version and
its public key.
-/

namespace Slate.Storage

open Slate.Foundation

section Numbers

def u8Max : Nat := 255

def bytesToJson (bytes : List Nat) : Json := .array (bytes.map fun byte : Nat => Json.integer byte)

def asBytes : Json → Except String (List Nat) := Json.asArray (Json.asNatural u8Max)

/-- `i64` values. -/
def asI64 : Json → Except String Int := Json.asInteger (-i64Max - 1) i64Max

theorem asNatural_integer {value greatest : Nat} (fits : value ≤ greatest) :
    Json.asNatural greatest (.integer value) = .ok value := by
  rw [Json.asNatural, Json.asInteger, if_pos (by omega)]
  rfl

theorem asI64_integer {value : Int} (fits : -i64Max - 1 ≤ value ∧ value ≤ i64Max) :
    asI64 (.integer value) = .ok value := if_pos fits

theorem asBytes_bytesToJson {bytes : List Nat} (fits : ∀ byte ∈ bytes, byte ≤ u8Max) :
    asBytes (bytesToJson bytes) = .ok bytes := by
  simp only [asBytes, bytesToJson, Json.asArray]
  induction bytes with
  | nil => rfl
  | cons byte bytes inductionHypothesis =>
      obtain ⟨first, others⟩ := List.forall_mem_cons.mp fits
      rw [List.map_cons, List.mapM_cons, asNatural_integer first, inductionHypothesis others]
      rfl

end Numbers

namespace ProfileSyncDevicePublicKey

def toJson (publicKey : ProfileSyncDevicePublicKey) : Json :=
  .object [("device_id", .string publicKey.deviceId), ("bytes", bytesToJson publicKey.bytes)]

def ofJson (value : Json) : Except String ProfileSyncDevicePublicKey := do
  let fields ← Json.asFields value
  let deviceId ← Json.required Json.asString "device_id" fields
  let bytes ← Json.required asBytes "bytes" fields
  pure ⟨deviceId, bytes⟩

/-- A key is read back. -/
theorem ofJson_toJson {publicKey : ProfileSyncDevicePublicKey}
    (fits : ∀ byte ∈ publicKey.bytes, byte ≤ u8Max) : ofJson publicKey.toJson = .ok publicKey := by
  have bytes := asBytes_bytesToJson fits
  simp [ofJson, toJson, Json.asFields, Json.required, Json.field?, Json.asString, bytes,
    bind, Except.bind, pure, Except.pure]

end ProfileSyncDevicePublicKey

namespace ProfileSyncMembershipRecord

def toJson (record : ProfileSyncMembershipRecord) : Json :=
  .object [("profile", .string record.profile), ("record_id", .string record.recordId),
    ("schema_version", .integer record.schemaVersion),
    ("membership_epoch", .integer record.membershipEpoch),
    ("record_kind", .string record.recordKind), ("device_id", .string record.deviceId),
    ("device_public_key", (record.devicePublicKey.map (·.toJson)).getD .null),
    ("created_at", .integer record.createdAt)]

def ofJson (value : Json) : Except String ProfileSyncMembershipRecord := do
  let fields ← Json.asFields value
  let profile ← Json.required Json.asString "profile" fields
  let recordId ← Json.required Json.asString "record_id" fields
  let schemaVersion ← Json.defaulted profileSyncMembershipRecordSchemaVersion
    (Json.asNatural u8Max) "schema_version" fields
  let membershipEpoch ← Json.required asI64 "membership_epoch" fields
  let recordKind ← Json.required Json.asString "record_kind" fields
  let deviceId ← Json.required Json.asString "device_id" fields
  let devicePublicKey ← Json.defaulted none (Json.asOption ProfileSyncDevicePublicKey.ofJson)
    "device_public_key" fields
  let createdAt ← Json.required asI64 "created_at" fields
  pure ⟨profile, recordId, schemaVersion, membershipEpoch, recordKind, deviceId,
    devicePublicKey, createdAt⟩

/-- The numbers are in the range of their types. -/
structure Fits (record : ProfileSyncMembershipRecord) : Prop where
  schemaVersion : record.schemaVersion ≤ u8Max
  membershipEpoch : -i64Max - 1 ≤ record.membershipEpoch ∧ record.membershipEpoch ≤ i64Max
  devicePublicKey : ∀ publicKey ∈ record.devicePublicKey, ∀ byte ∈ publicKey.bytes, byte ≤ u8Max
  createdAt : -i64Max - 1 ≤ record.createdAt ∧ record.createdAt ≤ i64Max

/-- A record is read back. -/
theorem ofJson_toJson {record : ProfileSyncMembershipRecord}
    (fits : record.Fits) : ofJson record.toJson = .ok record := by
  have schemaVersion := asNatural_integer fits.schemaVersion
  have membershipEpoch := asI64_integer fits.membershipEpoch
  have createdAt := asI64_integer fits.createdAt
  have devicePublicKey : Json.asOption ProfileSyncDevicePublicKey.ofJson
      ((record.devicePublicKey.map (·.toJson)).getD .null) = .ok record.devicePublicKey := by
    cases held : record.devicePublicKey with
    | none => rfl
    | some publicKey =>
        have decoded := ProfileSyncDevicePublicKey.ofJson_toJson (fits.devicePublicKey _ held)
        simp only [Option.map_some, Option.getD_some]
        have asObject : Json.asOption ProfileSyncDevicePublicKey.ofJson publicKey.toJson =
            (ProfileSyncDevicePublicKey.ofJson publicKey.toJson).map some := rfl
        rw [asObject, decoded]
        rfl
  simp [ofJson, toJson, Json.asFields, Json.required, Json.defaulted, Json.field?, Json.asString,
    schemaVersion, membershipEpoch, devicePublicKey, createdAt, bind, Except.bind, pure,
    Except.pure]

end ProfileSyncMembershipRecord

namespace EncryptedSyncObject

def toJson (object : EncryptedSyncObject) : Json :=
  .object [("version", .integer object.version), ("profile", .string object.profile),
    ("domain", .string object.domain), ("object_kind", .string object.objectKind),
    ("key_id", .string object.keyId), ("nonce", bytesToJson object.nonce),
    ("ciphertext", bytesToJson object.ciphertext)]

def ofJson (value : Json) : Except String EncryptedSyncObject := do
  let fields ← Json.asFields value
  let version ← Json.required (Json.asNatural u8Max) "version" fields
  let profile ← Json.required Json.asString "profile" fields
  let domain ← Json.required Json.asString "domain" fields
  let objectKind ← Json.required Json.asString "object_kind" fields
  let keyId ← Json.required Json.asString "key_id" fields
  let nonce ← Json.required asBytes "nonce" fields
  let ciphertext ← Json.required asBytes "ciphertext" fields
  pure ⟨version, profile, domain, objectKind, keyId, nonce, ciphertext⟩

/-- The numbers are in the range of their types. -/
structure Fits (object : EncryptedSyncObject) : Prop where
  version : object.version ≤ u8Max
  nonce : ∀ byte ∈ object.nonce, byte ≤ u8Max
  ciphertext : ∀ byte ∈ object.ciphertext, byte ≤ u8Max

/-- An object is read back. -/
theorem ofJson_toJson {object : EncryptedSyncObject} (fits : object.Fits) :
    ofJson object.toJson = .ok object := by
  have version := asNatural_integer fits.version
  have nonce := asBytes_bytesToJson fits.nonce
  have ciphertext := asBytes_bytesToJson fits.ciphertext
  simp [ofJson, toJson, Json.asFields, Json.required, Json.field?, Json.asString, version, nonce,
    ciphertext, bind, Except.bind, pure, Except.pure]

end EncryptedSyncObject

section Kinds

/-- An encrypted object has no record id. -/
theorem membershipRecord_ofJson_encryptedObject (object : EncryptedSyncObject) :
    ProfileSyncMembershipRecord.ofJson object.toJson = .error "missing field `record_id`" := by
  simp [ProfileSyncMembershipRecord.ofJson, EncryptedSyncObject.toJson, Json.asFields,
    Json.required, Json.field?, Json.asString, bind, Except.bind]

/-- A membership record has no version. -/
theorem encryptedObject_ofJson_membershipRecord (record : ProfileSyncMembershipRecord) :
    EncryptedSyncObject.ofJson record.toJson = .error "missing field `version`" := by
  simp [EncryptedSyncObject.ofJson, ProfileSyncMembershipRecord.toJson, Json.asFields,
    Json.required, Json.field?, bind, Except.bind]

end Kinds

section Codecs

variable {Object : Type}

/-- The encoder and decoder of an object type in a JSON format. -/
def jsonCodec (format : JsonFormat) (toJson : Object → Json)
    (ofJson : Json → Except String Object) : ObjectCodec Object where
  toBytes object := format.toBytes (toJson object)
  fromBytes bytes := (format.fromBytes bytes).bind ofJson

theorem jsonCodec_fromBytes_toBytes {format : JsonFormat} (faithful : format.Faithful)
    (toJson : Object → Json) (ofJson : Json → Except String Object) (value : Json) :
    (jsonCodec format toJson ofJson).fromBytes (format.toBytes value) = ofJson value := by
  simp only [jsonCodec]
  rw [faithful value]
  rfl

/-- The signed objects are written as JSON. -/
structure SyncObjectScheme.SerdeJson (format : JsonFormat) (scheme : SyncObjectScheme) :
    Prop where
  encrypted : scheme.encrypted =
    jsonCodec format EncryptedSyncObject.toJson EncryptedSyncObject.ofJson
  membershipRecord : scheme.membershipRecord =
    jsonCodec format ProfileSyncMembershipRecord.toJson ProfileSyncMembershipRecord.ofJson

end Codecs

end Slate.Storage
