import Slate.Storage.SyncObjects

/-!
# Account membership

Signed membership records enroll, rotate and revoke device keys. A record is authorized
by the device key that signed it, or bootstraps a profile that knows no key yet. Records
of one batch are applied in one transaction, each seeing what the earlier ones did.
-/

namespace Slate.Storage

open Slate.Foundation

def recordKindEnrollDevice : String := "enroll-device"
def recordKindEnrollProvider : String := "enroll-provider"
def recordKindRevokeDevice : String := "revoke-device"
def recordKindRotateDeviceKey : String := "rotate-device-key"

section Validation

def isValidProfileSyncMembershipRecordKind (recordKind : String) : Bool :=
  recordKind == recordKindEnrollDevice || recordKind == recordKindEnrollProvider ||
    recordKind == recordKindRevokeDevice || recordKind == recordKindRotateDeviceKey

def validateMembershipRecordPublicKey (record : ProfileSyncMembershipRecord)
    (publicKey : ProfileSyncDevicePublicKey) : Except StorageError Unit := do
  if !isValidSyncIdentifier publicKey.deviceId then
    throw (.invalidSyncDeviceId publicKey.deviceId)
  if publicKey.deviceId ≠ record.deviceId then
    throw (.invalidProfileSyncMembershipRecord
      ("membership public key device id " ++ publicKey.deviceId ++
        " does not match target device " ++ record.deviceId))
  if publicKey.bytes = [] then
    throw (.invalidProfileSyncMembershipRecord
      ("membership record " ++ record.recordId ++ " has an empty device public key"))

/-- The record installs a key for its device. -/
def installsKey (recordKind : String) : Bool :=
  recordKind == recordKindEnrollDevice || recordKind == recordKindEnrollProvider ||
    recordKind == recordKindRotateDeviceKey

def validateProfileSyncMembershipRecord (record : ProfileSyncMembershipRecord) :
    Except StorageError Unit := do
  if record.schemaVersion ≠ profileSyncMembershipRecordSchemaVersion then
    throw (.unsupportedProfileSyncMembershipRecordSchema record.schemaVersion)
  if record.membershipEpoch < 1 then
    throw (.invalidSyncMembershipEpoch record.membershipEpoch)
  if !isValidSyncIdentifier record.recordId then
    throw (.invalidSyncMembershipRecordId record.recordId)
  if !isValidSyncIdentifier record.deviceId then
    throw (.invalidSyncDeviceId record.deviceId)
  if !isValidProfileSyncMembershipRecordKind record.recordKind then
    throw (.invalidSyncMembershipRecordKind record.recordKind)
  if installsKey record.recordKind then
    match record.devicePublicKey with
    | some publicKey => validateMembershipRecordPublicKey record publicKey
    | none => throw (.invalidProfileSyncMembershipRecord
        (record.recordKind ++ " requires a device public key"))
  else if record.recordKind = recordKindRevokeDevice then
    if record.devicePublicKey.isSome then
      throw (.invalidProfileSyncMembershipRecord
        "revoke-device records must not carry a replacement public key")
  else throw (.invalidSyncMembershipRecordKind record.recordKind)

structure SyncAccountMembershipRecordRegistration where
  profile : String
  recordId : String
  membershipEpoch : Int
  recordKind : String
  deviceId : String
  signerDeviceId : String
  signedRecord : List Nat
deriving DecidableEq, Repr

def validateSyncAccountMembershipRegistration
    (registration : SyncAccountMembershipRecordRegistration) : Except StorageError Unit := do
  if registration.membershipEpoch < 1 then
    throw (.invalidSyncMembershipEpoch registration.membershipEpoch)
  if !isValidSyncIdentifier registration.recordId then
    throw (.invalidSyncMembershipRecordId registration.recordId)
  if !isValidProfileSyncMembershipRecordKind registration.recordKind then
    throw (.invalidSyncMembershipRecordKind registration.recordKind)
  if !isValidSyncIdentifier registration.deviceId then
    throw (.invalidSyncDeviceId registration.deviceId)
  if !isValidSyncIdentifier registration.signerDeviceId then
    throw (.invalidSyncDeviceId registration.signerDeviceId)
  if registration.signedRecord = [] then
    throw (.invalidProfileSyncMembershipRecord "membership record signed bytes are empty")

/-- Object errors reach the caller as membership record errors. -/
def membershipRecordError {α : Type} (result : Except SyncObjectError α) :
    Except StorageError α :=
  result.mapError fun error => .invalidProfileSyncMembershipRecord error.message

/-- The signed envelope and the record in it; the signature is checked against the key
that the envelope carries. -/
def decodeSignedProfileSyncMembershipRecord (scheme : SyncObjectScheme)
    (signedRecord : List Nat) :
    Except StorageError (SignedSyncObject × ProfileSyncMembershipRecord) := do
  let signedObject ← membershipRecordError (SignedSyncObject.fromBytes scheme signedRecord)
  if !isValidSyncIdentifier signedObject.deviceId then
    throw (.invalidSyncDeviceId signedObject.deviceId)
  let payload ← membershipRecordError <| signedObject.verifyWith scheme
    { deviceId := signedObject.deviceId, bytes := signedObject.publicKey }
  let membershipRecord ← membershipRecordError
    ((scheme.membershipRecord.fromBytes payload).mapError .decode)
  validateProfileSyncMembershipRecord membershipRecord
  pure (signedObject, membershipRecord)

end Validation

namespace SlateProfileDatabase

section Keys

def publicKeyKey (record : SyncDevicePublicKeyRecord) : String × String :=
  (record.profile, record.publicKey.deviceId)

def syncDevicePublicKey (profile deviceId : String) (db : SlateProfileDatabase) :
    Except StorageError (Option SyncDevicePublicKeyRecord) :=
  if isValidSyncIdentifier deviceId then
    .ok (Rows.lookup publicKeyKey (profile, deviceId) db.syncDevicePublicKeys)
  else .error (.invalidSyncDeviceId deviceId)

/-- `sync_device_public_keys`: the rows of a profile, by device id. -/
def syncDevicePublicKeysOf (profile : String) (db : SlateProfileDatabase) :
    List SyncDevicePublicKeyRecord :=
  (db.syncDevicePublicKeys.filter fun record => record.profile == profile).insertionSort
    fun left right => left.publicKey.deviceId ≤ right.publicKey.deviceId

def syncDeviceProviderAuthority (profile deviceId : String) (db : SlateProfileDatabase) :
    Except StorageError Bool :=
  if isValidSyncIdentifier deviceId then
    .ok ((Rows.lookup deviceKey (profile, deviceId) db.syncDevices).any
      (·.providerAuthority))
  else .error (.invalidSyncDeviceId deviceId)

/-- `record_sync_device_roster_entry_in_transaction`. -/
def recordSyncDeviceRosterEntry (profile deviceId : String) (membershipEpoch now : Int)
    (db : SlateProfileDatabase) : SlateProfileDatabase :=
  { db with
    syncDevices :=
      Rows.upsert deviceKey
        (fun existing excluded =>
          { existing with
            membershipEpoch := excluded.membershipEpoch, lastSeenAt := excluded.lastSeenAt })
        { profile, deviceId, label := none, membershipEpoch, providerAuthority := false
          createdAt := now, lastSeenAt := now }
        db.syncDevices }

/-- `record_sync_device_roster_entry_with_provider_authority_in_transaction`. -/
def recordSyncDeviceRosterEntryWithProviderAuthority (profile deviceId : String)
    (membershipEpoch : Int) (providerAuthority : Bool) (now : Int)
    (db : SlateProfileDatabase) : SlateProfileDatabase :=
  { db with
    syncDevices :=
      Rows.upsert deviceKey
        (fun existing excluded =>
          { existing with
            membershipEpoch := excluded.membershipEpoch
            providerAuthority := excluded.providerAuthority
            lastSeenAt := excluded.lastSeenAt })
        { profile, deviceId, label := none, membershipEpoch, providerAuthority
          createdAt := now, lastSeenAt := now }
        db.syncDevices }

structure SyncDevicePublicKeyRegistration where
  profile : String
  publicKey : ProfileSyncDevicePublicKey
  membershipEpoch : Int
deriving DecidableEq, Repr

/-- The row of a device's key; a registered key is trusted. -/
def putSyncDevicePublicKey (registration : SyncDevicePublicKeyRegistration) (now : Int)
    (db : SlateProfileDatabase) : SlateProfileDatabase :=
  { db with
    syncDevicePublicKeys :=
      Rows.upsert publicKeyKey
        (fun existing excluded =>
          { existing with
            publicKey := excluded.publicKey, membershipEpoch := excluded.membershipEpoch
            trusted := true, updatedAt := excluded.updatedAt })
        { profile := registration.profile, publicKey := registration.publicKey
          membershipEpoch := registration.membershipEpoch, trusted := true, createdAt := now
          updatedAt := now }
        db.syncDevicePublicKeys }

def registerSyncDevicePublicKey (registration : SyncDevicePublicKeyRegistration) (now : Int)
    (db : SlateProfileDatabase) :
    Except StorageError (SyncDevicePublicKeyRecord × SlateProfileDatabase) := do
  if !isValidSyncIdentifier registration.publicKey.deviceId then
    throw (.invalidSyncDeviceId registration.publicKey.deviceId)
  let db := (db.putSyncDevicePublicKey registration now).recordSyncDeviceRosterEntry
    registration.profile registration.publicKey.deviceId registration.membershipEpoch now
  match ← db.syncDevicePublicKey registration.profile registration.publicKey.deviceId with
  | some record => pure (record, db)
  | none => throw (.database .queryReturnedNoRows)

/-- The key rows with the trust of one device replaced. -/
def putSyncDevicePublicKeyTrusted (profile deviceId : String) (trusted : Bool) (now : Int)
    (db : SlateProfileDatabase) : SlateProfileDatabase :=
  { db with
    syncDevicePublicKeys := db.syncDevicePublicKeys.map fun record =>
      if publicKeyKey record = (profile, deviceId) then
        { record with trusted, updatedAt := now }
      else record }

def setSyncDevicePublicKeyTrusted (profile deviceId : String) (trusted : Bool) (now : Int)
    (db : SlateProfileDatabase) :
    Except StorageError (Option SyncDevicePublicKeyRecord × SlateProfileDatabase) := do
  if !isValidSyncIdentifier deviceId then
    throw (.invalidSyncDeviceId deviceId)
  let db := db.putSyncDevicePublicKeyTrusted profile deviceId trusted now
  pure (← db.syncDevicePublicKey profile deviceId, db)

end Keys

section Records

def membershipRecordKey (record : SyncAccountMembershipRecord) : String × String :=
  (record.profile, record.recordId)

def syncAccountMembershipRecord (profile recordId : String) (db : SlateProfileDatabase) :
    Except StorageError (Option SyncAccountMembershipRecord) :=
  if isValidSyncIdentifier recordId then
    .ok (Rows.lookup membershipRecordKey (profile, recordId) db.syncAccountMembershipRecords)
  else .error (.invalidSyncMembershipRecordId recordId)

/-- `INSERT OR IGNORE`: a record id that is taken keeps its row. -/
def insertSyncAccountMembershipRecord
    (registration : SyncAccountMembershipRecordRegistration) (now : Int)
    (db : SlateProfileDatabase) : SlateProfileDatabase :=
  { db with
    syncAccountMembershipRecords :=
      Rows.upsert membershipRecordKey (fun existing _ => existing)
        { profile := registration.profile, recordId := registration.recordId
          membershipEpoch := registration.membershipEpoch
          recordKind := registration.recordKind, deviceId := registration.deviceId
          signerDeviceId := registration.signerDeviceId
          signedRecord := registration.signedRecord, createdAt := now, appliedAt := none }
        db.syncAccountMembershipRecords }

def recordSyncAccountMembershipRecord
    (registration : SyncAccountMembershipRecordRegistration) (now : Int)
    (db : SlateProfileDatabase) :
    Except StorageError (SyncAccountMembershipRecord × SlateProfileDatabase) := do
  validateSyncAccountMembershipRegistration registration
  let db := db.insertSyncAccountMembershipRecord registration now
  match ← db.syncAccountMembershipRecord registration.profile registration.recordId with
  | none => throw (.database .queryReturnedNoRows)
  | some record =>
      if record.signedRecord ≠ registration.signedRecord then
        throw (.invalidProfileSyncMembershipRecord
          ("membership record " ++ registration.recordId ++
            " already exists with different signed bytes"))
      pure (record, db)

/-- The record rows with one of them marked as applied. -/
def putSyncAccountMembershipRecordApplied (profile recordId : String) (now : Int)
    (db : SlateProfileDatabase) : SlateProfileDatabase :=
  { db with
    syncAccountMembershipRecords := db.syncAccountMembershipRecords.map fun record =>
      if membershipRecordKey record = (profile, recordId) then
        { record with appliedAt := some (record.appliedAt.getD now) }
      else record }

def markSyncAccountMembershipRecordApplied (profile recordId : String) (now : Int)
    (db : SlateProfileDatabase) :
    Except StorageError (SyncAccountMembershipRecord × SlateProfileDatabase) := do
  let db := db.putSyncAccountMembershipRecordApplied profile recordId now
  match ← db.syncAccountMembershipRecord profile recordId with
  | some record => pure (record, db)
  | none => throw (.database .queryReturnedNoRows)

def syncAccountMembershipRecordCount (profile : String) (db : SlateProfileDatabase) : Nat :=
  (db.syncAccountMembershipRecords.filter fun record => record.profile == profile).length

/-- `ORDER BY membership_epoch, record_id`. -/
def membershipRecordLe (left right : SyncAccountMembershipRecord) : Prop :=
  left.membershipEpoch < right.membershipEpoch ∨
    left.membershipEpoch = right.membershipEpoch ∧ left.recordId ≤ right.recordId

instance membershipRecordLeDecidable : DecidableRel membershipRecordLe := fun left right =>
  inferInstanceAs (Decidable
    (left.membershipEpoch < right.membershipEpoch ∨
      left.membershipEpoch = right.membershipEpoch ∧ left.recordId ≤ right.recordId))

/-- `sync_account_membership_records`: the rows of a profile, by epoch and record id. -/
def syncAccountMembershipRecordsOf (profile : String) (db : SlateProfileDatabase) :
    List SyncAccountMembershipRecord :=
  (db.syncAccountMembershipRecords.filter fun record => record.profile == profile
    ).insertionSort membershipRecordLe

/-- The applied records of one device. -/
def appliedMembershipRecords (profile deviceId : String) (db : SlateProfileDatabase) :
    List SyncAccountMembershipRecord :=
  db.syncAccountMembershipRecords.filter fun record =>
    record.profile == profile && record.deviceId == deviceId && record.appliedAt.isSome

def latestAppliedSyncAccountMembershipEpoch (profile deviceId : String)
    (db : SlateProfileDatabase) : Except StorageError (Option Int) :=
  if isValidSyncIdentifier deviceId then
    .ok ((db.appliedMembershipRecords profile deviceId).map (·.membershipEpoch)).max?
  else .error (.invalidSyncDeviceId deviceId)

def appliedSyncAccountMembershipRecordForDeviceEpoch (profile deviceId : String)
    (membershipEpoch : Int) (db : SlateProfileDatabase) :
    Except StorageError (Option SyncAccountMembershipRecord) :=
  if isValidSyncIdentifier deviceId then
    .ok (((db.appliedMembershipRecords profile deviceId).filter fun record =>
      record.membershipEpoch == membershipEpoch).argmin (·.recordId))
  else .error (.invalidSyncDeviceId deviceId)

end Records

section Application

variable (scheme : SyncObjectScheme)

/-- The first record of a profile may enroll the device that signed it. -/
def bootstraps (signedObject : SignedSyncObject) (record : ProfileSyncMembershipRecord)
    (db : SlateProfileDatabase) : Bool :=
  (db.syncDevicePublicKeysOf record.profile).isEmpty &&
    record.recordKind == recordKindEnrollDevice &&
    record.deviceId == signedObject.deviceId &&
    record.devicePublicKey.any fun publicKey =>
      publicKey.deviceId == signedObject.deviceId &&
        publicKey.bytes == signedObject.publicKey

/-- Whether the record bootstraps the profile; an error if it is not authorized. -/
def authorizeSyncAccountMembershipRecord (signedObject : SignedSyncObject)
    (record : ProfileSyncMembershipRecord) (db : SlateProfileDatabase) :
    Except StorageError Bool :=
  if db.bootstraps signedObject record then .ok true
  else do
    match (← db.syncDevicePublicKey record.profile signedObject.deviceId).filter
        (·.trusted) with
    | none => throw (.untrustedSyncMembershipSigner record.profile signedObject.deviceId)
    | some trustedSigner =>
        if ← db.syncDeviceProviderAuthority record.profile signedObject.deviceId then
          throw (.invalidProfileSyncMembershipRecord
            ("membership signer " ++ signedObject.deviceId ++
              " is marked as provider authority and cannot authorize account membership " ++
              "records"))
        if trustedSigner.membershipEpoch > record.membershipEpoch then
          throw (.invalidProfileSyncMembershipRecord
            ("membership signer " ++ signedObject.deviceId ++ " was trusted at epoch " ++
              toString trustedSigner.membershipEpoch ++ ", after membership record epoch " ++
              toString record.membershipEpoch))
        let _ ← membershipRecordError
          (signedObject.verifyWith scheme trustedSigner.publicKey)
        pure false

def rejectStaleSyncAccountMembershipRecord (record : ProfileSyncMembershipRecord)
    (db : SlateProfileDatabase) : Except StorageError Unit := do
  match ← db.latestAppliedSyncAccountMembershipEpoch record.profile record.deviceId with
  | none => pure ()
  | some latestEpoch =>
      if record.membershipEpoch < latestEpoch then
        throw (.invalidProfileSyncMembershipRecord
          ("membership record " ++ record.recordId ++ " at epoch " ++
            toString record.membershipEpoch ++ " is older than latest applied epoch " ++
            toString latestEpoch ++ " for device " ++ record.deviceId))
      if record.membershipEpoch = latestEpoch then
        match ← db.appliedSyncAccountMembershipRecordForDeviceEpoch record.profile
            record.deviceId record.membershipEpoch with
        | some appliedRecord =>
            throw (.invalidProfileSyncMembershipRecord
              ("membership record " ++ record.recordId ++
                " conflicts with already-applied record " ++ appliedRecord.recordId ++
                " at epoch " ++ toString record.membershipEpoch ++ " for device " ++
                record.deviceId))
        | none => pure ()

def rejectInvalidSyncAccountMembershipTransition (record : ProfileSyncMembershipRecord)
    (db : SlateProfileDatabase) : Except StorageError Unit := do
  if record.recordKind = recordKindEnrollDevice ∨
      record.recordKind = recordKindEnrollProvider then
    if (← db.syncDevicePublicKey record.profile record.deviceId).any (·.trusted) then
      throw (.invalidProfileSyncMembershipRecord
        (record.recordKind ++ " record " ++ record.recordId ++
          " cannot replace already trusted device " ++ record.deviceId ++
          "; use rotate-device-key"))
  else if record.recordKind = recordKindRotateDeviceKey then
    match ← db.syncDevicePublicKey record.profile record.deviceId with
    | none =>
        throw (.invalidProfileSyncMembershipRecord
          ("rotate-device-key record " ++ record.recordId ++
            " requires an existing trusted key for device " ++ record.deviceId))
    | some existingKey =>
        if !existingKey.trusted then
          throw (.invalidProfileSyncMembershipRecord
            ("rotate-device-key record " ++ record.recordId ++
              " cannot re-trust revoked device " ++ record.deviceId ++ "; use enroll-device"))

/-- The key table after a record: an installed key, or a revoked one. -/
def applyMembershipKey (record : ProfileSyncMembershipRecord) (now : Int)
    (db : SlateProfileDatabase) :
    Except StorageError (Option SyncDevicePublicKeyRecord × SlateProfileDatabase) :=
  if installsKey record.recordKind then
    match record.devicePublicKey with
    | none => .error (.invalidProfileSyncMembershipRecord
        (record.recordKind ++ " requires a device public key"))
    | some publicKey => do
        let (key, db) ← db.registerSyncDevicePublicKey
          { profile := record.profile, publicKey, membershipEpoch := record.membershipEpoch } now
        pure (some key, db)
  else if record.recordKind = recordKindRevokeDevice then
    db.setSyncDevicePublicKeyTrusted record.profile record.deviceId false now
  else .error (.invalidSyncMembershipRecordKind record.recordKind)

def recordSyncMembershipDevice (record : ProfileSyncMembershipRecord) (now : Int)
    (db : SlateProfileDatabase) : SlateProfileDatabase :=
  if record.recordKind = recordKindEnrollDevice then
    db.recordSyncDeviceRosterEntryWithProviderAuthority record.profile record.deviceId
      record.membershipEpoch false now
  else if record.recordKind = recordKindEnrollProvider then
    db.recordSyncDeviceRosterEntryWithProviderAuthority record.profile record.deviceId
      record.membershipEpoch true now
  else
    db.recordSyncDeviceRosterEntry record.profile record.deviceId record.membershipEpoch now

structure SyncAccountMembershipRecordApplication where
  membershipRecord : SyncAccountMembershipRecord
  deviceKey : Option SyncDevicePublicKeyRecord
  bootstrapped : Bool
  applied : Bool
deriving DecidableEq, Repr

/-- A signed record with what it decodes to. -/
structure DecodedMembershipRecord where
  signedRecord : List Nat
  signedObject : SignedSyncObject
  record : ProfileSyncMembershipRecord
deriving DecidableEq, Repr

/-- The row a record is stored as. -/
def DecodedMembershipRecord.registration (decoded : DecodedMembershipRecord) :
    SyncAccountMembershipRecordRegistration :=
  { profile := decoded.record.profile, recordId := decoded.record.recordId
    membershipEpoch := decoded.record.membershipEpoch
    recordKind := decoded.record.recordKind, deviceId := decoded.record.deviceId
    signerDeviceId := decoded.signedObject.deviceId, signedRecord := decoded.signedRecord }

/-- The stages after a record was authorized and found to be new. -/
def applyNewSyncAccountMembershipRecord (decoded : DecodedMembershipRecord)
    (bootstrapped : Bool) (now : Int) (db : SlateProfileDatabase) :
    Except StorageError (SyncAccountMembershipRecordApplication × SlateProfileDatabase) := do
  db.rejectStaleSyncAccountMembershipRecord decoded.record
  db.rejectInvalidSyncAccountMembershipTransition decoded.record
  let (storedRecord, db) ← db.recordSyncAccountMembershipRecord decoded.registration now
  let (deviceKey, db) ← db.applyMembershipKey decoded.record now
  let db := db.recordSyncMembershipDevice decoded.record now
  let (appliedRecord, db) ← db.markSyncAccountMembershipRecordApplied storedRecord.profile
    storedRecord.recordId now
  pure ({ membershipRecord := appliedRecord, deviceKey, bootstrapped, applied := true }, db)

/-- `apply_decoded_sync_account_membership_record_in_transaction`. -/
def applyDecodedSyncAccountMembershipRecord (decoded : DecodedMembershipRecord) (now : Int)
    (db : SlateProfileDatabase) :
    Except StorageError (SyncAccountMembershipRecordApplication × SlateProfileDatabase) := do
  let bootstrapped ← db.authorizeSyncAccountMembershipRecord scheme decoded.signedObject
    decoded.record
  match ← db.syncAccountMembershipRecord decoded.record.profile decoded.record.recordId with
  | none => db.applyNewSyncAccountMembershipRecord decoded bootstrapped now
  | some existingRecord =>
      if existingRecord.signedRecord ≠ decoded.signedRecord then
        .error (.invalidProfileSyncMembershipRecord
          ("membership record " ++ decoded.record.recordId ++
            " already exists with different signed bytes"))
      else if existingRecord.appliedAt.isSome then do
        let deviceKey ← db.syncDevicePublicKey existingRecord.profile existingRecord.deviceId
        pure ({ membershipRecord := existingRecord, deviceKey, bootstrapped
                applied := false }, db)
      else db.applyNewSyncAccountMembershipRecord decoded bootstrapped now

/-- A signed record is stored without being applied. -/
def recordSignedSyncAccountMembershipRecord (signedRecord : List Nat) (now : Int)
    (db : SlateProfileDatabase) :
    Except StorageError (SyncAccountMembershipRecord × SlateProfileDatabase) := do
  let (signedObject, record) ← decodeSignedProfileSyncMembershipRecord scheme signedRecord
  db.recordSyncAccountMembershipRecord
    (DecodedMembershipRecord.registration { signedRecord, signedObject, record }) now

def decodeSignedMembershipRecords (signedRecords : List (List Nat)) :
    Except StorageError (List DecodedMembershipRecord) :=
  signedRecords.mapM fun signedRecord => do
    let (signedObject, record) ← decodeSignedProfileSyncMembershipRecord scheme signedRecord
    pure { signedRecord, signedObject, record }

/-- All records of a batch are decoded before the first is applied. -/
def applySignedSyncAccountMembershipRecords (signedRecords : List (List Nat)) (now : Int)
    (db : SlateProfileDatabase) :
    Except StorageError
      (List SyncAccountMembershipRecordApplication × SlateProfileDatabase) := do
  let decodedRecords ← decodeSignedMembershipRecords scheme signedRecords
  forEach (fun decoded => applyDecodedSyncAccountMembershipRecord scheme decoded now)
    decodedRecords db

/-- The records are applied and the root is set in one transaction. -/
def applySignedSyncAccountMembershipRecordsAndSetProfileSyncRoot
    (profile rootId objectId : String) (signedRecords : List (List Nat)) (now : Int)
    (db : SlateProfileDatabase) :
    Except StorageError
      (List SyncAccountMembershipRecordApplication × SlateProfileDatabase) := do
  let decodedRecords ← decodeSignedMembershipRecords scheme signedRecords
  let (applications, db) ← forEach (fun decoded =>
    applyDecodedSyncAccountMembershipRecord scheme decoded now) decodedRecords db
  let (_, db) ← db.setProfileSyncRoot profile rootId objectId now
  pure (applications, db)

end Application

end SlateProfileDatabase

end Slate.Storage
