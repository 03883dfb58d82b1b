import Slate.ProfileSync.Receiver

/-!
# The membership log

A device publishes the signed membership records that it stores, each under a root of its
own, and a log that lists them by epoch and record id. A receiver fetches the log, checks
it and every record object against its entry, and applies the records in one transaction.
The JSON encoder of the log is a parameter.
-/

namespace Slate.ProfileSync

open Slate.Foundation Slate.Storage

def profileSyncMembershipLogSchemaVersion : Nat := 1
def profileSyncMembershipLogRootId : String := "account/membership/log"
def profileSyncMembershipLogMaxRecords : Nat := 512

def syncMembershipRecordRootId (recordId : String) : String :=
  "account/membership/" ++ recordId

structure ProfileSyncMembershipLogEntry where
  recordId : String
  rootId : String
  objectId : String
  membershipEpoch : Int
  recordKind : String
  deviceId : String
  signerDeviceId : String
deriving DecidableEq, Repr

structure ProfileSyncMembershipLog where
  profile : String
  schemaVersion : Nat
  records : List ProfileSyncMembershipLogEntry
deriving DecidableEq, Repr

structure PublishedProfileSyncMembershipLog where
  profile : String
  rootId : String
  objectId : String
  log : ProfileSyncMembershipLog
deriving DecidableEq, Repr

inductive ProfileSyncMembershipLogPublicationPlanStatus where
  | empty
  | publishable
  | tooLarge
deriving DecidableEq, Repr

structure ProfileSyncMembershipLogPublicationPlan where
  profile : String
  rootId : String
  recordCount : Nat
  maxRecords : Nat
  status : ProfileSyncMembershipLogPublicationPlanStatus
deriving DecidableEq, Repr

namespace ProfileSyncMembershipLogPublicationPlan

def forRecordCount (profile rootId : String) (recordCount : Nat) :
    ProfileSyncMembershipLogPublicationPlan :=
  { profile, rootId, recordCount, maxRecords := profileSyncMembershipLogMaxRecords
    status :=
      if recordCount = 0 then .empty
      else if profileSyncMembershipLogMaxRecords < recordCount then .tooLarge
      else .publishable }

def isEmpty (plan : ProfileSyncMembershipLogPublicationPlan) : Bool :=
  plan.status == .empty

def requiresCompaction (plan : ProfileSyncMembershipLogPublicationPlan) : Bool :=
  plan.status == .tooLarge

end ProfileSyncMembershipLogPublicationPlan

inductive ProfileSyncMembershipLogPullStatus where
  | noPublishedRoot (profile rootId : String)
  | unchanged (profile rootId objectId : String)
  | applied (log : ProfileSyncMembershipLog)
      (applications : List SlateProfileDatabase.SyncAccountMembershipRecordApplication)
deriving DecidableEq, Repr

section Publish

variable (scheme : SyncObjectScheme) (logCodec : ObjectCodec ProfileSyncMembershipLog)

def planLocalSyncAccountMembershipLog (profile rootId : String) (db : SlateProfileDatabase) :
    ProfileSyncMembershipLogPublicationPlan :=
  .forRecordCount profile rootId (db.syncAccountMembershipRecordCount profile)

/-- The id of the stored record object. -/
def publishSignedSyncAccountMembershipRecord (profile rootId : String)
    (signedRecord : List Nat) (store : ObjectStore) :
    Except ProfileSyncPublishError (String × ObjectStore) :=
  (store.putRetainedRoot scheme profile rootId signedRecord).mapError .broadwebd

/-- A record is published under its own root and listed with the id of its object. -/
def publishMembershipLogEntry (profile : String) (record : SyncAccountMembershipRecord)
    (store : ObjectStore) :
    Except ProfileSyncPublishError (ProfileSyncMembershipLogEntry × ObjectStore) := do
  let recordRootId := syncMembershipRecordRootId record.recordId
  let (objectId, store) ← publishSignedSyncAccountMembershipRecord scheme profile recordRootId
    record.signedRecord store
  pure ({ recordId := record.recordId, rootId := recordRootId, objectId
          membershipEpoch := record.membershipEpoch, recordKind := record.recordKind
          deviceId := record.deviceId, signerDeviceId := record.signerDeviceId }, store)

def publishLocalSyncAccountMembershipLog (profile rootId : String)
    (db : SlateProfileDatabase) (store : ObjectStore) :
    Except ProfileSyncPublishError (Option PublishedProfileSyncMembershipLog × ObjectStore) := do
  let plan := planLocalSyncAccountMembershipLog profile rootId db
  if plan.isEmpty then
    return (none, store)
  if plan.requiresCompaction then
    throw (.membershipLogTooLarge plan.profile plan.maxRecords plan.recordCount)
  let records := db.syncAccountMembershipRecordsOf profile
  let loadedPlan := ProfileSyncMembershipLogPublicationPlan.forRecordCount profile rootId
    records.length
  if loadedPlan.isEmpty then
    return (none, store)
  if loadedPlan.requiresCompaction then
    throw (.membershipLogTooLarge loadedPlan.profile loadedPlan.maxRecords
      loadedPlan.recordCount)
  let (entries, store) ← forEach (publishMembershipLogEntry scheme profile) records store
  let log : ProfileSyncMembershipLog :=
    { profile, schemaVersion := profileSyncMembershipLogSchemaVersion, records := entries }
  let (objectId, store) ← (store.putRetainedRoot scheme profile rootId
    (logCodec.toBytes log)).mapError ProfileSyncPublishError.broadwebd
  pure (some { profile, rootId, objectId, log }, store)

end Publish

section Validate

/-- The same letters as in sync identifiers. -/
def isValidMembershipLogIdentifier (value : String) : Bool :=
  isValidSyncIdentifier value

def isSupportedMembershipLogRecordKind (recordKind : String) : Bool :=
  isValidProfileSyncMembershipRecordKind recordKind

def validateMembershipLogEntry (entry : ProfileSyncMembershipLogEntry) :
    Except ProfileSyncReceiveError Unit := do
  if entry.recordId = "" then
    throw (.invalidMembershipLog "record id must not be empty")
  if !isValidMembershipLogIdentifier entry.recordId then
    throw (.invalidMembershipLog ("record id " ++ entry.recordId ++ " is invalid"))
  if entry.rootId ≠ syncMembershipRecordRootId entry.recordId then
    throw (.invalidMembershipLog
      ("record " ++ entry.recordId ++ " has unexpected root " ++ entry.rootId))
  if entry.objectId = "" then
    throw (.invalidMembershipLog ("record " ++ entry.recordId ++ " has an empty object id"))
  if entry.membershipEpoch < 1 then
    throw (.invalidMembershipLog
      ("record " ++ entry.recordId ++ " has invalid membership epoch " ++
        toString entry.membershipEpoch))
  if !isSupportedMembershipLogRecordKind entry.recordKind then
    throw (.invalidMembershipLog
      ("record " ++ entry.recordId ++ " has unsupported record kind " ++ entry.recordKind))
  if !isValidMembershipLogIdentifier entry.deviceId then
    throw (.invalidMembershipLog
      ("record " ++ entry.recordId ++ " has invalid device id " ++ entry.deviceId))
  if !isValidMembershipLogIdentifier entry.signerDeviceId then
    throw (.invalidMembershipLog
      ("record " ++ entry.recordId ++ " has invalid signer device id " ++
        entry.signerDeviceId))

/-- The key of a later entry is not smaller. -/
def membershipLogKeyLt (left right : Int × String) : Bool :=
  decide (left.1 < right.1) || decide (left.1 = right.1) && decide (left.2 < right.2)

/-- The loop over the entries, with the record ids seen so far and the last key. -/
def validateMembershipLogEntries :
    List ProfileSyncMembershipLogEntry → List String → Option (Int × String) →
      Except ProfileSyncReceiveError Unit
  | [], _, _ => .ok ()
  | entry :: rest, seenRecordIds, previousKey => do
      validateMembershipLogEntry entry
      if entry.recordId ∈ seenRecordIds then
        throw (.invalidMembershipLog ("record " ++ entry.recordId ++ " is duplicated"))
      let currentKey := (entry.membershipEpoch, entry.recordId)
      if previousKey.any (membershipLogKeyLt currentKey) then
        throw (.invalidMembershipLog
          "records must be ordered by membership epoch and record id")
      validateMembershipLogEntries rest (entry.recordId :: seenRecordIds) (some currentKey)

def validateProfileSyncMembershipLog (log : ProfileSyncMembershipLog)
    (expectedProfile : String) : Except ProfileSyncReceiveError Unit := do
  if log.schemaVersion ≠ profileSyncMembershipLogSchemaVersion then
    throw (.invalidMembershipLog
      ("unsupported schema version " ++ toString log.schemaVersion))
  if log.profile ≠ expectedProfile then
    throw (.invalidMembershipLog
      ("expected profile " ++ expectedProfile ++ ", got " ++ log.profile))
  if profileSyncMembershipLogMaxRecords < log.records.length then
    throw (.invalidMembershipLog
      ("too many records: max " ++ toString profileSyncMembershipLogMaxRecords ++ ", got " ++
        toString log.records.length))
  validateMembershipLogEntries log.records [] none

def decodeProfileSyncMembershipLog (logCodec : ObjectCodec ProfileSyncMembershipLog)
    (bytes : List Nat) (expectedProfile : String) :
    Except ProfileSyncReceiveError ProfileSyncMembershipLog := do
  let log ← (logCodec.fromBytes bytes).mapError fun message =>
    ProfileSyncReceiveError.syncObject (.decode message)
  validateProfileSyncMembershipLog log expectedProfile
  pure log

variable (scheme : SyncObjectScheme)

/-- The signer's device id and the record. -/
def decodeSignedMembershipRecordForMembershipLog (signedRecord : List Nat) :
    Except SyncObjectError (String × ProfileSyncMembershipRecord) := do
  let signedObject ← SignedSyncObject.fromBytes scheme signedRecord
  let payload ← signedObject.verifyWith scheme
    { deviceId := signedObject.deviceId, bytes := signedObject.publicKey }
  let membershipRecord ← (scheme.membershipRecord.fromBytes payload).mapError .decode
  pure (signedObject.deviceId, membershipRecord)

def validateMembershipLogEntryObject (expectedProfile : String)
    (entry : ProfileSyncMembershipLogEntry) (signedRecord : List Nat) :
    Except ProfileSyncReceiveError Unit := do
  let (signerDeviceId, membershipRecord) ←
    (decodeSignedMembershipRecordForMembershipLog scheme signedRecord).mapError
      ProfileSyncReceiveError.syncObject
  let expectedRootId := syncMembershipRecordRootId membershipRecord.recordId
  if membershipRecord.profile ≠ expectedProfile ∨
      entry.recordId ≠ membershipRecord.recordId ∨ entry.rootId ≠ expectedRootId ∨
      entry.membershipEpoch ≠ membershipRecord.membershipEpoch ∨
      entry.recordKind ≠ membershipRecord.recordKind ∨
      entry.deviceId ≠ membershipRecord.deviceId ∨
      entry.signerDeviceId ≠ signerDeviceId then
    throw (.invalidMembershipLog
      ("entry " ++ entry.recordId ++ " does not match its signed membership record"))

end Validate

section Pull

variable (scheme : SyncObjectScheme) (logCodec : ObjectCodec ProfileSyncMembershipLog)

/-- The signed record of an entry, fetched and checked. -/
def fetchMembershipLogRecord (profile : String) (store : ObjectStore)
    (entry : ProfileSyncMembershipLogEntry) : Except ProfileSyncReceiveError (List Nat) := do
  let signedRecord ← (store.getProfileSyncObject scheme profile entry.objectId).mapError
    ProfileSyncReceiveError.broadwebd
  validateMembershipLogEntryObject scheme profile entry signedRecord.bytes
  pure signedRecord.bytes

def pullAndApplySyncAccountMembershipLogIfChanged (profile rootId : String)
    (store : ObjectStore) (now : Int) (db : SlateProfileDatabase) :
    Except ProfileSyncReceiveError
      (ProfileSyncMembershipLogPullStatus × SlateProfileDatabase) := do
  match store.resolveProfileSyncRoot profile rootId with
  | none => pure (.noPublishedRoot profile rootId, db)
  | some objectId =>
    let localRoot ← (db.profileSyncRoot profile rootId).mapError ProfileSyncReceiveError.storage
    if localRoot = some objectId then
      pure (.unchanged profile rootId objectId, db)
    else
      let logObject ← (store.getProfileSyncObject scheme profile objectId).mapError
        ProfileSyncReceiveError.broadwebd
      let log ← decodeProfileSyncMembershipLog logCodec logObject.bytes profile
      let signedRecords ← log.records.mapM (fetchMembershipLogRecord scheme profile store)
      let (applications, db) ←
        (db.applySignedSyncAccountMembershipRecordsAndSetProfileSyncRoot scheme profile rootId
          objectId signedRecords now).mapError ProfileSyncReceiveError.storage
      pure (.applied log applications, db)

end Pull

end Slate.ProfileSync
