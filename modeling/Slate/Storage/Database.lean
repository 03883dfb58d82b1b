import Slate.Foundation.Rows
import Slate.Foundation.Transaction
import Slate.Storage.AppDomains
import Mathlib.Data.List.MinMax
import Mathlib.Data.List.Sort

/-!
# The profile database

One profile database with its tables, and the single-table statements the sync
functions are made of. Rows are never deleted from `settings_changes` and
`settings_revisions`, so their automatic ids count from one.
-/

namespace Slate.Storage

open Slate.Foundation

structure SlateProfileDatabase where
  localSyncDeviceId : String
  settings : List SettingRow := []
  bookmarks : List BookmarkRecord := []
  appTables : (domain : AppDomain) → List (AppRecord domain) := fun _ => []
  appSyncDomains : List AppSyncDomainRecord := []
  syncDevices : List SyncDeviceRecord := []
  syncDevicePublicKeys : List SyncDevicePublicKeyRecord := []
  syncAccountMembershipRecords : List SyncAccountMembershipRecord := []
  syncContentKeyEpochs : List SyncContentKeyEpochRecord := []
  settingsChanges : List SyncChangeRecord := []
  settingsRevisions : List SyncRevisionRecord := []
  settingsValues : List SyncSettingValueRecord := []
  settingsSnapshots : List SyncSnapshotRecord := []
  syncState : List SyncStateRow := []

/-- A JSON encoder and decoder for one payload type. -/
structure PayloadCodec (Payload : Type) where
  toText : Payload → String
  fromText : String → Except String Payload

structure BookmarkSlotSyncPayload where
  url : String
  title : Option String
  folder : Option String
  position : Int
  faviconKey : Option String
  replacedUrl : Option String
  deleted : Bool
deriving DecidableEq, Repr

/-- The serializers of the payloads that changes carry. -/
structure SyncPayloadCodec where
  bookmark : PayloadCodec BookmarkSlotSyncPayload
  app : (domain : AppDomain) → PayloadCodec (AppSyncPayload domain)

/-- Reading back a written payload gives the payload. -/
structure SyncPayloadCodec.Lawful (codec : SyncPayloadCodec) : Prop where
  bookmark : ∀ payload, codec.bookmark.fromText (codec.bookmark.toText payload) = .ok payload
  app : ∀ domain payload,
    (codec.app domain).fromText ((codec.app domain).toText payload) = .ok payload

namespace SyncChangeRecord

/-- The unique index of `settings_changes`. -/
def sequenceKey (change : SyncChangeRecord) : String × String × Int :=
  (change.profile, change.deviceId, change.deviceSequence)

/-- The value a change writes. -/
def slot (change : SyncChangeRecord) : String × String × String :=
  (change.profile, change.domain, change.entityKey)

/-- What was received or written, without the bookkeeping columns. -/
def content (change : SyncChangeRecord) : IncomingSyncSettingText :=
  { profile := change.profile, domain := change.domain, key := change.entityKey
    value := change.payload, deviceId := change.deviceId
    deviceSequence := change.deviceSequence, logicalClock := change.logicalClock }

/-- The row's place in the winner query. -/
def rank (change : SyncChangeRecord) : WinnerRank :=
  ⟨change.stamp, change.id⟩

end SyncChangeRecord

namespace IncomingSyncSettingText

def sequenceKey (change : IncomingSyncSettingText) : String × String × Int :=
  (change.profile, change.deviceId, change.deviceSequence)

def slot (change : IncomingSyncSettingText) : String × String × String :=
  (change.profile, change.domain, change.key)

end IncomingSyncSettingText

/-- An applied change together with the revision it was given. -/
structure SyncSettingTextEvent where
  revision : SyncRevisionRecord
  change : SyncChangeRecord
deriving DecidableEq, Repr

namespace SlateProfileDatabase

section Settings

def setSetting (key value : String) (now : Int) (db : SlateProfileDatabase) :
    SlateProfileDatabase :=
  { db with
    settings :=
      Rows.upsert (·.key)
        (fun existing excluded =>
          { existing with value := excluded.value, updatedAt := excluded.updatedAt })
        { key, value, updatedAt := now } db.settings }

def getSettingText (key : String) (db : SlateProfileDatabase) : Option String :=
  (Rows.lookup (·.key) key db.settings).map (·.value)

end Settings

section Devices

def deviceKey (device : SyncDeviceRecord) : String × String :=
  (device.profile, device.deviceId)

/-- `record_sync_device_seen_in_transaction`. -/
def recordSyncDeviceSeen (profile deviceId : String) (now : Int)
    (db : SlateProfileDatabase) : SlateProfileDatabase :=
  { db with
    syncDevices :=
      Rows.upsert deviceKey
        (fun existing excluded => { existing with lastSeenAt := excluded.lastSeenAt })
        { profile, deviceId, label := none, membershipEpoch := 1
          providerAuthority := false, createdAt := now, lastSeenAt := now }
        db.syncDevices }

structure SyncDeviceRegistration where
  profile : String
  deviceId : String
  label : Option String
  membershipEpoch : Int
  providerAuthority : Bool
deriving DecidableEq, Repr

def registerSyncDevice (device : SyncDeviceRegistration) (now : Int)
    (db : SlateProfileDatabase) : SlateProfileDatabase :=
  { db with
    syncDevices :=
      Rows.upsert deviceKey
        (fun existing excluded =>
          { existing with
            label := excluded.label, membershipEpoch := excluded.membershipEpoch
            providerAuthority := excluded.providerAuthority
            lastSeenAt := excluded.lastSeenAt })
        { profile := device.profile, deviceId := device.deviceId, label := device.label
          membershipEpoch := device.membershipEpoch
          providerAuthority := device.providerAuthority, createdAt := now, lastSeenAt := now }
        db.syncDevices }

end Devices

section AppSyncDomains

def appSyncDomainKey (domain : AppSyncDomainRecord) : String × String :=
  (domain.profile, domain.domain)

structure AppSyncDomainRegistration where
  profile : String
  domain : String
  schemaVersion : Int
  enabled : Bool
  privacyClassification : String
  syncContent : Bool
deriving DecidableEq, Repr

def registerAppSyncDomain (domain : AppSyncDomainRegistration) (now : Int)
    (db : SlateProfileDatabase) : SlateProfileDatabase :=
  { db with
    appSyncDomains :=
      Rows.upsert appSyncDomainKey
        (fun existing excluded =>
          { existing with
            schemaVersion := excluded.schemaVersion, enabled := excluded.enabled
            privacyClassification := excluded.privacyClassification
            syncContent := excluded.syncContent, updatedAt := excluded.updatedAt })
        { profile := domain.profile, domain := domain.domain
          schemaVersion := domain.schemaVersion, enabled := domain.enabled
          privacyClassification := domain.privacyClassification
          syncContent := domain.syncContent, createdAt := now, updatedAt := now }
        db.appSyncDomains }

/-- A default domain: name, privacy classification, content flag, default state. -/
structure DefaultAppSyncDomain where
  domain : String
  schemaVersion : Int
  privacyClassification : String
  syncContent : Bool
  defaultEnabled : Bool
deriving DecidableEq, Repr

def defaultAppSyncDomains : List DefaultAppSyncDomain :=
  [ ⟨syncDomainSettings, 1, "low-risk", false, true⟩,
    ⟨syncDomainBookmarks, 1, "low-risk", false, true⟩,
    ⟨syncDomainCalendar, 1, "sensitive", false, false⟩,
    ⟨syncDomainContacts, 1, "sensitive", false, false⟩,
    ⟨syncDomainChat, 1, "sensitive", false, false⟩,
    ⟨syncDomainFiles, 1, "content", true, false⟩,
    ⟨syncDomainDownloads, 1, "metadata", false, true⟩,
    ⟨syncDomainStorage, 1, "sensitive", false, false⟩ ]

/-- Seeding keeps the `enabled` flag of a domain that is already registered. -/
def seedDefaultAppSyncDomain (profile : String) (now : Int) (db : SlateProfileDatabase)
    (domain : DefaultAppSyncDomain) : SlateProfileDatabase :=
  { db with
    appSyncDomains :=
      Rows.upsert appSyncDomainKey
        (fun existing excluded =>
          { existing with
            schemaVersion := excluded.schemaVersion
            privacyClassification := excluded.privacyClassification
            syncContent := excluded.syncContent, updatedAt := excluded.updatedAt })
        { profile, domain := domain.domain, schemaVersion := domain.schemaVersion
          enabled := domain.defaultEnabled
          privacyClassification := domain.privacyClassification
          syncContent := domain.syncContent, createdAt := now, updatedAt := now }
        db.appSyncDomains }

def ensureDefaultAppSyncDomains (profile : String) (now : Int)
    (db : SlateProfileDatabase) : SlateProfileDatabase :=
  defaultAppSyncDomains.foldl (seedDefaultAppSyncDomain profile now) db

/-- `app_sync_domains`: the rows of a profile, by domain name. -/
def appSyncDomainsOf (profile : String) (db : SlateProfileDatabase) :
    List AppSyncDomainRecord :=
  (db.appSyncDomains.filter fun domain => domain.profile == profile).insertionSort
    fun left right => left.domain ≤ right.domain

def enabledAppSyncDomains (profile : String) (db : SlateProfileDatabase) :
    List AppSyncDomainRecord :=
  (db.appSyncDomains.filter fun domain =>
    domain.profile == profile && domain.enabled).insertionSort
      fun left right => left.domain ≤ right.domain

end AppSyncDomains

section Roots

def stateKey (row : SyncStateRow) : String × String :=
  (row.profile, row.key)

def profileSyncRootKey (rootId : String) : String :=
  profileSyncRootKeyPrefix ++ rootId

def setProfileSyncRoot (profile rootId objectId : String) (now : Int)
    (db : SlateProfileDatabase) : Except StorageError (Unit × SlateProfileDatabase) :=
  if rootId = "" then .error (.invalidSyncRootId rootId)
  else
    .ok ((),
      { db with
        syncState :=
          Rows.upsert stateKey
            (fun existing excluded =>
              { existing with value := excluded.value, updatedAt := excluded.updatedAt })
            { profile, key := profileSyncRootKey rootId, value := objectId
              updatedAt := now }
            db.syncState })

/-- The object id stored for a root. -/
def profileSyncRoot (profile rootId : String) (db : SlateProfileDatabase) :
    Except StorageError (Option String) :=
  if rootId = "" then .error (.invalidSyncRootId rootId)
  else .ok ((Rows.lookup stateKey (profile, profileSyncRootKey rootId)
    db.syncState).map (·.value))

structure ProfileSyncRootRegistration where
  profile : String
  rootId : String
  objectId : String
deriving DecidableEq, Repr

def setProfileSyncRoots (roots : List ProfileSyncRootRegistration) (now : Int) :
    SlateProfileDatabase → Except StorageError (List Unit × SlateProfileDatabase) :=
  forEach (fun root => setProfileSyncRoot root.profile root.rootId root.objectId now) roots

end Roots

section Snapshots

/-- Nonempty domains, sorted, without repetition. -/
def normalizedSnapshotDomains (domains : List String) : List String :=
  ((domains.filter fun domain => domain != "").dedup).insertionSort (· ≤ ·)

def settingsSyncSnapshotId (coversRevision : Int) : String :=
  "settings-snapshot-r" ++ toString coversRevision

def snapshotKey (snapshot : SyncSnapshotRecord) : String × String :=
  (snapshot.profile, snapshot.snapshotId)

structure SyncSnapshotRegistration where
  profile : String
  snapshotId : String
  backendObjectId : Option String
  coversRevision : Int
  includedDomains : List String
deriving DecidableEq, Repr

/-- A snapshot id that is taken keeps its creation time only. -/
def recordSyncSnapshot (snapshot : SyncSnapshotRegistration) (now : Int)
    (db : SlateProfileDatabase) : SlateProfileDatabase :=
  { db with
    settingsSnapshots :=
      Rows.upsert snapshotKey
        (fun existing excluded =>
          { existing with
            backendObjectId := excluded.backendObjectId
            coversRevision := excluded.coversRevision
            includedDomains := excluded.includedDomains })
        { profile := snapshot.profile, snapshotId := snapshot.snapshotId
          backendObjectId := snapshot.backendObjectId
          coversRevision := snapshot.coversRevision
          includedDomains := normalizedSnapshotDomains snapshot.includedDomains
          createdAt := now }
        db.settingsSnapshots }

def snapshotRank (snapshot : SyncSnapshotRecord) : SnapshotRank :=
  ⟨snapshot.coversRevision, snapshot.createdAt, snapshot.snapshotId⟩

def latestSyncSnapshot (profile : String) (db : SlateProfileDatabase) :
    Option SyncSnapshotRecord :=
  (db.settingsSnapshots.filter fun snapshot => snapshot.profile == profile).argmax
    snapshotRank

end Snapshots

section Log

def syncChangeByDeviceSequence (profile deviceId : String) (deviceSequence : Int)
    (db : SlateProfileDatabase) : Option SyncChangeRecord :=
  Rows.lookup SyncChangeRecord.sequenceKey (profile, deviceId, deviceSequence)
    db.settingsChanges

/-- The applied changes on one key. -/
def appliedChanges (profile domain key : String) (db : SlateProfileDatabase) :
    List SyncChangeRecord :=
  db.settingsChanges.filter fun change =>
    change.profile == profile && change.domain == domain && change.entityKey == key &&
      change.operation == "set_text" && change.appliedAt.isSome

def syncSettingWinner (profile domain key : String) (db : SlateProfileDatabase) :
    Option SyncChangeRecord :=
  (db.appliedChanges profile domain key).argmax SyncChangeRecord.rank

def valueKey (value : SyncSettingValueRecord) : String × String × String :=
  (value.profile, value.domain, value.key)

def getSyncSettingText (profile domain key : String) (db : SlateProfileDatabase) :
    Option SyncSettingValueRecord :=
  Rows.lookup valueKey (profile, domain, key) db.settingsValues

/-- `insert_sync_setting_text_change_record_in_transaction`. -/
def insertChangeRecord (change : IncomingSyncSettingText) (now : Int)
    (appliedAt : Option Int) (db : SlateProfileDatabase) :
    SyncChangeRecord × SlateProfileDatabase :=
  let record : SyncChangeRecord :=
    { id := (db.settingsChanges.length : Int) + 1
      profile := change.profile, domain := change.domain, entityKey := change.key
      operation := "set_text", payload := change.value, deviceId := change.deviceId
      deviceSequence := change.deviceSequence, logicalClock := change.logicalClock
      createdAt := now, appliedAt }
  (record, { db with settingsChanges := db.settingsChanges ++ [record] })

/-- `insert_sync_setting_text_change_in_transaction`. -/
def insertChange (change : IncomingSyncSettingText) (now : Int)
    (db : SlateProfileDatabase) : SyncChangeRecord × SlateProfileDatabase :=
  let (record, db) := db.insertChangeRecord change now (some now)
  let revision := (db.settingsRevisions.length : Int) + 1
  (record,
    { db with
      settingsRevisions := db.settingsRevisions ++
        [{ revision, profile := change.profile, domain := change.domain
           changeId := record.id, createdAt := now }]
      settingsValues :=
        Rows.upsert valueKey
          (fun existing excluded =>
            { existing with
              value := excluded.value, valueKind := excluded.valueKind
              revision := excluded.revision, updatedAt := excluded.updatedAt })
          { profile := change.profile, domain := change.domain, key := change.key
            value := change.value, valueKind := "text", revision, updatedAt := now }
          db.settingsValues })

/-- `COALESCE(MAX(column), 0) + 1`, which leaves the integers past `i64::MAX`. -/
def nextInteger (column : List Int) : Except SqlError Int :=
  let largest := column.max?.getD 0
  if largest < i64Max then .ok (largest + 1) else .error (.invalidColumnType 0)

/-- `record_sync_setting_text_in_transaction`: a change written on this device. -/
def recordSyncSettingText (profile domain key value deviceId : String) (now : Int)
    (db : SlateProfileDatabase) :
    Except SqlError (SyncChangeRecord × SlateProfileDatabase) := do
  let deviceSequence ← nextInteger <|
    (db.settingsChanges.filter fun change =>
      change.profile == profile && change.deviceId == deviceId).map (·.deviceSequence)
  let logicalClock ← nextInteger <|
    (db.settingsChanges.filter fun change => change.profile == profile).map (·.logicalClock)
  pure <| db.insertChange
    { profile, domain, key, value, deviceId, deviceSequence, logicalClock } now

/-- The join of revisions and changes behind the event queries. -/
def eventOf (db : SlateProfileDatabase) (revision : SyncRevisionRecord) :
    Option SyncSettingTextEvent :=
  (db.settingsChanges.find? fun change =>
    change.id == revision.changeId && change.profile == revision.profile &&
      change.operation == "set_text" && change.appliedAt.isSome).map
    fun change => { revision, change }

/-- All events of a profile; revisions are stored in increasing order. -/
def settingsEvents (profile : String) (db : SlateProfileDatabase) :
    List SyncSettingTextEvent :=
  (db.settingsRevisions.filter fun revision => revision.profile == profile).filterMap
    db.eventOf

def syncSettingTextEventsAfter (profile : String) (afterRevision : Int) (limit : Nat)
    (db : SlateProfileDatabase) : List SyncSettingTextEvent :=
  ((db.settingsEvents profile).filter fun event =>
    decide (afterRevision < event.revision.revision)).take limit

end Log

end SlateProfileDatabase

end Slate.Storage
