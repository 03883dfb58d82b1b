import Slate.Storage.Database

/-!
# Operations on the profile database

The public operations that write the settings log: local writes, typed and
bookmark operations, and the application of changes, snapshots and manifests of
other devices. Each runs in one transaction; a failed one changes nothing.
-/

namespace Slate.Storage

open Slate.Foundation

namespace SlateProfileDatabase

variable (codec : SyncPayloadCodec)

section Bookmarks

def bookmarkHomeSlotSyncKeyPrefix : String := "home.slot."

def bookmarkHomeSlotSyncKey (position : Int) : String :=
  bookmarkHomeSlotSyncKeyPrefix ++ toString position

structure BookmarkUpdate where
  profile : String
  url : String
  title : Option String
  folder : Option String
  position : Int
  faviconKey : Option String
deriving DecidableEq, Repr

def bookmarkKey (bookmark : BookmarkRecord) : String × String :=
  (bookmark.profile, bookmark.url)

/-- The rows a write to a home slot deletes. -/
def clearsBookmark (profile : String) (position : Int) (url : String)
    (replacedUrl : Option String) (bookmark : BookmarkRecord) : Bool :=
  bookmark.profile == profile &&
    (bookmark.position == position || bookmark.url == url ||
      replacedUrl == some bookmark.url)

/-- `apply_bookmark_slot_sync_payload_in_transaction`. -/
def applyBookmarkSlotSyncPayload (profile : String) (payload : BookmarkSlotSyncPayload)
    (now : Int) (db : SlateProfileDatabase) : SlateProfileDatabase :=
  let kept := db.bookmarks.filter fun bookmark =>
    !clearsBookmark profile payload.position payload.url payload.replacedUrl bookmark
  if payload.deleted then { db with bookmarks := kept }
  else
    { db with
      bookmarks := kept ++
        [{ profile, url := payload.url, title := payload.title, folder := payload.folder
           position := payload.position, faviconKey := payload.faviconKey
           createdAt := now, updatedAt := now }] }

def upsertBookmark (bookmark : BookmarkUpdate) (now : Int) (db : SlateProfileDatabase) :
    SlateProfileDatabase :=
  { db with
    bookmarks :=
      Rows.upsert bookmarkKey
        (fun existing excluded =>
          { existing with
            title := excluded.title, folder := excluded.folder
            position := excluded.position, faviconKey := excluded.faviconKey
            updatedAt := excluded.updatedAt })
        { profile := bookmark.profile, url := bookmark.url, title := bookmark.title
          folder := bookmark.folder, position := bookmark.position
          faviconKey := bookmark.faviconKey, createdAt := now, updatedAt := now }
        db.bookmarks }

def bookmarkHomeSlotSyncPayload (bookmark : BookmarkUpdate) (replacedUrl : Option String) :
    BookmarkSlotSyncPayload :=
  { url := bookmark.url, title := bookmark.title, folder := bookmark.folder
    position := bookmark.position, faviconKey := bookmark.faviconKey, replacedUrl
    deleted := false }

def setBookmarkSlot (bookmark : BookmarkUpdate) (replacedUrl : Option String) (now : Int)
    (db : SlateProfileDatabase) :
    Except StorageError (SyncChangeRecord × SlateProfileDatabase) :=
  let payload := bookmarkHomeSlotSyncPayload bookmark replacedUrl
  databaseError <|
    (db.applyBookmarkSlotSyncPayload bookmark.profile payload now).recordSyncSettingText
      bookmark.profile syncDomainBookmarks (bookmarkHomeSlotSyncKey bookmark.position)
      (codec.bookmark.toText payload) db.localSyncDeviceId now

def removeBookmark (profile url : String) (now : Int) (db : SlateProfileDatabase) :
    Except StorageError (Option SyncChangeRecord × SlateProfileDatabase) :=
  let kept := { db with bookmarks := Rows.erase bookmarkKey (profile, url) db.bookmarks }
  match Rows.lookup bookmarkKey (profile, url) db.bookmarks with
  | none => .ok (none, kept)
  | some removed => do
      let payload : BookmarkSlotSyncPayload :=
        { url, title := removed.title, folder := removed.folder
          position := removed.position, faviconKey := removed.faviconKey
          replacedUrl := none, deleted := true }
      let (change, db) ← databaseError <|
        kept.recordSyncSettingText profile syncDomainBookmarks
          (bookmarkHomeSlotSyncKey removed.position) (codec.bookmark.toText payload)
          db.localSyncDeviceId now
      pure (some change, db)

end Bookmarks

section TypedTables

def updateAppTable (domain : AppDomain) (table : List (AppRecord domain))
    (db : SlateProfileDatabase) : SlateProfileDatabase :=
  { db with appTables := Function.update db.appTables domain table }

/-- The `upsert_…_in_transaction` of a typed domain. -/
def upsertAppRecordInTransaction (domain : AppDomain) (profile : String)
    (payload : AppSyncPayload domain) (now : Int) (db : SlateProfileDatabase) :
    Except SqlError SlateProfileDatabase := do
  (appDomainSpec domain).toSql payload
  pure <| db.updateAppTable domain <|
    Rows.upsert (appDomainSpec domain).recordKey (appDomainSpec domain).merge
      ((appDomainSpec domain).row profile payload now) (db.appTables domain)

/-- The `apply_…_sync_payload_in_transaction` of a typed domain. -/
def applyAppSyncPayload (domain : AppDomain) (profile : String)
    (payload : AppSyncPayload domain) (now : Int) (db : SlateProfileDatabase) :
    Except SqlError SlateProfileDatabase :=
  if (appDomainSpec domain).deleted payload then
    .ok <| db.updateAppTable domain <|
      Rows.erase (appDomainSpec domain).recordKey
        (profile, (appDomainSpec domain).payloadId payload) (db.appTables domain)
  else db.upsertAppRecordInTransaction domain profile payload now

def appRecordById (domain : AppDomain) (profile id : String) (db : SlateProfileDatabase) :
    Option (AppRecord domain) :=
  Rows.lookup (appDomainSpec domain).recordKey (profile, id) (db.appTables domain)

/-- `upsert_calendar_event`, `record_download_metadata` and their siblings. -/
def upsertAppRecord (domain : AppDomain) (update : AppUpdate domain) (now : Int)
    (db : SlateProfileDatabase) :
    Except StorageError (AppRecord domain × SlateProfileDatabase) := do
  let spec := appDomainSpec domain
  spec.validateUpdate update
  let payload := spec.payloadOf update
  let db ← databaseError <|
    db.upsertAppRecordInTransaction domain (spec.updateProfile update) payload now
  let (_, db) ← databaseError <|
    db.recordSyncSettingText (spec.updateProfile update) spec.domain
      (spec.syncKey (spec.updateId update)) ((codec.app domain).toText payload)
      db.localSyncDeviceId now
  match db.appRecordById domain (spec.updateProfile update) (spec.updateId update) with
  | some record => pure (record, db)
  | none => throw (.database .queryReturnedNoRows)

/-- `remove_calendar_event` and its siblings. -/
def removeAppRecord (domain : AppDomain) (profile id : String) (now : Int)
    (db : SlateProfileDatabase) :
    Except StorageError (Option SyncChangeRecord × SlateProfileDatabase) := do
  let spec := appDomainSpec domain
  spec.validateId id
  let removed := db.appRecordById domain profile id
  let kept := db.updateAppTable domain <|
    Rows.erase spec.recordKey (profile, id) (db.appTables domain)
  match removed with
  | none => pure (none, kept)
  | some record =>
      let (change, db) ← databaseError <|
        kept.recordSyncSettingText profile spec.domain
          (spec.syncKey (spec.recordId record))
          ((codec.app domain).toText (spec.tombstone record)) db.localSyncDeviceId now
      pure (some change, db)

def upsertCalendarEvent := upsertAppRecord codec .calendar
def removeCalendarEvent := removeAppRecord codec .calendar
def upsertChatConversation := upsertAppRecord codec .chat
def removeChatConversation := removeAppRecord codec .chat
def upsertContactCard := upsertAppRecord codec .contacts
def removeContactCard := removeAppRecord codec .contacts
def recordDownloadMetadata := upsertAppRecord codec .downloads
def removeDownloadMetadata := removeAppRecord codec .downloads
def upsertFileEntry := upsertAppRecord codec .files
def removeFileEntry := removeAppRecord codec .files
def upsertStorageProvider := upsertAppRecord codec .storage
def removeStorageProvider := removeAppRecord codec .storage

end TypedTables

section LocalWrites

def setSettingText (key value : String) (now : Int) (db : SlateProfileDatabase) :
    Except StorageError (SyncChangeRecord × SlateProfileDatabase) :=
  databaseError <|
    (db.setSetting key value now).recordSyncSettingText defaultProfileId syncDomainSettings
      key value db.localSyncDeviceId now

def setSyncSettingText (profile domain key value : String) (now : Int)
    (db : SlateProfileDatabase) :
    Except StorageError (SyncChangeRecord × SlateProfileDatabase) :=
  let written :=
    if profile = defaultProfileId ∧ domain = syncDomainSettings then
      db.setSetting key value now
    else db
  databaseError <|
    written.recordSyncSettingText profile domain key value db.localSyncDeviceId now

end LocalWrites

section Apply

def settingChangeWins (incoming : IncomingSyncSettingText)
    (existing : Option SyncChangeRecord) : Bool :=
  match existing with
  | none => true
  | some existing => decide (existing.stamp < incoming.stamp)

/-- The settings view, kept for the default profile only. -/
def applySettingsView (change : IncomingSyncSettingText) (now : Int)
    (db : SlateProfileDatabase) : SlateProfileDatabase :=
  if change.profile = defaultProfileId ∧ change.domain = syncDomainSettings then
    db.setSetting change.key change.value now
  else db

/-- The decoded home slot payload of a change, if its key and value agree. -/
def decodeBookmarkSlot (change : IncomingSyncSettingText) :
    Except SqlError BookmarkSlotSyncPayload :=
  match codec.bookmark.fromText change.value with
  | .error message => .error (.fromSqlConversionFailure 3 message)
  | .ok payload =>
      if change.key = bookmarkHomeSlotSyncKey payload.position then .ok payload
      else .error (invalidSyncPayloadError
        ("bookmark slot sync key " ++ change.key ++ " does not match payload position " ++
          toString payload.position))

def applyBookmarkView (change : IncomingSyncSettingText) (now : Int)
    (db : SlateProfileDatabase) : Except SqlError SlateProfileDatabase :=
  if change.domain = syncDomainBookmarks ∧
      startsWith change.key bookmarkHomeSlotSyncKeyPrefix then do
    let payload ← decodeBookmarkSlot codec change
    pure (db.applyBookmarkSlotSyncPayload change.profile payload now)
  else .ok db

/-- The decoded, validated payload of a change on a typed key. -/
def decodeAppPayload (domain : AppDomain) (change : IncomingSyncSettingText) :
    Except SqlError (AppSyncPayload domain) :=
  let spec := appDomainSpec domain
  match (codec.app domain).fromText change.value with
  | .error message => .error (.fromSqlConversionFailure 3 message)
  | .ok payload => do
      spec.validatePayload payload
      if change.key = spec.syncKey (spec.payloadId payload) then pure payload
      else throw (invalidSyncPayloadError
        (spec.label ++ " sync key " ++ change.key ++ " does not match payload id " ++
          spec.payloadId payload))

def applyAppView (domain : AppDomain) (change : IncomingSyncSettingText) (now : Int)
    (db : SlateProfileDatabase) : Except SqlError SlateProfileDatabase :=
  if change.domain = (appDomainSpec domain).domain ∧
      startsWith change.key (appDomainSpec domain).keyPrefix then do
    let payload ← decodeAppPayload codec domain change
    db.applyAppSyncPayload domain change.profile payload now
  else .ok db

/-- `apply_sync_setting_materialized_view_in_transaction`. -/
def applySyncSettingMaterializedView (change : IncomingSyncSettingText) (now : Int)
    (db : SlateProfileDatabase) : Except SqlError SlateProfileDatabase := do
  let db := db.applySettingsView change now
  let db ← db.applyBookmarkView codec change now
  let db ← db.applyAppView codec .calendar change now
  let db ← db.applyAppView codec .chat change now
  let db ← db.applyAppView codec .contacts change now
  let db ← db.applyAppView codec .downloads change now
  let db ← db.applyAppView codec .files change now
  db.applyAppView codec .storage change now

/-- `apply_sync_setting_text_in_transaction`. -/
def applySyncSettingTextInTransaction (change : IncomingSyncSettingText) (now : Int)
    (db : SlateProfileDatabase) :
    Except SqlError (SyncChangeRecord × SlateProfileDatabase) :=
  let db := db.recordSyncDeviceSeen change.profile change.deviceId now
  match db.syncChangeByDeviceSequence change.profile change.deviceId
      change.deviceSequence with
  | some existing => .ok (existing, db)
  | none =>
      if settingChangeWins change (db.syncSettingWinner change.profile change.domain
          change.key) then do
        let db ← db.applySyncSettingMaterializedView codec change now
        pure (db.insertChange change now)
      else .ok (db.insertChangeRecord change now none)

def applySyncSettingText (change : IncomingSyncSettingText) (now : Int)
    (db : SlateProfileDatabase) :
    Except StorageError (SyncChangeRecord × SlateProfileDatabase) :=
  databaseError (db.applySyncSettingTextInTransaction codec change now)

end Apply

section Snapshot

/-- One event overwrites the value its key had; the values stay sorted by key. -/
def insertSnapshotValue (values : List ProfileSyncSettingsSnapshotValue)
    (event : SyncSettingTextEvent) : List ProfileSyncSettingsSnapshotValue :=
  Rows.upsert (fun value => (value.domain, value.key)) (fun _ excluded => excluded)
    { domain := event.change.domain, key := event.change.entityKey
      value := event.change.payload, valueKind := "text"
      revision := event.revision.revision }
    values

def settingsSyncSnapshotPayload (profile : String) (coversRevision : Int)
    (includedDomains : List String) (now : Int) (db : SlateProfileDatabase) :
    ProfileSyncSettingsSnapshot :=
  let includedDomains := normalizedSnapshotDomains includedDomains
  let events := (db.syncSettingTextEventsAfter profile 0 u32Max).takeWhile fun event =>
    decide (event.revision.revision ≤ coversRevision)
  let values := (events.filter fun event =>
    includedDomains.contains event.change.domain).foldl insertSnapshotValue []
  { profile, schemaVersion := profileSyncSettingsSnapshotSchemaVersion, coversRevision
    includedDomains
    values := values.insertionSort fun left right =>
      toLex (left.domain, left.key) ≤ toLex (right.domain, right.key)
    createdAt := now }

def snapshotValueRank (value : ProfileSyncSettingsSnapshotValue) : SnapshotValueRank :=
  ⟨value.revision, value.domain, value.key, value.value⟩

/-- A snapshot value as a change: its revision is both sequence and clock. -/
def snapshotChange (profile : String) (value : ProfileSyncSettingsSnapshotValue) :
    IncomingSyncSettingText :=
  { profile, domain := value.domain, key := value.key, value := value.value
    deviceId := profileSyncSnapshotDeviceId, deviceSequence := value.revision
    logicalClock := value.revision }

/-- The changes a snapshot is applied as, in the order they are applied. -/
def snapshotChanges (snapshot : ProfileSyncSettingsSnapshot) :
    List IncomingSyncSettingText :=
  let includedDomains := normalizedSnapshotDomains snapshot.includedDomains
  let values := snapshot.values.insertionSort fun left right =>
    snapshotValueRank left ≤ snapshotValueRank right
  (values.filter fun value =>
    value.valueKind == "text" && includedDomains.contains value.domain).map
      (snapshotChange snapshot.profile)

def applySettingsSnapshot (snapshot : ProfileSyncSettingsSnapshot) (now : Int)
    (db : SlateProfileDatabase) :
    Except StorageError (List SyncChangeRecord × SlateProfileDatabase) :=
  if snapshot.schemaVersion ≠ profileSyncSettingsSnapshotSchemaVersion then
    .error (.unsupportedSyncSnapshotSchema snapshot.schemaVersion)
  else
    forEach (fun change => applySyncSettingText codec change now)
      (snapshotChanges snapshot) db

end Snapshot

section Manifest

structure VerifiedProfileSyncSettingsSnapshot where
  objectId : String
  snapshot : ProfileSyncSettingsSnapshot
deriving DecidableEq, Repr

structure VerifiedProfileSyncSettingsTailChange where
  objectId : String
  change : IncomingSyncSettingText
deriving DecidableEq, Repr

structure VerifiedProfileSyncSettingsManifestObjects where
  manifestObjectId : String
  manifest : ProfileSyncManifest
  snapshot : Option VerifiedProfileSyncSettingsSnapshot
  tailChanges : List VerifiedProfileSyncSettingsTailChange
deriving DecidableEq, Repr

def validateManifestSnapshot (manifest : ProfileSyncManifest)
    (snapshot : VerifiedProfileSyncSettingsSnapshot) : Except StorageError Unit :=
  if snapshot.snapshot.profile ≠ manifest.profile then
    .error (.invalidProfileSyncManifest
      ("snapshot object " ++ snapshot.objectId ++ " profile " ++ snapshot.snapshot.profile ++
        " does not match manifest profile " ++ manifest.profile))
  else
    match snapshot.snapshot.includedDomains.find?
        fun domain => !manifest.includedDomains.contains domain with
    | some domain => .error (.invalidProfileSyncManifest
        ("snapshot object " ++ snapshot.objectId ++ " domain " ++ domain ++
          " is not included in manifest"))
    | none => .ok ()

def validateManifestTailChange (manifest : ProfileSyncManifest)
    (tail : VerifiedProfileSyncSettingsTailChange) : Except StorageError Unit :=
  if tail.change.profile ≠ manifest.profile then
    .error (.invalidProfileSyncManifest
      ("tail change " ++ tail.objectId ++ " profile " ++ tail.change.profile ++
        " does not match manifest profile " ++ manifest.profile))
  else if !manifest.includedDomains.contains tail.change.domain then
    .error (.invalidProfileSyncManifest
      ("tail change " ++ tail.objectId ++ " domain " ++ tail.change.domain ++
        " is not included in manifest"))
  else .ok ()

/-- The manifest names exactly the snapshot that was opened for it. -/
def validateCurrentSnapshot (manifest : ProfileSyncManifest) :
    Option VerifiedProfileSyncSettingsSnapshot → Except StorageError Unit
  | some snapshot =>
      match manifest.currentSnapshotObjectId with
      | some expected =>
          if expected = snapshot.objectId then validateManifestSnapshot manifest snapshot
          else .error (.invalidProfileSyncManifest
            ("manifest current snapshot object " ++ expected ++
              " does not match verified snapshot object " ++ snapshot.objectId))
      | none => .error (.invalidProfileSyncManifest
          ("verified snapshot object " ++ snapshot.objectId ++
            " is not referenced by manifest"))
  | none =>
      match manifest.currentSnapshotObjectId with
      | some expected => .error (.invalidProfileSyncManifest
          ("manifest references missing snapshot object " ++ expected))
      | none => .ok ()

def validateSettingsManifestApplication (manifest : ProfileSyncManifest)
    (snapshot : Option VerifiedProfileSyncSettingsSnapshot)
    (tailChanges : List VerifiedProfileSyncSettingsTailChange) :
    Except StorageError Unit := do
  if manifest.schemaVersion ≠ profileSyncManifestSchemaVersion then
    throw (.unsupportedProfileSyncManifestSchema manifest.schemaVersion)
  if manifest.profile = "" then
    throw (.invalidProfileSyncManifest "manifest profile is empty")
  if manifest.rootId = "" then
    throw (.invalidSyncRootId manifest.rootId)
  validateCurrentSnapshot manifest snapshot
  if tailChanges.map (·.objectId) ≠ manifest.tailChangeObjectIds then
    throw (.invalidProfileSyncManifest
      "manifest tail object ids do not match verified tail changes")
  tailChanges.forM (validateManifestTailChange manifest)

structure ProfileSyncSettingsManifestApplication where
  profile : String
  rootId : String
  manifestObjectId : String
  syncObjectIds : List String
  snapshotChanges : List SyncChangeRecord
  tailChanges : List SyncChangeRecord
deriving DecidableEq, Repr

/-- Apply the snapshot of a manifest and remember it as a known snapshot. -/
def applyManifestSnapshot (manifest : ProfileSyncManifest)
    (snapshot : Option VerifiedProfileSyncSettingsSnapshot) (now : Int)
    (db : SlateProfileDatabase) :
    Except StorageError (List SyncChangeRecord × SlateProfileDatabase) :=
  match snapshot with
  | none => .ok ([], db)
  | some verified => do
      let (changes, db) ← db.applySettingsSnapshot codec verified.snapshot now
      pure (changes, db.recordSyncSnapshot
        { profile := manifest.profile
          snapshotId := settingsSyncSnapshotId verified.snapshot.coversRevision
          backendObjectId := some verified.objectId
          coversRevision := verified.snapshot.coversRevision
          includedDomains := verified.snapshot.includedDomains } now)

def applyVerifiedSettingsManifest (objects : VerifiedProfileSyncSettingsManifestObjects)
    (now : Int) (db : SlateProfileDatabase) :
    Except StorageError (ProfileSyncSettingsManifestApplication × SlateProfileDatabase) := do
  let manifest := objects.manifest
  validateSettingsManifestApplication manifest objects.snapshot objects.tailChanges
  let (snapshotChanges, db) ← db.applyManifestSnapshot codec manifest objects.snapshot now
  let (tailChanges, db) ←
    forEach (fun change => applySyncSettingText codec change now)
      (objects.tailChanges.map (·.change)) db
  let (_, db) ← db.setProfileSyncRoot manifest.profile manifest.rootId
    objects.manifestObjectId now
  pure (
    { profile := manifest.profile, rootId := manifest.rootId
      manifestObjectId := objects.manifestObjectId
      syncObjectIds := [objects.manifestObjectId] ++
        objects.snapshot.toList.map (·.objectId) ++ objects.tailChanges.map (·.objectId)
      snapshotChanges, tailChanges }, db)

/-- The application and the publisher's root are committed together. -/
def applyVerifiedSettingsManifestAndSetProfileSyncRoot
    (objects : VerifiedProfileSyncSettingsManifestObjects)
    (profile rootId objectId : String) (now : Int) (db : SlateProfileDatabase) :
    Except StorageError
      (ProfileSyncSettingsManifestApplication × SlateProfileDatabase) := do
  let (application, db) ← db.applyVerifiedSettingsManifest codec objects now
  let (_, db) ← db.setProfileSyncRoot profile rootId objectId now
  pure (application, db)

end Manifest

section Open

def defaultHomeBookmarks : List (String × String) :=
  [("Wikipedia on IPFS", "ipns://en.wikipedia-on-ipfs.org/wiki/"),
   ("OpenStreetMap", "https://www.openstreetmap.org/")]

def defaultBookmarksSeededSettingKey : String := "bookmarks.defaults_seeded"

def seedDefaultBookmarks (now : Int) (db : SlateProfileDatabase) : SlateProfileDatabase :=
  defaultHomeBookmarks.zipIdx.foldl
    (fun db (bookmark, position) =>
      db.upsertBookmark
        { profile := defaultProfileId, url := bookmark.2, title := some bookmark.1
          folder := none, position := position, faviconKey := none } now) db

def seedDefaultSyncState (now : Int) (db : SlateProfileDatabase) : SlateProfileDatabase :=
  (db.registerSyncDevice
    { profile := defaultProfileId, deviceId := db.localSyncDeviceId
      label := some "Local Device", membershipEpoch := 1, providerAuthority := false }
    now).ensureDefaultAppSyncDomains defaultProfileId now

def seedDefaultBookmarksIfNeeded (now : Int) (db : SlateProfileDatabase) :
    Except StorageError (Unit × SlateProfileDatabase) :=
  if (db.getSettingText defaultBookmarksSeededSettingKey).getD "false" = "true" then
    .ok ((), db)
  else
    let seeded :=
      if db.bookmarks.any fun bookmark => bookmark.profile == defaultProfileId then db
      else db.seedDefaultBookmarks now
    match seeded.setSettingText defaultBookmarksSeededSettingKey "true" now with
    | .ok (_, written) => .ok ((), written)
    -- The bookmarks were written before the failing statement and stay.
    | .error _ => .ok ((), seeded)

/-- Opening a database seeds it; a failed seed is ignored. -/
def openResolvedWithDeviceId (localSyncDeviceId : String) (now : Int)
    (db : SlateProfileDatabase) : Except StorageError SlateProfileDatabase :=
  if isValidSyncIdentifier localSyncDeviceId then
    .ok (commit (seedDefaultBookmarksIfNeeded now)
      ({ db with localSyncDeviceId }.seedDefaultSyncState now))
  else .error (.invalidSyncDeviceId localSyncDeviceId)

/-- A database that is opened for the first time has no rows before. -/
def freshDatabase (localSyncDeviceId : String) (now : Int) :
    Except StorageError SlateProfileDatabase :=
  openResolvedWithDeviceId localSyncDeviceId now { localSyncDeviceId }

end Open

end SlateProfileDatabase

end Slate.Storage
