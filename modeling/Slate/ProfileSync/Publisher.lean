import Slate.ProfileSync.ObjectStore
import Slate.Storage.Publication

/-!
# The publisher

A device publishes its settings as a snapshot object, tail change objects, a manifest that
names them and a head that names the manifest. The first publication is a full snapshot;
later ones add tails to the latest recorded snapshot; compaction moves the snapshot
forward. Each function takes and returns the device's database and the shared store.
-/

namespace Slate.ProfileSync

open Slate.Foundation Slate.Storage

def settingsDeviceHeadRootId (deviceId : String) : String :=
  "settings/devices/" ++ deviceId ++ "/head"

inductive ProfileSyncPublishError where
  | broadwebd (error : BroadwebdError)
  | storage (error : StorageError)
  | syncObject (error : SyncObjectError)
  | membershipLogTooLarge (profile : String) (maxRecords actualRecords : Nat)
  | localSyncLoopExhausted (profile settingsRootId : String) (maxSteps : Nat)
deriving DecidableEq, Repr

inductive ProfileSyncCredentialError where
  | storage (error : StorageError)
  | inactiveContentKey (profile expectedKeyId activeKeyId : String)
  | untrustedLocalDevice (profile deviceId : String)
  | localDevicePublicKeyMismatch (profile deviceId : String)
  | localDeviceSignerMismatch (profile localDeviceId signerDeviceId : String)
deriving DecidableEq, Repr

/-- A device's database and the store it publishes to. -/
structure SyncState where
  database : SlateProfileDatabase
  store : ObjectStore

structure PublishedSettingsSnapshotManifest where
  manifestObjectId : String
  manifest : ProfileSyncManifest
  snapshotObjectId : String
  tailChangeObjectIds : List String
deriving DecidableEq, Repr

structure PublishedSettingsCompaction where
  target : SyncCompactionTarget
  publication : PublishedSettingsSnapshotManifest
deriving DecidableEq, Repr

structure PublishedProfileSyncDeviceHead where
  rootId : String
  objectId : String
  deviceHead : ProfileSyncDeviceHead
deriving DecidableEq, Repr

/-- `PublishedLocalSettingsSnapshotHead` and `PublishedLocalSettingsTailHead`. -/
structure PublishedLocalSettingsHead where
  publication : PublishedSettingsSnapshotManifest
  deviceHead : PublishedProfileSyncDeviceHead
deriving DecidableEq, Repr

inductive LocalSettingsHeadPublishStatus where
  | publishedFullSnapshot (published : PublishedLocalSettingsHead)
  | publishedIncrementalTail (published : PublishedLocalSettingsHead)
  | noLocalSettingsChanges
  | upToDate (snapshotRecord : SyncSnapshotRecord)
deriving DecidableEq, Repr

def LocalSettingsHeadPublishStatus.isIdle : LocalSettingsHeadPublishStatus → Bool
  | .noLocalSettingsChanges => true
  | .upToDate _ => true
  | _ => false

structure LocalSettingsSyncRun where
  profile : String
  settingsRootId : String
  steps : List LocalSettingsHeadPublishStatus
deriving DecidableEq, Repr

section Events

/-- The default domains are registered the first time a profile's domains are read. -/
def ensureAppSyncDomains (profile : String) (now : Int) (db : SlateProfileDatabase) :
    SlateProfileDatabase :=
  if (db.appSyncDomainsOf profile).isEmpty then db.ensureDefaultAppSyncDomains profile now
  else db

def enabledSettingsSyncDomainIds (profile : String) (now : Int) (db : SlateProfileDatabase) :
    List String × SlateProfileDatabase :=
  let db := ensureAppSyncDomains profile now db
  (((db.enabledAppSyncDomains profile).map (·.domain)).dedup, db)

/-- Events are merged by revision, then creation time, then change id. -/
def eventKeyLe (left right : SyncSettingTextEvent) : Prop :=
  left.revision.revision < right.revision.revision ∨
    left.revision.revision = right.revision.revision ∧
      (left.revision.createdAt < right.revision.createdAt ∨
        left.revision.createdAt = right.revision.createdAt ∧
          left.revision.changeId ≤ right.revision.changeId)

instance eventKeyLeDecidable : DecidableRel eventKeyLe := fun left right =>
  inferInstanceAs (Decidable
    (left.revision.revision < right.revision.revision ∨
      left.revision.revision = right.revision.revision ∧
        (left.revision.createdAt < right.revision.createdAt ∨
          left.revision.createdAt = right.revision.createdAt ∧
            left.revision.changeId ≤ right.revision.changeId)))

def enabledSettingsSyncTextEventsAfter (profile : String) (afterRevision : Int) (limit : Nat)
    (now : Int) (db : SlateProfileDatabase) :
    List SyncSettingTextEvent × SlateProfileDatabase :=
  let (enabledDomainIds, db) := enabledSettingsSyncDomainIds profile now db
  let events := enabledDomainIds.flatMap fun domain =>
    db.syncSettingTextEventsAfterForDomain profile domain afterRevision limit
  ((events.insertionSort eventKeyLe).take limit, db)

/-- The change of two that a head prefers. -/
def laterHeadChange (first second : SyncChangeRecord) : SyncChangeRecord :=
  if second.deviceSequence < first.deviceSequence ∨
      second.deviceSequence = first.deviceSequence ∧
        (second.logicalClock < first.logicalClock ∨
          second.logicalClock = first.logicalClock ∧
            (second.createdAt < first.createdAt ∨
              second.createdAt = first.createdAt ∧ second.id < first.id)) then
    first
  else second

def latestLocalDeviceChangeForHead (deviceId : String) (changes : List SyncChangeRecord) :
    Option SyncChangeRecord :=
  match changes.filter fun change => change.deviceId == deviceId with
  | [] => none
  | first :: rest => some (rest.foldl laterHeadChange first)

end Events

section Credentials

variable (scheme : SyncObjectScheme)

def activeSettingsSyncContentKeyId (profile : String) (db : SlateProfileDatabase) :
    Except ProfileSyncCredentialError String :=
  match db.activeSyncContentKeyEpoch profile with
  | none => .error (.storage (.missingActiveSyncContentKey profile))
  | some activeKey =>
      if activeKey.algorithm ≠ profileSyncContentKeyAlgorithmChacha20Poly1305 then
        .error (.storage
          (.unsupportedSyncContentKeyAlgorithm activeKey.keyId activeKey.algorithm))
      else .ok activeKey.keyId

def validateSettingsSyncCycleCredentials (profile keyId : String)
    (signer : ProfileSyncDeviceSigner) (db : SlateProfileDatabase) :
    Except ProfileSyncCredentialError Unit := do
  let activeKeyId ← activeSettingsSyncContentKeyId profile db
  if activeKeyId ≠ keyId then
    throw (.inactiveContentKey profile keyId activeKeyId)
  let publicKey := signer.publicKey scheme
  if publicKey.deviceId ≠ db.localSyncDeviceId then
    throw (.localDeviceSignerMismatch profile db.localSyncDeviceId publicKey.deviceId)
  match ← (db.syncDevicePublicKey profile publicKey.deviceId).mapError
      ProfileSyncCredentialError.storage with
  | none => throw (.untrustedLocalDevice profile publicKey.deviceId)
  | some trustedKey =>
      if !trustedKey.trusted then
        throw (.untrustedLocalDevice profile publicKey.deviceId)
      if trustedKey.publicKey ≠ publicKey then
        throw (.localDevicePublicKeyMismatch profile trustedKey.publicKey.deviceId)

end Credentials

section Validation

def validateSettingChangeForPublish (profile label : String) (change : SyncChangeRecord) :
    Except StorageError Unit := do
  if change.profile ≠ profile then
    throw (.invalidProfileSyncManifest
      (label ++ " " ++ toString change.id ++ " profile " ++ change.profile ++
        " does not match manifest profile " ++ profile))
  if change.operation ≠ "set_text" then
    throw (.invalidProfileSyncManifest
      (label ++ " " ++ toString change.id ++ " operation " ++ change.operation ++
        " is not supported by settings manifests"))

def validateSettingChangesForPublish (profile : String) (changes : List SyncChangeRecord)
    (label : String) : Except StorageError Unit :=
  changes.forM (validateSettingChangeForPublish profile label)

def validateSnapshotForPublish (profile : String) (snapshot : ProfileSyncSettingsSnapshot) :
    Except StorageError Unit := do
  if snapshot.profile ≠ profile then
    throw (.invalidProfileSyncManifest
      ("snapshot profile " ++ snapshot.profile ++ " does not match manifest profile " ++
        profile))
  if snapshot.schemaVersion ≠ profileSyncSettingsSnapshotSchemaVersion then
    throw (.unsupportedSyncSnapshotSchema snapshot.schemaVersion)

def validateCoveredDomainForPublish (snapshot : ProfileSyncSettingsSnapshot)
    (change : SyncChangeRecord) : Except StorageError Unit :=
  if snapshot.includedDomains.contains change.domain then .ok ()
  else .error (.invalidProfileSyncManifest
    ("snapshot-covered change " ++ toString change.id ++ " domain " ++ change.domain ++
      " is not included in snapshot"))

def validateSnapshotCoveredChangesForPublish (profile : String)
    (snapshot : ProfileSyncSettingsSnapshot) (changes : List SyncChangeRecord) :
    Except StorageError Unit := do
  validateSettingChangesForPublish profile changes "snapshot-covered change"
  changes.forM (validateCoveredDomainForPublish snapshot)

def validateDeviceHeadForPublish (profile rootId : String)
    (deviceHead : ProfileSyncDeviceHead) (signer : ProfileSyncDeviceSigner) :
    Except ProfileSyncPublishError Unit := do
  if rootId = "" then
    throw (.storage (.invalidSyncRootId rootId))
  if deviceHead.profile ≠ profile then
    throw (.storage (.invalidProfileSyncManifest
      ("device head profile " ++ deviceHead.profile ++ " does not match publish profile " ++
        profile)))
  if deviceHead.rootId ≠ rootId then
    throw (.storage (.invalidProfileSyncManifest
      ("device head root " ++ deviceHead.rootId ++ " does not match publish root " ++ rootId)))
  if deviceHead.schemaVersion ≠ profileSyncDeviceHeadSchemaVersion then
    throw (.syncObject (.unsupportedSchema profileSyncDeviceHeadObjectKind
      deviceHead.schemaVersion))
  if deviceHead.deviceId ≠ signer.deviceId then
    throw (.syncObject (.deviceKeyMismatch signer.deviceId deviceHead.deviceId))
  if deviceHead.latestManifestObjectId = "" then
    throw (.storage (.invalidProfileSyncManifest
      "device head latest manifest object id is empty"))

end Validation

section Publish

variable (scheme : SyncObjectScheme)

/-- Seal a payload and put it into the store. -/
def putSealedObject (profile objectProfile domain objectKind : String) (payload : List Nat)
    (credentials : SyncCredentials) (store : ObjectStore) :
    Except ProfileSyncPublishError (String × ObjectStore) :=
  (store.putRetainedObject scheme profile
    (signEncryptedJsonObject scheme objectProfile domain objectKind payload credentials
      store.objects.length)).mapError .broadwebd

/-- Seal a payload, put it into the store and publish it as a root. -/
def putSealedRoot (profile rootId objectProfile objectKind : String) (payload : List Nat)
    (credentials : SyncCredentials) (store : ObjectStore) :
    Except ProfileSyncPublishError (String × ObjectStore) :=
  (store.putRetainedRoot scheme profile rootId
    (signEncryptedJsonObject scheme objectProfile syncDomainSettings objectKind payload
      credentials store.objects.length)).mapError .broadwebd

/-- `incoming_setting_from_change` is the content of the change. -/
def publishSettingsTailChange (profile : String) (credentials : SyncCredentials)
    (change : SyncChangeRecord) (store : ObjectStore) :
    Except ProfileSyncPublishError
      (ProfileSyncSettingsTailChangePublication × ObjectStore) := do
  let (objectId, store) ← putSealedObject scheme profile change.content.profile
    change.content.domain profileSyncSettingChangeObjectKind
    (scheme.settingText.toBytes change.content) credentials store
  pure ({ objectId, change }, store)

def publishSettingsTailChangePublications (profile : String) (changes : List SyncChangeRecord)
    (credentials : SyncCredentials) (store : ObjectStore) :
    Except ProfileSyncPublishError
      (List ProfileSyncSettingsTailChangePublication × ObjectStore) :=
  forEach (publishSettingsTailChange scheme profile credentials) changes store

/-- The tail, the manifest and the settings root of a snapshot that is in the store. -/
def publishManifestOfSnapshot (profile rootId snapshotObjectId : String)
    (snapshot : ProfileSyncSettingsSnapshot)
    (coveredChanges tailChanges : List SyncChangeRecord) (credentials : SyncCredentials)
    (retentionPolicy : ProfileSyncRetentionPolicy) (store : ObjectStore) :
    Except ProfileSyncPublishError (PublishedSettingsSnapshotManifest × ObjectStore) := do
  let (tailPublications, store) ← publishSettingsTailChangePublications scheme profile
    tailChanges credentials store
  let manifest ← (settingsSyncManifestForSnapshotAndTailChanges profile rootId
    { objectId := snapshotObjectId, snapshot, coveredChanges } tailPublications
    retentionPolicy).mapError ProfileSyncPublishError.storage
  let (manifestObjectId, store) ← putSealedRoot scheme profile rootId manifest.profile
    profileSyncManifestObjectKind (scheme.manifest.toBytes manifest) credentials store
  pure (
    { manifestObjectId, manifest, snapshotObjectId
      tailChangeObjectIds := manifest.tailChangeObjectIds }, store)

def publishSignedSettingsSnapshotManifest (profile rootId : String)
    (snapshot : ProfileSyncSettingsSnapshot)
    (coveredChanges tailChanges : List SyncChangeRecord) (credentials : SyncCredentials)
    (retentionPolicy : ProfileSyncRetentionPolicy) (store : ObjectStore) :
    Except ProfileSyncPublishError (PublishedSettingsSnapshotManifest × ObjectStore) := do
  (validateSnapshotForPublish profile snapshot).mapError ProfileSyncPublishError.storage
  (validateSnapshotCoveredChangesForPublish profile snapshot coveredChanges).mapError
    ProfileSyncPublishError.storage
  (validateSettingChangesForPublish profile tailChanges "tail change").mapError
    ProfileSyncPublishError.storage
  let (snapshotObjectId, store) ← putSealedObject scheme profile snapshot.profile
    syncDomainSettings profileSyncSettingsSnapshotObjectKind
    (scheme.snapshot.toBytes snapshot) credentials store
  publishManifestOfSnapshot scheme profile rootId snapshotObjectId snapshot coveredChanges
    tailChanges credentials retentionPolicy store

def publishSignedExistingSettingsSnapshotManifest (profile rootId snapshotObjectId : String)
    (snapshot : ProfileSyncSettingsSnapshot)
    (coveredChanges tailChanges : List SyncChangeRecord) (credentials : SyncCredentials)
    (retentionPolicy : ProfileSyncRetentionPolicy) (store : ObjectStore) :
    Except ProfileSyncPublishError (PublishedSettingsSnapshotManifest × ObjectStore) := do
  if snapshotObjectId = "" then
    throw (.storage (.invalidProfileSyncManifest
      "settings snapshot backend object id is empty"))
  (validateSnapshotForPublish profile snapshot).mapError ProfileSyncPublishError.storage
  (validateSnapshotCoveredChangesForPublish profile snapshot coveredChanges).mapError
    ProfileSyncPublishError.storage
  (validateSettingChangesForPublish profile tailChanges "tail change").mapError
    ProfileSyncPublishError.storage
  (store.retainObject scheme profile snapshotObjectId).mapError
    ProfileSyncPublishError.broadwebd
  publishManifestOfSnapshot scheme profile rootId snapshotObjectId snapshot coveredChanges
    tailChanges credentials retentionPolicy store

def publishSignedProfileSyncDeviceHead (profile rootId : String)
    (deviceHead : ProfileSyncDeviceHead) (credentials : SyncCredentials)
    (store : ObjectStore) :
    Except ProfileSyncPublishError (PublishedProfileSyncDeviceHead × ObjectStore) := do
  validateDeviceHeadForPublish profile rootId deviceHead credentials.signer
  let (objectId, store) ← putSealedRoot scheme profile rootId deviceHead.profile
    profileSyncDeviceHeadObjectKind (scheme.deviceHead.toBytes deviceHead) credentials store
  pure ({ rootId, objectId, deviceHead }, store)

/-- The domains of a list of changes, each once. -/
def changedDomains (changes : List SyncChangeRecord) : List String :=
  (changes.map (·.domain)).dedup.insertionSort (· ≤ ·)

def compactAndPublishSettings (profile rootId : String) (credentials : SyncCredentials)
    (retentionPolicy : ProfileSyncRetentionPolicy) (now : Int) (state : SyncState) :
    Except ProfileSyncPublishError (Option PublishedSettingsCompaction × SyncState) := do
  let (enabledDomainIds, db) := enabledSettingsSyncDomainIds profile now state.database
  match db.settingsSyncCompactionTargetForDomains profile retentionPolicy now
      enabledDomainIds with
  | none => pure (none, { state with database := db })
  | some target =>
      let events := (db.syncSettingTextEventsAfter profile
        target.previousSnapshotCoversRevision u32Max).filter fun event =>
          enabledDomainIds.contains event.change.domain
      let coveredChanges := (events.take target.coveredChangeCount).map (·.change)
      let tailChanges := (events.drop target.coveredChangeCount).map (·.change)
      let snapshot := db.settingsSyncSnapshotPayload profile target.coversRevision
        (changedDomains coveredChanges) now
      let (publication, store) ← publishSignedSettingsSnapshotManifest scheme profile rootId
        snapshot coveredChanges tailChanges credentials retentionPolicy state.store
      let (_, db) ← (db.recordSyncSnapshotAndSetProfileSyncRoots
        { profile, snapshotId := SlateProfileDatabase.settingsSyncSnapshotId target.coversRevision
          backendObjectId := some publication.snapshotObjectId
          coversRevision := target.coversRevision
          includedDomains := snapshot.includedDomains }
        [{ profile, rootId, objectId := publication.manifestObjectId }] now).mapError
          ProfileSyncPublishError.storage
      pure (some { target, publication }, { database := db, store })

def publishFullLocalSettingsSnapshotHead (profile settingsRootId : String)
    (credentials : SyncCredentials) (retentionPolicy : ProfileSyncRetentionPolicy) (now : Int)
    (state : SyncState) :
    Except ProfileSyncPublishError (Option PublishedLocalSettingsHead × SyncState) := do
  let (events, db) := enabledSettingsSyncTextEventsAfter profile 0 u32Max now state.database
  let coveredChanges := events.map (·.change)
  match events.getLast?, latestLocalDeviceChangeForHead db.localSyncDeviceId coveredChanges with
  | some lastEvent, some headChange =>
      let coversRevision := lastEvent.revision.revision
      let snapshot := db.settingsSyncSnapshotPayload profile coversRevision
        (changedDomains coveredChanges) now
      let (publication, store) ← publishSignedSettingsSnapshotManifest scheme profile
        settingsRootId snapshot coveredChanges [] credentials retentionPolicy state.store
      let deviceHeadRootId := settingsDeviceHeadRootId db.localSyncDeviceId
      let (deviceHead, store) ← publishSignedProfileSyncDeviceHead scheme profile
        deviceHeadRootId
        { profile, deviceId := db.localSyncDeviceId, rootId := deviceHeadRootId
          schemaVersion := profileSyncDeviceHeadSchemaVersion
          membershipEpoch := defaultProfileSyncMembershipEpoch
          latestManifestObjectId := publication.manifestObjectId
          latestChangeObjectId := none
          deviceSequence := headChange.deviceSequence
          logicalClock := headChange.logicalClock
          createdAt := headChange.createdAt } credentials store
      let (_, db) ← (db.recordSyncSnapshotAndSetProfileSyncRoots
        { profile, snapshotId := SlateProfileDatabase.settingsSyncSnapshotId coversRevision
          backendObjectId := some publication.snapshotObjectId, coversRevision
          includedDomains := snapshot.includedDomains }
        [{ profile, rootId := settingsRootId, objectId := publication.manifestObjectId },
         { profile, rootId := deviceHead.rootId, objectId := deviceHead.objectId }]
        now).mapError ProfileSyncPublishError.storage
      pure (some { publication, deviceHead }, { database := db, store })
  | _, _ => pure (none, { state with database := db })

def publishLocalSettingsTailHead (profile settingsRootId : String)
    (credentials : SyncCredentials) (retentionPolicy : ProfileSyncRetentionPolicy) (now : Int)
    (state : SyncState) :
    Except ProfileSyncPublishError (Option PublishedLocalSettingsHead × SyncState) := do
  match state.database.latestSyncSnapshot profile with
  | none => pure (none, state)
  | some snapshotRecord =>
    match snapshotRecord.backendObjectId with
    | none => throw (.storage (.invalidProfileSyncManifest
        ("latest settings snapshot " ++ snapshotRecord.snapshotId ++
          " has no backend object id")))
    | some snapshotObjectId =>
      let (tailEvents, db) := enabledSettingsSyncTextEventsAfter profile
        snapshotRecord.coversRevision u32Max now state.database
      let tailChanges := (tailEvents.filter fun event =>
        event.change.deviceId == db.localSyncDeviceId).map (·.change)
      match latestLocalDeviceChangeForHead db.localSyncDeviceId tailChanges with
      | none => pure (none, { state with database := db })
      | some headChange =>
        let (allEvents, db) := enabledSettingsSyncTextEventsAfter profile 0 u32Max now db
        let coveredChanges := (allEvents.takeWhile fun event =>
          decide (event.revision.revision ≤ snapshotRecord.coversRevision)).map (·.change)
        let snapshot := db.settingsSyncSnapshotPayload profile snapshotRecord.coversRevision
          snapshotRecord.includedDomains now
        let (publication, store) ← publishSignedExistingSettingsSnapshotManifest scheme profile
          settingsRootId snapshotObjectId snapshot coveredChanges tailChanges credentials
          retentionPolicy state.store
        match publication.manifest.deviceFrontiers.find? fun frontier =>
            frontier.deviceId == db.localSyncDeviceId with
        | none => throw (.storage (.invalidProfileSyncManifest
            ("settings manifest has no frontier for local device " ++ db.localSyncDeviceId)))
        | some deviceHeadFrontier =>
          let deviceHeadRootId := settingsDeviceHeadRootId db.localSyncDeviceId
          let (deviceHead, store) ← publishSignedProfileSyncDeviceHead scheme profile
            deviceHeadRootId
            { profile, deviceId := db.localSyncDeviceId, rootId := deviceHeadRootId
              schemaVersion := profileSyncDeviceHeadSchemaVersion
              membershipEpoch := defaultProfileSyncMembershipEpoch
              latestManifestObjectId := publication.manifestObjectId
              latestChangeObjectId := deviceHeadFrontier.latestChangeObjectId
              deviceSequence := deviceHeadFrontier.latestSequence
              logicalClock := headChange.logicalClock
              createdAt := headChange.createdAt } credentials store
          let (_, db) ← (db.setProfileSyncRoots
            [{ profile, rootId := settingsRootId, objectId := publication.manifestObjectId },
             { profile, rootId := deviceHead.rootId, objectId := deviceHead.objectId }]
            now).mapError ProfileSyncPublishError.storage
          pure (some { publication, deviceHead }, { database := db, store })

/-- The device's own head, read back from the store. -/
def localSettingsDeviceHead (profile : String) (credentials : SyncCredentials)
    (state : SyncState) : Except ProfileSyncPublishError (Option ProfileSyncDeviceHead) := do
  let rootId := settingsDeviceHeadRootId state.database.localSyncDeviceId
  match ← (state.database.profileSyncRoot profile rootId).mapError
      ProfileSyncPublishError.storage with
  | none => pure none
  | some rootObjectId =>
      let object ← (state.store.getProfileSyncObject scheme profile rootObjectId).mapError
        ProfileSyncPublishError.broadwebd
      if object.objectId ≠ rootObjectId then
        throw (.storage (.invalidProfileSyncManifest
          ("stored local device head root " ++ rootObjectId ++
            " resolved to mismatched object " ++ object.objectId)))
      let deviceHead ← (openSignedProfileSyncDeviceHead scheme object.bytes
        credentials.contentKey (credentials.signer.publicKey scheme) profile
        credentials.keyId).mapError ProfileSyncPublishError.syncObject
      validateDeviceHeadForPublish profile rootId deviceHead credentials.signer
      pure (some deviceHead)

/-- The published tail, or the note that nothing was left to publish. -/
def publishTailOrUpToDate (profile settingsRootId : String) (credentials : SyncCredentials)
    (retentionPolicy : ProfileSyncRetentionPolicy) (now : Int)
    (snapshotRecord : SyncSnapshotRecord) (state : SyncState) :
    Except ProfileSyncPublishError (LocalSettingsHeadPublishStatus × SyncState) := do
  let (published, state) ← publishLocalSettingsTailHead scheme profile settingsRootId
    credentials retentionPolicy now state
  match published with
  | some publication => pure (.publishedIncrementalTail publication, state)
  | none => pure (.upToDate snapshotRecord, state)

/-- A tail is published when the latest local change after the snapshot is newer than the
device's own head. -/
def publishPendingTail (profile settingsRootId : String) (credentials : SyncCredentials)
    (retentionPolicy : ProfileSyncRetentionPolicy) (now : Int)
    (snapshotRecord : SyncSnapshotRecord) (state : SyncState) :
    Except ProfileSyncPublishError (LocalSettingsHeadPublishStatus × SyncState) := do
  let (localTailEvents, db) := enabledSettingsSyncTextEventsAfter profile
    snapshotRecord.coversRevision u32Max now state.database
  let state := { state with database := db }
  let localTailChanges := (localTailEvents.filter fun event =>
    event.change.deviceId == db.localSyncDeviceId).map (·.change)
  match latestLocalDeviceChangeForHead db.localSyncDeviceId localTailChanges with
  | none => pure (.upToDate snapshotRecord, state)
  | some latestLocalTailChange =>
      match ← localSettingsDeviceHead scheme profile credentials state with
      | some deviceHead =>
          if latestLocalTailChange.deviceSequence ≤ deviceHead.deviceSequence then
            pure (.upToDate snapshotRecord, state)
          else
            publishTailOrUpToDate scheme profile settingsRootId credentials retentionPolicy now
              snapshotRecord state
      | none =>
          publishTailOrUpToDate scheme profile settingsRootId credentials retentionPolicy now
            snapshotRecord state

def publishFullOrNothing (profile settingsRootId : String) (credentials : SyncCredentials)
    (retentionPolicy : ProfileSyncRetentionPolicy) (now : Int) (state : SyncState) :
    Except ProfileSyncPublishError (LocalSettingsHeadPublishStatus × SyncState) := do
  let (published, state) ← publishFullLocalSettingsSnapshotHead scheme profile settingsRootId
    credentials retentionPolicy now state
  match published with
  | some publication => pure (.publishedFullSnapshot publication, state)
  | none => pure (.noLocalSettingsChanges, state)

def publishPendingLocalSettingsHead (profile settingsRootId : String)
    (credentials : SyncCredentials) (retentionPolicy : ProfileSyncRetentionPolicy) (now : Int)
    (state : SyncState) :
    Except ProfileSyncPublishError (LocalSettingsHeadPublishStatus × SyncState) :=
  match state.database.latestSyncSnapshot profile with
  | some snapshotRecord =>
      if snapshotRecord.backendObjectId.isSome then
        publishPendingTail scheme profile settingsRootId credentials retentionPolicy now
          snapshotRecord state
      else publishFullOrNothing scheme profile settingsRootId credentials retentionPolicy now
        state
  | none => publishFullOrNothing scheme profile settingsRootId credentials retentionPolicy now
      state

/-- The steps still allowed, and those already taken. -/
def publishUntilIdle (profile settingsRootId : String) (credentials : SyncCredentials)
    (retentionPolicy : ProfileSyncRetentionPolicy) (maxSteps : Nat) (now : Int) :
    Nat → List LocalSettingsHeadPublishStatus → SyncState →
      Except ProfileSyncPublishError (LocalSettingsSyncRun × SyncState)
  | 0, _, _ => .error (.localSyncLoopExhausted profile settingsRootId maxSteps)
  | remaining + 1, steps, state => do
      let (step, state) ← publishPendingLocalSettingsHead scheme profile settingsRootId
        credentials retentionPolicy now state
      if step.isIdle then
        pure ({ profile, settingsRootId, steps := steps ++ [step] }, state)
      else
        publishUntilIdle profile settingsRootId credentials retentionPolicy maxSteps now
          remaining (steps ++ [step]) state

def runPendingLocalSettingsSync (profile settingsRootId : String)
    (credentials : SyncCredentials) (retentionPolicy : ProfileSyncRetentionPolicy)
    (maxSteps : Nat) (now : Int) (state : SyncState) :
    Except ProfileSyncPublishError (LocalSettingsSyncRun × SyncState) :=
  publishUntilIdle scheme profile settingsRootId credentials retentionPolicy maxSteps now
    maxSteps [] state

end Publish

end Slate.ProfileSync
