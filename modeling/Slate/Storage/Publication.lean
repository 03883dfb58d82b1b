import Slate.Storage.TrustedObjects

/-!
# What a publication is built from

The storage crate's part of publishing settings: events of one domain, the compaction
target, the manifest of a snapshot and its tail, and the tables that the publisher and the
receiver read.
-/

namespace Slate.Storage

open Slate.Foundation

def profileSyncContentKeyAlgorithmChacha20Poly1305 : String := "chacha20-poly1305"

/-- The smallest value of a SQLite integer column. -/
def i64Min : Int := -9223372036854775808

/-- `i64::saturating_sub` of a value that is not negative. -/
def saturatingSub (value amount : Int) : Int :=
  if value - amount < i64Min then i64Min else value - amount

structure ProfileSyncSettingsTailChangePublication where
  objectId : String
  change : SyncChangeRecord
deriving DecidableEq, Repr

structure ProfileSyncSettingsSnapshotPublication where
  objectId : String
  snapshot : ProfileSyncSettingsSnapshot
  coveredChanges : List SyncChangeRecord
deriving DecidableEq, Repr

structure SyncCompactionTarget where
  profile : String
  previousSnapshotCoversRevision : Int
  coversRevision : Int
  coversChangeId : Int
  coveredChangeCount : Nat
  retainedTailChangeCount : Nat
deriving DecidableEq, Repr

section Manifest

/-- The order of optional ids: no id comes first. -/
def objectIdLe : Option String → Option String → Bool
  | none, _ => true
  | some _, none => false
  | some left, some right => decide (left ≤ right)

/-- The frontier that is there is at least as far as the next one. -/
def frontierReaches (existing next : ProfileSyncDeviceFrontier) : Bool :=
  decide (next.latestSequence < existing.latestSequence) ||
    next.latestSequence == existing.latestSequence &&
      objectIdLe next.latestChangeObjectId existing.latestChangeObjectId

def upsertDeviceFrontier (frontiers : List ProfileSyncDeviceFrontier)
    (next : ProfileSyncDeviceFrontier) : List ProfileSyncDeviceFrontier :=
  Rows.upsert (·.deviceId)
    (fun existing next => if frontierReaches existing next then existing else next)
    next frontiers

def coveredFrontier (change : SyncChangeRecord) : ProfileSyncDeviceFrontier :=
  { deviceId := change.deviceId, latestSequence := change.deviceSequence
    latestChangeObjectId := none }

def tailFrontier (tail : ProfileSyncSettingsTailChangePublication) :
    ProfileSyncDeviceFrontier :=
  { deviceId := tail.change.deviceId, latestSequence := tail.change.deviceSequence
    latestChangeObjectId := some tail.objectId }

def validateCoveredChange (profile : String) (includedDomains : List String)
    (change : SyncChangeRecord) : Except StorageError Unit := do
  if change.profile ≠ profile then
    throw (.invalidProfileSyncManifest
      ("snapshot-covered change " ++ toString change.id ++ " profile " ++ change.profile ++
        " does not match manifest profile " ++ profile))
  if change.operation ≠ "set_text" then
    throw (.invalidProfileSyncManifest
      ("snapshot-covered change " ++ toString change.id ++ " operation " ++ change.operation ++
        " is not supported by settings manifests"))
  if !includedDomains.contains change.domain then
    throw (.invalidProfileSyncManifest
      ("snapshot-covered change " ++ toString change.id ++ " domain " ++ change.domain ++
        " is not included in snapshot"))

def validateTailPublication (profile : String)
    (tail : ProfileSyncSettingsTailChangePublication) : Except StorageError Unit := do
  if tail.objectId = "" then
    throw (.invalidProfileSyncManifest "settings manifest tail object id is empty")
  if tail.change.profile ≠ profile then
    throw (.invalidProfileSyncManifest
      ("tail change " ++ tail.objectId ++ " profile " ++ tail.change.profile ++
        " does not match manifest profile " ++ profile))
  if tail.change.operation ≠ "set_text" then
    throw (.invalidProfileSyncManifest
      ("tail change " ++ tail.objectId ++ " operation " ++ tail.change.operation ++
        " is not supported by settings manifests"))

/-- The later of two times. -/
def laterOf (first second : Int) : Int :=
  if first < second then second else first

def settingsSyncManifestForTailChanges (profile rootId : String)
    (tailChanges : List ProfileSyncSettingsTailChangePublication)
    (retentionPolicy : ProfileSyncRetentionPolicy) :
    Except StorageError ProfileSyncManifest := do
  if rootId = "" then
    throw (.invalidSyncRootId rootId)
  if tailChanges = [] then
    throw (.invalidProfileSyncManifest "settings manifest tail is empty")
  tailChanges.forM (validateTailPublication profile)
  let frontiers := (tailChanges.map tailFrontier).foldl upsertDeviceFrontier []
  pure
    { profile, rootId, schemaVersion := profileSyncManifestSchemaVersion
      membershipEpoch := defaultProfileSyncMembershipEpoch
      currentSnapshotObjectId := none
      tailChangeObjectIds := tailChanges.map (·.objectId)
      includedDomains :=
        (tailChanges.map (·.change.domain)).dedup.insertionSort (· ≤ ·)
      deviceFrontiers := frontiers.insertionSort fun left right => left.deviceId ≤ right.deviceId
      retentionPolicy
      createdAt := (tailChanges.map (·.change.createdAt)).foldl laterOf 0 }

def settingsSyncManifestForSnapshotAndTailChanges (profile rootId : String)
    (snapshot : ProfileSyncSettingsSnapshotPublication)
    (tailChanges : List ProfileSyncSettingsTailChangePublication)
    (retentionPolicy : ProfileSyncRetentionPolicy) :
    Except StorageError ProfileSyncManifest := do
  if rootId = "" then
    throw (.invalidSyncRootId rootId)
  if snapshot.objectId = "" then
    throw (.invalidProfileSyncManifest "settings manifest snapshot object id is empty")
  if snapshot.snapshot.profile ≠ profile then
    throw (.invalidProfileSyncManifest
      ("snapshot profile " ++ snapshot.snapshot.profile ++
        " does not match manifest profile " ++ profile))
  if snapshot.snapshot.schemaVersion ≠ profileSyncSettingsSnapshotSchemaVersion then
    throw (.unsupportedSyncSnapshotSchema snapshot.snapshot.schemaVersion)
  let snapshotDomains :=
    SlateProfileDatabase.normalizedSnapshotDomains snapshot.snapshot.includedDomains
  snapshot.coveredChanges.forM (validateCoveredChange profile snapshotDomains)
  tailChanges.forM (validateTailPublication profile)
  let frontiers := (tailChanges.map tailFrontier).foldl upsertDeviceFrontier
    ((snapshot.coveredChanges.map coveredFrontier).foldl upsertDeviceFrontier [])
  pure
    { profile, rootId, schemaVersion := profileSyncManifestSchemaVersion
      membershipEpoch := defaultProfileSyncMembershipEpoch
      currentSnapshotObjectId := some snapshot.objectId
      tailChangeObjectIds := tailChanges.map (·.objectId)
      includedDomains :=
        (snapshotDomains ++ tailChanges.map (·.change.domain)).dedup.insertionSort (· ≤ ·)
      deviceFrontiers := frontiers.insertionSort fun left right => left.deviceId ≤ right.deviceId
      retentionPolicy
      createdAt := (tailChanges.map (·.change.createdAt)).foldl laterOf
        snapshot.snapshot.createdAt }

end Manifest

namespace SlateProfileDatabase

section Queries

/-- Events whose revision and change are both of the domain. -/
def syncSettingTextEventsAfterForDomain (profile domain : String) (afterRevision : Int)
    (limit : Nat) (db : SlateProfileDatabase) : List SyncSettingTextEvent :=
  ((db.settingsEvents profile).filter fun event =>
    event.revision.domain == domain && event.change.domain == domain &&
      decide (afterRevision < event.revision.revision)).take limit

def latestSyncDeviceSequence (profile deviceId : String) (db : SlateProfileDatabase) :
    Option Int :=
  ((db.settingsChanges.filter fun change =>
    change.profile == profile && change.deviceId == deviceId).map (·.deviceSequence)).max?

/-- The key epoch that is not older than another one. -/
def laterKeyEpoch (first second : SyncContentKeyEpochRecord) : SyncContentKeyEpochRecord :=
  if first.membershipEpoch < second.membershipEpoch ∨
      first.membershipEpoch = second.membershipEpoch ∧ first.updatedAt < second.updatedAt then
    second
  else first

def activeSyncContentKeyEpoch (profile : String) (db : SlateProfileDatabase) :
    Option SyncContentKeyEpochRecord :=
  match db.syncContentKeyEpochs.filter fun key => key.profile == profile && key.active with
  | [] => none
  | first :: rest => some (rest.foldl laterKeyEpoch first)

def recordSyncSnapshotAndSetProfileSyncRoots (snapshot : SyncSnapshotRegistration)
    (roots : List ProfileSyncRootRegistration) (now : Int) (db : SlateProfileDatabase) :
    Except StorageError (List Unit × SlateProfileDatabase) :=
  (db.recordSyncSnapshot snapshot now).setProfileSyncRoots roots now

end Queries

section Compaction

def compactionTargetEventIndex (events : List SyncSettingTextEvent)
    (retentionPolicy : ProfileSyncRetentionPolicy) (now : Int) : Option Nat :=
  if events.length ≤ retentionPolicy.minTailChangeCount then none
  else
    let retentionSeconds :=
      if retentionPolicy.changeRetentionSeconds < 0 then 0
      else retentionPolicy.changeRetentionSeconds
    let retentionCutoff := saturatingSub now retentionSeconds
    let newestAllowedByTail := events.length - retentionPolicy.minTailChangeCount - 1
    (events.reverse.findIdx? fun event =>
      decide (event.change.createdAt ≤ retentionCutoff)).map fun fromEnd =>
        min (events.length - 1 - fromEnd) newestAllowedByTail

def settingsSyncCompactionTargetForDomains (profile : String)
    (retentionPolicy : ProfileSyncRetentionPolicy) (now : Int) (includedDomains : List String)
    (db : SlateProfileDatabase) : Option SyncCompactionTarget :=
  let includedDomains := normalizedSnapshotDomains includedDomains
  if includedDomains.isEmpty then none
  else
    let previousSnapshotCoversRevision :=
      ((db.latestSyncSnapshot profile).map (·.coversRevision)).getD 0
    let events := (db.syncSettingTextEventsAfter profile previousSnapshotCoversRevision
      u32Max).filter fun event => includedDomains.contains event.change.domain
    (compactionTargetEventIndex events retentionPolicy now).bind fun targetIndex =>
      events[targetIndex]?.map fun target =>
        { profile, previousSnapshotCoversRevision
          coversRevision := target.revision.revision
          coversChangeId := target.change.id
          coveredChangeCount := targetIndex + 1
          retainedTailChangeCount := events.length - targetIndex - 1 }

end Compaction

end SlateProfileDatabase

end Slate.Storage
