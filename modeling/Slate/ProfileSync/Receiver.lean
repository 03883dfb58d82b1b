import Slate.ProfileSync.Publisher

/-!
# The receiver and the sync cycle

A receiver resolves the head of every trusted device, skips heads that are stale or
unchanged, and applies the manifest of the others. A cycle publishes what is pending and
then receives.
-/

namespace Slate.ProfileSync

open Slate.Foundation Slate.Storage

inductive ProfileSyncReceiveError where
  | broadwebd (error : BroadwebdError)
  | storage (error : StorageError)
  | syncObject (error : SyncObjectError)
  | pullApply (error : ProfileSyncTrustedPullApplyError BroadwebdError)
  | invalidMembershipLog (reason : String)
  | trustedDeviceLimitExceeded (profile : String) (trustedDeviceCount maxDevices : Nat)
deriving DecidableEq, Repr

inductive ProfileSyncCycleError where
  | credentials (error : ProfileSyncCredentialError)
  | publish (error : ProfileSyncPublishError)
  | receive (error : ProfileSyncReceiveError)
deriving DecidableEq, Repr

inductive BroadwebdTrustedDeviceHeadSyncStatus where
  | noPublishedRoot (profile rootId : String)
  | unchanged (profile rootId objectId : String)
  | stale (profile rootId objectId deviceId : String)
      (currentDeviceSequence incomingDeviceSequence : Int)
  | applied (deviceHead : VerifiedProfileSyncDeviceHead)
      (application : SlateProfileDatabase.ProfileSyncSettingsManifestApplication)
deriving DecidableEq, Repr

structure TrustedSettingsDeviceSyncResult where
  deviceId : String
  rootId : String
  status : BroadwebdTrustedDeviceHeadSyncStatus
deriving DecidableEq, Repr

structure SettingsSyncCycleRun where
  profile : String
  settingsRootId : String
  publish : LocalSettingsSyncRun
  receive : List TrustedSettingsDeviceSyncResult
deriving DecidableEq, Repr

section Receive

variable (codec : SyncPayloadCodec) (scheme : SyncObjectScheme)

/-- The sequence that makes an incoming head stale: a later one is recorded, or the same
one is and another head was stored for the root. -/
def staleDeviceSequence (profile : String) (localHeadObjectId : Option String)
    (head : VerifiedProfileSyncDeviceHead) (db : SlateProfileDatabase) : Option Int :=
  if localHeadObjectId = some head.objectId then none
  else
    (db.latestSyncDeviceSequence profile head.deviceHead.deviceId).filter fun current =>
      decide (head.deviceHead.deviceSequence < current) ||
        current == head.deviceHead.deviceSequence && localHeadObjectId.isSome

def pullRecordAndApplyTrustedSettingsFromDeviceHead (profile rootId : String)
    (contentKey : List Nat) (keyId : String) (store : ObjectStore) (now : Int)
    (db : SlateProfileDatabase) :
    Except (ProfileSyncTrustedPullApplyError BroadwebdError)
      (BroadwebdTrustedDeviceHeadSyncStatus × SlateProfileDatabase) := do
  match ← (db.pullTrustedSignedProfileSyncDeviceHead scheme (store.source scheme) profile rootId
      contentKey keyId).mapError ProfileSyncTrustedPullApplyError.pull with
  | none => pure (.noPublishedRoot profile rootId, db)
  | some head =>
    let localHeadObjectId ← (db.profileSyncRoot profile rootId).mapError
      ProfileSyncTrustedPullApplyError.storage
    match staleDeviceSequence profile localHeadObjectId head db with
    | some current => pure (.stale profile rootId head.objectId head.deviceHead.deviceId current
        head.deviceHead.deviceSequence, db)
    | none =>
      let objects ← (db.pullTrustedSignedProfileSyncSettingsManifestObjectsFromDeviceHead scheme
        (store.source scheme) profile head contentKey keyId).mapError
          ProfileSyncTrustedPullApplyError.pull
      let settingsRoot ← (db.profileSyncRoot profile objects.manifest.rootId).mapError
        ProfileSyncTrustedPullApplyError.storage
      if localHeadObjectId = some head.objectId ∧
          settingsRoot = some objects.manifestObjectId then
        pure (.unchanged profile rootId head.objectId, db)
      else
        let (application, db) ← (db.applyVerifiedSettingsManifestAndSetProfileSyncRoot codec
          objects profile rootId head.objectId now).mapError
            ProfileSyncTrustedPullApplyError.storage
        pure (.applied head application, db)

/-- The trusted devices other than this one that are not providers, by device id. -/
def trustedRemoteDevicePublicKeys (profile : String) (maxDevices : Nat)
    (db : SlateProfileDatabase) :
    Except ProfileSyncReceiveError (List SyncDevicePublicKeyRecord) :=
  let providerAuthorityDeviceIds := (db.syncDevices.filter fun device =>
    device.profile == profile && device.providerAuthority).map (·.deviceId)
  let trustedDevices := (db.syncDevicePublicKeysOf profile).filter fun record =>
    record.trusted && record.publicKey.deviceId != db.localSyncDeviceId &&
      !providerAuthorityDeviceIds.contains record.publicKey.deviceId
  if maxDevices < trustedDevices.length then
    .error (.trustedDeviceLimitExceeded profile trustedDevices.length maxDevices)
  else .ok trustedDevices

def receiveFromTrustedDevice (profile : String) (contentKey : List Nat) (keyId : String)
    (store : ObjectStore) (now : Int) (trustedDevice : SyncDevicePublicKeyRecord)
    (db : SlateProfileDatabase) :
    Except ProfileSyncReceiveError (TrustedSettingsDeviceSyncResult × SlateProfileDatabase) := do
  let deviceId := trustedDevice.publicKey.deviceId
  let rootId := settingsDeviceHeadRootId deviceId
  let (status, db) ← (pullRecordAndApplyTrustedSettingsFromDeviceHead codec scheme profile rootId
    contentKey keyId store now db).mapError ProfileSyncReceiveError.pullApply
  pure ({ deviceId, rootId, status }, db)

def pullAndApplyTrustedSettingsFromRegisteredDevices (profile : String)
    (contentKey : List Nat) (keyId : String) (maxDevices : Nat) (store : ObjectStore)
    (now : Int) (db : SlateProfileDatabase) :
    Except ProfileSyncReceiveError
      (List TrustedSettingsDeviceSyncResult × SlateProfileDatabase) := do
  let trustedDevices ← trustedRemoteDevicePublicKeys profile maxDevices db
  forEach (receiveFromTrustedDevice codec scheme profile contentKey keyId store now)
    trustedDevices db

def runSettingsSyncCycle (profile settingsRootId : String) (credentials : SyncCredentials)
    (retentionPolicy : ProfileSyncRetentionPolicy) (maxPublishSteps maxTrustedDevices : Nat)
    (now : Int) (state : SyncState) :
    Except ProfileSyncCycleError (SettingsSyncCycleRun × SyncState) := do
  (validateSettingsSyncCycleCredentials scheme profile credentials.keyId credentials.signer
    state.database).mapError ProfileSyncCycleError.credentials
  let _ ← (trustedRemoteDevicePublicKeys profile maxTrustedDevices state.database).mapError
    ProfileSyncCycleError.receive
  let (publish, state) ← (runPendingLocalSettingsSync scheme profile settingsRootId credentials
    retentionPolicy maxPublishSteps now state).mapError ProfileSyncCycleError.publish
  let (receive, db) ← (pullAndApplyTrustedSettingsFromRegisteredDevices codec scheme profile
    credentials.contentKey credentials.keyId maxTrustedDevices state.store now
    state.database).mapError ProfileSyncCycleError.receive
  pure ({ profile, settingsRootId, publish, receive }, { state with database := db })

end Receive

end Slate.ProfileSync
