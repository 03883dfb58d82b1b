import Slate.Foundation.SeenList
import Slate.ProfileSync.Receiver
import Slate.ProfileSync.RetentionSelection
import Slate.Storage.SettingsPulls

/-!
# Cycles with retention providers

A cycle publishes and receives, then asks each provider it is given to retain what it published.
Its own daemon answers for the health of the roots before and after. The providers are daemons of
their own over a network that they may share.
-/

namespace Slate.ProfileSync

open Slate.Foundation Slate.Storage

section Policy

/-- The health report of a cycle, with the health of both roots. -/
structure SettingsSyncRootsHealthReport extends SettingsSyncHealthReport where
  profile : String
  settingsRootId : String
  localDeviceHeadRootId : String
  settingsRootHealth : Broadwebd.Local.ProfileSyncRootHealth
  localDeviceHeadRootHealth : Broadwebd.Local.ProfileSyncRootHealth

inductive ProfileSyncPolicyError where
  | providerHealthDegraded (health : SettingsSyncRootsHealthReport)
  | rootHealthDegraded (rootKind : String) (health : SettingsSyncRootsHealthReport)
  | providerMinimumUnmet (providerRole : String) (minimum actual : Nat)
      (health : SettingsSyncRootsHealthReport)
  | providerMaximumExceeded (providerRole : String) (maximum actual : Nat)
      (health : SettingsSyncRootsHealthReport)

inductive ProfileSyncCycleWithHealthError where
  | health (error : BroadwebdError)
  | retention (error : BroadwebdError)
  | policy (error : ProfileSyncPolicyError)
  | cycle (error : ProfileSyncCycleError)

structure SettingsSyncCyclePolicy where
  retentionPolicy : ProfileSyncRetentionPolicy
  maxPublishSteps : Nat
  maxTrustedDevices : Nat
  minimumOnlineRetainingProviders : Nat
  minimumFreshOnlineProviders : Nat := 1
  minimumObjectTransferProviders : Nat := 1
  minimumAvailabilityProviders : Nat := 1
  minimumMutableRootProviders : Nat := 1
  maximumStaleOnlineProviders : Option Nat := none
  maximumOfflineProviders : Option Nat := none
  requireHealthyProviders : Bool := true
  requireHealthyRootsAfterCycle : Bool := true
  requireHealthySettingsRootAfterCycle : Bool := true
  requireHealthyLocalDeviceHeadRootAfterCycle : Bool := true

def checkProviderMinimum (providerRole : String) (minimum actual : Nat)
    (health : SettingsSyncRootsHealthReport) : Except ProfileSyncPolicyError Unit :=
  if actual < minimum then .error (.providerMinimumUnmet providerRole minimum actual health)
  else .ok ()

def checkProviderMaximum (providerRole : String) (maximum actual : Nat)
    (health : SettingsSyncRootsHealthReport) : Except ProfileSyncPolicyError Unit :=
  if maximum < actual then .error (.providerMaximumExceeded providerRole maximum actual health)
  else .ok ()

namespace SettingsSyncCyclePolicy

def checkBeforeCycle (policy : SettingsSyncCyclePolicy)
    (health : SettingsSyncRootsHealthReport) : Except ProfileSyncPolicyError Unit := do
  if policy.requireHealthyProviders then
    if health.providerHealth.degraded then
      throw (.providerHealthDegraded health)
    checkProviderMinimum "fresh online providers" policy.minimumFreshOnlineProviders
      health.providerHealth.freshOnlineProviders health
    checkProviderMinimum "object-transfer providers" policy.minimumObjectTransferProviders
      health.providerHealth.objectTransferProviders health
    checkProviderMinimum "availability providers" policy.minimumAvailabilityProviders
      health.providerHealth.availabilityProviders health
    checkProviderMinimum "mutable-root providers" policy.minimumMutableRootProviders
      health.providerHealth.mutableRootProviders health
    if let some maximum := policy.maximumStaleOnlineProviders then
      checkProviderMaximum "stale online providers" maximum
        health.providerHealth.staleOnlineProviders health
    if let some maximum := policy.maximumOfflineProviders then
      checkProviderMaximum "offline providers" maximum health.providerHealth.offlineProviders
        health

def checkAfterCycle (policy : SettingsSyncCyclePolicy)
    (health : SettingsSyncRootsHealthReport) : Except ProfileSyncPolicyError Unit := do
  if policy.requireHealthyRootsAfterCycle then
    if policy.requireHealthySettingsRootAfterCycle && health.settingsRootHealth.degraded then
      throw (.rootHealthDegraded "settings root" health)
    if policy.requireHealthyLocalDeviceHeadRootAfterCycle &&
        health.localDeviceHeadRootHealth.degraded then
      throw (.rootHealthDegraded "local device-head root" health)

end SettingsSyncCyclePolicy

end Policy

section Preflight

/-- What the device's own daemon answers about providers and roots. -/
structure DaemonHealth where
  providerHealth : String → Except BroadwebdError Broadwebd.Local.ProfileSyncProviderHealth
  rootHealth : String → String → Nat →
    Except BroadwebdError Broadwebd.Local.ProfileSyncRootHealth
  profileSyncProviders : String →
    Except BroadwebdError (List Broadwebd.Local.ProfileSyncProviderRecord)

namespace DaemonHealth

variable (daemon : DaemonHealth)

def settingsSyncHealth (profile settingsRootId : String) (minimumOnlineRetainingProviders : Nat)
    (db : SlateProfileDatabase) : Except BroadwebdError SettingsSyncRootsHealthReport := do
  let localDeviceHeadRootId := settingsDeviceHeadRootId db.localSyncDeviceId
  let providerHealth ← daemon.providerHealth profile
  let settingsRootHealth ← daemon.rootHealth profile settingsRootId
    minimumOnlineRetainingProviders
  let localDeviceHeadRootHealth ← daemon.rootHealth profile localDeviceHeadRootId
    minimumOnlineRetainingProviders
  pure { profile, settingsRootId, localDeviceHeadRootId, providerHealth, settingsRootHealth
         localDeviceHeadRootHealth }

def profileSyncRetentionProviderCandidates (profile : String) :
    Except BroadwebdError (List Broadwebd.Local.ProfileSyncProviderRecord) := do
  let providers ← daemon.profileSyncProviders profile
  pure (providers.filter fun provider =>
    provider.roles.availability && provider.roles.objectTransfer)

end DaemonHealth

/-- The preflight of a cycle that uses the active content key. -/
structure SettingsSyncActiveKeyPreflight where
  profile : String
  settingsRootId : String
  localDeviceId : String
  signerDeviceId : String
  activeKeyId : String
  trustedRemoteDeviceCount : Nat
  retentionProviderCandidates : List Broadwebd.Local.ProfileSyncProviderRecord
  beforeHealth : SettingsSyncRootsHealthReport

def settingsSyncCyclePreflightWithActiveKeyPolicy (scheme : SyncObjectScheme)
    (daemon : DaemonHealth) (profile settingsRootId : String) (signer : ProfileSyncDeviceSigner)
    (policy : SettingsSyncCyclePolicy) (db : SlateProfileDatabase) :
    Except ProfileSyncCycleWithHealthError SettingsSyncActiveKeyPreflight := do
  let beforeHealth ← (daemon.settingsSyncHealth profile settingsRootId
    policy.minimumOnlineRetainingProviders db).mapError .health
  (policy.checkBeforeCycle beforeHealth).mapError ProfileSyncCycleWithHealthError.policy
  let retentionProviderCandidates ←
    (daemon.profileSyncRetentionProviderCandidates profile).mapError .health
  let activeKeyId ← (activeSettingsSyncContentKeyId profile db).mapError fun error =>
    .cycle (.credentials error)
  (validateSettingsSyncCycleCredentials scheme profile activeKeyId signer db).mapError
    fun error => ProfileSyncCycleWithHealthError.cycle (.credentials error)
  let trustedDevices ← (trustedRemoteDevicePublicKeys profile policy.maxTrustedDevices
    db).mapError fun error => .cycle (.receive error)
  pure { profile, settingsRootId, localDeviceId := db.localSyncDeviceId
         signerDeviceId := signer.deviceId, activeKeyId
         trustedRemoteDeviceCount := trustedDevices.length, retentionProviderCandidates
         beforeHealth }

end Preflight

section ObjectIds

def extendUniqueObjectIds (objectIds : SeenList String) (incoming : List String) :
    SeenList String :=
  incoming.foldl SeenList.pushNew objectIds

def PublishedSettingsSnapshotManifest.publishedObjectIds
    (published : PublishedSettingsSnapshotManifest) : List String :=
  ((extendUniqueObjectIds (SeenList.empty.pushNew published.snapshotObjectId)
    published.tailChangeObjectIds).pushNew published.manifestObjectId).items

def PublishedProfileSyncDeviceHead.publishedObjectIds
    (published : PublishedProfileSyncDeviceHead) : List String :=
  [published.objectId]

/-- The settings root and the head root are those of the manifest and of the head. -/
def PublishedLocalSettingsHead.publishedObjectIds (published : PublishedLocalSettingsHead) :
    List String :=
  (((extendUniqueObjectIds
    (extendUniqueObjectIds SeenList.empty published.publication.publishedObjectIds)
    published.deviceHead.publishedObjectIds).pushNew
      published.publication.manifestObjectId).pushNew published.deviceHead.objectId).items

def LocalSettingsHeadPublishStatus.publishedObjectIds :
    LocalSettingsHeadPublishStatus → List String
  | .publishedFullSnapshot published => published.publishedObjectIds
  | .publishedIncrementalTail published => published.publishedObjectIds
  | .noLocalSettingsChanges => []
  | .upToDate _ => []

def LocalSettingsSyncRun.publishedObjectIds (run : LocalSettingsSyncRun) : List String :=
  (run.steps.foldl (fun objectIds step =>
    extendUniqueObjectIds objectIds step.publishedObjectIds) SeenList.empty).items

def SettingsSyncCycleRun.publishedObjectIds (run : SettingsSyncCycleRun) : List String :=
  run.publish.publishedObjectIds

def sharedRootCandidateObjectIds : ProfileSyncSettingsCandidatePullApplyStatus → List String
  | .applied applications =>
      (applications.foldl (fun objectIds application =>
        extendUniqueObjectIds objectIds application.application.syncObjectIds)
        SeenList.empty).items
  | .noPublishedRoot _ _ => []
  | .unchanged _ _ _ => []

end ObjectIds

section Retention

structure BroadwebdProfileSyncRetentionStatus where
  objectId : String
  retained : Bool
  available : Bool

structure SettingsSyncCycleProviderRetentionRun where
  providerIndex : Nat
  objectStatuses : List BroadwebdProfileSyncRetentionStatus

/-- What the daemons of the providers answer to `RetainObject` and `VerifyRetainedObject`, and
which objects of a profile each of them retains. -/
structure RetentionDaemons (Provider : Type) (Network : Type) where
  retainObject : Provider → String → String → Network → Except BroadwebdError (Bool × Network)
  verifyRetainedObject : Provider → String → String → Network →
    Except BroadwebdError BroadwebdProfileSyncRetentionStatus
  Retains : Provider → String → String → Network → Prop

/-- An object that a provider agrees to retain is retained, and no other is given up for it. -/
structure RetentionDaemons.Lawful {Provider : Type} {Network : Type}
    (daemons : RetentionDaemons Provider Network) : Prop where
  retained : ∀ {provider profile objectId network answer next},
    daemons.retainObject provider profile objectId network = .ok (answer, next) →
      daemons.Retains provider profile objectId next
  kept : ∀ {provider profile objectId network answer next other otherProfile otherId},
    daemons.retainObject provider profile objectId network = .ok (answer, next) →
      daemons.Retains other otherProfile otherId network →
        daemons.Retains other otherProfile otherId next

variable {Provider : Type} {Network : Type} (daemons : RetentionDaemons Provider Network)

def retainProfileSyncObject (provider : Provider) (profile objectId : String)
    (network : Network) :
    Except BroadwebdError (BroadwebdProfileSyncRetentionStatus × Network) := do
  let (_, network) ← daemons.retainObject provider profile objectId network
  let status ← daemons.verifyRetainedObject provider profile objectId network
  pure (status, network)

def retainProfileSyncObjects (provider : Provider) (profile : String) (objectIds : List String)
    (network : Network) :
    Except BroadwebdError (List BroadwebdProfileSyncRetentionStatus × Network) :=
  forEach (retainProfileSyncObject daemons provider profile) objectIds network

def retainAtProvider (profile : String) (objectIds : List String) (indexed : Provider × Nat)
    (network : Network) :
    Except ProfileSyncCycleWithHealthError (SettingsSyncCycleProviderRetentionRun × Network) := do
  let (objectStatuses, network) ← (retainProfileSyncObjects daemons indexed.1 profile objectIds
    network).mapError .retention
  pure ({ providerIndex := indexed.2, objectStatuses }, network)

/-- The loop over the retention provider daemons. -/
def retainAtProviders (profile : String) (objectIds : List String) (providers : List Provider)
    (network : Network) :
    Except ProfileSyncCycleWithHealthError
      (List SettingsSyncCycleProviderRetentionRun × Network) :=
  forEach (retainAtProvider daemons profile objectIds) providers.zipIdx network

end Retention

section Cycles

structure SettingsSyncCycleWithRetentionRun where
  beforeHealth : SettingsSyncRootsHealthReport
  cycle : SettingsSyncCycleRun
  retention : List SettingsSyncCycleProviderRetentionRun
  afterHealth : SettingsSyncRootsHealthReport

structure SettingsSyncCycleWithSharedRootRetentionRun where
  beforeHealth : SettingsSyncRootsHealthReport
  cycle : SettingsSyncCycleRun
  sharedRootCandidates : ProfileSyncSettingsCandidatePullApplyStatus
  retainedObjectIds : List String
  retention : List SettingsSyncCycleProviderRetentionRun
  afterHealth : SettingsSyncRootsHealthReport

/-- What a cycle is called with: the arguments of the caller, the time, and the answers of its own
daemon before and after. -/
structure CycleCall (Provider : Type) where
  settingsRootId : String
  contentKey : List Nat
  signer : ProfileSyncDeviceSigner
  policy : SettingsSyncCyclePolicy
  providers : List Provider
  now : Int
  before : DaemonHealth
  after : DaemonHealth

variable (codec : SyncPayloadCodec) (scheme : SyncObjectScheme) {Provider : Type}
  {Network : Type} (daemons : RetentionDaemons Provider Network) (profile : String)
  (call : CycleCall Provider)

/-- The publication and the reception of a cycle, behind its preflight. -/
def cycleAfterPreflight (preflight : SettingsSyncActiveKeyPreflight) (state : SyncState) :
    Except ProfileSyncCycleWithHealthError (SettingsSyncCycleRun × SyncState) :=
  (runSettingsSyncCycle codec scheme preflight.profile preflight.settingsRootId
    { contentKey := call.contentKey, keyId := preflight.activeKeyId, signer := call.signer }
    call.policy.retentionPolicy call.policy.maxPublishSteps call.policy.maxTrustedDevices
    call.now state).mapError .cycle

/-- The health after a cycle, which the policy may refuse. -/
def checkedHealthAfter (db : SlateProfileDatabase) :
    Except ProfileSyncCycleWithHealthError SettingsSyncRootsHealthReport := do
  let afterHealth ← (call.after.settingsSyncHealth profile call.settingsRootId
    call.policy.minimumOnlineRetainingProviders db).mapError .health
  (call.policy.checkAfterCycle afterHealth).mapError ProfileSyncCycleWithHealthError.policy
  pure afterHealth

def runSettingsSyncCycleWithActiveKeyPolicyAndRetentionProviders (state : SyncState)
    (network : Network) :
    Except ProfileSyncCycleWithHealthError
      (SettingsSyncCycleWithRetentionRun × SyncState × Network) := do
  let preflight ← settingsSyncCyclePreflightWithActiveKeyPolicy scheme call.before profile
    call.settingsRootId call.signer call.policy state.database
  let (cycle, state) ← cycleAfterPreflight codec scheme call preflight state
  let (retention, network) ← retainAtProviders daemons cycle.profile cycle.publishedObjectIds
    call.providers network
  let afterHealth ← checkedHealthAfter profile call state.database
  pure ({ beforeHealth := preflight.beforeHealth, cycle, retention, afterHealth }, state, network)

/-- The candidates of the shared root are pulled through `source`. -/
def pullSharedRootCandidates (source : ProfileSyncObjectSource BroadwebdError)
    (state : SyncState) :
    Except ProfileSyncCycleWithHealthError
      (ProfileSyncSettingsCandidatePullApplyStatus × SyncState) :=
  match state.database.pullAndApplyActiveTrustedSignedSettingsManifestCandidatesIfChanged codec
      scheme source profile call.settingsRootId call.contentKey call.now with
  | (.error error, _) => .error (.cycle (.receive (.pullApply error)))
  | (.ok candidates, db) => .ok (candidates, { state with database := db })

def runSettingsSyncCycleWithActiveKeyPolicySharedRootCandidatesAndRetentionProviders
    (source : ProfileSyncObjectSource BroadwebdError) (state : SyncState) (network : Network) :
    Except ProfileSyncCycleWithHealthError
      (SettingsSyncCycleWithSharedRootRetentionRun × SyncState × Network) := do
  let preflight ← settingsSyncCyclePreflightWithActiveKeyPolicy scheme call.before profile
    call.settingsRootId call.signer call.policy state.database
  let (cycle, state) ← cycleAfterPreflight codec scheme call preflight state
  let (sharedRootCandidates, state) ← pullSharedRootCandidates codec scheme profile call source
    state
  let retainedObjectIds := (extendUniqueObjectIds
    (extendUniqueObjectIds SeenList.empty cycle.publishedObjectIds)
    (sharedRootCandidateObjectIds sharedRootCandidates)).items
  let (retention, network) ← retainAtProviders daemons preflight.profile retainedObjectIds
    call.providers network
  let afterHealth ← checkedHealthAfter profile call state.database
  pure (
    { beforeHealth := preflight.beforeHealth, cycle, sharedRootCandidates, retainedObjectIds
      retention, afterHealth }, state, network)

end Cycles

end Slate.ProfileSync
