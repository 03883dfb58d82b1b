import Slate.Chrome.ProfileSyncPreview
import Slate.Storage.Publication

/-!
# The sync runs of the settings page, and runs of requests

A sync run enrolls the local device and the preview provider with the loaded key, and then
runs one cycle on a preview network of its own. The network is new, so nothing is received
from it; what it carries back is a parameter of the run.
-/

namespace Slate.Chrome

open Foundation Storage
open Storage.SlateProfileDatabase (SyncSnapshotRegistration ProfileSyncRootRegistration
  VerifiedProfileSyncSettingsManifestObjects)

def localSettingsSyncPreviewSettingKey : String := "profile_sync.preview.last_run"
def localSettingsSyncPreviewRemoteSettingKey : String :=
  "profile_sync.preview.two_device_last_run"
def localSettingsSyncPreviewReceiverDeviceId : String := "local-preview-receiver"

/-- A transaction of a settings cycle: a published snapshot with its roots, roots, or a
verified manifest. -/
inductive SettingsCycleWrite where
  | publish (snapshot : SyncSnapshotRegistration) (roots : List ProfileSyncRootRegistration)
  | setRoots (roots : List ProfileSyncRootRegistration)
  | receive (objects : VerifiedProfileSyncSettingsManifestObjects)
      (profile rootId objectId : String)

/-- One cycle on a preview network: whether the second device could be set up, what the cycle
writes to the database, and how it ends. -/
structure PreviewCycle where
  receiver : Except ProfileSyncPreviewError Unit
  writes : List SettingsCycleWrite
  outcome : Except ProfileSyncPreviewError Unit

section Runs

variable (scheme : SyncSecretScheme) (codec : SyncPayloadCodec)

def SettingsCycleWrite.write (now : Int) (db : SlateProfileDatabase) :
    SettingsCycleWrite → Except StorageError (Unit × SlateProfileDatabase)
  | .publish snapshot roots =>
      (fun written => ((), written.2)) <$>
        db.recordSyncSnapshotAndSetProfileSyncRoots snapshot roots now
  | .setRoots roots => (fun written => ((), written.2)) <$> db.setProfileSyncRoots roots now
  | .receive objects profile rootId objectId =>
      (fun written => ((), written.2)) <$>
        db.applyVerifiedSettingsManifestAndSetProfileSyncRoot codec objects profile rootId
          objectId now

/-- Statements on the database, with the failures of a request. -/
def storageStatements {α : Type} (statements : EStateM StorageError SlateProfileDatabase α) :
    EStateM ProfileSyncPreviewError SlateProfileDatabase α :=
  EStateM.adaptExcept .storage statements

def runCycleWrites (now : Int) :
    List SettingsCycleWrite → EStateM ProfileSyncPreviewError SlateProfileDatabase Unit
  | [] => pure ()
  | write :: rest => do
      storageStatements (statement fun db => write.write codec now db)
      runCycleWrites now rest

/-- `run_local_settings_sync_fixture_cycle`. -/
def runLocalSettingsSyncFixtureCycle (cycle : PreviewCycle) (now : Int) :
    EStateM ProfileSyncPreviewError SlateProfileDatabase Unit := do
  runCycleWrites codec now cycle.writes
  MonadExcept.ofExcept cycle.outcome

/-- Enroll the local device and the preview provider; the local device's signer is derived. -/
def prepareLocalSettingsSyncFixture (profile : String) (secret : SlateSyncSecret)
    (now : Int) : EStateM ProfileSyncPreviewError SlateProfileDatabase String := do
  let activation ← storageStatements
    (SlateProfileDatabase.activateLocalProfileSyncFromSecret scheme profile secret now)
  let _ ← storageStatements
    (SlateProfileDatabase.activateLocalProfileSyncPreviewProviderFromSecret scheme codec profile
      secret (some previewProviderEndpointRef) now)
  let _ ← MonadExcept.ofExcept ((secret.deriveProfileSyncDeviceSigner scheme profile
    activation.localDeviceId defaultProfileSyncMembershipEpoch).mapError fun error =>
      ProfileSyncPreviewError.secret (.object error))
  pure activation.localDeviceId

variable (profile : String) (cycle : PreviewCycle) (now : Int) (secret : SlateSyncSecret)

def runLocalSettingsSyncCurrentCycle :
    EStateM ProfileSyncPreviewError SlateProfileDatabase String := do
  let localDeviceId ← prepareLocalSettingsSyncFixture scheme codec profile secret now
  runLocalSettingsSyncFixtureCycle codec cycle now
  pure localDeviceId

def runLocalSettingsSyncPreviewCycle :
    EStateM ProfileSyncPreviewError SlateProfileDatabase String := do
  let localDeviceId ← prepareLocalSettingsSyncFixture scheme codec profile secret now
  let _ ← storageStatements (statement (SlateProfileDatabase.setSyncSettingText profile
    syncDomainSettings localSettingsSyncPreviewSettingKey
    ("local-preview-run-" ++ toString now) now))
  runLocalSettingsSyncFixtureCycle codec cycle now
  pure localDeviceId

/-- The records that enroll the second device, one statement each. -/
def applyReceiverRecords (now : Int) :
    List (List Nat) → EStateM ProfileSyncPreviewError SlateProfileDatabase Unit
  | [] => pure ()
  | signedRecord :: rest => do
      let _ ← storageStatements (statement
        (SlateProfileDatabase.applySignedSyncAccountMembershipRecord scheme signedRecord now))
      applyReceiverRecords now rest

/-- The second device has a database of its own. -/
def runLocalSettingsSyncTwoDevicePreviewCycle :
    EStateM ProfileSyncPreviewError SlateProfileDatabase String := do
  let localDeviceId ← prepareLocalSettingsSyncFixture scheme codec profile secret now
  MonadExcept.ofExcept cycle.receiver
  let receiverBundle ← MonadExcept.ofExcept
    ((profileSyncEnrollmentBundleFromSecretWithEpoch scheme profile secret
      localSettingsSyncPreviewReceiverDeviceId defaultProfileSyncMembershipEpoch
      now).mapError ProfileSyncPreviewError.enrollment)
  applyReceiverRecords scheme now receiverBundle.signedMembershipRecords
  let _ ← storageStatements (statement (SlateProfileDatabase.setSyncSettingText profile
    syncDomainSettings localSettingsSyncPreviewRemoteSettingKey
    ("two-device-preview-run-" ++ toString now) now))
  runLocalSettingsSyncFixtureCycle codec cycle now
  pure localDeviceId

end Runs

namespace SlateProtocolHandler

variable (scheme : SyncSecretScheme) (codec : SyncPayloadCodec) (handler : SlateProtocolHandler)
  (cycle : PreviewCycle) (now : Int)

/-- What the three sync runs share. -/
def runProfileSyncPreviewResponse (missing : String)
    (run : SlateSyncSecret → EStateM ProfileSyncPreviewError SlateProfileDatabase String)
    (mark : ProfileSyncPreviewState → String → Int → ProfileSyncPreviewState) :
    ProfileSyncReply × SlateProtocolHandler :=
  handler.withActiveSyncSecret scheme missing fun secret state =>
    match handler.onDatabase (run secret) with
    | (.ok (some localDeviceId), handler) => handler.reply 200 (mark state localDeviceId now)
    | (.ok none, handler) => handler.fail 500 settingsDatabaseIsNotAvailable state
    | (.error error, handler) => handler.fail 500 error state

def runProfileSyncPreviewCurrentSyncResponse :=
  handler.runProfileSyncPreviewResponse scheme now
    "create a local profile or import an enrollment file before syncing current settings"
    (runLocalSettingsSyncCurrentCycle scheme codec defaultProfileId cycle now)
    ProfileSyncPreviewState.markCurrentSyncResult

def runProfileSyncPreviewLocalTrialResponse :=
  handler.runProfileSyncPreviewResponse scheme now
    "create a local profile or import an enrollment file before running a local trial"
    (runLocalSettingsSyncPreviewCycle scheme codec defaultProfileId cycle now)
    ProfileSyncPreviewState.markTrialResult

def runProfileSyncPreviewTwoDeviceLocalTrialResponse :=
  handler.runProfileSyncPreviewResponse scheme now
    "create a local profile or import an enrollment file before running a two-device trial"
    (runLocalSettingsSyncTwoDevicePreviewCycle scheme codec defaultProfileId cycle now)
    ProfileSyncPreviewState.markTwoDeviceTrialResult

end SlateProtocolHandler

/-- A request below `slate://settings/profile-sync`, with the secret that is generated if it
comes to that, and what happens outside the handler. -/
inductive ProfileSyncRequest where
  | state
  | check
  | create (generated : Except SyncSecretError SlateSyncSecret)
  | localProvider
  | keyExport (generated : Except SyncSecretError SlateSyncSecret) (download : Option String)
  | keyDownload (generated : Except SyncSecretError SlateSyncSecret)
      (stored : Except String Unit)
  | keyImport (key : Option String)
  | handoffCreate (targetDevice : Option String)
  | handoffImport (handoff : Option String)
  | runCurrent (cycle : PreviewCycle)
  | runLocal (cycle : PreviewCycle)
  | runLocalTwoDevice (cycle : PreviewCycle)

/-- The requests that create or import a key. -/
def ProfileSyncRequest.loadsKey : ProfileSyncRequest → Bool
  | .create _ | .keyImport _ | .handoffImport _ => true
  | _ => false

namespace SlateProtocolHandler

/-- A request is answered at a time. -/
def answer (scheme : SyncSecretScheme) (codec : SyncPayloadCodec)
    (handler : SlateProtocolHandler) (now : Int) :
    ProfileSyncRequest → ProfileSyncReply × SlateProtocolHandler
  | .state => handler.profileSyncPreviewJsonResponse
  | .check => handler.checkProfileSyncPreviewResponse
  | .create generated => handler.createProfileSyncPreviewSecretResponse scheme generated now
  | .localProvider => handler.activateProfileSyncPreviewProviderResponse scheme codec now
  | .keyExport generated download =>
      handler.exportProfileSyncKeyResponse scheme generated now download
  | .keyDownload generated stored =>
      handler.profileSyncKeyDownloadResponse scheme generated now stored
  | .keyImport key => handler.importProfileSyncKeyResponse scheme now key
  | .handoffCreate targetDevice =>
      handler.createProfileSyncSecretHandoffBundleResponse scheme now targetDevice
  | .handoffImport handoff =>
      handler.importProfileSyncSecretHandoffBundleResponse scheme now handoff
  | .runCurrent cycle => handler.runProfileSyncPreviewCurrentSyncResponse scheme codec cycle now
  | .runLocal cycle => handler.runProfileSyncPreviewLocalTrialResponse scheme codec cycle now
  | .runLocalTwoDevice cycle =>
      handler.runProfileSyncPreviewTwoDeviceLocalTrialResponse scheme codec cycle now

/-- The handler after a request. -/
def afterRequest (scheme : SyncSecretScheme) (codec : SyncPayloadCodec)
    (handler : SlateProtocolHandler) (request : Int × ProfileSyncRequest) :
    SlateProtocolHandler :=
  (handler.answer scheme codec request.1 request.2).2

end SlateProtocolHandler

end Slate.Chrome
