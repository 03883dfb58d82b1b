import Slate.Storage.SecretActivation

/-!
# The profile sync requests of the settings page

The handler of `slate://` requests has the profile database and, in memory, the enrollment
key that is loaded. The requests create, import, export and use the key. A reply says its
status and which texts it carries; what the page shows of the state is left out.
-/

namespace Slate.Chrome

open Foundation Storage
open Storage.SlateProfileDatabase (ProfileSyncLocalSecretActivationRecord
  ProfileSyncSecretHandoffApplication)

/-- What a request failed with. -/
inductive ProfileSyncPreviewError where
  | secret (error : SyncSecretError)
  | storage (error : StorageError)
  | enrollment (error : EnrollmentError)
  | message (text : String)
deriving DecidableEq, Repr

/-- The key that is loaded and what the page was last told. Of a sync run the time it was
completed is kept. -/
structure ProfileSyncPreviewState where
  activeExport : Option SlateSyncSecretExport := none
  metadataReady : Bool := false
  activeKeyId : Option String := none
  localDeviceId : Option String := none
  activeHandoffBundle : Option ProfileSyncSecretHandoffBundle := none
  lastCurrentSync : Option Int := none
  lastTrial : Option Int := none
  lastTwoDeviceTrial : Option Int := none
  lastError : Option ProfileSyncPreviewError := none
deriving DecidableEq, Repr

namespace ProfileSyncPreviewState

variable (scheme : SyncSecretScheme) (state : ProfileSyncPreviewState)

/-- A key was loaded; whatever was known of another one is forgotten. -/
def loaded (secretExport : SlateSyncSecretExport) : ProfileSyncPreviewState where
  activeExport := some secretExport

/-- `create_secret`; the generated secret is the caller's. -/
def createSecret (generated : Except SyncSecretError SlateSyncSecret) (profile : String)
    (createdAt : Int) : Except SyncSecretError (SlateSyncSecret × ProfileSyncPreviewState) := do
  let secret ← generated
  pure (secret, loaded (secret.exportForProfile scheme profile createdAt))

def importSecret (expectedProfile : String) (exportText : List Nat) :
    Except SyncSecretError (SlateSyncSecret × ProfileSyncPreviewState) := do
  let secretExport ← SlateSyncSecretExport.fromBytes scheme exportText
  let secret ← secretExport.toSyncSecretForProfile scheme expectedProfile
  pure (secret, loaded secretExport)

def activeSyncSecret (expectedProfile : String) :
    Except SyncSecretError (Option SlateSyncSecret) :=
  match state.activeExport with
  | none => .ok none
  | some secretExport => some <$> secretExport.toSyncSecretForProfile scheme expectedProfile

def failed (error : ProfileSyncPreviewError) : ProfileSyncPreviewState :=
  { state with lastError := some error }

def markSecretActivationReady (activation : ProfileSyncLocalSecretActivationRecord) :
    ProfileSyncPreviewState :=
  { state with
    metadataReady := true, activeKeyId := some activation.activation.contentKeyEpoch.keyId
    localDeviceId := some activation.localDeviceId, lastError := none }

def markCurrentSyncResult (localDeviceId : String) (completedAt : Int) :
    ProfileSyncPreviewState :=
  { state with
    metadataReady := true, localDeviceId := some localDeviceId
    lastCurrentSync := some completedAt, lastError := none }

def markTrialResult (localDeviceId : String) (completedAt : Int) : ProfileSyncPreviewState :=
  { state with
    metadataReady := true, localDeviceId := some localDeviceId, lastTrial := some completedAt
    lastError := none }

def markTwoDeviceTrialResult (publisherDeviceId : String) (completedAt : Int) :
    ProfileSyncPreviewState :=
  { state with
    metadataReady := true, localDeviceId := some publisherDeviceId
    lastTwoDeviceTrial := some completedAt, lastError := none }

def markSecretHandoffBundle (bundle : ProfileSyncSecretHandoffBundle) :
    ProfileSyncPreviewState :=
  { state with activeHandoffBundle := some bundle, lastError := none }

def markSecretHandoffApplication (bundle : ProfileSyncSecretHandoffBundle)
    (application : ProfileSyncSecretHandoffApplication) : ProfileSyncPreviewState :=
  { state with
    activeExport := some bundle.syncSecretExport
    activeHandoffBundle := some bundle }.markSecretActivationReady application.activation

end ProfileSyncPreviewState

/-- A reply: its status and the texts it carries. -/
structure ProfileSyncReply where
  statusCode : Nat
  keyExport : Option SlateSyncSecretExport := none
  handoffExport : Option ProfileSyncSecretHandoffBundle := none
deriving DecidableEq, Repr

def ProfileSyncReply.isError (reply : ProfileSyncReply) : Bool :=
  400 ≤ reply.statusCode

structure SlateProtocolHandler where
  database : Option SlateProfileDatabase
  profileSyncPreview : ProfileSyncPreviewState

section Texts

def profileSyncDownloadRequested (value : String) : Bool :=
  value == "1" || value == "true" || value == "yes"

/-- A text of a query: none if it is blank, an error if it is too large. -/
def profileSyncTextFromQuery (label : String) (value : Option String) :
    Except String (Option (List Nat)) :=
  match (value.map fun text => String.ofList (Text.trim text.toList)).filter (· ≠ "") with
  | none => .ok none
  | some text =>
      if text.utf8ByteSize > profileSyncSecretHandoffBundleMaxBytes then
        .error ("profile sync enrollment " ++ label ++ " is too large; maximum is " ++
          toString profileSyncSecretHandoffBundleMaxBytes ++ " bytes")
      else .ok (some (text.toUTF8.toList.map UInt8.toNat))

def profileSyncHandoffBundleTextFromUrl := profileSyncTextFromQuery "file"
def profileSyncKeyTextFromUrl := profileSyncTextFromQuery "key"

def profileSyncHandoffTargetDeviceIdFromUrl (value : Option String) : Option String :=
  (value.map fun text => String.ofList (Text.trim text.toList)).filter (· ≠ "")

/-- The endpoint of the preview provider on the network `preview`. -/
def previewProviderEndpointRef : String :=
  "slate-fixture-profile-sync://preview/" ++ defaultProfileSyncPreviewProviderId

def settingsDatabaseIsNotAvailable : ProfileSyncPreviewError :=
  .message "settings database is not available"

end Texts

namespace SlateProtocolHandler

variable (scheme : SyncSecretScheme) (codec : SyncPayloadCodec) (handler : SlateProtocolHandler)

/-- A handler of a database, with no key loaded. -/
def new (database : SlateProfileDatabase) : SlateProtocolHandler where
  database := some database
  profileSyncPreview := {}

def withPreview (state : ProfileSyncPreviewState) : SlateProtocolHandler :=
  { handler with profileSyncPreview := state }

/-- Run statements on the database, if there is one. -/
def onDatabase {ε α : Type} (statements : EStateM ε SlateProfileDatabase α) :
    Except ε (Option α) × SlateProtocolHandler :=
  match handler.database with
  | none => (.ok none, handler)
  | some database =>
      match statements.run database with
      | .ok value next => (.ok (some value), { handler with database := some next })
      | .error failure next => (.error failure, { handler with database := some next })

def reply (statusCode : Nat) (state : ProfileSyncPreviewState) :
    ProfileSyncReply × SlateProtocolHandler :=
  ({ statusCode }, handler.withPreview state)

/-- A reply that reports a failure. -/
def fail (statusCode : Nat) (error : ProfileSyncPreviewError) (state : ProfileSyncPreviewState) :
    ProfileSyncReply × SlateProtocolHandler :=
  handler.reply statusCode (state.failed error)

def refreshProfileSyncPreviewMetadata : ProfileSyncPreviewState :=
  match handler.database with
  | none => handler.profileSyncPreview
  | some database =>
      let state :=
        { handler.profileSyncPreview with localDeviceId := some database.localSyncDeviceId }
      if state.metadataReady then state
      else
        match database.activeSyncContentKeyEpoch defaultProfileId with
        | none => state
        | some contentKeyEpoch =>
            { state with metadataReady := true, activeKeyId := some contentKeyEpoch.keyId }

def activateProfileSyncPreviewFromSecret (secret : SlateSyncSecret) (now : Int) :
    Except StorageError (Option ProfileSyncLocalSecretActivationRecord) × SlateProtocolHandler :=
  handler.onDatabase
    (SlateProfileDatabase.activateLocalProfileSyncFromSecret scheme defaultProfileId secret now)

/-- `profile_sync_key_export`: the loaded key; a device that was never enrolled gets a new
one. -/
def profileSyncKeyExport (generated : Except SyncSecretError SlateSyncSecret) (now : Int) :
    Except (Nat × ProfileSyncPreviewError) SlateSyncSecretExport × SlateProtocolHandler :=
  let state := handler.refreshProfileSyncPreviewMetadata
  match state.activeExport with
  | some secretExport => (.ok secretExport, handler.withPreview { state with lastError := none })
  | none =>
      if state.metadataReady then
        let error := ProfileSyncPreviewError.message
          ("profile enrollment key is not loaded on this device; " ++
            "import it before downloading it again")
        (.error (400, error), handler.withPreview (state.failed error))
      else
        match ProfileSyncPreviewState.createSecret scheme generated defaultProfileId now with
        | .error error =>
            (.error (500, .secret error), handler.withPreview (state.failed (.secret error)))
        | .ok (secret, created) =>
            match handler.activateProfileSyncPreviewFromSecret scheme secret now with
            | (.ok (some activation), handler) =>
                (.ok (secret.exportForProfile scheme defaultProfileId now),
                  handler.withPreview (created.markSecretActivationReady activation))
            | (.ok none, handler) =>
                (.error (500, settingsDatabaseIsNotAvailable),
                  handler.withPreview (created.failed settingsDatabaseIsNotAvailable))
            | (.error error, handler) =>
                (.error (500, .storage error),
                  handler.withPreview (created.failed (.storage error)))

section Requests

variable (generated : Except SyncSecretError SlateSyncSecret) (now : Int)

/-- `profile_sync_preview_json_response`. -/
def profileSyncPreviewJsonResponse : ProfileSyncReply × SlateProtocolHandler :=
  handler.reply 200 handler.refreshProfileSyncPreviewMetadata

def checkProfileSyncPreviewResponse : ProfileSyncReply × SlateProtocolHandler :=
  handler.reply 200 { handler.refreshProfileSyncPreviewMetadata with lastError := none }

def createProfileSyncPreviewSecretResponse : ProfileSyncReply × SlateProtocolHandler :=
  match ProfileSyncPreviewState.createSecret scheme generated defaultProfileId now with
  | .error error => handler.fail 500 (.secret error) handler.profileSyncPreview
  | .ok (secret, created) =>
      match handler.activateProfileSyncPreviewFromSecret scheme secret now with
      | (.ok (some activation), handler) =>
          handler.reply 200 (created.markSecretActivationReady activation)
      | (.ok none, handler) => handler.reply 200 created
      | (.error error, handler) => handler.fail 500 (.storage error) created

/-- `export_profile_sync_key_response`, with or without a download. -/
def exportProfileSyncKeyResponse (download : Option String) :
    ProfileSyncReply × SlateProtocolHandler :=
  match handler.profileSyncKeyExport scheme generated now with
  | (.error (statusCode, _), handler) => handler.reply statusCode handler.profileSyncPreview
  | (.ok secretExport, handler) =>
      let state := { handler.profileSyncPreview with lastError := none }
      if download.any profileSyncDownloadRequested then
        match secretExport.toBytes scheme with
        | .error error => handler.fail 500 (.secret error) state
        | .ok _ => ({ statusCode := 200, keyExport := some secretExport },
            handler.withPreview state)
      else
        ({ statusCode := 200
           keyExport := state.activeExport.filter fun loaded => (loaded.toBytes scheme).isOk },
          handler.withPreview state)

/-- `profile_sync_key_download_response`; the file is stored outside the handler. -/
def profileSyncKeyDownloadResponse (stored : Except String Unit) :
    ProfileSyncReply × SlateProtocolHandler :=
  match handler.profileSyncKeyExport scheme generated now with
  | (.error (statusCode, _), handler) => handler.reply statusCode handler.profileSyncPreview
  | (.ok secretExport, handler) =>
      match secretExport.toBytes scheme with
      | .error error => handler.fail 500 (.secret error) handler.profileSyncPreview
      | .ok _ =>
          match stored with
          | .error error => handler.fail 500 (.message error) handler.profileSyncPreview
          | .ok () =>
              ({ statusCode := 200, keyExport := some secretExport },
                handler.withPreview { handler.profileSyncPreview with lastError := none })

def importProfileSyncKeyResponse (key : Option String) :
    ProfileSyncReply × SlateProtocolHandler :=
  match profileSyncKeyTextFromUrl key with
  | .error error => handler.fail 413 (.message error) handler.profileSyncPreview
  | .ok none =>
      handler.fail 400 (.message "missing profile sync enrollment key contents")
        handler.profileSyncPreview
  | .ok (some keyText) =>
      match ProfileSyncPreviewState.importSecret scheme defaultProfileId keyText with
      | .error error => handler.fail 400 (.secret error) handler.profileSyncPreview
      | .ok (secret, imported) =>
          match handler.activateProfileSyncPreviewFromSecret scheme secret now with
          | (.ok (some activation), handler) =>
              handler.reply 200 (imported.markSecretActivationReady activation)
          | (.ok none, handler) => handler.fail 500 settingsDatabaseIsNotAvailable imported
          | (.error error, handler) => handler.fail 500 (.storage error) imported

/-- What the requests that use the loaded key do first. -/
def withActiveSyncSecret (missing : String)
    (next : SlateSyncSecret → ProfileSyncPreviewState → ProfileSyncReply × SlateProtocolHandler) :
    ProfileSyncReply × SlateProtocolHandler :=
  let state := handler.refreshProfileSyncPreviewMetadata
  match state.activeSyncSecret scheme defaultProfileId with
  | .ok (some secret) => next secret state
  | .ok none => handler.fail 400 (.message missing) state
  | .error error => handler.fail 400 (.secret error) state

def createProfileSyncSecretHandoffBundleResponse (targetDevice : Option String) :
    ProfileSyncReply × SlateProtocolHandler :=
  match profileSyncHandoffTargetDeviceIdFromUrl targetDevice with
  | none =>
      handler.fail 400
        (.message "enter a target device id before downloading an enrollment file")
        handler.refreshProfileSyncPreviewMetadata
  | some targetDeviceId =>
      handler.withActiveSyncSecret scheme
        "create a local profile before downloading an enrollment file" fun secret state =>
        match profileSyncSecretHandoffBundleFromSecret scheme defaultProfileId secret
            targetDeviceId now with
        | .error error => handler.fail 400 (.enrollment error) state
        | .ok bundle =>
            let state := state.markSecretHandoffBundle bundle
            ({ statusCode := 200
               handoffExport := state.activeHandoffBundle.filter fun active =>
                 (active.toBytes scheme).isOk },
              handler.withPreview state)

def importProfileSyncSecretHandoffBundleResponse (handoff : Option String) :
    ProfileSyncReply × SlateProtocolHandler :=
  match profileSyncHandoffBundleTextFromUrl handoff with
  | .error error => handler.fail 413 (.message error) handler.profileSyncPreview
  | .ok none =>
      handler.fail 400 (.message "missing profile sync enrollment file contents")
        handler.profileSyncPreview
  | .ok (some bundleText) =>
      match ProfileSyncSecretHandoffBundle.fromBytes scheme bundleText with
      | .error error => handler.fail 400 (.enrollment error) handler.profileSyncPreview
      | .ok bundle =>
          match handler.onDatabase
              (SlateProfileDatabase.applyProfileSyncSecretHandoffBundle scheme bundle now) with
          | (.ok (some application), handler) =>
              handler.reply 200
                (handler.profileSyncPreview.markSecretHandoffApplication bundle application)
          | (.ok none, handler) =>
              handler.fail 400
                (.enrollment (.invalidProfileSyncSecretHandoffBundle
                  "settings database is not available")) handler.profileSyncPreview
          | (.error error, handler) =>
              handler.fail 400 (.enrollment error) handler.profileSyncPreview

def activateProfileSyncPreviewProviderResponse : ProfileSyncReply × SlateProtocolHandler :=
  handler.withActiveSyncSecret scheme
    "create a local profile or import an enrollment file before adding a provider"
    fun secret state =>
    match handler.onDatabase
        (SlateProfileDatabase.activateLocalProfileSyncPreviewProviderFromSecret scheme codec
          defaultProfileId secret (some previewProviderEndpointRef) now) with
    | (.ok _, handler) => handler.reply 200 { state with lastError := none }
    | (.error error, handler) => handler.fail 500 (.storage error) state

end Requests

end SlateProtocolHandler

end Slate.Chrome
