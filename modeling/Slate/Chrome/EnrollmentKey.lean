import Slate.Chrome.LoadedKey
import Slate.Storage.SecretHandoff

/-!
# The enrollment key that is exported

The handler keeps the key that was loaded last. It is loaded before the database has accepted
it, so a key that is refused stays loaded, and takes the place of the profile's key.
-/

namespace Slate.Chrome

open Foundation Storage
open Storage.SlateProfileDatabase

namespace SlateProtocolHandler

variable {scheme : SyncSecretScheme} {codec : SyncPayloadCodec} {handler : SlateProtocolHandler}
  {db : SlateProfileDatabase} {now : Int} {secret : SlateSyncSecret}

section Activation

/-- The handler after it activated its database. -/
def activated (scheme : SyncSecretScheme) (handler : SlateProtocolHandler)
    (db : SlateProfileDatabase) (secret : SlateSyncSecret) (now : Int) : SlateProtocolHandler :=
  { handler with
    database := some (stateAfter
      (activateLocalProfileSyncFromSecret scheme defaultProfileId secret now) db) }

/-- A secret that is refused may still have changed the database. -/
theorem activateProfileSyncPreview_cases (lawful : scheme.Lawful)
    (stored : handler.database = some db) (tables : EnrollmentTables scheme.objects db) :
    (db.AcceptsSecret scheme defaultProfileId secret ∧ ∃ activation,
      handler.activateProfileSyncPreviewFromSecret scheme secret now =
        (.ok (some activation), handler.activated scheme db secret now)) ∨
    ¬db.AcceptsSecret scheme defaultProfileId secret ∧ ∃ error,
      handler.activateProfileSyncPreviewFromSecret scheme secret now =
        (.error error, handler.activated scheme db secret now) := by
  have accepts := @activation_succeeds_iff scheme defaultProfileId secret db now lawful tables
  unfold activated
  cases ran : (activateLocalProfileSyncFromSecret scheme defaultProfileId secret now).run db with
  | ok activation next =>
      refine .inl ⟨accepts.mp ⟨activation, next, ran⟩, activation, ?_⟩
      rw [stateAfter_of_ok ran]
      exact onDatabase_of_ok stored ran
  | error failure next =>
      refine .inr ⟨fun accepted => ?_, failure, ?_⟩
      · obtain ⟨activation, other, succeeded⟩ := accepts.mpr accepted
        rw [ran] at succeeded
        cases succeeded
      · rw [stateAfter_of_error ran]
        exact onDatabase_of_error stored ran

/-- The database trusts the secret's authority after an activation that it had a reason to
accept. -/
theorem trusts_activated (lawful : scheme.Lawful) {profile : String}
    (tables : EnrollmentTables scheme.objects db)
    (trusted : db.AcceptsAccountAuthority scheme profile secret ∨
      db.accountAuthorityKey profile = some (secret.accountAuthorityKey scheme profile))
    {loaded : SlateSyncSecretExport} (ofProfile : loaded.profile = profile)
    (derived : loaded.accountAuthorityKey scheme =
      some (secret.accountAuthorityKey scheme profile)) :
    (stateAfter (activateLocalProfileSyncFromSecret scheme profile secret now)
      db).TrustsLoadedKey scheme (some loaded) := by
  refine ⟨(keptByEnrollments_tables lawful).activation profile secret now db tables, ?_⟩
  rintro _ ⟨⟩
  rw [derived, ofProfile]
  exact ⟨_, rfl, (trusts_after_activation_iff lawful tables).mpr trusted⟩

end Activation

section Load

/-- A key may be loaded where the database accepts it, or where it is loaded already. -/
def MayLoad (scheme : SyncSecretScheme) (handler : SlateProtocolHandler)
    (secret : SlateSyncSecret) (loaded : SlateSyncSecretExport) : Prop :=
  (∃ db, handler.database = some db ∧ db.AcceptsSecret scheme defaultProfileId secret) ∨
    handler.profileSyncPreview.activeExport = some loaded

/-- An answer that keeps the handler sound, and an error that keeps the loaded key. -/
structure AnsweredSoundly (scheme : SyncSecretScheme) (handler : SlateProtocolHandler)
    (answered : ProfileSyncReply × SlateProtocolHandler) : Prop where
  sound : answered.2.Sound scheme
  kept : answered.1.isError →
    answered.2.profileSyncPreview.activeExport = handler.profileSyncPreview.activeExport

theorem answeredSoundly_fail (sound : handler.Sound scheme) (statusCode : Nat)
    (error : ProfileSyncPreviewError) :
    AnsweredSoundly scheme handler
      (handler.fail statusCode error handler.profileSyncPreview) :=
  ⟨sound_withPreview sound rfl, fun _ => rfl⟩

variable {loaded : SlateSyncSecretExport} {created : ProfileSyncPreviewState}

theorem answeredSoundly_load (lawful : scheme.Lawful) (sound : handler.Sound scheme)
    (isLoaded : created.activeExport = some loaded) (ofProfile : loaded.profile = defaultProfileId)
    (derived : loaded.accountAuthorityKey scheme =
      some (secret.accountAuthorityKey scheme defaultProfileId))
    (may : handler.MayLoad scheme secret loaded)
    {unavailable : SlateProtocolHandler → ProfileSyncReply × SlateProtocolHandler} :
    AnsweredSoundly scheme handler
      (match handler.activateProfileSyncPreviewFromSecret scheme secret now with
        | (.ok (some activation), handler) =>
            handler.reply 200 (created.markSecretActivationReady activation)
        | (.ok none, handler) => unavailable handler
        | (.error error, handler) => handler.fail 500 (.storage error) created) := by
  obtain ⟨db, stored, trusts⟩ := sound
  rcases @activateProfileSyncPreview_cases scheme handler db now secret lawful stored
      trusts.tables with ⟨accepts, activation, answered⟩ | ⟨refuses, error, answered⟩
  · rw [answered]
    refine ⟨⟨_, rfl, ?_⟩, fun failed => by cases failed⟩
    rw [show ((handler.activated scheme db secret now).reply 200
      (created.markSecretActivationReady activation)).2.profileSyncPreview.activeExport =
        some loaded from isLoaded]
    exact trusts_activated lawful trusts.tables (.inl accepts.authority) ofProfile derived
  · rw [answered]
    have same : handler.profileSyncPreview.activeExport = some loaded := by
      rcases may with ⟨other, otherStored, accepts⟩ | same
      · obtain rfl := Option.some.inj (stored.symm.trans otherStored)
        exact absurd accepts refuses
      · exact same
    refine ⟨⟨_, rfl, ?_⟩, fun _ => isLoaded.trans same.symm⟩
    have after := (keptByEnrollments_trustsLoadedKey lawful _).activation defaultProfileId secret
      now db trusts
    rw [show ((handler.activated scheme db secret now).fail 500 (.storage error)
      created).2.profileSyncPreview.activeExport = handler.profileSyncPreview.activeExport from
        isLoaded.trans same.symm]
    exact after

theorem answeredSoundly_create (lawful : scheme.Lawful) (sound : handler.Sound scheme)
    {generated : Except SyncSecretError SlateSyncSecret}
    (may : ∀ secret, generated = .ok secret →
      handler.MayLoad scheme secret (secret.exportForProfile scheme defaultProfileId now)) :
    AnsweredSoundly scheme handler
      (handler.createProfileSyncPreviewSecretResponse scheme generated now) := by
  cases generated with
  | error error => exact answeredSoundly_fail sound 500 (.secret error)
  | ok secret =>
      exact answeredSoundly_load lawful sound rfl rfl
        (accountAuthorityKey_exportForProfile lawful now) (may secret rfl)

theorem answeredSoundly_import (lawful : scheme.Lawful) (sound : handler.Sound scheme)
    {key : Option String}
    (may : ∀ keyText loaded secret, profileSyncKeyTextFromUrl key = .ok (some keyText) →
      SlateSyncSecretExport.fromBytes scheme keyText = .ok loaded →
      loaded.toSyncSecretForProfile scheme defaultProfileId = .ok secret →
      handler.MayLoad scheme secret loaded) :
    AnsweredSoundly scheme handler (handler.importProfileSyncKeyResponse scheme now key) := by
  unfold importProfileSyncKeyResponse
  split
  · exact answeredSoundly_fail sound _ _
  · exact answeredSoundly_fail sound _ _
  · next keyText isText =>
      split
      · exact answeredSoundly_fail sound _ _
      · next secret imported isImported =>
          obtain ⟨loaded, isLoaded, isImported⟩ := bind_eq_ok_iff.mp isImported
          obtain ⟨read, isRead, isImported⟩ := bind_eq_ok_iff.mp isImported
          obtain ⟨rfl, rfl⟩ := ok_pair_inj isImported
          obtain ⟨ofProfile, derived⟩ := accountAuthorityKey_of_read isRead
          exact answeredSoundly_load lawful sound rfl ofProfile derived
            (may keyText loaded read isText isLoaded isRead)

end Load

section Export

/-- A key that is exported is loaded and trusted. -/
theorem sound_of_exported (lawful : scheme.Lawful) (sound : handler.Sound scheme)
    {generated : Except SyncSecretError SlateSyncSecret} {secretExport : SlateSyncSecretExport}
    {next : SlateProtocolHandler}
    (exported : handler.profileSyncKeyExport scheme generated now = (.ok secretExport, next)) :
    next.Sound scheme ∧ next.profileSyncPreview.activeExport = some secretExport := by
  unfold profileSyncKeyExport at exported
  simp only at exported
  split at exported
  next loaded isLoaded =>
    obtain ⟨same, rfl⟩ := Prod.mk.inj exported
    obtain rfl := Except.ok.inj same
    exact ⟨sound_withPreview sound activeExport_refresh, isLoaded⟩
  next notLoaded =>
    split at exported
    · cases exported
    · split at exported
      · cases exported
      · next secret created isCreated =>
          obtain ⟨generatedSecret, rfl, isCreated⟩ := bind_eq_ok_iff.mp isCreated
          obtain ⟨rfl, rfl⟩ := ok_pair_inj isCreated
          obtain ⟨db, stored, trusts⟩ := sound
          rcases @activateProfileSyncPreview_cases scheme handler db now generatedSecret lawful
              stored trusts.tables with
            ⟨accepts, activation, answered⟩ | ⟨-, error, answered⟩
          · rw [answered] at exported
            obtain ⟨same, rfl⟩ := Prod.mk.inj exported
            obtain rfl := Except.ok.inj same
            exact ⟨⟨_, rfl, trusts_activated lawful trusts.tables (.inl accepts.authority) rfl
              (accountAuthorityKey_exportForProfile lawful now)⟩, rfl⟩
          · rw [answered] at exported
            cases exported

/-- A device that was never enrolled may be given a new key: the profile accepts its account
authority, or trusts it already. -/
def MayExport (scheme : SyncSecretScheme) (handler : SlateProtocolHandler)
    (generated : Except SyncSecretError SlateSyncSecret) : Prop :=
  handler.profileSyncPreview.activeExport = none →
    handler.refreshProfileSyncPreviewMetadata.metadataReady = false →
    ∀ secret db, generated = .ok secret → handler.database = some db →
      db.AcceptsAccountAuthority scheme defaultProfileId secret ∨
        db.accountAuthorityKey defaultProfileId =
          some (secret.accountAuthorityKey scheme defaultProfileId)

theorem sound_profileSyncKeyExport (lawful : scheme.Lawful) (sound : handler.Sound scheme)
    {generated : Except SyncSecretError SlateSyncSecret}
    (may : handler.MayExport scheme generated) :
    (handler.profileSyncKeyExport scheme generated now).2.Sound scheme := by
  unfold profileSyncKeyExport
  simp only
  split
  next loaded isLoaded => exact sound_withPreview sound activeExport_refresh
  next notLoaded =>
    split
    · exact sound_withPreview sound activeExport_refresh
    · next notReady =>
      split
      · exact sound_withPreview sound activeExport_refresh
      · next secret created isCreated =>
          obtain ⟨generatedSecret, rfl, isCreated⟩ := bind_eq_ok_iff.mp isCreated
          obtain ⟨rfl, rfl⟩ := ok_pair_inj isCreated
          obtain ⟨db, stored, trusts⟩ := sound
          have trusted := may (activeExport_refresh.symm.trans notLoaded)
            (eq_false_of_ne_true notReady) generatedSecret db rfl stored
          have after := @trusts_activated scheme db now generatedSecret lawful defaultProfileId
            trusts.tables trusted _ rfl (accountAuthorityKey_exportForProfile lawful now)
          rcases @activateProfileSyncPreview_cases scheme handler db now generatedSecret lawful
              stored trusts.tables with
            ⟨-, activation, answered⟩ | ⟨-, error, answered⟩
          · rw [answered]
            exact ⟨_, rfl, after⟩
          · rw [answered]
            exact ⟨_, rfl, after⟩

theorem sound_exportResponse (lawful : scheme.Lawful) (sound : handler.Sound scheme)
    {generated : Except SyncSecretError SlateSyncSecret} (may : handler.MayExport scheme generated)
    (download : Option String) :
    (handler.exportProfileSyncKeyResponse scheme generated now download).2.Sound scheme := by
  have after := @sound_profileSyncKeyExport scheme handler now lawful sound generated may
  unfold exportProfileSyncKeyResponse
  rcases exported : handler.profileSyncKeyExport scheme generated now with
    ⟨⟨statusCode, error⟩ | secretExport, next⟩
  · rw [exported] at after
    exact sound_withPreview after rfl
  · rw [exported] at after
    simp only
    split
    · split <;> exact sound_withPreview after rfl
    · exact sound_withPreview after rfl

theorem sound_downloadResponse (lawful : scheme.Lawful) (sound : handler.Sound scheme)
    {generated : Except SyncSecretError SlateSyncSecret} (may : handler.MayExport scheme generated)
    (filed : Except String Unit) :
    (handler.profileSyncKeyDownloadResponse scheme generated now filed).2.Sound scheme := by
  have after := @sound_profileSyncKeyExport scheme handler now lawful sound generated may
  unfold profileSyncKeyDownloadResponse
  rcases exported : handler.profileSyncKeyExport scheme generated now with
    ⟨⟨statusCode, error⟩ | secretExport, next⟩
  · rw [exported] at after
    exact sound_withPreview after rfl
  · rw [exported] at after
    simp only
    split
    · exact sound_withPreview after rfl
    · split <;> exact sound_withPreview after rfl

end Export

section Handoff

variable {bundle : ProfileSyncSecretHandoffBundle}

/-- None of the records that the handoff gets applied displaces the account authority of the
loaded key. -/
def MayHandOff (scheme : SyncSecretScheme) (handler : SlateProtocolHandler)
    (bundle : ProfileSyncSecretHandoffBundle) (now : Int) : Prop :=
  ∀ db loaded key, handler.database = some db →
    handler.profileSyncPreview.activeExport = some loaded →
    loaded.accountAuthorityKey scheme = some key →
    db.KeepsAuthority scheme.objects loaded.profile key
      bundle.enrollmentBundle.signedMembershipRecords now

/-- A handoff that succeeds loads a key that is trusted; one that fails has displaced nothing. -/
theorem answeredSoundly_handoff (lawful : scheme.Lawful) (sound : handler.Sound scheme)
    {handoff : Option String}
    (may : ∀ bundleText bundle, profileSyncHandoffBundleTextFromUrl handoff =
        .ok (some bundleText) →
      ProfileSyncSecretHandoffBundle.fromBytes scheme bundleText = .ok bundle →
      handler.MayHandOff scheme bundle now) :
    AnsweredSoundly scheme handler
      (handler.importProfileSyncSecretHandoffBundleResponse scheme now handoff) := by
  unfold importProfileSyncSecretHandoffBundleResponse
  split
  · exact answeredSoundly_fail sound _ _
  · exact answeredSoundly_fail sound _ _
  next bundleText isText =>
  split
  · exact answeredSoundly_fail sound _ _
  next bundle isBundle =>
  obtain ⟨db, stored, trusts⟩ := sound
  rcases @applyHandoffBundle_cases scheme db now bundle with
    ⟨failure, refused⟩ | ⟨secret, applications, middle, admits⟩
  · rw [onDatabase_of_error stored refused]
    exact ⟨⟨db, rfl, trusts⟩, fun _ => rfl⟩
  have middleTables : EnrollmentTables scheme.objects middle := trusts.tables.batch admits.applied
  have outcome := applyHandoff_of_admitted admits
  cases ran : (activateLocalProfileSyncFromSecret scheme bundle.profile secret now).run middle with
  | ok activation next =>
    rw [ran] at outcome
    rw [onDatabase_of_ok stored outcome]
    refine ⟨⟨next, rfl, ?_⟩, fun isError => by cases isError⟩
    obtain ⟨ofProfile, derived⟩ := accountAuthorityKey_of_read (mapError_eq_ok_iff.mp admits.secret)
    have accepts := (activation_succeeds_iff lawful middleTables).mp ⟨activation, next, ran⟩
    rw [← stateAfter_of_ok ran]
    exact trusts_activated lawful middleTables (.inl accepts.authority) ofProfile derived
  | error failure next =>
    rw [ran] at outcome
    rw [onDatabase_of_error stored outcome]
    refine ⟨⟨next, rfl, ?_⟩, fun _ => rfl⟩
    have trustsMiddle : middle.TrustsLoadedKey scheme handler.profileSyncPreview.activeExport := by
      refine ⟨middleTables, fun loaded isLoaded => ?_⟩
      obtain ⟨key, derived, trusted⟩ := trusts.trusted loaded isLoaded
      have keeps := may bundleText bundle isText isBundle db loaded key stored isLoaded derived
      exact ⟨key, derived,
        (TrustsAuthority.batch ⟨trusts.tables, trusted⟩ keeps admits.applied).trusted⟩
    rw [← stateAfter_of_error ran]
    exact (keptByEnrollments_trustsLoadedKey lawful _).activation bundle.profile secret now middle
      trustsMiddle

end Handoff

section Uses

/-- The sync runs and the handoff use the loaded key and leave it loaded. -/
theorem sound_runResponse (sound : handler.Sound scheme) {missing : String}
    {run : SlateSyncSecret → EStateM ProfileSyncPreviewError SlateProfileDatabase String}
    {mark : ProfileSyncPreviewState → String → Int → ProfileSyncPreviewState}
    (keeps : ∀ secret,
      Keeps (TrustsLoadedKey scheme handler.profileSyncPreview.activeExport) (run secret))
    (marks : ∀ state localDeviceId completedAt,
      (mark state localDeviceId completedAt).activeExport = state.activeExport) :
    (handler.runProfileSyncPreviewResponse scheme now missing run mark).2.Sound scheme := by
  apply sound_withActiveSyncSecret sound
  intro secret state same
  obtain ⟨db, stored, trusts⟩ := sound
  have after := sound_of_keeps (keeps secret) stored trusts
  rcases ran : handler.onDatabase (run secret) with ⟨failure | _ | localDeviceId, next⟩
  · rw [ran] at after
    exact after (state.failed failure) same
  · rw [ran] at after
    exact after (state.failed settingsDatabaseIsNotAvailable) same
  · rw [ran] at after
    exact after (mark state localDeviceId now) ((marks _ _ _).trans same)

theorem sound_localProvider (lawful : scheme.Lawful) (sound : handler.Sound scheme) :
    (handler.activateProfileSyncPreviewProviderResponse scheme codec now).2.Sound scheme := by
  apply sound_withActiveSyncSecret sound
  intro secret state same
  obtain ⟨db, stored, trusts⟩ := sound
  have after := sound_of_keeps ((keptByEnrollments_trustsLoadedKey lawful _).previewProvider codec
    defaultProfileId secret (some previewProviderEndpointRef) now) stored trusts
  rcases ran : handler.onDatabase (activateLocalProfileSyncPreviewProviderFromSecret scheme codec
    defaultProfileId secret (some previewProviderEndpointRef) now) with ⟨failure | applied, next⟩
  · rw [ran] at after
    exact after (state.failed (.storage failure)) same
  · rw [ran] at after
    exact after { state with lastError := none } same

theorem sound_handoffCreate (sound : handler.Sound scheme) (targetDevice : Option String) :
    (handler.createProfileSyncSecretHandoffBundleResponse scheme now targetDevice).2.Sound
      scheme := by
  unfold createProfileSyncSecretHandoffBundleResponse
  split
  · exact sound_withPreview sound activeExport_refresh
  · apply sound_withActiveSyncSecret sound
    intro secret state same
    split
    · exact sound_withPreview sound same
    · exact sound_withPreview sound same

end Uses

section Requests

/-- What a request may be answered with, for the exported key to stay the profile's. -/
def MayAnswer (scheme : SyncSecretScheme) (handler : SlateProtocolHandler)
    (request : Int × ProfileSyncRequest) : Prop :=
  match request.2 with
  | .create generated => ∀ secret, generated = .ok secret →
      handler.MayLoad scheme secret (secret.exportForProfile scheme defaultProfileId request.1)
  | .keyImport key => ∀ keyText loaded secret,
      profileSyncKeyTextFromUrl key = .ok (some keyText) →
      SlateSyncSecretExport.fromBytes scheme keyText = .ok loaded →
      loaded.toSyncSecretForProfile scheme defaultProfileId = .ok secret →
      handler.MayLoad scheme secret loaded
  | .keyExport generated _ => handler.MayExport scheme generated
  | .keyDownload generated _ => handler.MayExport scheme generated
  | .handoffImport handoff => ∀ bundleText bundle,
      profileSyncHandoffBundleTextFromUrl handoff = .ok (some bundleText) →
      ProfileSyncSecretHandoffBundle.fromBytes scheme bundleText = .ok bundle →
      handler.MayHandOff scheme bundle request.1
  | _ => True

/-- A request to create or import a key that is answered with an error leaves the loaded key
in place. -/
def KeepsLoadedKey (scheme : SyncSecretScheme) (codec : SyncPayloadCodec)
    (handler : SlateProtocolHandler) (request : Int × ProfileSyncRequest) : Prop :=
  request.2.loadsKey → (handler.answer scheme codec request.1 request.2).1.isError →
    (handler.afterRequest scheme codec request).profileSyncPreview.activeExport =
      handler.profileSyncPreview.activeExport

/-- The step of a run. -/
theorem sound_afterRequest (lawful : scheme.Lawful) (sound : handler.Sound scheme)
    {request : Int × ProfileSyncRequest} (may : handler.MayAnswer scheme request) :
    (handler.afterRequest scheme codec request).Sound scheme ∧
      handler.KeepsLoadedKey scheme codec request := by
  have kept := keptByEnrollments_trustsLoadedKey lawful handler.profileSyncPreview.activeExport
  obtain ⟨now, request⟩ := request
  cases request with
  | state =>
      refine ⟨sound_withPreview sound activeExport_refresh, fun loads => by cases loads⟩
  | check =>
      refine ⟨sound_withPreview sound activeExport_refresh, fun loads => by cases loads⟩
  | create generated =>
      have answered := @answeredSoundly_create scheme handler now lawful sound generated may
      exact ⟨answered.sound, fun _ => answered.kept⟩
  | localProvider =>
      exact ⟨sound_localProvider lawful sound, fun loads => by cases loads⟩
  | keyExport generated download =>
      exact ⟨sound_exportResponse lawful sound may download, fun loads => by cases loads⟩
  | keyDownload generated filed =>
      exact ⟨sound_downloadResponse lawful sound may filed, fun loads => by cases loads⟩
  | keyImport key =>
      have answered := @answeredSoundly_import scheme handler now lawful sound key may
      exact ⟨answered.sound, fun _ => answered.kept⟩
  | handoffCreate targetDevice =>
      exact ⟨sound_handoffCreate sound targetDevice, fun loads => by cases loads⟩
  | handoffImport handoff =>
      have answered := @answeredSoundly_handoff scheme handler now lawful sound handoff may
      exact ⟨answered.sound, fun _ => answered.kept⟩
  | runCurrent cycle =>
      exact ⟨sound_runResponse sound (fun _ => keeps_currentCycle kept) fun _ _ _ => rfl,
        fun loads => by cases loads⟩
  | runLocal cycle =>
      exact ⟨sound_runResponse sound (fun _ => keeps_previewCycle kept) fun _ _ _ => rfl,
        fun loads => by cases loads⟩
  | runLocalTwoDevice cycle =>
      exact ⟨sound_runResponse sound (fun _ => keeps_twoDeviceCycle kept) fun _ _ _ => rfl,
        fun loads => by cases loads⟩

/-- Whatever key the handler exports is the profile's: its account authority is trusted. -/
def ExportsProfileKey (scheme : SyncSecretScheme) (handler : SlateProtocolHandler) : Prop :=
  ∀ generated now secretExport next,
    handler.profileSyncKeyExport scheme generated now = (.ok secretExport, next) →
    ∃ db key, next.database = some db ∧ secretExport.accountAuthorityKey scheme = some key ∧
      db.accountAuthorityKey secretExport.profile = some key

theorem exportsProfileKey_of_sound (lawful : scheme.Lawful) (sound : handler.Sound scheme) :
    handler.ExportsProfileKey scheme := by
  intro generated now secretExport next exported
  obtain ⟨⟨db, stored, trusts⟩, isLoaded⟩ := sound_of_exported lawful sound exported
  obtain ⟨key, derived, trusted⟩ := trusts.trusted secretExport isLoaded
  exact ⟨db, key, stored, derived, trusted⟩

/-- Throughout a run of requests the exported key is the profile's, and no request that fails
replaces the loaded key. -/
structure KeyKept (scheme : SyncSecretScheme) (codec : SyncPayloadCodec)
    (requests : List (Int × ProfileSyncRequest)) (handler : SlateProtocolHandler) : Prop where
  exported : Throughout (afterRequest scheme codec) (ExportsProfileKey scheme) requests handler
  loaded : AllTaken (afterRequest scheme codec) (KeepsLoadedKey scheme codec) requests handler

/-- The exported key is the profile's in every run that loads a key only where the database
accepts it, and applies no handoff that displaces the loaded key's authority. -/
theorem exported_key_is_profile_key (lawful : scheme.Lawful) {start : SlateProfileDatabase}
    (empty : start.syncAccountMembershipRecords = [])
    (device : isValidSyncIdentifier start.localSyncDeviceId)
    (life : MembershipLife scheme.objects KeepsKeyed start db)
    (requests : List (Int × ProfileSyncRequest))
    (may : AllTaken (afterRequest scheme codec) (MayAnswer scheme) requests
      (SlateProtocolHandler.new db)) :
    KeyKept scheme codec requests (SlateProtocolHandler.new db) := by
  have sound : Throughout (afterRequest scheme codec) (Sound scheme) requests
      (SlateProtocolHandler.new db) := by
    refine throughout_of_allTaken ?_ ?_ may
    · intro handler request sound may
      exact (sound_afterRequest lawful sound may).1
    · exact ⟨db, rfl, life.enrollmentTables empty device, fun _ loaded => by cases loaded⟩
  constructor
  · intro done isPrefix
    exact exportsProfileKey_of_sound lawful (sound done isPrefix)
  · intro done request isPrefix
    have before := sound done ((List.prefix_append done [request]).trans isPrefix)
    exact (sound_afterRequest lawful before (may done request isPrefix)).2

/-- A new key is loaded whether or not the database accepts it. -/
theorem afterRequest_create (lawful : scheme.Lawful) (stored : handler.database = some db)
    (tables : EnrollmentTables scheme.objects db) :
    ∃ state, handler.afterRequest scheme codec (now, .create (.ok secret)) =
        (handler.activated scheme db secret now).withPreview state ∧
      state.activeExport = some (secret.exportForProfile scheme defaultProfileId now) := by
  have created : (handler.answer scheme codec now (.create (.ok secret))).2 =
      (match handler.activateProfileSyncPreviewFromSecret scheme secret now with
        | (.ok (some activation), handler) =>
            handler.reply 200 ((ProfileSyncPreviewState.loaded
              (secret.exportForProfile scheme defaultProfileId now)).markSecretActivationReady
                activation)
        | (.ok none, handler) => handler.reply 200 (.loaded
            (secret.exportForProfile scheme defaultProfileId now))
        | (.error error, handler) => handler.fail 500 (.storage error) (.loaded
            (secret.exportForProfile scheme defaultProfileId now))).2 := rfl
  unfold afterRequest
  rw [created]
  rcases @activateProfileSyncPreview_cases scheme handler db now secret lawful stored tables with
    ⟨-, activation, answered⟩ | ⟨-, error, answered⟩
  · rw [answered]
    exact ⟨_, rfl, rfl⟩
  · rw [answered]
    exact ⟨_, rfl, rfl⟩

theorem profileSyncKeyExport_loaded {loaded : SlateSyncSecretExport}
    (isLoaded : handler.profileSyncPreview.activeExport = some loaded)
    (generated : Except SyncSecretError SlateSyncSecret) :
    ∃ state, handler.profileSyncKeyExport scheme generated now =
      (.ok loaded, handler.withPreview state) := by
  unfold profileSyncKeyExport
  simp only
  split
  next secretExport isActive =>
    obtain rfl := Option.some.inj (isActive.symm.trans (activeExport_refresh.trans isLoaded))
    exact ⟨_, rfl⟩
  next notLoaded =>
    cases notLoaded.symm.trans (activeExport_refresh.trans isLoaded)

/-- A second profile's key is exported although the database keeps trusting the first. -/
theorem not_exportsProfileKey_of_other_key (lawful : scheme.Lawful)
    (stored : handler.database = some db) (tables : EnrollmentTables scheme.objects db)
    {key : ProfileSyncDevicePublicKey}
    (trusted : db.accountAuthorityKey defaultProfileId = some key)
    (other : secret.accountAuthorityKey scheme defaultProfileId ≠ key) :
    ¬(handler.afterRequest scheme codec (now, .create (.ok secret))).ExportsProfileKey scheme := by
  intro exports
  have after : TrustsAuthority scheme.objects defaultProfileId key
      (stateAfter (activateLocalProfileSyncFromSecret scheme defaultProfileId secret now) db) :=
    (keptByEnrollments_trustsAuthority lawful key).activation defaultProfileId secret now db
      ⟨tables, trusted⟩
  obtain ⟨state, created, isLoaded⟩ :=
    @afterRequest_create scheme codec handler db now secret lawful stored tables
  rw [created] at exports
  have loaded : ((handler.activated scheme db secret now).withPreview
      state).profileSyncPreview.activeExport = _ := isLoaded
  obtain ⟨shown, exported⟩ := @profileSyncKeyExport_loaded scheme _ now _ loaded (.ok secret)
  obtain ⟨database, exportedKey, isDatabase, derived, trustedKey⟩ :=
    exports (.ok secret) now _ _ exported
  obtain rfl := Option.some.inj isDatabase
  rw [accountAuthorityKey_exportForProfile lawful] at derived
  obtain rfl := Option.some.inj derived
  exact other (Option.some.inj (trustedKey.symm.trans after.trusted))

end Requests

section Samples

/-- A database without membership accepts every secret. -/
theorem acceptsSecret_of_empty (noRecords : db.syncAccountMembershipRecords = [])
    (noKeys : db.syncDevicePublicKeys = []) (profile : String) :
    db.AcceptsSecret scheme profile secret := by
  have unkeyed (deviceId : String) : (db.roster profile deviceId).key = none := by
    simp [roster, standing, noKeys, Rows.lookup]
  have unstored (recordId : String) : db.storedRecord profile recordId = none := by
    simp [storedRecord, noRecords, Rows.lookup]
  refine ⟨.unenrolled unkeyed ?_, fun _ signer _ => .inr ⟨?_, ?_, ?_⟩⟩
  · intro row stored
    cases (unstored _).symm.trans stored
  · intro row stored
    cases (unstored _).symm.trans stored
  · rintro epoch ⟨recordId, row, stored, -⟩
    cases (unstored _).symm.trans stored
  · rintro ⟨key, known, -⟩
    cases (unkeyed _).symm.trans known

def blueSecret : SlateSyncSecret := ⟨List.replicate 32 7, rfl⟩
def redSecret : SlateSyncSecret := ⟨List.replicate 32 8, rfl⟩

def laptopDatabase : SlateProfileDatabase := { localSyncDeviceId := "laptop" }

/-- Creating a second profile key is refused, and replaces the key of the profile. -/
theorem exported_key_not_profile_key :
    ¬ ∀ (scheme : SyncSecretScheme) (codec : SyncPayloadCodec) (db : SlateProfileDatabase),
      scheme.Lawful → MembershipLife scheme.objects KeepsKeyed laptopDatabase db →
      ∀ requests, KeyKept scheme codec requests (SlateProtocolHandler.new db) := by
  intro always
  have kept := always plainSecretScheme plainTextCodec laptopDatabase plainSecretScheme_lawful
    .start [(0, .create (.ok blueSecret)), (1, .create (.ok redSecret))]
  have tables : EnrollmentTables plainSecretScheme.objects laptopDatabase :=
    MembershipLife.start.enrollmentTables rfl (by decide +kernel)
  have accepts : laptopDatabase.AcceptsSecret plainSecretScheme defaultProfileId blueSecret :=
    acceptsSecret_of_empty rfl rfl defaultProfileId
  obtain ⟨state, created, -⟩ := @afterRequest_create plainSecretScheme plainTextCodec
    (SlateProtocolHandler.new laptopDatabase) laptopDatabase 0 blueSecret plainSecretScheme_lawful
    rfl tables
  have exports := kept.exported [(0, .create (.ok blueSecret)), (1, .create (.ok redSecret))]
    (List.prefix_refl _)
  rw [show runSteps (afterRequest plainSecretScheme plainTextCodec)
      [(0, .create (.ok blueSecret)), (1, .create (.ok redSecret))] (new laptopDatabase) =
    ((new laptopDatabase).afterRequest plainSecretScheme plainTextCodec
      (0, .create (.ok blueSecret))).afterRequest plainSecretScheme plainTextCodec
        (1, .create (.ok redSecret)) from rfl, created] at exports
  refine not_exportsProfileKey_of_other_key plainSecretScheme_lawful rfl
    ((keptByEnrollments_tables plainSecretScheme_lawful).activation defaultProfileId blueSecret 0
      laptopDatabase tables) (trusts_of_accepts plainSecretScheme_lawful tables accepts.authority)
    ?_ exports
  decide +kernel

/-- A key that is created on a new device is the one that is exported. -/
theorem exported_key_of_first_profile :
    KeyKept plainSecretScheme plainTextCodec
      [(0, .create (.ok blueSecret)), (1, .keyExport (.ok redSecret) (some "1"))]
      (SlateProtocolHandler.new laptopDatabase) := by
  apply exported_key_is_profile_key plainSecretScheme_lawful rfl (by decide +kernel) .start
  have tables : EnrollmentTables plainSecretScheme.objects laptopDatabase :=
    MembershipLife.start.enrollmentTables rfl (by decide +kernel)
  apply allTaken_cons
  · intro secret isSecret
    exact .inl ⟨laptopDatabase, rfl, acceptsSecret_of_empty rfl rfl defaultProfileId⟩
  · apply allTaken_cons
    · intro notLoaded
      obtain ⟨state, created, isLoaded⟩ := @afterRequest_create plainSecretScheme plainTextCodec
        (SlateProtocolHandler.new laptopDatabase) laptopDatabase 0 blueSecret
        plainSecretScheme_lawful rfl tables
      rw [created] at notLoaded
      cases notLoaded.symm.trans isLoaded
    · exact allTaken_nil _

end Samples

end SlateProtocolHandler

end Slate.Chrome
