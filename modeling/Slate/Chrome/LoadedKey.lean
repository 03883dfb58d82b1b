import Slate.Chrome.ProfileSyncRuns
import Slate.Foundation.SharedTable
import Slate.ProfileSync.Reception
import Slate.Storage.ActivationEffects

/-!
# The key that is loaded

A handler is sound while its database trusts the account authority of the loaded key. The
statements that requests run keep it so: they write the membership by enrollments only.
-/

namespace Slate.Storage

open Slate.Foundation

variable {scheme : SyncSecretScheme} {profile : String} {secret : SlateSyncSecret}

/-- The account authority's key that an exported key derives. -/
def SlateSyncSecretExport.accountAuthorityKey (scheme : SyncSecretScheme)
    (secretExport : SlateSyncSecretExport) : Option ProfileSyncDevicePublicKey :=
  (secretExport.toSyncSecret scheme).toOption.map
    (SlateSyncSecret.accountAuthorityKey scheme secretExport.profile)

theorem accountAuthorityKey_exportForProfile (lawful : scheme.Lawful) (createdAt : Int) :
    (secret.exportForProfile scheme profile createdAt).accountAuthorityKey scheme =
      some (secret.accountAuthorityKey scheme profile) := by
  have read : (secret.exportForProfile scheme profile createdAt).toSyncSecret scheme =
      .ok secret := by
    unfold SlateSyncSecretExport.toSyncSecret SlateSyncSecret.exportForProfile
    simp only [lawful.decodeSecret, secret.sized, dif_pos]
    rfl
  rw [SlateSyncSecretExport.accountAuthorityKey, read]
  rfl

theorem accountAuthorityKey_of_read {secretExport : SlateSyncSecretExport}
    (read : secretExport.toSyncSecretForProfile scheme profile = .ok secret) :
    secretExport.profile = profile ∧
      secretExport.accountAuthorityKey scheme = some (secret.accountAuthorityKey scheme profile) := by
  obtain ⟨⟨⟩, checked, read⟩ := bind_eq_ok_iff.mp read
  obtain ⟨⟨⟩, -, checked⟩ := bind_eq_ok_iff.mp checked
  have sameProfile : secretExport.profile = profile := by
    by_contra different
    simp [different] at checked
  refine ⟨sameProfile, ?_⟩
  rw [SlateSyncSecretExport.accountAuthorityKey, read, sameProfile]
  rfl

namespace SlateProfileDatabase

/-- The tables trust the account authority of the loaded key. -/
structure TrustsLoadedKey (scheme : SyncSecretScheme)
    (activeExport : Option SlateSyncSecretExport) (db : SlateProfileDatabase) : Prop where
  tables : EnrollmentTables scheme.objects db
  trusted : ∀ loaded, activeExport = some loaded →
    ∃ key, loaded.accountAuthorityKey scheme = some key ∧
      db.accountAuthorityKey loaded.profile = some key

variable {activeExport : Option SlateSyncSecretExport} {db : SlateProfileDatabase}

theorem keptByEnrollments_trustsLoadedKey (lawful : scheme.Lawful)
    (activeExport : Option SlateSyncSecretExport) :
    KeptByEnrollments scheme (TrustsLoadedKey scheme activeExport) where
  membership db next same trusts := by
    refine ⟨same.tables trusts.tables, fun loaded isLoaded => ?_⟩
    rw [same.accountAuthorityKey_eq]
    exact trusts.trusted loaded isLoaded
  enrollment profile secret recordKind signer now enrolls := by
    intro db trusts
    refine ⟨keeps_enrollment lawful enrolls db trusts.tables, fun loaded isLoaded => ?_⟩
    obtain ⟨key, derived, trusted⟩ := trusts.trusted loaded isLoaded
    exact ⟨key, derived,
      (keeps_authority_enrollment lawful enrolls db ⟨trusts.tables, trusted⟩).trusted⟩

end SlateProfileDatabase

end Slate.Storage

namespace Slate.Chrome

open Foundation Storage
open Storage.SlateProfileDatabase

namespace SlateProtocolHandler

variable {scheme : SyncSecretScheme} {codec : SyncPayloadCodec} {handler : SlateProtocolHandler}
  {db : SlateProfileDatabase} {now : Int}

/-- The handler has a database that trusts the loaded key. -/
def Sound (scheme : SyncSecretScheme) (handler : SlateProtocolHandler) : Prop :=
  ∃ db, handler.database = some db ∧
    db.TrustsLoadedKey scheme handler.profileSyncPreview.activeExport

section Statements

variable {ε α : Type} {statements : EStateM ε SlateProfileDatabase α}

theorem onDatabase_of_ok {value : α} {next : SlateProfileDatabase}
    (stored : handler.database = some db) (succeeded : statements.run db = .ok value next) :
    handler.onDatabase statements = (.ok (some value), { handler with database := some next }) := by
  simp only [onDatabase, stored, succeeded]

theorem onDatabase_of_error {failure : ε} {next : SlateProfileDatabase}
    (stored : handler.database = some db) (failed : statements.run db = .error failure next) :
    handler.onDatabase statements = (.error failure, { handler with database := some next }) := by
  simp only [onDatabase, stored, failed]

/-- Statements run on the database whether or not all of them succeed. -/
theorem onDatabase_snd (stored : handler.database = some db) :
    (handler.onDatabase statements).2 =
      { handler with database := some (stateAfter statements db) } := by
  cases ran : statements.run db with
  | ok value next => rw [onDatabase_of_ok stored ran, stateAfter_of_ok ran]
  | error failure next => rw [onDatabase_of_error stored ran, stateAfter_of_error ran]

end Statements

section Sound

/-- A request that keeps the loaded key and runs such statements keeps the handler sound. -/
theorem sound_of_keeps {ε α : Type} {statements : EStateM ε SlateProfileDatabase α}
    {activeExport : Option SlateSyncSecretExport}
    (keeps : Keeps (TrustsLoadedKey scheme activeExport) statements)
    (stored : handler.database = some db) (trusts : db.TrustsLoadedKey scheme activeExport)
    (state : ProfileSyncPreviewState) (same : state.activeExport = activeExport) :
    ((handler.onDatabase statements).2.withPreview state).Sound scheme := by
  rw [onDatabase_snd stored]
  exact ⟨_, rfl, by rw [withPreview, same]; exact keeps db trusts⟩

theorem sound_withPreview (sound : handler.Sound scheme) {state : ProfileSyncPreviewState}
    (same : state.activeExport = handler.profileSyncPreview.activeExport) :
    (handler.withPreview state).Sound scheme := by
  obtain ⟨db, stored, trusts⟩ := sound
  exact ⟨db, stored, by rw [withPreview, same]; exact trusts⟩

theorem activeExport_refresh :
    handler.refreshProfileSyncPreviewMetadata.activeExport =
      handler.profileSyncPreview.activeExport := by
  unfold refreshProfileSyncPreviewMetadata
  cases handler.database with
  | none => rfl
  | some db =>
      simp only
      split
      · rfl
      · split <;> rfl

/-- The requests that use the loaded key leave it where it is. -/
theorem sound_withActiveSyncSecret (sound : handler.Sound scheme) (missing : String)
    {next : SlateSyncSecret → ProfileSyncPreviewState → ProfileSyncReply × SlateProtocolHandler}
    (keeps : ∀ secret state,
      state.activeExport = handler.profileSyncPreview.activeExport →
        (next secret state).2.Sound scheme) :
    (handler.withActiveSyncSecret scheme missing next).2.Sound scheme := by
  unfold withActiveSyncSecret
  simp only
  split
  · exact keeps _ _ activeExport_refresh
  · exact sound_withPreview sound activeExport_refresh
  · exact sound_withPreview sound activeExport_refresh

end Sound

section Runs

/-- What a cycle writes is no membership. -/
theorem sameControl_write {next : SlateProfileDatabase} {write : SettingsCycleWrite}
    (written : write.write codec now db = .ok ((), next)) : SameControl db next := by
  have roots {start final : SlateProfileDatabase} {registrations : List ProfileSyncRootRegistration}
      {units : List Unit} (set : start.setProfileSyncRoots registrations now = .ok (units, final)) :
      SameControl start final :=
    forEach_invariant (SameControl start)
      (fun _ _ _ _ _ stepped reached => reached.trans (ProfileSync.sameControl_setProfileSyncRoot
        stepped)) set (.refl start)
  cases write with
  | publish snapshot registrations =>
      obtain ⟨⟨units, final⟩, set, same⟩ := map_eq_ok_iff.mp written
      obtain rfl := (Prod.mk.inj same).2
      exact (confined_recordSyncSnapshot snapshot now).control.trans (roots set)
  | setRoots registrations =>
      obtain ⟨⟨units, final⟩, set, same⟩ := map_eq_ok_iff.mp written
      obtain rfl := (Prod.mk.inj same).2
      exact roots set
  | receive objects profile rootId objectId =>
      obtain ⟨⟨application, final⟩, received, same⟩ := map_eq_ok_iff.mp written
      obtain rfl := (Prod.mk.inj same).2
      obtain ⟨⟨_, applied⟩, manifest, received⟩ := bind_eq_ok_iff.mp received
      obtain ⟨⟨⟨⟩, rooted⟩, set, received⟩ := bind_eq_ok_iff.mp received
      obtain ⟨-, rfl⟩ := ok_pair_inj received
      exact (ProfileSync.sameControl_applyVerifiedSettingsManifest manifest).trans
        (ProfileSync.sameControl_setProfileSyncRoot set)

/-- The second device is enrolled as any other. -/
theorem enrollments_of_bundle {profile : String} {secret : SlateSyncSecret}
    {bundle : ProfileSyncEnrollmentBundle} {targetDeviceId : String}
    (made : profileSyncEnrollmentBundleFromSecretWithEpoch scheme profile secret targetDeviceId
      defaultProfileSyncMembershipEpoch now = .ok bundle) :
    ∀ signedRecord ∈ bundle.signedMembershipRecords, ∃ signer,
      signedRecord =
        (secret.enrollment scheme profile recordKindEnrollDevice signer).signedRecord := by
  have enrollment {deviceId : String} {signedRecord : List Nat}
      (signed : signedEnrollDeviceRecord scheme profile secret defaultProfileSyncMembershipEpoch
        deviceId = .ok signedRecord) : ∃ signer,
      signedRecord =
        (secret.enrollment scheme profile recordKindEnrollDevice signer).signedRecord := by
    by_cases valid : isValidSyncIdentifier deviceId = true
    · rw [signedEnrollDeviceRecord_of_valid valid] at signed
      exact ⟨_, (Except.ok.inj signed).symm⟩
    · unfold signedEnrollDeviceRecord at signed
      obtain ⟨authority, -, signed⟩ := bind_eq_ok_iff.mp signed
      rw [SlateSyncSecret.deriveProfileSyncDeviceSigner, dif_neg valid] at signed
      cases signed
  obtain ⟨authority, authoritySigned, made⟩ := bind_eq_ok_iff.mp made
  obtain ⟨targets, targetsSigned, made⟩ := bind_eq_ok_iff.mp made
  rw [mapError_eq_ok_iff, signedTargetDeviceRecords] at targetsSigned
  obtain ⟨⟨⟩, -, made⟩ := bind_eq_ok_iff.mp made
  obtain rfl := Except.ok.inj made
  rintro signedRecord membership
  rcases List.mem_cons.mp membership with rfl | membership
  · exact enrollment (mapError_eq_ok_iff.mp authoritySigned)
  · split at targetsSigned
    · obtain ⟨target, signed, rfl⟩ := map_eq_ok_iff.mp targetsSigned
      obtain rfl := List.mem_singleton.mp membership
      exact enrollment signed
    · obtain rfl := Except.ok.inj targetsSigned
      cases membership

variable {Holds : SlateProfileDatabase → Prop} (kept : KeptByEnrollments scheme Holds)
  {profile : String} {secret : SlateSyncSecret} {cycle : PreviewCycle}
include kept

theorem keeps_fixtureCycle :
    Keeps Holds (runLocalSettingsSyncFixtureCycle codec cycle now) := by
  have writes (rest : List SettingsCycleWrite) : Keeps Holds (runCycleWrites codec now rest) := by
    induction rest with
    | nil => exact keeps_pure ()
    | cons write rest inductionHypothesis =>
        exact keeps_bind
          (keeps_adaptExcept _ (kept.sameControl fun _ _ _ written => sameControl_write written))
          fun _ => inductionHypothesis
  exact keeps_bind (writes cycle.writes) fun _ => keeps_ofExcept _

theorem keeps_prepare :
    Keeps Holds (prepareLocalSettingsSyncFixture scheme codec profile secret now) :=
  keeps_bind (keeps_adaptExcept _ (kept.activation profile secret now)) fun _ =>
    keeps_bind (keeps_adaptExcept _ (kept.previewProvider codec profile secret _ now)) fun _ =>
      keeps_bind (keeps_ofExcept _) fun _ => keeps_pure _

theorem keeps_currentCycle :
    Keeps Holds (runLocalSettingsSyncCurrentCycle scheme codec profile cycle now secret) :=
  keeps_bind (keeps_prepare kept) fun _ => keeps_bind (keeps_fixtureCycle kept) fun _ =>
    keeps_pure _

theorem keeps_settingWrite {key value : String} :
    Keeps Holds (storageStatements (statement (setSyncSettingText profile syncDomainSettings key
      value now))) :=
  keeps_adaptExcept _ (kept.sameControl fun _ _ _ written => sameControl_setSyncSettingText written)

theorem keeps_previewCycle :
    Keeps Holds (runLocalSettingsSyncPreviewCycle scheme codec profile cycle now secret) :=
  keeps_bind (keeps_prepare kept) fun _ => keeps_bind (keeps_settingWrite kept) fun _ =>
    keeps_bind (keeps_fixtureCycle kept) fun _ => keeps_pure _

theorem keeps_receiverRecords {signedRecords : List (List Nat)}
    (enrollments : ∀ signedRecord ∈ signedRecords, ∃ signer, signedRecord =
      (secret.enrollment scheme profile recordKindEnrollDevice signer).signedRecord) :
    Keeps Holds (applyReceiverRecords scheme now signedRecords) := by
  induction signedRecords with
  | nil => exact keeps_pure ()
  | cons signedRecord rest inductionHypothesis =>
      obtain ⟨signer, rfl⟩ := enrollments signedRecord (List.mem_cons_self ..)
      exact keeps_bind
        (keeps_adaptExcept _ (kept.enrollment profile secret _ signer now (.inl rfl)))
        fun _ => inductionHypothesis fun other membership =>
          enrollments other (List.mem_cons_of_mem _ membership)

theorem keeps_twoDeviceCycle :
    Keeps Holds (runLocalSettingsSyncTwoDevicePreviewCycle scheme codec profile cycle now
      secret) :=
  keeps_bind (keeps_prepare kept) fun _ => keeps_bind (keeps_ofExcept _) fun _ =>
    keeps_ofExcept_bind fun _ made =>
      keeps_bind (keeps_receiverRecords kept
        (enrollments_of_bundle (mapError_eq_ok_iff.mp made))) fun _ =>
        keeps_bind (keeps_settingWrite kept) fun _ =>
          keeps_bind (keeps_fixtureCycle kept) fun _ => keeps_pure _

end Runs

end SlateProtocolHandler

end Slate.Chrome
