import Slate.Storage.MembershipReplay
import Slate.Storage.ProfileFrame
import Slate.Storage.SecretEnrollment

/-!
# What activations leave

An activation writes the membership by enrollments only, and an enrollment displaces no
authority. However it ends, a trusted authority stays trusted, and the secret's authority is
trusted afterwards exactly where it was before or was accepted.
-/

namespace Slate.Storage

open Slate.Foundation

namespace SlateProfileDatabase

variable {scheme : SyncSecretScheme} {profile : String} {secret : SlateSyncSecret}
  {db next : SlateProfileDatabase} {now : Int}

section Writes

variable {codec : SyncPayloadCodec} {domain key value deviceId : String}
  {record : SyncChangeRecord}

theorem sameControl_recordSyncSettingText
    (written : db.recordSyncSettingText profile domain key value deviceId now =
      .ok (record, next)) : SameControl db next := by
  obtain ⟨deviceSequence, logicalClock, -, -, inserted⟩ := recordSyncSettingText_eq_ok written
  rw [show next = _ from congrArg Prod.snd inserted]
  exact (confined_insertChange _).control

theorem sameControl_setSyncSettingText
    (written : db.setSyncSettingText profile domain key value now = .ok (record, next)) :
    SameControl db next := by
  have recorded := databaseError_eq_ok_iff.mp written
  split at recorded
  · have viewed : SameControl db (db.setSetting key value now) := ⟨rfl, rfl, rfl, rfl, rfl⟩
    exact viewed.trans (sameControl_recordSyncSettingText recorded)
  · exact sameControl_recordSyncSettingText recorded

theorem sameControl_upsertAppRecord {domain : AppDomain} {update : AppUpdate domain}
    {stored : AppRecord domain}
    (written : db.upsertAppRecord codec domain update now = .ok (stored, next)) :
    SameControl db next := by
  obtain ⟨-, upserted, change, row, logged⟩ := upsertAppRecord_eq_ok written
  obtain ⟨-, -, row⟩ := bind_eq_ok_iff.mp row
  obtain rfl := Except.ok.inj row
  have viewed (table : List (AppRecord domain)) :
      SameControl db (db.updateAppTable domain table) := ⟨rfl, rfl, rfl, rfl, rfl⟩
  exact (viewed _).trans (sameControl_recordSyncSettingText logged)

end Writes

section Membership

/-- The tables that the account authority's key is decided by. -/
structure SameMembership (db next : SlateProfileDatabase) : Prop where
  localSyncDeviceId : next.localSyncDeviceId = db.localSyncDeviceId
  syncDevicePublicKeys : next.syncDevicePublicKeys = db.syncDevicePublicKeys
  syncAccountMembershipRecords :
    next.syncAccountMembershipRecords = db.syncAccountMembershipRecords

theorem MetadataActivated.sameMembership (activated : MetadataActivated profile db next) :
    SameMembership db next :=
  ⟨activated.localSyncDeviceId, activated.syncDevicePublicKeys,
    activated.syncAccountMembershipRecords⟩

theorem SameControl.sameMembership (same : SameControl db next) : SameMembership db next :=
  ⟨same.localSyncDeviceId, same.syncDevicePublicKeys, same.syncAccountMembershipRecords⟩

theorem SameMembership.accountAuthorityKey_eq (same : SameMembership db next) (other : String) :
    next.accountAuthorityKey other = db.accountAuthorityKey other := by
  simp only [accountAuthorityKey, same.syncDevicePublicKeys]

theorem SameMembership.tables {objects : SyncObjectScheme} (same : SameMembership db next)
    (before : EnrollmentTables objects db) : EnrollmentTables objects next where
  wellStored :=
    ⟨same.syncAccountMembershipRecords ▸ before.wellStored.unique,
      same.syncAccountMembershipRecords ▸ before.wellStored.rows⟩
  keyed := by
    rw [same.syncAccountMembershipRecords, same.syncDevicePublicKeys]
    exact before.keyed
  device := same.localSyncDeviceId ▸ before.device

/-- A step that forgets no profile's keys altogether. -/
structure KeepsKeyed (db next : SlateProfileDatabase) : Prop where
  device : isValidSyncIdentifier next.localSyncDeviceId
  keyed : ∀ key ∈ db.syncDevicePublicKeys, ∃ later ∈ next.syncDevicePublicKeys,
    later.profile = key.profile

/-- A database that started without records has its tables as the operations keep them. -/
theorem MembershipLife.enrollmentTables {objects : SyncObjectScheme}
    {start : SlateProfileDatabase} (life : MembershipLife objects KeepsKeyed start db)
    (empty : start.syncAccountMembershipRecords = [])
    (device : isValidSyncIdentifier start.localSyncDeviceId) : EnrollmentTables objects db := by
  induction life with
  | start =>
      refine ⟨⟨?_, ?_⟩, ?_, device⟩
      · rw [empty]
        exact List.nodup_nil
      · simp [empty]
      · simp [empty]
  | stored life stored tables =>
      obtain ⟨decoded, decodes, nonempty, rfl⟩ :=
        recordSignedSyncAccountMembershipRecord_eq_ok stored
      refine ⟨wellStored_insert tables.wellStored decodes nonempty, ?_, tables.device⟩
      intro row membership isApplied
      rcases Rows.mem_upsert membership with old | rfl | ⟨existing, old, -, same⟩
      · exact tables.keyed row old isApplied
      · cases isApplied
      · rw [same] at isApplied ⊢
        exact tables.keyed existing old isApplied
  | applied life applied tables => exact tables.batch applied
  | other life sameRecords other tables =>
      refine ⟨⟨?_, ?_⟩, ?_, other.device⟩
      · rw [sameRecords]
        exact tables.wellStored.unique
      · rw [sameRecords]
        exact tables.wellStored.rows
      · rw [sameRecords]
        intro row membership isApplied
        obtain ⟨key, known, sameProfile⟩ := tables.keyed row membership isApplied
        obtain ⟨later, laterKnown, laterProfile⟩ := other.keyed key known
        exact ⟨later, laterKnown, laterProfile.trans sameProfile⟩

/-- What no write outside the membership and no enrollment changes. -/
structure KeptByEnrollments (scheme : SyncSecretScheme)
    (Holds : SlateProfileDatabase → Prop) : Prop where
  membership : ∀ db next, SameMembership db next → Holds db → Holds next
  enrollment : ∀ profile secret recordKind signer now,
    recordKind = recordKindEnrollDevice ∨ recordKind = recordKindEnrollProvider →
    Keeps Holds (statement (applySignedSyncAccountMembershipRecord scheme
      (SlateSyncSecret.enrollment scheme profile secret recordKind signer).signedRecord now))

theorem keptByEnrollments_tables (lawful : scheme.Lawful) :
    KeptByEnrollments scheme (EnrollmentTables scheme.objects) where
  membership _ _ same := same.tables
  enrollment _ _ _ _ _ := keeps_enrollment lawful

theorem keptByEnrollments_trustsAuthority (lawful : scheme.Lawful)
    (key : ProfileSyncDevicePublicKey) :
    KeptByEnrollments scheme (TrustsAuthority scheme.objects profile key) where
  membership _ _ same trusts :=
    ⟨same.tables trusts.tables, (same.accountAuthorityKey_eq _).trans trusts.trusted⟩
  enrollment _ _ _ _ _ := keeps_authority_enrollment lawful

end Membership

section Activations

variable {Holds : SlateProfileDatabase → Prop} (kept : KeptByEnrollments scheme Holds)
include kept

theorem KeptByEnrollments.enrollDerivedDevice (profile : String) (secret : SlateSyncSecret)
    (deviceId : String) (now : Int) :
    Keeps Holds (enrollDerivedDevice scheme profile secret defaultProfileSyncMembershipEpoch
      deviceId now) := by
  by_cases valid : isValidSyncIdentifier deviceId = true
  · rw [enrollDerivedDevice_of_valid valid]
    exact kept.enrollment _ _ _ _ _ (.inl rfl)
  · intro db holds
    unfold SlateProfileDatabase.enrollDerivedDevice signedEnrollDeviceRecord
    rw [SlateSyncSecret.deriveProfileSyncDeviceSigner_of_valid secret
      SlateSyncSecret.isValidSyncIdentifier_accountAuthority,
      SlateSyncSecret.deriveProfileSyncDeviceSigner, dif_neg valid]
    exact holds

theorem KeptByEnrollments.enrollLocalDevice (profile : String) (secret : SlateSyncSecret)
    (deviceId : String) (now : Int) :
    Keeps Holds (enrollLocalDevice scheme profile secret defaultProfileSyncMembershipEpoch
      deviceId now) := by
  unfold SlateProfileDatabase.enrollLocalDevice
  split
  · exact keeps_bind (kept.enrollDerivedDevice _ _ _ _) fun _ => keeps_pure _
  · exact keeps_pure _

theorem KeptByEnrollments.activation (profile : String) (secret : SlateSyncSecret)
    (now : Int) :
    Keeps Holds (activateLocalProfileSyncFromSecret scheme profile secret now) := by
  intro db holds
  obtain ⟨contentKeyEpoch, activated, metadata, same⟩ :=
    @activation_eq scheme profile secret db now
  have after : Holds (stateAfter (enrollments scheme profile secret db.localSyncDeviceId
      contentKeyEpoch now) activated) := by
    unfold enrollments
    have authority := kept.enrollment profile secret recordKindEnrollDevice
      (secret.accountAuthoritySigner scheme profile) now (.inl rfl)
    refine keeps_bind authority (fun _ => keeps_bind (kept.enrollLocalDevice _ _ _ _) fun _ =>
      keeps_pure _) activated ?_
    exact kept.membership _ _ metadata.sameMembership holds
  unfold stateAfter at after ⊢
  rw [same]
  exact after

theorem KeptByEnrollments.sameControl {α : Type}
    {write : SlateProfileDatabase → Except StorageError (α × SlateProfileDatabase)}
    (same : ∀ db value next, write db = .ok (value, next) → SameControl db next) :
    Keeps Holds (statement write) :=
  keeps_statement fun _ _ _ written holds =>
    kept.membership _ _ (same _ _ _ written).sameMembership holds

theorem KeptByEnrollments.previewProvider (codec : SyncPayloadCodec) (profile : String)
    (secret : SlateSyncSecret) (endpointRef : Option String) (now : Int) :
    Keeps Holds (activateLocalProfileSyncPreviewProviderFromSecret scheme codec profile secret
      endpointRef now) := by
  have validProvider : isValidSyncIdentifier defaultProfileSyncPreviewProviderId = true := by
    decide +kernel
  unfold activateLocalProfileSyncPreviewProviderFromSecret
  simp only [SlateSyncSecret.deriveProfileSyncDeviceSigner_of_valid secret
    SlateSyncSecret.isValidSyncIdentifier_accountAuthority,
    SlateSyncSecret.deriveProfileSyncDeviceSigner_of_valid secret validProvider]
  apply keeps_bind (kept.enrollment profile secret recordKindEnrollProvider
    (secret.deviceSigner scheme profile defaultProfileSyncMembershipEpoch
      defaultProfileSyncPreviewProviderId validProvider) now (.inr rfl))
  intro application
  apply keeps_bind (kept.sameControl fun _ _ _ written => sameControl_upsertAppRecord written)
  intro provider
  exact keeps_pure _

end Activations

section Authority

/-- Accepting the account authority is all that its trust depends on: the local device's own
enrollment may still be refused. -/
theorem trusts_of_accepts (lawful : scheme.Lawful) (tables : EnrollmentTables scheme.objects db)
    (accepts : db.AcceptsAccountAuthority scheme profile secret) :
    (stateAfter (activateLocalProfileSyncFromSecret scheme profile secret now)
      db).accountAuthorityKey profile = some (secret.accountAuthorityKey scheme profile) := by
  obtain ⟨contentKeyEpoch, activated, metadata, same⟩ :=
    @activation_eq scheme profile secret db now
  have decodes : (authorityEnrollment scheme profile secret).Decodes scheme.objects :=
    decodes_enrollment lawful (.inl rfl)
  obtain ⟨application, middle, handled⟩ := (@handles_authority_iff scheme profile secret activated
    now lawful (metadata.tables tables) metadata.localIsMember).mpr
      (metadata.acceptsAccountAuthority_iff.mpr accepts)
  obtain ⟨-, key, isKey, trusted, -, publicKey⟩ :=
    knows_authority_of_handled lawful (metadata.tables tables) metadata.localIsMember handled
  have trusts : TrustsAuthority scheme.objects profile (secret.accountAuthorityKey scheme profile)
      middle :=
    ⟨(metadata.tables tables).applyDecoded decodes handled,
      accountAuthorityKey_eq_some_iff.mpr ⟨key, isKey, trusted, publicKey⟩⟩
  have applied := statement_eq_ok_iff.mpr ((applySigned_eq_ok_iff decodes).mpr handled)
  have after := keeps_bind ((keptByEnrollments_trustsAuthority lawful _).enrollLocalDevice profile
    secret db.localSyncDeviceId now) (fun device => keeps_pure
      ({ activation := { profile, deviceId := db.localSyncDeviceId, contentKeyEpoch }
         accountAuthorityDeviceId := defaultProfileSyncAccountAuthorityDeviceId
         localDeviceId := db.localSyncDeviceId
         membershipApplications := application :: device } :
        ProfileSyncLocalSecretActivationRecord)) middle trusts
  unfold stateAfter at after ⊢
  rw [same]
  unfold enrollments
  rw [EStateM.run_bind, applied]
  exact after.trusted

/-- An account authority that is refused leaves the membership as it was. -/
theorem sameMembership_of_refused (lawful : scheme.Lawful)
    (tables : EnrollmentTables scheme.objects db)
    (refuses : ¬db.AcceptsAccountAuthority scheme profile secret) :
    SameMembership db
      (stateAfter (activateLocalProfileSyncFromSecret scheme profile secret now) db) := by
  obtain ⟨contentKeyEpoch, activated, metadata, same⟩ :=
    @activation_eq scheme profile secret db now
  have decodes : (authorityEnrollment scheme profile secret).Decodes scheme.objects :=
    decodes_enrollment lawful (.inl rfl)
  have refused : ∃ failure, (statement (applySignedSyncAccountMembershipRecord scheme
      (authorityEnrollment scheme profile secret).signedRecord now)).run activated =
        .error failure activated := by
    cases applied : applySignedSyncAccountMembershipRecord scheme
        (authorityEnrollment scheme profile secret).signedRecord now activated with
    | error failure => exact ⟨failure, by simp [statement, EStateM.run, applied]⟩
    | ok result =>
        obtain ⟨application, next⟩ := result
        refine absurd ?_ refuses
        exact metadata.acceptsAccountAuthority_iff.mp ((handles_authority_iff lawful
          (metadata.tables tables) metadata.localIsMember).mp
            ⟨application, next, (applySigned_eq_ok_iff decodes).mp applied⟩)
  obtain ⟨failure, refused⟩ := refused
  unfold stateAfter
  rw [same]
  unfold enrollments
  rw [EStateM.run_bind, refused]
  exact metadata.sameMembership

/-- After an activation the profile trusts the secret's account authority exactly where it did
before or accepted it. -/
theorem trusts_after_activation_iff (lawful : scheme.Lawful)
    (tables : EnrollmentTables scheme.objects db) :
    (stateAfter (activateLocalProfileSyncFromSecret scheme profile secret now)
      db).accountAuthorityKey profile = some (secret.accountAuthorityKey scheme profile) ↔
      db.AcceptsAccountAuthority scheme profile secret ∨
        db.accountAuthorityKey profile = some (secret.accountAuthorityKey scheme profile) := by
  by_cases accepts : db.AcceptsAccountAuthority scheme profile secret
  · exact iff_of_true (trusts_of_accepts lawful tables accepts) (.inl accepts)
  · rw [(sameMembership_of_refused lawful tables accepts).accountAuthorityKey_eq]
    exact (or_iff_right accepts).symm

end Authority

end SlateProfileDatabase

end Slate.Storage
