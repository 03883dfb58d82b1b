import Slate.Storage.AccountAuthority

/-!
# Which secrets a database accepts

A secret is accepted where the profile has no key yet, or where it trusts the secret's account
authority already, and where nothing stands against the local device's key. The account
authority of an accepted secret is the one that the profile trusts.
-/

namespace Slate.Storage

open Slate.Foundation
open SlateProfileDatabase

section Enrollments

/-- The record of the given kind that the account authority signs for a device. -/
def SlateSyncSecret.enrollment (scheme : SyncSecretScheme) (profile : String)
    (secret : SlateSyncSecret) (recordKind : String) (signer : ProfileSyncDeviceSigner) :
    DecodedMembershipRecord :=
  let record := profileSyncEnrollRecord recordKind profile defaultProfileSyncMembershipEpoch
    (signer.publicKey scheme.objects)
  { signedRecord := signedProfileSyncMembershipRecordBytes scheme.objects
      (secret.accountAuthoritySigner scheme profile) record
    signedObject := (secret.accountAuthoritySigner scheme profile).sign scheme.objects
      (scheme.objects.membershipRecord.toBytes record)
    record }

variable {scheme : SyncSecretScheme} {profile deviceId recordKind : String}
  {secret : SlateSyncSecret} {signer : ProfileSyncDeviceSigner}

theorem isValidSyncIdentifier_append {first second : String}
    (validFirst : isValidSyncIdentifier first) (validSecond : isValidSyncIdentifier second) :
    isValidSyncIdentifier (first ++ second) := by
  simp only [isValidSyncIdentifier, String.toList_append, Bool.and_eq_true, List.all_append,
    Bool.not_eq_true', List.isEmpty_eq_false_iff] at validFirst validSecond ⊢
  refine ⟨?_, validFirst.2, validSecond.2⟩
  intro empty
  exact validFirst.1 (List.append_eq_nil_iff.mp empty).1

theorem isValidSyncIdentifier_enrollDeviceRecordId (valid : isValidSyncIdentifier deviceId) :
    isValidSyncIdentifier
      (profileSyncEnrollDeviceRecordId defaultProfileSyncMembershipEpoch deviceId) := by
  have validFront : isValidSyncIdentifier
      ("epoch-" ++ toString defaultProfileSyncMembershipEpoch ++ "-enroll-") := by
    decide +kernel
  exact isValidSyncIdentifier_append validFront valid

theorem validate_of_installs {record : ProfileSyncMembershipRecord}
    {publicKey : ProfileSyncDevicePublicKey}
    (schema : record.schemaVersion = profileSyncMembershipRecordSchemaVersion)
    (epoch : 1 ≤ record.membershipEpoch) (recordId : isValidSyncIdentifier record.recordId)
    (device : isValidSyncIdentifier record.deviceId)
    (kind : isValidProfileSyncMembershipRecordKind record.recordKind)
    (installs : installsKey record.recordKind) (carried : record.devicePublicKey = some publicKey)
    (sameDevice : publicKey.deviceId = record.deviceId) (nonempty : publicKey.bytes ≠ []) :
    validateProfileSyncMembershipRecord record = .ok () := by
  unfold validateProfileSyncMembershipRecord validateMembershipRecordPublicKey
  simp only [check_then_eq_ok_iff, check_eq_ok_iff, installs, if_true, carried, recordId, device,
    kind, schema, sameDevice, nonempty]
  simpa using epoch

theorem validate_enrollment (lawful : scheme.Lawful)
    (enrolls : recordKind = recordKindEnrollDevice ∨ recordKind = recordKindEnrollProvider) :
    validateProfileSyncMembershipRecord
      (secret.enrollment scheme profile recordKind signer).record = .ok () := by
  have validKind : isValidProfileSyncMembershipRecordKind recordKind = true := by
    rcases enrolls with rfl | rfl <;> rfl
  have installs : installsKey recordKind = true := by
    rcases enrolls with rfl | rfl <;> rfl
  exact validate_of_installs rfl (le_refl _)
    (isValidSyncIdentifier_enrollDeviceRecordId signer.valid) signer.valid validKind installs rfl
    rfl (lawful.publicKey_ne_nil signer.privateKey)

/-- A signed enrollment decodes to its record. -/
theorem decodes_enrollment (lawful : scheme.Lawful)
    (enrolls : recordKind = recordKindEnrollDevice ∨ recordKind = recordKindEnrollProvider) :
    (secret.enrollment scheme profile recordKind signer).Decodes scheme.objects := by
  have valid : validateProfileSyncMembershipRecord
      (secret.enrollment scheme profile recordKind signer).record = .ok () :=
    validate_enrollment lawful enrolls
  have readRecord := lawful.membershipRecord
    (secret.enrollment scheme profile recordKind signer).record
  have validSigner := (secret.accountAuthoritySigner scheme profile).valid
  revert valid readRecord
  unfold DecodedMembershipRecord.Decodes decodeSignedProfileSyncMembershipRecord
    SlateSyncSecret.enrollment
  simp only
  generalize profileSyncEnrollRecord recordKind profile defaultProfileSyncMembershipEpoch
    (signer.publicKey scheme.objects) = record
  generalize secret.accountAuthoritySigner scheme profile = authority at validSigner ⊢
  intro valid readRecord
  have read : SignedSyncObject.fromBytes scheme.objects
      (signedProfileSyncMembershipRecordBytes scheme.objects authority record) =
        .ok (authority.sign scheme.objects (scheme.objects.membershipRecord.toBytes record)) :=
    mapError_eq_ok_iff.mpr (lawful.objects.signed _)
  have verified := (verifyWith_sign lawful.objects authority).mpr
    ⟨rfl, @rfl _ (scheme.objects.membershipRecord.toBytes record)⟩
  rw [read]
  simp only [membershipRecordError, mapError_ok, ok_bind]
  rw [if_neg (by simpa [ProfileSyncDeviceSigner.sign] using validSigner)]
  rw [show (⟨(authority.sign scheme.objects (scheme.objects.membershipRecord.toBytes
      record)).deviceId, (authority.sign scheme.objects
        (scheme.objects.membershipRecord.toBytes record)).publicKey⟩ :
          ProfileSyncDevicePublicKey) = authority.publicKey scheme.objects from rfl, verified]
  simp only [mapError_ok, ok_bind, readRecord, valid]
  rfl

end Enrollments

namespace SlateProfileDatabase

variable {scheme : SyncSecretScheme} {profile deviceId : String} {secret : SlateSyncSecret}
  {db next : SlateProfileDatabase} {decoded : DecodedMembershipRecord} {now : Int}

section Handling

/-- A record is handled where it is authorized, and was applied before or is admitted. -/
theorem handled_iff (wellStored : WellStored scheme.objects db)
    (decodes : decoded.Decodes scheme.objects) (nonempty : decoded.signedRecord ≠ []) :
    (∃ application next, db.applyDecodedSyncAccountMembershipRecord scheme.objects decoded now =
      .ok (application, next)) ↔
      (db.roster decoded.record.profile).Authorizes scheme.objects decoded ∧
        (Taken decoded db ∨ Untaken decoded db ∧
          (db.roster decoded.record.profile decoded.record.deviceId).Admits decoded.record) := by
  constructor
  · rintro ⟨application, next, handled⟩
    obtain ⟨authorized, ⟨-, -, taken⟩ | ⟨-, untaken, admits, -⟩⟩ :=
      applyDecoded_outcome wellStored decodes handled
    · exact ⟨authorized, .inl taken⟩
    · exact ⟨authorized, .inr ⟨untaken, admits⟩⟩
  · rintro ⟨authorized, taken | ⟨untaken, admits⟩⟩
    · obtain ⟨application, handled, -⟩ :=
        exists_applyDecoded_of_taken wellStored decodes authorized taken
      exact ⟨application, db, handled⟩
    · exact exists_applyDecoded_of_untaken wellStored decodes nonempty authorized admits untaken

/-- A batch of one record is that record. -/
theorem applySigned_eq_ok_iff (decodes : decoded.Decodes scheme.objects)
    {application : SyncAccountMembershipRecordApplication} :
    applySignedSyncAccountMembershipRecord scheme decoded.signedRecord now db =
        .ok (application, next) ↔
      db.applyDecodedSyncAccountMembershipRecord scheme.objects decoded now =
        .ok (application, next) := by
  have decodedRecords : decodeSignedMembershipRecords scheme.objects [decoded.signedRecord] =
      .ok [decoded] := by
    rw [decodeSignedMembershipRecords, List.mapM_cons, decodes]
    rfl
  unfold applySignedSyncAccountMembershipRecord applySignedSyncAccountMembershipRecords
  rw [decodedRecords, ok_bind]
  cases handled : db.applyDecodedSyncAccountMembershipRecord scheme.objects decoded now with
  | error failure => simp [forEach, handled, bind, Except.bind]
  | ok result => simp [forEach, handled, bind, Except.bind, pure, Except.pure]

end Handling

section Acceptance

/-- The enrollment of the account authority. -/
def authorityEnrollment (scheme : SyncSecretScheme) (profile : String)
    (secret : SlateSyncSecret) : DecodedMembershipRecord :=
  secret.enrollment scheme profile recordKindEnrollDevice
    (secret.accountAuthoritySigner scheme profile)

/-- The profile can be enrolled with the secret: it has no key, and its first record is free;
or it trusts the secret's account authority, which was enrolled before and is no provider. An
activation makes sure that the local device is none. -/
inductive AcceptsAccountAuthority (scheme : SyncSecretScheme) (profile : String)
    (secret : SlateSyncSecret) (db : SlateProfileDatabase) : Prop where
  | unenrolled (unkeyed : ∀ deviceId, (db.roster profile deviceId).key = none)
      (untaken : Untaken (authorityEnrollment scheme profile secret) db)
  | enrolled (known : ∃ key,
        (db.roster profile defaultProfileSyncAccountAuthorityDeviceId).key = some key ∧
          key.trusted = true ∧ key.membershipEpoch ≤ defaultProfileSyncMembershipEpoch ∧
          key.publicKey = secret.accountAuthorityKey scheme profile)
      (notProvider : db.localSyncDeviceId = defaultProfileSyncAccountAuthorityDeviceId ∨
        (db.roster profile defaultProfileSyncAccountAuthorityDeviceId).provider = false)
      (taken : Taken (authorityEnrollment scheme profile secret) db)

/-- The device's enrollment was applied before, or nothing stands against it. -/
def AcceptsDevice (scheme : SyncSecretScheme) (profile : String) (secret : SlateSyncSecret)
    (signer : ProfileSyncDeviceSigner) (db : SlateProfileDatabase) : Prop :=
  Taken (secret.enrollment scheme profile recordKindEnrollDevice signer) db ∨
    Untaken (secret.enrollment scheme profile recordKindEnrollDevice signer) db ∧
      (∀ epoch ∈ (db.roster profile signer.deviceId).epochs,
        epoch < defaultProfileSyncMembershipEpoch) ∧
      ¬(db.roster profile signer.deviceId).HasTrustedKey

variable {signer : ProfileSyncDeviceSigner}

theorem admits_enrollment_iff :
    (db.roster profile signer.deviceId).Admits
        (secret.enrollment scheme profile recordKindEnrollDevice signer).record ↔
      (∀ epoch ∈ (db.roster profile signer.deviceId).epochs,
        epoch < defaultProfileSyncMembershipEpoch) ∧
      ¬(db.roster profile signer.deviceId).HasTrustedKey := by
  constructor
  · intro admits
    exact ⟨admits.newer, admits.enrolls (.inl rfl)⟩
  · rintro ⟨newer, untrusted⟩
    refine ⟨newer, fun _ => untrusted, fun rotates => ?_⟩
    exact absurd (show recordKindEnrollDevice = recordKindRotateDeviceKey from rotates) (by decide)

/-- A signer that the roster knows under the secret's key signs its enrollments. -/
theorem signs_enrollment_iff (lawful : scheme.Lawful) {recordKind : String} :
    (db.roster profile).Signs scheme.objects
        (secret.enrollment scheme profile recordKind signer) ↔
      (db.roster profile defaultProfileSyncAccountAuthorityDeviceId).provider = false ∧
      ∃ key, (db.roster profile defaultProfileSyncAccountAuthorityDeviceId).key = some key ∧
        key.trusted = true ∧ key.membershipEpoch ≤ defaultProfileSyncMembershipEpoch ∧
        key.publicKey = secret.accountAuthorityKey scheme profile := by
  have verified (publicKey : ProfileSyncDevicePublicKey) :
      (∃ payload, (secret.enrollment scheme profile recordKind signer).signedObject.verifyWith
        scheme.objects publicKey = .ok payload) ↔
          publicKey = secret.accountAuthorityKey scheme profile := by
    constructor
    · rintro ⟨payload, verified⟩
      exact ((verifyWith_sign lawful.objects _).mp verified).1
    · intro same
      exact ⟨_, (verifyWith_sign lawful.objects _).mpr ⟨same, rfl⟩⟩
  constructor
  · rintro ⟨notProvider, key, known, trusted, epoch, verifies⟩
    exact ⟨notProvider, key, known, trusted, epoch, (verified key.publicKey).mp verifies⟩
  · rintro ⟨notProvider, key, known, trusted, epoch, same⟩
    exact ⟨notProvider, key, known, trusted, epoch, (verified key.publicKey).mpr same⟩

/-- Nothing was applied to a profile without keys. -/
theorem EnrollmentTables.not_applied (tables : EnrollmentTables scheme.objects db)
    (unkeyed : ∀ deviceId, (db.roster profile deviceId).key = none) :
    ∀ row ∈ db.syncAccountMembershipRecords, row.profile = profile →
      row.appliedAt.isSome = false := by
  intro row membership ofProfile
  by_contra applied
  obtain ⟨key, keyMem, sameProfile⟩ :=
    tables.keyed row membership (eq_true_of_ne_false applied)
  exact unkeyed_roster_iff.mp unkeyed key keyMem (sameProfile.trans ofProfile)

/-- The local device is no provider of the profile. -/
def LocalIsMember (profile : String) (db : SlateProfileDatabase) : Prop :=
  (db.roster profile db.localSyncDeviceId).provider = false

/-- The account authority's enrollment is handled exactly where the profile accepts it. -/
theorem handles_authority_iff (lawful : scheme.Lawful)
    (tables : EnrollmentTables scheme.objects db) (member : db.LocalIsMember profile) :
    (∃ application next, db.applyDecodedSyncAccountMembershipRecord scheme.objects
        (authorityEnrollment scheme profile secret) now = .ok (application, next)) ↔
      db.AcceptsAccountAuthority scheme profile secret := by
  have decodes : (authorityEnrollment scheme profile secret).Decodes scheme.objects :=
    decodes_enrollment lawful (.inl rfl)
  have nonempty : (authorityEnrollment scheme profile secret).signedRecord ≠ [] :=
    lawful.signed_ne_nil _
  rw [handled_iff tables.wellStored decodes nonempty]
  constructor
  · rintro ⟨bootstraps | signs, handled⟩
    · have unkeyed := bootstraps.unkeyed
      rcases handled with ⟨row, stored, -, applied⟩ | ⟨untaken, -⟩
      · obtain ⟨membership, ofProfile, -⟩ :=
          (storedRecord_eq_some_iff tables.wellStored).mp stored
        rw [tables.not_applied unkeyed row membership ofProfile] at applied
        cases applied
      · exact .unenrolled unkeyed untaken
    · obtain ⟨notProvider, key, known, trusted, epoch, same⟩ :=
        (signs_enrollment_iff lawful).mp signs
      rcases handled with taken | ⟨-, admits⟩
      · exact .enrolled ⟨key, known, trusted, epoch, same⟩ (.inr notProvider) taken
      · exact absurd ⟨key, known, trusted⟩ (admits.enrolls (.inl rfl))
  · intro accepts
    cases accepts with
    | unenrolled unkeyed untaken =>
        refine ⟨.inl ⟨unkeyed, rfl, rfl, rfl⟩, .inr ⟨untaken, ?_⟩⟩
        refine admits_enrollment_iff.mpr ⟨fun epoch applied => ?_, ?_⟩
        · obtain ⟨row, membership, -⟩ := (mem_epochs_iff tables.wellStored).mp applied
          simp only [appliedMembershipRecords, List.mem_filter, Bool.and_eq_true,
            beq_iff_eq] at membership
          obtain ⟨stored, ⟨ofProfile, -⟩, isApplied⟩ := membership
          rw [tables.not_applied unkeyed row stored ofProfile] at isApplied
          cases isApplied
        · rintro ⟨key, known, -⟩
          cases (unkeyed _).symm.trans known
    | enrolled known notProvider taken =>
        have isMember : (db.roster profile
            defaultProfileSyncAccountAuthorityDeviceId).provider = false := by
          rcases notProvider with isLocal | notProvider
          · rw [← isLocal]
            exact member
          · exact notProvider
        exact ⟨.inr ((signs_enrollment_iff lawful).mpr ⟨isMember, known⟩), .inl taken⟩

/-- What the roster knows of the account authority after its enrollment was handled. -/
theorem knows_authority_of_handled (lawful : scheme.Lawful)
    (tables : EnrollmentTables scheme.objects db) (member : db.LocalIsMember profile)
    {application : SyncAccountMembershipRecordApplication}
    (handled : db.applyDecodedSyncAccountMembershipRecord scheme.objects
      (authorityEnrollment scheme profile secret) now = .ok (application, next)) :
    (next.roster profile defaultProfileSyncAccountAuthorityDeviceId).provider = false ∧
      ∃ key, (next.roster profile defaultProfileSyncAccountAuthorityDeviceId).key = some key ∧
        key.trusted = true ∧ key.membershipEpoch ≤ defaultProfileSyncMembershipEpoch ∧
        key.publicKey = secret.accountAuthorityKey scheme profile := by
  have decodes : (authorityEnrollment scheme profile secret).Decodes scheme.objects :=
    decodes_enrollment lawful (.inl rfl)
  obtain ⟨-, ⟨-, rfl, taken⟩ | ⟨-, -, -, recordApplied⟩⟩ :=
    applyDecoded_outcome tables.wellStored decodes handled
  · cases (handles_authority_iff lawful tables member).mp ⟨application, _, handled⟩ with
    | unenrolled unkeyed untaken =>
        obtain ⟨row, stored, -, applied⟩ := taken
        rw [(untaken row stored).2] at applied
        cases applied
    | enrolled known notProvider _ =>
        refine ⟨?_, known⟩
        rcases notProvider with isLocal | notProvider
        · rw [← isLocal]
          exact member
        · exact notProvider
  · have roster : next.roster profile =
        (db.roster profile).after (authorityEnrollment scheme profile secret) :=
      recordApplied.roster
    have own : (db.roster profile).after (authorityEnrollment scheme profile secret)
        defaultProfileSyncAccountAuthorityDeviceId = _ := Roster.after_self _ _
    rw [roster, own]
    exact ⟨rfl, _, rfl, rfl, le_refl _, rfl⟩

end Acceptance

section Metadata

/-- What an activation leaves of the membership before it applies a record. -/
structure MetadataActivated (profile : String) (db next : SlateProfileDatabase) : Prop where
  localSyncDeviceId : next.localSyncDeviceId = db.localSyncDeviceId
  syncDevicePublicKeys : next.syncDevicePublicKeys = db.syncDevicePublicKeys
  syncAccountMembershipRecords :
    next.syncAccountMembershipRecords = db.syncAccountMembershipRecords
  provider : ∀ deviceId, (next.roster profile deviceId).provider =
    if db.localSyncDeviceId = deviceId then false else (db.roster profile deviceId).provider

theorem ensureDefaultAppSyncDomains_eq :
    ∃ domains, db.ensureDefaultAppSyncDomains profile now =
      { db with appSyncDomains := domains } := by
  unfold ensureDefaultAppSyncDomains
  generalize defaultAppSyncDomains = seeds
  induction seeds generalizing db with
  | nil => exact ⟨db.appSyncDomains, rfl⟩
  | cons seed rest inductionHypothesis =>
      obtain ⟨domains, same⟩ :=
        @inductionHypothesis (seedDefaultAppSyncDomain profile now db seed)
      exact ⟨domains, by rw [List.foldl_cons, same]; rfl⟩

theorem exists_registerSyncContentKeyEpoch
    {registration : SyncContentKeyEpochRegistration}
    (valid : isValidSyncIdentifier registration.keyId) :
    ∃ record epochs, db.registerSyncContentKeyEpoch registration now =
      .ok (record, { db with syncContentKeyEpochs := epochs }) := by
  have found (rows : SlateProfileDatabase) : ∃ record,
      Rows.lookup contentKeyEpochKey (registration.profile, registration.keyId)
        (rows.putSyncContentKeyEpoch registration now).syncContentKeyEpochs = some record := by
    have looked : Rows.lookup contentKeyEpochKey (registration.profile, registration.keyId)
        (rows.putSyncContentKeyEpoch registration now).syncContentKeyEpochs =
          if (registration.profile, registration.keyId) =
            (registration.profile, registration.keyId) then some _ else _ :=
      Rows.lookup_upsert (fun _ same => same) rows.syncContentKeyEpochs
    rw [looked, if_pos rfl]
    exact ⟨_, rfl⟩
  unfold registerSyncContentKeyEpoch
  simp only [valid, Bool.not_true, Bool.false_eq_true, if_false]
  by_cases active : registration.active
  · obtain ⟨record, isFound⟩ :=
      found (db.deactivateSyncContentKeyEpochs registration.profile now)
    simp only [active, if_true, isFound]
    exact ⟨record, _, rfl⟩
  · obtain ⟨record, isFound⟩ := found db
    simp only [active, Bool.false_eq_true, if_false, isFound]
    exact ⟨record, _, rfl⟩

theorem activateMetadata_eq_ok (keyId : String) (membershipEpoch : Int)
    (valid : isValidSyncIdentifier keyId) :
    ∃ contentKeyEpoch next,
      (activateLocalProfileSyncMetadataWithKey profile keyId membershipEpoch now).run db =
        .ok { profile, deviceId := db.localSyncDeviceId, contentKeyEpoch } next ∧
      MetadataActivated profile db next := by
  have looked (deviceId : String) : Rows.lookup deviceKey (profile, deviceId)
      (db.registerSyncDevice
        { profile, deviceId := db.localSyncDeviceId, label := some "Local Device"
          membershipEpoch, providerAuthority := false } now).syncDevices =
        if (profile, db.localSyncDeviceId) = (profile, deviceId) then _
        else Rows.lookup deviceKey (profile, deviceId) db.syncDevices :=
    Rows.lookup_upsert (fun _ same => same) db.syncDevices
  unfold activateLocalProfileSyncMetadataWithKey
  simp only [EStateM.run_bind, EStateM.run_get, EStateM.run_modify]
  obtain ⟨domains, seeded⟩ := @ensureDefaultAppSyncDomains_eq profile (db.registerSyncDevice
    { profile, deviceId := db.localSyncDeviceId, label := some "Local Device"
      membershipEpoch, providerAuthority := false } now) now
  rw [seeded]
  obtain ⟨contentKeyEpoch, epochs, registered⟩ := @exists_registerSyncContentKeyEpoch
    { db.registerSyncDevice
        { profile, deviceId := db.localSyncDeviceId, label := some "Local Device"
          membershipEpoch, providerAuthority := false } now with appSyncDomains := domains } now
    { profile, keyId, membershipEpoch
      algorithm := profileSyncContentKeyAlgorithmChacha20Poly1305, active := true } valid
  rw [statement_eq_ok_iff.mpr registered]
  refine ⟨contentKeyEpoch, _, rfl, rfl, rfl, rfl, fun deviceId => ?_⟩
  change (Rows.lookup deviceKey (profile, deviceId) (db.registerSyncDevice _ now).syncDevices
    ).any (·.providerAuthority) = _
  rw [looked]
  simp only [Prod.mk.injEq, true_and]
  split
  · cases Rows.lookup deviceKey (profile, deviceId) db.syncDevices <;> rfl
  · rfl

namespace MetadataActivated

variable (activated : MetadataActivated profile db next)
include activated

theorem roster_key (other deviceId : String) :
    (next.roster other deviceId).key = (db.roster other deviceId).key := by
  simp only [roster, standing, activated.syncDevicePublicKeys]

theorem roster_epochs (other deviceId : String) :
    (next.roster other deviceId).epochs = (db.roster other deviceId).epochs := by
  simp only [roster, standing, storedRecord, activated.syncAccountMembershipRecords]

theorem taken_iff : Taken decoded next ↔ Taken decoded db := by
  simp only [Taken, storedRecord, activated.syncAccountMembershipRecords]

theorem untaken_iff : Untaken decoded next ↔ Untaken decoded db := by
  simp only [Untaken, storedRecord, activated.syncAccountMembershipRecords]

theorem accountAuthorityKey_eq (other : String) :
    next.accountAuthorityKey other = db.accountAuthorityKey other := by
  simp only [accountAuthorityKey, activated.syncDevicePublicKeys]

theorem tables {objects : SyncObjectScheme} (before : EnrollmentTables objects db) :
    EnrollmentTables objects next where
  wellStored :=
    ⟨activated.syncAccountMembershipRecords ▸ before.wellStored.unique,
      activated.syncAccountMembershipRecords ▸ before.wellStored.rows⟩
  keyed := by
    rw [activated.syncAccountMembershipRecords, activated.syncDevicePublicKeys]
    exact before.keyed
  device := activated.localSyncDeviceId ▸ before.device

theorem acceptsDevice_iff {signer : ProfileSyncDeviceSigner} :
    next.AcceptsDevice scheme profile secret signer ↔
      db.AcceptsDevice scheme profile secret signer := by
  simp only [AcceptsDevice, activated.taken_iff, activated.untaken_iff, activated.roster_epochs,
    Standing.HasTrustedKey, activated.roster_key]

theorem localIsMember : next.LocalIsMember profile := by
  rw [LocalIsMember, activated.provider, activated.localSyncDeviceId, if_pos rfl]

theorem acceptsAccountAuthority_iff :
    next.AcceptsAccountAuthority scheme profile secret ↔
      db.AcceptsAccountAuthority scheme profile secret := by
  have sameProvider : (next.localSyncDeviceId = defaultProfileSyncAccountAuthorityDeviceId ∨
      (next.roster profile defaultProfileSyncAccountAuthorityDeviceId).provider = false) ↔
      (db.localSyncDeviceId = defaultProfileSyncAccountAuthorityDeviceId ∨
        (db.roster profile defaultProfileSyncAccountAuthorityDeviceId).provider = false) := by
    rw [activated.localSyncDeviceId, activated.provider]
    by_cases isLocal : db.localSyncDeviceId = defaultProfileSyncAccountAuthorityDeviceId
    · simp [isLocal]
    · simp [isLocal]
  constructor
  · intro accepts
    cases accepts with
    | unenrolled unkeyed untaken =>
        simp only [activated.roster_key] at unkeyed
        exact .unenrolled unkeyed (activated.untaken_iff.mp untaken)
    | enrolled known notProvider taken =>
        rw [activated.roster_key] at known
        exact .enrolled known (sameProvider.mp notProvider) (activated.taken_iff.mp taken)
  · intro accepts
    cases accepts with
    | unenrolled unkeyed untaken =>
        refine .unenrolled (fun deviceId => ?_) (activated.untaken_iff.mpr untaken)
        rw [activated.roster_key]
        exact unkeyed deviceId
    | enrolled known notProvider taken =>
        refine .enrolled ?_ (sameProvider.mpr notProvider) (activated.taken_iff.mpr taken)
        rw [activated.roster_key]
        exact known

end MetadataActivated

end Metadata

section Devices

variable {signer : ProfileSyncDeviceSigner} {recordKind : String}

theorem signedEnrollDeviceRecord_of_valid (valid : isValidSyncIdentifier deviceId = true) :
    signedEnrollDeviceRecord scheme profile secret defaultProfileSyncMembershipEpoch deviceId =
      .ok (secret.enrollment scheme profile recordKindEnrollDevice
        (secret.deviceSigner scheme profile defaultProfileSyncMembershipEpoch deviceId
          valid)).signedRecord := by
  unfold signedEnrollDeviceRecord
  rw [SlateSyncSecret.deriveProfileSyncDeviceSigner_of_valid secret
    SlateSyncSecret.isValidSyncIdentifier_accountAuthority,
    SlateSyncSecret.deriveProfileSyncDeviceSigner_of_valid secret valid]
  rfl

/-- Enrolling a device is one statement. -/
theorem enrollDerivedDevice_of_valid (valid : isValidSyncIdentifier deviceId = true) :
    enrollDerivedDevice scheme profile secret defaultProfileSyncMembershipEpoch deviceId now =
      statement (applySignedSyncAccountMembershipRecord scheme
        (secret.enrollment scheme profile recordKindEnrollDevice
          (secret.deviceSigner scheme profile defaultProfileSyncMembershipEpoch deviceId
            valid)).signedRecord now) := by
  unfold enrollDerivedDevice
  rw [signedEnrollDeviceRecord_of_valid valid]
  rfl

/-- Where the secret's account authority is known, a device is enrolled exactly where it is
accepted. -/
theorem handles_device_iff (lawful : scheme.Lawful) (tables : EnrollmentTables scheme.objects db)
    (knows : (db.roster profile).Signs scheme.objects
      (secret.enrollment scheme profile recordKindEnrollDevice signer)) :
    (∃ application next, db.applyDecodedSyncAccountMembershipRecord scheme.objects
        (secret.enrollment scheme profile recordKindEnrollDevice signer) now =
      .ok (application, next)) ↔ db.AcceptsDevice scheme profile secret signer := by
  rw [handled_iff tables.wellStored (decodes_enrollment lawful (.inl rfl))
    (lawful.signed_ne_nil _), AcceptsDevice, ← admits_enrollment_iff]
  exact and_iff_right (.inr knows)

/-- The account authority's enrollment decides nothing about other devices. -/
theorem acceptsDevice_after_authority (lawful : scheme.Lawful)
    (tables : EnrollmentTables scheme.objects db)
    (other : defaultProfileSyncAccountAuthorityDeviceId ≠ signer.deviceId)
    {application : SyncAccountMembershipRecordApplication}
    (handled : db.applyDecodedSyncAccountMembershipRecord scheme.objects
      (authorityEnrollment scheme profile secret) now = .ok (application, next)) :
    next.AcceptsDevice scheme profile secret signer ↔
      db.AcceptsDevice scheme profile secret signer := by
  obtain ⟨-, ⟨-, rfl, -⟩ | ⟨-, -, -, recordApplied⟩⟩ := applyDecoded_outcome tables.wellStored
    (decodes_enrollment lawful (.inl rfl)) handled
  · rfl
  have otherRecord : (profile, profileSyncEnrollDeviceRecordId defaultProfileSyncMembershipEpoch
      defaultProfileSyncAccountAuthorityDeviceId) ≠
      (profile, profileSyncEnrollDeviceRecordId defaultProfileSyncMembershipEpoch
        signer.deviceId) := by
    intro same
    have sameId := (Prod.mk.inj same).2
    exact other ((String.append_right_inj _).mp sameId)
  have sameRow :
      next.storedRecord
          (secret.enrollment scheme profile recordKindEnrollDevice signer).record.profile
          (secret.enrollment scheme profile recordKindEnrollDevice signer).record.recordId =
        db.storedRecord
          (secret.enrollment scheme profile recordKindEnrollDevice signer).record.profile
          (secret.enrollment scheme profile recordKindEnrollDevice signer).record.recordId :=
    recordApplied.otherRows _ _ otherRecord
  have sameRoster : next.roster profile signer.deviceId = db.roster profile signer.deviceId := by
    have roster : next.roster profile =
        (db.roster profile).after (authorityEnrollment scheme profile secret) :=
      recordApplied.roster
    rw [roster]
    exact Roster.after_of_ne other
  have sameTaken : Taken (secret.enrollment scheme profile recordKindEnrollDevice signer) next ↔
      Taken (secret.enrollment scheme profile recordKindEnrollDevice signer) db := by
    rw [Taken, Taken, sameRow]
  have sameUntaken :
      Untaken (secret.enrollment scheme profile recordKindEnrollDevice signer) next ↔
        Untaken (secret.enrollment scheme profile recordKindEnrollDevice signer) db := by
    rw [Untaken, Untaken, sameRow]
  rw [AcceptsDevice, AcceptsDevice, sameTaken, sameUntaken, sameRoster]

/-- An enrollment keeps the tables, and an authority that is trusted. -/
theorem keeps_enrollment (lawful : scheme.Lawful)
    (enrolls : recordKind = recordKindEnrollDevice ∨ recordKind = recordKindEnrollProvider) :
    Keeps (EnrollmentTables scheme.objects) (statement
      (applySignedSyncAccountMembershipRecord scheme
        (secret.enrollment scheme profile recordKind signer).signedRecord now)) := by
  have decodes : (secret.enrollment scheme profile recordKind signer).Decodes scheme.objects :=
    decodes_enrollment lawful enrolls
  apply keeps_statement
  intro state application next applied tables
  exact tables.applyDecoded decodes ((applySigned_eq_ok_iff decodes).mp applied)

theorem keeps_authority_enrollment (lawful : scheme.Lawful) {other : String}
    {key : ProfileSyncDevicePublicKey}
    (enrolls : recordKind = recordKindEnrollDevice ∨ recordKind = recordKindEnrollProvider) :
    Keeps (TrustsAuthority scheme.objects other key) (statement
      (applySignedSyncAccountMembershipRecord scheme
        (secret.enrollment scheme profile recordKind signer).signedRecord now)) := by
  have decodes : (secret.enrollment scheme profile recordKind signer).Decodes scheme.objects :=
    decodes_enrollment lawful enrolls
  apply keeps_statement
  intro state application next applied trusts
  have handled := (applySigned_eq_ok_iff decodes).mp applied
  refine ⟨trusts.tables.applyDecoded decodes handled,
    accountAuthorityKey_applyDecoded trusts.tables decodes trusts.trusted handled ?_⟩
  intro _ displaces
  have kind : recordKind = recordKindRevokeDevice ∨ recordKind = recordKindRotateDeviceKey :=
    displaces.kind.imp id And.left
  rcases enrolls with rfl | rfl <;> rcases kind with kind | kind <;> exact absurd kind (by decide)

end Devices

section Activation

/-- The database accepts the secret: its account authority, and the local device's key. -/
structure AcceptsSecret (scheme : SyncSecretScheme) (profile : String)
    (secret : SlateSyncSecret) (db : SlateProfileDatabase) : Prop where
  authority : db.AcceptsAccountAuthority scheme profile secret
  device : db.localSyncDeviceId ≠ defaultProfileSyncAccountAuthorityDeviceId →
    ∀ signer, secret.deriveProfileSyncDeviceSigner scheme profile db.localSyncDeviceId
      defaultProfileSyncMembershipEpoch = .ok signer →
        db.AcceptsDevice scheme profile secret signer

/-- The second part of an activation: the account authority's enrollment, and the local
device's unless that is the account authority. -/
def enrollments (scheme : SyncSecretScheme) (profile : String) (secret : SlateSyncSecret)
    (localSyncDeviceId : String) (contentKeyEpoch : SyncContentKeyEpochRecord) (now : Int) :
    EStateM StorageError SlateProfileDatabase ProfileSyncLocalSecretActivationRecord := do
  let authority ← statement (applySignedSyncAccountMembershipRecord scheme
    (authorityEnrollment scheme profile secret).signedRecord now)
  let device ← enrollLocalDevice scheme profile secret defaultProfileSyncMembershipEpoch
    localSyncDeviceId now
  pure
    { activation := { profile, deviceId := localSyncDeviceId, contentKeyEpoch }
      accountAuthorityDeviceId := defaultProfileSyncAccountAuthorityDeviceId
      localDeviceId := localSyncDeviceId, membershipApplications := authority :: device }

/-- An activation registers the metadata and then applies the enrollments. -/
theorem activation_eq :
    ∃ contentKeyEpoch activated, MetadataActivated profile db activated ∧
      (activateLocalProfileSyncFromSecret scheme profile secret now).run db =
        (enrollments scheme profile secret db.localSyncDeviceId contentKeyEpoch now).run
          activated := by
  have validKey : isValidSyncIdentifier defaultProfileSyncContentKeyId := by decide +kernel
  obtain ⟨contentKeyEpoch, activated, metadata, same⟩ := @activateMetadata_eq_ok profile db now
    defaultProfileSyncContentKeyId defaultProfileSyncMembershipEpoch validKey
  refine ⟨contentKeyEpoch, activated, same, ?_⟩
  unfold activateLocalProfileSyncFromSecret activateLocalProfileSyncFromSecretWithKey
  rw [EStateM.run_bind, metadata]
  simp only
  rw [enrollDerivedDevice_of_valid SlateSyncSecret.isValidSyncIdentifier_accountAuthority]
  rfl

variable {activation : ProfileSyncLocalSecretActivationRecord}

/-- Where the account authority is known, the local device is enrolled exactly where it is
accepted. -/
theorem enrollLocalDevice_succeeds_iff (lawful : scheme.Lawful)
    (tables : EnrollmentTables scheme.objects db)
    (valid : isValidSyncIdentifier deviceId = true)
    (knows : ∀ signer, (db.roster profile).Signs scheme.objects
      (secret.enrollment scheme profile recordKindEnrollDevice signer)) :
    (∃ applications next, (enrollLocalDevice scheme profile secret
        defaultProfileSyncMembershipEpoch deviceId now).run db = .ok applications next) ↔
      (deviceId ≠ defaultProfileSyncAccountAuthorityDeviceId →
        db.AcceptsDevice scheme profile secret
          (secret.deviceSigner scheme profile defaultProfileSyncMembershipEpoch deviceId
            valid)) := by
  unfold enrollLocalDevice
  by_cases different : deviceId ≠ defaultProfileSyncAccountAuthorityDeviceId
  · rw [if_pos different, enrollDerivedDevice_of_valid valid]
    simp only [run_bind_eq_ok_iff, statement_eq_ok_iff,
      applySigned_eq_ok_iff (decodes_enrollment lawful (.inl rfl))]
    rw [imp_iff_right different,
      ← @handles_device_iff scheme profile secret db now _ lawful tables (knows _)]
    constructor
    · rintro ⟨applications, next, application, after, handled, -⟩
      exact ⟨application, after, handled⟩
    · rintro ⟨application, after, handled⟩
      exact ⟨[application], after, application, after, handled, rfl⟩
  · rw [if_neg different]
    exact iff_of_true ⟨[], db, rfl⟩ (fun contrary => absurd contrary different)

/-- A database is activated with exactly the secrets that it accepts. -/
theorem activation_succeeds_iff (lawful : scheme.Lawful)
    (tables : EnrollmentTables scheme.objects db) :
    (∃ activation next,
      (activateLocalProfileSyncFromSecret scheme profile secret now).run db =
        .ok activation next) ↔ db.AcceptsSecret scheme profile secret := by
  obtain ⟨contentKeyEpoch, activated, metadata, same⟩ :=
    @activation_eq scheme profile secret db now
  have activatedTables := metadata.tables tables
  have decodes : (authorityEnrollment scheme profile secret).Decodes scheme.objects :=
    decodes_enrollment lawful (.inl rfl)
  have accepted : db.AcceptsSecret scheme profile secret ↔
      db.AcceptsAccountAuthority scheme profile secret ∧
        (db.localSyncDeviceId ≠ defaultProfileSyncAccountAuthorityDeviceId →
          db.AcceptsDevice scheme profile secret (secret.deviceSigner scheme profile
            defaultProfileSyncMembershipEpoch db.localSyncDeviceId tables.device)) := by
    have derived := @SlateSyncSecret.deriveProfileSyncDeviceSigner_of_valid scheme profile
      db.localSyncDeviceId defaultProfileSyncMembershipEpoch secret tables.device
    constructor
    · rintro ⟨authority, device⟩
      exact ⟨authority, fun different => device different _ derived⟩
    · rintro ⟨authority, device⟩
      refine ⟨authority, fun different signer isSigner => ?_⟩
      obtain rfl := Except.ok.inj (derived.symm.trans isSigner)
      exact device different
  -- What the local device needs is decided before the account authority is enrolled.
  have deviceAfter {application : SyncAccountMembershipRecordApplication}
      {middle : SlateProfileDatabase}
      (handled : activated.applyDecodedSyncAccountMembershipRecord scheme.objects
        (authorityEnrollment scheme profile secret) now = .ok (application, middle)) :
      (∃ applications last, (enrollLocalDevice scheme profile secret
        defaultProfileSyncMembershipEpoch db.localSyncDeviceId now).run middle =
          .ok applications last) ↔
      (db.localSyncDeviceId ≠ defaultProfileSyncAccountAuthorityDeviceId →
        db.AcceptsDevice scheme profile secret (secret.deviceSigner scheme profile
          defaultProfileSyncMembershipEpoch db.localSyncDeviceId tables.device)) := by
    have knows (signer : ProfileSyncDeviceSigner) : (middle.roster profile).Signs scheme.objects
        (secret.enrollment scheme profile recordKindEnrollDevice signer) :=
      (signs_enrollment_iff lawful).mpr
        (knows_authority_of_handled lawful activatedTables metadata.localIsMember handled)
    rw [enrollLocalDevice_succeeds_iff lawful (activatedTables.applyDecoded decodes handled)
      tables.device knows]
    refine forall_congr' fun different => ?_
    rw [acceptsDevice_after_authority lawful activatedTables (Ne.symm different) handled,
      metadata.acceptsDevice_iff]
  rw [same, accepted, ← metadata.acceptsAccountAuthority_iff,
    ← handles_authority_iff lawful activatedTables metadata.localIsMember]
  unfold enrollments
  simp only [run_bind_eq_ok_iff, statement_eq_ok_iff, applySigned_eq_ok_iff decodes]
  constructor
  · rintro ⟨activation, next, authority, middle, handled, device, last, enrolled, -⟩
    exact ⟨⟨authority, middle, handled⟩, (deviceAfter handled).mp ⟨device, last, enrolled⟩⟩
  · rintro ⟨⟨authority, middle, handled⟩, device⟩
    obtain ⟨applications, last, enrolled⟩ := (deviceAfter handled).mpr device
    exact ⟨_, last, authority, middle, handled, applications, last, enrolled, rfl⟩

end Activation

end SlateProfileDatabase

end Slate.Storage
