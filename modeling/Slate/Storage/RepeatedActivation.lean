import Slate.Storage.SecretHandoff

/-!
# Activating twice

An activation registers the same rows each time, and an enrollment that was applied is met again
as a duplicate. Whatever the first activation leaves, the second one leaves as it is, except for
time stamps.
-/

namespace Slate.Storage

open Slate.Foundation

namespace SlateProfileDatabase

variable {scheme : SyncSecretScheme} {db next : SlateProfileDatabase} {profile : String}
  {secret : SlateSyncSecret} {decoded : DecodedMembershipRecord} {now : Int}

/-- What an activation registers is there. -/
structure Activated (profile : String) (db : SlateProfileDatabase) : Prop where
  device : ∃ device, Rows.lookup deviceKey (profile, db.localSyncDeviceId) db.syncDevices =
      some device ∧ device.label = some "Local Device" ∧
    device.membershipEpoch = defaultProfileSyncMembershipEpoch ∧ device.providerAuthority = false
  domains : ∀ seed ∈ defaultAppSyncDomains, ∃ domain,
    Rows.lookup appSyncDomainKey (profile, seed.domain) db.appSyncDomains = some domain ∧
      domain.schemaVersion = seed.schemaVersion ∧
      domain.privacyClassification = seed.privacyClassification ∧
      domain.syncContent = seed.syncContent
  contentKey : ∃ record, Rows.lookup contentKeyEpochKey (profile, defaultProfileSyncContentKeyId)
      db.syncContentKeyEpochs = some record ∧
    record.membershipEpoch = defaultProfileSyncMembershipEpoch ∧
    record.algorithm = profileSyncContentKeyAlgorithmChacha20Poly1305 ∧ record.active = true
  onlyActive : ∀ record ∈ db.syncContentKeyEpochs, record.profile = profile →
    record.active = true → record.keyId = defaultProfileSyncContentKeyId
  unique : Rows.UniqueKeys contentKeyEpochKey db.syncContentKeyEpochs

section Registers

theorem lookup_registerSyncDevice (device : SyncDeviceRegistration) :
    ∃ row, Rows.lookup deviceKey (device.profile, device.deviceId)
        (db.registerSyncDevice device now).syncDevices = some row ∧
      row.label = device.label ∧ row.membershipEpoch = device.membershipEpoch ∧
      row.providerAuthority = device.providerAuthority := by
  have looked : Rows.lookup deviceKey (device.profile, device.deviceId)
      (db.registerSyncDevice device now).syncDevices =
        if (device.profile, device.deviceId) = (device.profile, device.deviceId) then some _
        else _ :=
    Rows.lookup_upsert (fun _ same => same) db.syncDevices
  rw [looked, if_pos rfl]
  refine ⟨_, rfl, ?_⟩
  cases Rows.lookup deviceKey (device.profile, device.deviceId) db.syncDevices with
  | none => exact ⟨rfl, rfl, rfl⟩
  | some existing => exact ⟨rfl, rfl, rfl⟩

theorem lookup_seedDefaultAppSyncDomain_self (seed : DefaultAppSyncDomain) :
    ∃ domain, Rows.lookup appSyncDomainKey (profile, seed.domain)
        (db.seedDefaultAppSyncDomain profile now seed).appSyncDomains = some domain ∧
      domain.schemaVersion = seed.schemaVersion ∧
      domain.privacyClassification = seed.privacyClassification ∧
      domain.syncContent = seed.syncContent := by
  have looked : Rows.lookup appSyncDomainKey (profile, seed.domain)
      (db.seedDefaultAppSyncDomain profile now seed).appSyncDomains =
        if (profile, seed.domain) = (profile, seed.domain) then some _ else _ :=
    Rows.lookup_upsert (fun _ same => same) db.appSyncDomains
  rw [looked, if_pos rfl]
  refine ⟨_, rfl, ?_⟩
  cases Rows.lookup appSyncDomainKey (profile, seed.domain) db.appSyncDomains with
  | none => exact ⟨rfl, rfl, rfl⟩
  | some existing => exact ⟨rfl, rfl, rfl⟩

theorem lookup_seeds_of_not_mem {domain : String} {seeds : List DefaultAppSyncDomain}
    (absent : domain ∉ seeds.map (·.domain)) :
    Rows.lookup appSyncDomainKey (profile, domain)
        (seeds.foldl (seedDefaultAppSyncDomain profile now) db).appSyncDomains =
      Rows.lookup appSyncDomainKey (profile, domain) db.appSyncDomains := by
  induction seeds generalizing db with
  | nil => rfl
  | cons seed rest inductionHypothesis =>
      rw [List.map_cons, List.mem_cons, not_or] at absent
      have looked : Rows.lookup appSyncDomainKey (profile, domain)
          (db.seedDefaultAppSyncDomain profile now seed).appSyncDomains =
            if (profile, seed.domain) = (profile, domain) then some _
            else Rows.lookup appSyncDomainKey (profile, domain) db.appSyncDomains :=
        Rows.lookup_upsert (fun _ same => same) db.appSyncDomains
      rw [List.foldl_cons, inductionHypothesis absent.2, looked, if_neg]
      intro same
      exact absent.1 (Prod.mk.inj same).2.symm

/-- Each seeded domain has the seed's values. -/
theorem lookup_seeds {seeds : List DefaultAppSyncDomain}
    (names : (seeds.map (·.domain)).Nodup) : ∀ seed ∈ seeds, ∃ domain,
      Rows.lookup appSyncDomainKey (profile, seed.domain)
        (seeds.foldl (seedDefaultAppSyncDomain profile now) db).appSyncDomains = some domain ∧
      domain.schemaVersion = seed.schemaVersion ∧
      domain.privacyClassification = seed.privacyClassification ∧
      domain.syncContent = seed.syncContent := by
  induction seeds generalizing db with
  | nil =>
      intro seed membership
      cases membership
  | cons first rest inductionHypothesis =>
      obtain ⟨fresh, restNames⟩ := List.nodup_cons.mp names
      intro seed membership
      rw [List.foldl_cons]
      rcases List.mem_cons.mp membership with rfl | inRest
      · rw [lookup_seeds_of_not_mem fresh]
        exact lookup_seedDefaultAppSyncDomain_self seed
      · exact inductionHypothesis restNames seed inRest

theorem mem_putActive {registration : SyncContentKeyEpochRegistration}
    {record : SyncContentKeyEpochRecord}
    (membership : record ∈ ((db.deactivateSyncContentKeyEpochs registration.profile
      now).putSyncContentKeyEpoch registration now).syncContentKeyEpochs)
    (ofProfile : record.profile = registration.profile) (active : record.active = true) :
    record.keyId = registration.keyId := by
  rcases Rows.mem_upsert membership with old | rfl | ⟨existing, -, same, rfl⟩
  · obtain ⟨previous, -, rfl⟩ := List.mem_map.mp old
    split at active
    · cases active
    · rename_i other
      split at ofProfile
      · rename_i own
        exact absurd own other
      · exact absurd ⟨ofProfile, active⟩ other
  · rfl
  · exact (Prod.mk.inj same).2

theorem lookup_putSyncContentKeyEpoch (registration : SyncContentKeyEpochRegistration) :
    ∃ record, Rows.lookup contentKeyEpochKey (registration.profile, registration.keyId)
        (db.putSyncContentKeyEpoch registration now).syncContentKeyEpochs = some record ∧
      record.membershipEpoch = registration.membershipEpoch ∧
      record.algorithm = registration.algorithm ∧ record.active = registration.active := by
  have looked : Rows.lookup contentKeyEpochKey (registration.profile, registration.keyId)
      (db.putSyncContentKeyEpoch registration now).syncContentKeyEpochs =
        if (registration.profile, registration.keyId) =
          (registration.profile, registration.keyId) then some _ else _ :=
    Rows.lookup_upsert (fun _ same => same) db.syncContentKeyEpochs
  rw [looked, if_pos rfl]
  refine ⟨_, rfl, ?_⟩
  cases Rows.lookup contentKeyEpochKey (registration.profile, registration.keyId)
      db.syncContentKeyEpochs with
  | none => exact ⟨rfl, rfl, rfl⟩
  | some existing => exact ⟨rfl, rfl, rfl⟩

theorem unique_putActive {registration : SyncContentKeyEpochRegistration}
    (unique : Rows.UniqueKeys contentKeyEpochKey db.syncContentKeyEpochs) :
    Rows.UniqueKeys contentKeyEpochKey ((db.deactivateSyncContentKeyEpochs profile
      now).putSyncContentKeyEpoch registration now).syncContentKeyEpochs := by
  apply Rows.uniqueKeys_upsert
  · exact fun _ same => same
  · apply Rows.uniqueKeys_map
    · intro record
      split <;> rfl
    · exact unique

/-- Registering the metadata leaves it registered. -/
theorem activated_putDefaultActivation
    (unique : Rows.UniqueKeys contentKeyEpochKey db.syncContentKeyEpochs) :
    Activated profile (db.putDefaultActivation profile now) := by
  obtain ⟨domains, seeded⟩ := @ensureDefaultAppSyncDomains_eq profile (db.registerSyncDevice
    { profile, deviceId := db.localSyncDeviceId, label := some "Local Device"
      membershipEpoch := defaultProfileSyncMembershipEpoch, providerAuthority := false } now) now
  have isSeeded := @lookup_seeds (db.registerSyncDevice
    { profile, deviceId := db.localSyncDeviceId, label := some "Local Device"
      membershipEpoch := defaultProfileSyncMembershipEpoch, providerAuthority := false } now)
    profile now defaultAppSyncDomains (by decide +kernel)
  constructor
  · unfold putDefaultActivation putLocalActivation
    rw [seeded]
    exact @lookup_registerSyncDevice db now
      { profile, deviceId := db.localSyncDeviceId, label := some "Local Device"
        membershipEpoch := defaultProfileSyncMembershipEpoch, providerAuthority := false }
  · exact isSeeded
  · exact @lookup_putSyncContentKeyEpoch _ now
      { profile, keyId := defaultProfileSyncContentKeyId
        membershipEpoch := defaultProfileSyncMembershipEpoch
        algorithm := profileSyncContentKeyAlgorithmChacha20Poly1305, active := true }
  · intro record membership ofProfile active
    exact mem_putActive membership ofProfile active
  · apply unique_putActive
    rw [seeded]
    exact unique

end Registers

section Repeats

theorem registerSyncDevice_untimed_eq_self {registration : SyncDeviceRegistration}
    {device : SyncDeviceRecord}
    (found : Rows.lookup deviceKey (registration.profile, registration.deviceId) db.syncDevices =
      some device)
    (label : device.label = registration.label)
    (epoch : device.membershipEpoch = registration.membershipEpoch)
    (provider : device.providerAuthority = registration.providerAuthority) :
    db.untimed.registerSyncDevice registration 0 = db.untimed := by
  have same : (db.untimed.registerSyncDevice registration 0).syncDevices =
      db.untimed.syncDevices := by
    apply Rows.upsert_eq_self
    · apply (Rows.lookup_map (fun _ => ?_) db.syncDevices).trans (congrArg (Option.map _) found)
      rfl
    · simp only [SyncDeviceRecord.untimed, ← label, ← epoch, ← provider]
  exact congrArg (fun rows => { db.untimed with syncDevices := rows }) same

theorem seedDefaultAppSyncDomain_untimed_eq_self {seed : DefaultAppSyncDomain}
    {domain : AppSyncDomainRecord}
    (found : Rows.lookup appSyncDomainKey (profile, seed.domain) db.appSyncDomains = some domain)
    (schema : domain.schemaVersion = seed.schemaVersion)
    (privacy : domain.privacyClassification = seed.privacyClassification)
    (content : domain.syncContent = seed.syncContent) :
    db.untimed.seedDefaultAppSyncDomain profile 0 seed = db.untimed := by
  have same : (db.untimed.seedDefaultAppSyncDomain profile 0 seed).appSyncDomains =
      db.untimed.appSyncDomains := by
    apply Rows.upsert_eq_self
    · apply (Rows.lookup_map (fun _ => ?_) db.appSyncDomains).trans
        (congrArg (Option.map _) found)
      rfl
    · simp only [AppSyncDomainRecord.untimed, ← schema, ← privacy, ← content]
  exact congrArg (fun rows => { db.untimed with appSyncDomains := rows }) same

theorem seeds_untimed_eq_self {seeds : List DefaultAppSyncDomain}
    (seeded : ∀ seed ∈ seeds, ∃ domain,
      Rows.lookup appSyncDomainKey (profile, seed.domain) db.appSyncDomains = some domain ∧
        domain.schemaVersion = seed.schemaVersion ∧
        domain.privacyClassification = seed.privacyClassification ∧
        domain.syncContent = seed.syncContent) :
    seeds.foldl (seedDefaultAppSyncDomain profile 0) db.untimed = db.untimed := by
  induction seeds with
  | nil => rfl
  | cons seed rest inductionHypothesis =>
      obtain ⟨domain, found, schema, privacy, content⟩ := seeded seed (List.mem_cons_self ..)
      rw [List.foldl_cons, seedDefaultAppSyncDomain_untimed_eq_self found schema privacy content]
      exact inductionHypothesis fun other membership =>
        seeded other (List.mem_cons_of_mem _ membership)

/-- Registering the metadata again writes nothing but time stamps. -/
theorem untimed_putDefaultActivation_of_activated (activated : Activated profile db) :
    (db.putDefaultActivation profile now).untimed = db.untimed := by
  obtain ⟨device, foundDevice, label, epoch, provider⟩ := activated.device
  obtain ⟨record, foundRecord, keyEpoch, algorithm, active⟩ := activated.contentKey
  rw [untimed_putDefaultActivation]
  unfold putDefaultActivation putLocalActivation
  have registered := @registerSyncDevice_untimed_eq_self db
    { profile, deviceId := db.localSyncDeviceId, label := some "Local Device"
      membershipEpoch := defaultProfileSyncMembershipEpoch, providerAuthority := false } device
    foundDevice label epoch provider
  rw [show db.untimed.localSyncDeviceId = db.localSyncDeviceId from rfl, registered]
  unfold ensureDefaultAppSyncDomains
  rw [seeds_untimed_eq_self activated.domains]
  have sameKeys : ((db.untimed.deactivateSyncContentKeyEpochs profile 0).putSyncContentKeyEpoch
      { profile, keyId := defaultProfileSyncContentKeyId
        membershipEpoch := defaultProfileSyncMembershipEpoch
        algorithm := profileSyncContentKeyAlgorithmChacha20Poly1305, active := true }
      0).syncContentKeyEpochs = db.untimed.syncContentKeyEpochs := by
    apply Rows.upsert_map_eq_self
    · intro row
      split <;> rfl
    · apply Rows.uniqueKeys_map
      · exact fun _ => rfl
      · exact activated.unique
    · apply (Rows.lookup_map (fun _ => ?_) db.syncContentKeyEpochs).trans
        (congrArg (Option.map _) foundRecord)
      rfl
    · have ofProfile : record.profile = profile :=
        congrArg Prod.fst (Rows.mem_of_lookup foundRecord).2
      simp [SyncContentKeyEpochRecord.untimed, ofProfile, keyEpoch, algorithm, active]
    · intro other membership different
      obtain ⟨row, isRow, rfl⟩ := List.mem_map.mp membership
      apply if_neg
      rintro ⟨ofProfile, isActive⟩
      apply different
      exact Prod.ext ofProfile (activated.onlyActive row isRow ofProfile isActive)
  exact congrArg (fun rows => { db.untimed with syncContentKeyEpochs := rows }) sameKeys

end Repeats

section Enrollments

variable {signer : ProfileSyncDeviceSigner}

/-- The tables of domains and content keys are not the membership's. -/
theorem tables_putAppliedMembership (decoded : DecodedMembershipRecord) :
    (db.putAppliedMembership decoded now).localSyncDeviceId = db.localSyncDeviceId ∧
      (db.putAppliedMembership decoded now).appSyncDomains = db.appSyncDomains ∧
      (db.putAppliedMembership decoded now).syncContentKeyEpochs = db.syncContentKeyEpochs := by
  have keyed (record : ProfileSyncMembershipRecord) (state : SlateProfileDatabase) :
      (state.putMembershipKey record now).localSyncDeviceId = state.localSyncDeviceId ∧
        (state.putMembershipKey record now).appSyncDomains = state.appSyncDomains ∧
        (state.putMembershipKey record now).syncContentKeyEpochs =
          state.syncContentKeyEpochs := by
    unfold putMembershipKey
    split
    · cases record.devicePublicKey with
      | none => exact ⟨rfl, rfl, rfl⟩
      | some publicKey => exact ⟨rfl, rfl, rfl⟩
    · exact ⟨rfl, rfl, rfl⟩
  have seen (record : ProfileSyncMembershipRecord) (state : SlateProfileDatabase) :
      (state.recordSyncMembershipDevice record now).localSyncDeviceId =
          state.localSyncDeviceId ∧
        (state.recordSyncMembershipDevice record now).appSyncDomains = state.appSyncDomains ∧
        (state.recordSyncMembershipDevice record now).syncContentKeyEpochs =
          state.syncContentKeyEpochs := by
    unfold recordSyncMembershipDevice
    split
    · exact ⟨rfl, rfl, rfl⟩
    · split
      · exact ⟨rfl, rfl, rfl⟩
      · exact ⟨rfl, rfl, rfl⟩
  obtain ⟨keyedDevice, keyedDomains, keyedKeys⟩ := keyed decoded.record
    (db.insertSyncAccountMembershipRecord decoded.registration now)
  obtain ⟨seenDevice, seenDomains, seenKeys⟩ := seen decoded.record
    ((db.insertSyncAccountMembershipRecord decoded.registration now).putMembershipKey
      decoded.record now)
  exact ⟨seenDevice.trans keyedDevice, seenDomains.trans keyedDomains, seenKeys.trans keyedKeys⟩

/-- The roster entry of a device once it is enrolled. -/
def enrolledDevice (profile deviceId : String) (now : Int) (entry : Option SyncDeviceRecord) :
    SyncDeviceRecord :=
  match entry with
  | none =>
      { profile, deviceId, label := none, membershipEpoch := defaultProfileSyncMembershipEpoch
        providerAuthority := false, createdAt := now, lastSeenAt := now }
  | some device =>
      { device with
        membershipEpoch := defaultProfileSyncMembershipEpoch, providerAuthority := false
        lastSeenAt := now }

/-- An enrollment writes the roster entry of its device. -/
theorem lookup_syncDevices_putEnrollment (key : String × String) :
    Rows.lookup deviceKey key (db.putAppliedMembership
      (secret.enrollment scheme profile recordKindEnrollDevice signer) now).syncDevices =
      if (profile, signer.deviceId) = key then
        some (enrolledDevice profile signer.deviceId now (Rows.lookup deviceKey key db.syncDevices))
      else Rows.lookup deviceKey key db.syncDevices := by
  have written : (db.putAppliedMembership
      (secret.enrollment scheme profile recordKindEnrollDevice signer) now).syncDevices =
      ((db.recordSyncDeviceRosterEntry profile signer.deviceId defaultProfileSyncMembershipEpoch
        now).recordSyncDeviceRosterEntryWithProviderAuthority profile signer.deviceId
          defaultProfileSyncMembershipEpoch false now).syncDevices := by
    unfold putAppliedMembership putMembershipKey recordSyncMembershipDevice
    rw [if_pos (show installsKey (secret.enrollment scheme profile recordKindEnrollDevice
      signer).record.recordKind = true from rfl), if_pos (show (secret.enrollment scheme profile
        recordKindEnrollDevice signer).record.recordKind = recordKindEnrollDevice from rfl)]
    rfl
  have first : Rows.lookup deviceKey key (db.recordSyncDeviceRosterEntry profile signer.deviceId
      defaultProfileSyncMembershipEpoch now).syncDevices =
        if (profile, signer.deviceId) = key then some _
        else Rows.lookup deviceKey key db.syncDevices :=
    Rows.lookup_upsert (fun _ same => same) db.syncDevices
  have second (state : SlateProfileDatabase) : Rows.lookup deviceKey key
      (state.recordSyncDeviceRosterEntryWithProviderAuthority profile signer.deviceId
        defaultProfileSyncMembershipEpoch false now).syncDevices =
        if (profile, signer.deviceId) = key then some _
        else Rows.lookup deviceKey key state.syncDevices :=
    Rows.lookup_upsert (fun _ same => same) state.syncDevices
  rw [written, second, first]
  by_cases own : (profile, signer.deviceId) = key
  · rw [if_pos own, if_pos own, if_pos own]
    cases Rows.lookup deviceKey key db.syncDevices <;> rfl
  · rw [if_neg own, if_neg own, if_neg own]

/-- Enrolling a device at the default epoch keeps what an activation registers. -/
theorem activated_handled {otherProfile : String}
    {application : SyncAccountMembershipRecordApplication} (activated : Activated profile db)
    (handled : db.applyDecodedSyncAccountMembershipRecord scheme.objects
      (secret.enrollment scheme otherProfile recordKindEnrollDevice signer) now =
        .ok (application, next)) : Activated profile next := by
  rcases applyDecoded_state handled with ⟨-, rfl⟩ | ⟨-, rfl⟩
  · exact activated
  obtain ⟨sameDevice, sameDomains, sameKeys⟩ := @tables_putAppliedMembership db now
    (secret.enrollment scheme otherProfile recordKindEnrollDevice signer)
  constructor
  · rw [sameDevice, lookup_syncDevices_putEnrollment]
    obtain ⟨device, found, label, epoch, provider⟩ := activated.device
    rw [found]
    split
    · exact ⟨_, rfl, label, rfl, rfl⟩
    · exact ⟨device, rfl, label, epoch, provider⟩
  · rw [sameDomains]
    exact activated.domains
  · rw [sameKeys]
    exact activated.contentKey
  · rw [sameKeys]
    exact activated.onlyActive
  · rw [sameKeys]
    exact activated.unique

end Enrollments

section Runs

variable {deviceId : String} {contentKeyEpoch : SyncContentKeyEpochRecord}

/-- The record is handled and leaves this database. -/
def Handles (scheme : SyncSecretScheme) (decoded : DecodedMembershipRecord) (now : Int)
    (db next : SlateProfileDatabase) : Prop :=
  ∃ application, db.applyDecodedSyncAccountMembershipRecord scheme.objects decoded now =
    .ok (application, next)

/-- The enrollment of a device with the key that the secret derives for it. -/
def deviceEnrollment (scheme : SyncSecretScheme) (profile : String) (secret : SlateSyncSecret)
    (deviceId : String) (valid : isValidSyncIdentifier deviceId = true) :
    DecodedMembershipRecord :=
  secret.enrollment scheme profile recordKindEnrollDevice
    (secret.deviceSigner scheme profile defaultProfileSyncMembershipEpoch deviceId valid)

theorem statement_enrollment_run (lawful : scheme.Lawful) (signer : ProfileSyncDeviceSigner) :
    (∃ application next, Handles scheme (secret.enrollment scheme profile recordKindEnrollDevice
        signer) now db next ∧
      (statement (applySignedSyncAccountMembershipRecord scheme (secret.enrollment scheme profile
        recordKindEnrollDevice signer).signedRecord now)).run db = .ok application next) ∨
    (¬∃ next, Handles scheme (secret.enrollment scheme profile recordKindEnrollDevice signer) now
        db next) ∧
      ∃ failure, (statement (applySignedSyncAccountMembershipRecord scheme (secret.enrollment
        scheme profile recordKindEnrollDevice signer).signedRecord now)).run db =
          .error failure db := by
  have decodes : (secret.enrollment scheme profile recordKindEnrollDevice signer).Decodes
      scheme.objects := decodes_enrollment lawful (.inl rfl)
  cases applied : applySignedSyncAccountMembershipRecord scheme (secret.enrollment scheme profile
      recordKindEnrollDevice signer).signedRecord now db with
  | ok result =>
      obtain ⟨application, next⟩ := result
      have handled := (applySigned_eq_ok_iff decodes).mp applied
      exact .inl ⟨application, next, ⟨application, handled⟩, statement_eq_ok_iff.mpr applied⟩
  | error failure =>
      refine .inr ⟨?_, failure, by simp [statement, EStateM.run, applied]⟩
      rintro ⟨next, application, handled⟩
      rw [(applySigned_eq_ok_iff decodes).mpr handled] at applied
      cases applied

/-- How the enrollments of an activation end: the account authority is refused, or the local
device is, or both are handled. -/
theorem enrollments_cases (lawful : scheme.Lawful) (valid : isValidSyncIdentifier deviceId = true)
    (db : SlateProfileDatabase) :
    ((¬∃ next, Handles scheme (authorityEnrollment scheme profile secret) now db next) ∧
      ∃ failure, (enrollments scheme profile secret deviceId contentKeyEpoch now).run db =
        .error failure db) ∨
    ∃ middle, Handles scheme (authorityEnrollment scheme profile secret) now db middle ∧
      ((deviceId ≠ defaultProfileSyncAccountAuthorityDeviceId ∧
          (¬∃ next, Handles scheme (deviceEnrollment scheme profile secret deviceId valid) now
            middle next) ∧
          ∃ failure, (enrollments scheme profile secret deviceId contentKeyEpoch now).run db =
            .error failure middle) ∨
        ∃ activation last,
          (enrollments scheme profile secret deviceId contentKeyEpoch now).run db =
            .ok activation last ∧
          (deviceId = defaultProfileSyncAccountAuthorityDeviceId ∧ last = middle ∨
            deviceId ≠ defaultProfileSyncAccountAuthorityDeviceId ∧
              Handles scheme (deviceEnrollment scheme profile secret deviceId valid) now middle
                last)) := by
  unfold enrollments enrollLocalDevice
  rw [EStateM.run_bind]
  rcases @statement_enrollment_run scheme db profile secret now lawful
    (secret.accountAuthoritySigner scheme profile) with
    ⟨authority, middle, handled, ran⟩ | ⟨refused, failure, ran⟩
  · have ranAuthority : (statement (applySignedSyncAccountMembershipRecord scheme
        (authorityEnrollment scheme profile secret).signedRecord now)).run db =
        .ok authority middle := ran
    rw [ranAuthority]
    refine .inr ⟨middle, handled, ?_⟩
    by_cases isAuthority : deviceId = defaultProfileSyncAccountAuthorityDeviceId
    · simp only [if_neg (not_not.mpr isAuthority)]
      exact .inr ⟨_, middle, rfl, .inl ⟨isAuthority, rfl⟩⟩
    · simp only [if_pos isAuthority, enrollDerivedDevice_of_valid valid, EStateM.run_bind]
      rcases @statement_enrollment_run scheme middle profile secret now lawful
        (secret.deviceSigner scheme profile defaultProfileSyncMembershipEpoch deviceId valid) with
        ⟨device, last, handledDevice, ranDevice⟩ | ⟨refusedDevice, failure, ranDevice⟩
      · rw [ranDevice]
        exact .inr ⟨_, last, rfl, .inr ⟨isAuthority, handledDevice⟩⟩
      · rw [ranDevice]
        exact .inl ⟨isAuthority, refusedDevice, failure, rfl⟩
  · have ranAuthority : (statement (applySignedSyncAccountMembershipRecord scheme
        (authorityEnrollment scheme profile secret).signedRecord now)).run db =
        .error failure db := ran
    rw [ranAuthority]
    exact .inl ⟨refused, failure, rfl⟩

/-- The profile trusts the secret's account authority, which is no provider, and its enrollment
is applied. -/
structure Authorized (scheme : SyncSecretScheme) (profile : String) (secret : SlateSyncSecret)
    (db : SlateProfileDatabase) : Prop where
  signs : ∀ signer, (db.roster profile).Signs scheme.objects
    (secret.enrollment scheme profile recordKindEnrollDevice signer)
  taken : Taken (authorityEnrollment scheme profile secret) db

theorem authorized_of_handled (lawful : scheme.Lawful)
    (tables : EnrollmentTables scheme.objects db) (member : db.LocalIsMember profile)
    (handled : Handles scheme (authorityEnrollment scheme profile secret) now db next) :
    next.Authorized scheme profile secret := by
  obtain ⟨application, handled⟩ := handled
  have decodes : (authorityEnrollment scheme profile secret).Decodes scheme.objects :=
    decodes_enrollment lawful (.inl rfl)
  constructor
  · intro signer
    exact (signs_enrollment_iff lawful).mpr (knows_authority_of_handled lawful tables member handled)
  · exact (taken_handled_iff tables decodes decodes handled).mpr (.inr rfl)

/-- The enrollment of another device leaves the account authority as it is. -/
theorem authorized_after_device (lawful : scheme.Lawful)
    (tables : EnrollmentTables scheme.objects db) (authorized : db.Authorized scheme profile secret)
    {signer : ProfileSyncDeviceSigner}
    (other : signer.deviceId ≠ defaultProfileSyncAccountAuthorityDeviceId)
    (handled : Handles scheme (secret.enrollment scheme profile recordKindEnrollDevice signer) now
      db next) : next.Authorized scheme profile secret := by
  obtain ⟨application, handled⟩ := handled
  have decodes : (secret.enrollment scheme profile recordKindEnrollDevice signer).Decodes
      scheme.objects := decodes_enrollment lawful (.inl rfl)
  have sameStanding : next.roster profile defaultProfileSyncAccountAuthorityDeviceId =
      db.roster profile defaultProfileSyncAccountAuthorityDeviceId := by
    obtain ⟨-, ⟨-, rfl, -⟩ | ⟨-, -, -, applied⟩⟩ :=
      applyDecoded_outcome tables.wellStored decodes handled
    · rfl
    · have roster : next.roster profile = (db.roster profile).after
          (secret.enrollment scheme profile recordKindEnrollDevice signer) := applied.roster
      rw [roster]
      exact Roster.after_of_ne other
  constructor
  · intro otherSigner
    obtain ⟨notProvider, known⟩ := authorized.signs otherSigner
    constructor
    · exact (congrArg Standing.provider sameStanding).trans notProvider
    · obtain ⟨key, isKey, trusted⟩ := known
      exact ⟨key, (congrArg Standing.key sameStanding).trans isKey, trusted⟩
  · exact (taken_handled_iff tables decodes (decodes_enrollment lawful (.inl rfl)) handled).mpr
      (.inl authorized.taken)

/-- An enrollment that was applied is met as a duplicate. -/
theorem handles_of_taken (lawful : scheme.Lawful) (tables : EnrollmentTables scheme.objects db)
    (authorized : db.Authorized scheme profile secret) {signer : ProfileSyncDeviceSigner}
    (taken : Taken (secret.enrollment scheme profile recordKindEnrollDevice signer) db) :
    Handles scheme (secret.enrollment scheme profile recordKindEnrollDevice signer) now db db := by
  have decodes : (secret.enrollment scheme profile recordKindEnrollDevice signer).Decodes
      scheme.objects := decodes_enrollment lawful (.inl rfl)
  obtain ⟨application, handled, -⟩ := @exists_applyDecoded_of_taken _ db _ now tables.wellStored
    decodes (.inr (authorized.signs signer)) taken
  exact ⟨application, handled⟩

theorem Authorized.sameAside {other : SlateProfileDatabase}
    (authorized : db.Authorized scheme profile secret)
    (same : SameAside scheme.objects db other) : other.Authorized scheme profile secret := by
  constructor
  · intro signer
    rw [same.roster]
    exact authorized.signs signer
  · exact same.taken_iff.mpr authorized.taken

theorem Handles.unique {last : SlateProfileDatabase} (handled : Handles scheme decoded now db next)
    (again : Handles scheme decoded now db last) : last = next := by
  obtain ⟨application, handled⟩ := handled
  obtain ⟨repeated, again⟩ := again
  exact (Prod.mk.inj (Except.ok.inj (again.symm.trans handled))).2

/-- Where the enrollments were applied, enrolling again leaves the database as it is. -/
theorem enrollments_of_taken (lawful : scheme.Lawful)
    (tables : EnrollmentTables scheme.objects db)
    (authorized : db.Authorized scheme profile secret)
    (valid : isValidSyncIdentifier deviceId = true)
    (device : deviceId ≠ defaultProfileSyncAccountAuthorityDeviceId →
      Taken (deviceEnrollment scheme profile secret deviceId valid) db) :
    ∃ activation, (enrollments scheme profile secret deviceId contentKeyEpoch now).run db =
      .ok activation db := by
  have handled : Handles scheme (authorityEnrollment scheme profile secret) now db db :=
    handles_of_taken lawful tables authorized authorized.taken
  rcases @enrollments_cases scheme profile secret now deviceId contentKeyEpoch lawful valid db with
    ⟨refused, -⟩ | ⟨middle, again, outcome⟩
  · exact absurd ⟨db, handled⟩ refused
  · obtain rfl := handled.unique again
    rcases outcome with ⟨different, refused, -⟩ |
      ⟨activation, last, ran, ⟨-, rfl⟩ | ⟨different, handledDevice⟩⟩
    · exact absurd ⟨_, handles_of_taken lawful tables authorized (device different)⟩ refused
    · exact ⟨activation, ran⟩
    · obtain rfl := (handles_of_taken lawful tables authorized (device different)).unique
        handledDevice
      exact ⟨activation, ran⟩

theorem SameAside.handles {other : SlateProfileDatabase} {later : Int}
    (same : SameAside scheme.objects db other) (decodes : decoded.Decodes scheme.objects) :
    (∃ next, Handles scheme decoded later other next) →
      ∃ next, Handles scheme decoded now db next := by
  rintro ⟨next, application, handled⟩
  have back : SameAside scheme.objects other db := ⟨same.untimed.symm, same.after, same.before⟩
  obtain ⟨application', next', repeated, -⟩ := applyDecoded_simulates decodes back handled
  exact ⟨next', application', repeated⟩

/-- What an activation leaves, the enrollments of another one leave as it is. -/
theorem untimed_enrollments_again (lawful : scheme.Lawful)
    (tables : EnrollmentTables scheme.objects db) (member : db.LocalIsMember profile)
    (valid : isValidSyncIdentifier deviceId = true) {later : Int}
    {laterKeyEpoch : SyncContentKeyEpochRecord} {other : SlateProfileDatabase}
    (same : SameAside scheme.objects
      (stateAfter (enrollments scheme profile secret deviceId contentKeyEpoch now) db) other) :
    stateAfter (enrollments scheme profile secret deviceId laterKeyEpoch later) other = other := by
  have authorityDecodes : (authorityEnrollment scheme profile secret).Decodes scheme.objects :=
    decodes_enrollment lawful (.inl rfl)
  have deviceDecodes : (deviceEnrollment scheme profile secret deviceId valid).Decodes
      scheme.objects := decodes_enrollment lawful (.inl rfl)
  rcases @enrollments_cases scheme profile secret now deviceId contentKeyEpoch lawful valid db with
    ⟨refused, failure, ran⟩ | ⟨middle, handled, outcome⟩
  · -- The account authority is refused again.
    rw [stateAfter_of_error ran] at same
    rcases @enrollments_cases scheme profile secret later deviceId laterKeyEpoch lawful valid other
      with ⟨-, failure, again⟩ | ⟨next, accepted, -⟩
    · exact stateAfter_of_error again
    · exact absurd (same.handles authorityDecodes ⟨next, accepted⟩) refused
  have authorized := authorized_of_handled lawful tables member handled
  have middleTables : EnrollmentTables scheme.objects middle := by
    obtain ⟨application, handled⟩ := handled
    exact tables.applyDecoded authorityDecodes handled
  rcases outcome with ⟨different, refused, failure, ran⟩ |
    ⟨activation, last, ran, ⟨isAuthority, rfl⟩ | ⟨different, handledDevice⟩⟩
  · -- The account authority is met again, and the local device is refused again.
    rw [stateAfter_of_error ran] at same
    have stays : Handles scheme (authorityEnrollment scheme profile secret) later other other :=
      handles_of_taken lawful same.after (authorized.sameAside same)
        (authorized.sameAside same).taken
    rcases @enrollments_cases scheme profile secret later deviceId laterKeyEpoch lawful valid other
      with ⟨refusedAgain, -⟩ | ⟨next, handledAgain, outcome⟩
    · exact absurd ⟨other, stays⟩ refusedAgain
    · obtain rfl := stays.unique handledAgain
      rcases outcome with ⟨-, -, failure, again⟩ |
        ⟨activation, last, -, ⟨isAuthority, -⟩ | ⟨-, accepted⟩⟩
      · exact stateAfter_of_error again
      · exact absurd isAuthority different
      · exact absurd (same.handles deviceDecodes ⟨last, accepted⟩) refused
  · -- The local device is the account authority.
    rw [stateAfter_of_ok ran] at same
    obtain ⟨activation, again⟩ := @enrollments_of_taken scheme other profile secret later deviceId
      laterKeyEpoch lawful same.after (authorized.sameAside same) valid
      (fun different => absurd isAuthority different)
    exact stateAfter_of_ok again
  · -- Both enrollments are met again.
    rw [stateAfter_of_ok ran] at same
    have authorizedLast := authorized_after_device lawful middleTables authorized different
      handledDevice
    obtain ⟨application, handledDevice⟩ := handledDevice
    have taken := (taken_handled_iff middleTables deviceDecodes deviceDecodes handledDevice).mpr
      (.inr rfl)
    obtain ⟨activation, again⟩ := @enrollments_of_taken scheme other profile secret later deviceId
      laterKeyEpoch lawful same.after (authorizedLast.sameAside same) valid
      (fun _ => same.taken_iff.mpr taken)
    exact stateAfter_of_ok again

/-- The enrollments of an activation keep what it registered. -/
theorem activated_enrollments (lawful : scheme.Lawful) (valid : isValidSyncIdentifier deviceId = true)
    (activated : Activated profile db) :
    Activated profile
      (stateAfter (enrollments scheme profile secret deviceId contentKeyEpoch now) db) := by
  rcases @enrollments_cases scheme profile secret now deviceId contentKeyEpoch lawful valid db with
    ⟨-, failure, ran⟩ | ⟨middle, ⟨authority, handled⟩, outcome⟩
  · rw [stateAfter_of_error ran]
    exact activated
  have after := activated_handled activated handled
  rcases outcome with ⟨-, -, failure, ran⟩ |
    ⟨activation, last, ran, ⟨-, rfl⟩ | ⟨-, device, handledDevice⟩⟩
  · rw [stateAfter_of_error ran]
    exact after
  · rw [stateAfter_of_ok ran]
    exact after
  · rw [stateAfter_of_ok ran]
    exact activated_handled after handledDevice

theorem stateAfter_activation_eq (scheme : SyncSecretScheme) (profile : String)
    (secret : SlateSyncSecret) (now : Int) (db : SlateProfileDatabase) :
    ∃ contentKeyEpoch,
      stateAfter (activateLocalProfileSyncFromSecret scheme profile secret now) db =
        stateAfter (enrollments scheme profile secret db.localSyncDeviceId contentKeyEpoch now)
          (db.putDefaultActivation profile now) := by
  obtain ⟨contentKeyEpoch, ran⟩ := activation_run scheme profile secret now db
  refine ⟨contentKeyEpoch, ?_⟩
  unfold stateAfter
  rw [ran]

theorem localSyncDeviceId_enrollments (lawful : scheme.Lawful)
    (valid : isValidSyncIdentifier deviceId = true) (db : SlateProfileDatabase) :
    (stateAfter (enrollments scheme profile secret deviceId contentKeyEpoch now)
      db).localSyncDeviceId = db.localSyncDeviceId := by
  rcases @enrollments_cases scheme profile secret now deviceId contentKeyEpoch lawful valid db with
    ⟨-, failure, ran⟩ | ⟨middle, ⟨authority, handled⟩, outcome⟩
  · rw [stateAfter_of_error ran]
  have first := localSyncDeviceId_applyDecoded handled
  rcases outcome with ⟨-, -, failure, ran⟩ |
    ⟨activation, last, ran, ⟨-, rfl⟩ | ⟨-, device, handledDevice⟩⟩
  · rw [stateAfter_of_error ran, first]
  · rw [stateAfter_of_ok ran, first]
  · rw [stateAfter_of_ok ran, localSyncDeviceId_applyDecoded handledDevice, first]

/-- The local device keeps its id. -/
theorem localSyncDeviceId_activation (lawful : scheme.Lawful)
    (valid : isValidSyncIdentifier db.localSyncDeviceId = true) :
    (stateAfter (activateLocalProfileSyncFromSecret scheme profile secret now)
      db).localSyncDeviceId = db.localSyncDeviceId := by
  obtain ⟨contentKeyEpoch, first⟩ := stateAfter_activation_eq scheme profile secret now db
  rw [first, localSyncDeviceId_enrollments lawful valid]
  exact (metadataActivated_putDefaultActivation profile now db).localSyncDeviceId

/-- What an activation registers stays registered, also where the secret is refused. -/
theorem activated_activation (lawful : scheme.Lawful)
    (valid : isValidSyncIdentifier db.localSyncDeviceId = true)
    (unique : Rows.UniqueKeys contentKeyEpochKey db.syncContentKeyEpochs) :
    Activated profile
      (stateAfter (activateLocalProfileSyncFromSecret scheme profile secret now) db) := by
  obtain ⟨contentKeyEpoch, first⟩ := stateAfter_activation_eq scheme profile secret now db
  rw [first]
  exact activated_enrollments lawful valid (activated_putDefaultActivation unique)

/-- Whatever an activation leaves, a second one leaves it as it is, except for time stamps. -/
theorem activation_idempotent (lawful : scheme.Lawful)
    (tables : EnrollmentTables scheme.objects db)
    (unique : Rows.UniqueKeys contentKeyEpochKey db.syncContentKeyEpochs) (later : Int) :
    (stateAfter (activateLocalProfileSyncFromSecret scheme profile secret later)
      (stateAfter (activateLocalProfileSyncFromSecret scheme profile secret now) db)).untimed =
      (stateAfter (activateLocalProfileSyncFromSecret scheme profile secret now) db).untimed := by
  have metadata := metadataActivated_putDefaultActivation profile now db
  have sameDevice := @localSyncDeviceId_activation scheme db profile secret now lawful tables.device
  have activated := @activated_activation scheme db profile secret now lawful tables.device unique
  have afterTables := (keptByEnrollments_tables lawful).activation profile secret now db tables
  obtain ⟨contentKeyEpoch, first⟩ := stateAfter_activation_eq scheme profile secret now db
  obtain ⟨laterKeyEpoch, second⟩ := stateAfter_activation_eq scheme profile secret later
    (stateAfter (activateLocalProfileSyncFromSecret scheme profile secret now) db)
  rw [second, sameDevice]
  rw [first] at activated afterTables ⊢
  have same : SameAside scheme.objects
      (stateAfter (enrollments scheme profile secret db.localSyncDeviceId contentKeyEpoch now)
        (db.putDefaultActivation profile now)) _ :=
    ⟨@untimed_putDefaultActivation_of_activated _ profile later activated, afterTables,
      (metadataActivated_putDefaultActivation profile later _).tables afterTables⟩
  rw [untimed_enrollments_again lawful (metadata.tables tables) metadata.localIsMember
    tables.device same, same.untimed]

end Runs

end SlateProfileDatabase

end Slate.Storage
