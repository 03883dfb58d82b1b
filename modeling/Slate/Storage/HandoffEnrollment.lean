import Slate.Storage.FreshDatabase
import Slate.Storage.RepeatedActivation

/-!
# Enrolling by a handoff or by the key

A handoff applies the enrollments first and registers the metadata after them, an activation with
the key does it the other way round. On a fresh database both leave the same rows, except for
time stamps and the order of the roster.
-/

namespace Slate.Storage

open Slate.Foundation

namespace SlateProfileDatabase

variable {scheme : SyncSecretScheme} {db next : SlateProfileDatabase} {profile deviceId : String}
  {secret : SlateSyncSecret} {decoded : DecodedMembershipRecord} {now : Int}

section Unenrolled

/-- The local device is no provider of the profile, and there is no key and no record. -/
structure Unenrolled (scheme : SyncSecretScheme) (profile : String)
    (db : SlateProfileDatabase) : Prop where
  tables : EnrollmentTables scheme.objects db
  member : db.LocalIsMember profile
  keys : db.syncDevicePublicKeys = []
  records : db.syncAccountMembershipRecords = []

theorem Unenrolled.untaken (unenrolled : Unenrolled scheme profile db)
    (decoded : DecodedMembershipRecord) : Untaken decoded db := by
  intro row stored
  rw [storedRecord, unenrolled.records] at stored
  cases stored

theorem Unenrolled.unkeyed (unenrolled : Unenrolled scheme profile db) (deviceId : String) :
    (db.roster profile deviceId).key = none := by
  simp only [roster, standing, unenrolled.keys]
  rfl

/-- A record that was not applied before is written. -/
theorem Handles.of_not_taken (tables : EnrollmentTables scheme.objects db)
    (decodes : decoded.Decodes scheme.objects) (notTaken : ¬Taken decoded db)
    (handled : Handles scheme decoded now db next) :
    next = db.putAppliedMembership decoded now := by
  obtain ⟨application, handled⟩ := handled
  rcases applyDecoded_state handled with ⟨-, rfl⟩ | ⟨-, written⟩
  · exact absurd ((taken_handled_iff tables decodes decodes handled).mpr (.inr rfl)) notTaken
  · exact written

theorem handles_authority_of_unenrolled (lawful : scheme.Lawful)
    (unenrolled : Unenrolled scheme profile db) (now : Int) :
    Handles scheme (authorityEnrollment scheme profile secret) now db
      (db.putAppliedMembership (authorityEnrollment scheme profile secret) now) := by
  have untaken := unenrolled.untaken (authorityEnrollment scheme profile secret)
  obtain ⟨application, next, handled⟩ := (@handles_authority_iff scheme profile secret db now
    lawful unenrolled.tables unenrolled.member).mpr (.unenrolled unenrolled.unkeyed untaken)
  obtain rfl := Handles.of_not_taken unenrolled.tables (decodes_enrollment lawful (.inl rfl))
    (fun taken => taken.not_untaken untaken) ⟨application, handled⟩
  exact ⟨application, handled⟩

theorem Unenrolled.acceptsDevice (unenrolled : Unenrolled scheme profile db)
    (signer : ProfileSyncDeviceSigner) : db.AcceptsDevice scheme profile secret signer := by
  refine .inr ⟨unenrolled.untaken _, ?_, ?_⟩
  · intro epoch seen
    simp only [roster, standing, storedRecord, unenrolled.records] at seen
    obtain ⟨recordId, row, stored, -⟩ := seen
    cases stored
  · rintro ⟨key, isKey, -⟩
    rw [unenrolled.unkeyed] at isKey
    cases isKey

theorem handles_device_of_unenrolled (lawful : scheme.Lawful)
    (unenrolled : Unenrolled scheme profile db) {signer : ProfileSyncDeviceSigner}
    (other : signer.deviceId ≠ defaultProfileSyncAccountAuthorityDeviceId) (now : Int) :
    Handles scheme (secret.enrollment scheme profile recordKindEnrollDevice signer) now
      (db.putAppliedMembership (authorityEnrollment scheme profile secret) now)
      ((db.putAppliedMembership (authorityEnrollment scheme profile secret)
        now).putAppliedMembership
          (secret.enrollment scheme profile recordKindEnrollDevice signer) now) := by
  have authority := @handles_authority_of_unenrolled scheme db profile secret lawful unenrolled now
  have authorized := authorized_of_handled lawful unenrolled.tables unenrolled.member authority
  obtain ⟨application, handled⟩ := authority
  have authorityDecodes : (authorityEnrollment scheme profile secret).Decodes scheme.objects :=
    decodes_enrollment lawful (.inl rfl)
  have deviceDecodes : (secret.enrollment scheme profile recordKindEnrollDevice signer).Decodes
      scheme.objects := decodes_enrollment lawful (.inl rfl)
  have tables := unenrolled.tables.applyDecoded authorityDecodes handled
  have accepts := @Unenrolled.acceptsDevice scheme db profile secret unenrolled signer
  rw [← acceptsDevice_after_authority lawful unenrolled.tables (Ne.symm other) handled,
    ← @handles_device_iff scheme profile secret _ now signer lawful tables
      (authorized.signs signer)] at accepts
  obtain ⟨deviceApplication, last, handledDevice⟩ := accepts
  have notTaken : ¬Taken (secret.enrollment scheme profile recordKindEnrollDevice signer)
      (db.putAppliedMembership (authorityEnrollment scheme profile secret) now) := by
    rw [taken_handled_iff unenrolled.tables authorityDecodes deviceDecodes handled]
    rintro (taken | same)
    · exact taken.not_untaken (unenrolled.untaken _)
    · exact other (congrArg (fun record => record.record.deviceId) same)
  obtain rfl := Handles.of_not_taken tables deviceDecodes notTaken
    ⟨deviceApplication, handledDevice⟩
  exact ⟨deviceApplication, handledDevice⟩

/-- The writes of the enrollments that the secret derives for the device. -/
def putEnrollments (scheme : SyncSecretScheme) (profile : String) (secret : SlateSyncSecret)
    (deviceId : String) (valid : isValidSyncIdentifier deviceId = true) (now : Int)
    (db : SlateProfileDatabase) : SlateProfileDatabase :=
  let enrolled := db.putAppliedMembership (authorityEnrollment scheme profile secret) now
  if deviceId ≠ defaultProfileSyncAccountAuthorityDeviceId then
    enrolled.putAppliedMembership (deviceEnrollment scheme profile secret deviceId valid) now
  else enrolled

/-- The records that a bundle of the default epoch holds. -/
def derivedEnrollments (scheme : SyncSecretScheme) (profile : String) (secret : SlateSyncSecret)
    (deviceId : String) (valid : isValidSyncIdentifier deviceId = true) :
    List DecodedMembershipRecord :=
  authorityEnrollment scheme profile secret ::
    if deviceId ≠ defaultProfileSyncAccountAuthorityDeviceId then
      [deviceEnrollment scheme profile secret deviceId valid]
    else []

variable {valid : isValidSyncIdentifier deviceId = true}

theorem decodes_of_mem_derivedEnrollments (lawful : scheme.Lawful) :
    ∀ decoded ∈ derivedEnrollments scheme profile secret deviceId valid,
      decoded.Decodes scheme.objects := by
  intro decoded membership
  rcases List.mem_cons.mp membership with rfl | inRest
  · exact decodes_enrollment lawful (.inl rfl)
  · split at inRest
    · rw [List.mem_singleton] at inRest
      subst inRest
      exact decodes_enrollment lawful (.inl rfl)
    · cases inRest

/-- Records that decode are read back from their bytes. -/
theorem decodeSignedMembershipRecords_of_decodes {records : List DecodedMembershipRecord}
    (decodes : ∀ decoded ∈ records, decoded.Decodes scheme.objects) :
    decodeSignedMembershipRecords scheme.objects (records.map (·.signedRecord)) =
      .ok records := by
  induction records with
  | nil => rfl
  | cons first rest inductionHypothesis =>
      have decodesRest := inductionHypothesis fun decoded membership =>
        decodes decoded (List.mem_cons_of_mem _ membership)
      unfold decodeSignedMembershipRecords at decodesRest ⊢
      rw [List.map_cons, List.mapM_cons, decodes first (List.mem_cons_self ..), decodesRest]
      rfl

/-- A batch of the derived enrollments is applied where nothing is enrolled. -/
theorem batch_of_unenrolled (lawful : scheme.Lawful) (unenrolled : Unenrolled scheme profile db)
    (now : Int) :
    ∃ applications, db.applySignedSyncAccountMembershipRecords scheme.objects
        ((derivedEnrollments scheme profile secret deviceId valid).map (·.signedRecord)) now =
      .ok (applications, db.putEnrollments scheme profile secret deviceId valid now) := by
  obtain ⟨authority, handled⟩ :=
    @handles_authority_of_unenrolled scheme db profile secret lawful unenrolled now
  unfold applySignedSyncAccountMembershipRecords
  rw [decodeSignedMembershipRecords_of_decodes (decodes_of_mem_derivedEnrollments lawful), ok_bind]
  unfold derivedEnrollments putEnrollments
  by_cases different : deviceId ≠ defaultProfileSyncAccountAuthorityDeviceId
  · obtain ⟨device, handledDevice⟩ := @handles_device_of_unenrolled scheme db profile secret lawful
      unenrolled (secret.deviceSigner scheme profile defaultProfileSyncMembershipEpoch deviceId
        valid) different now
    rw [if_pos different, if_pos different]
    refine ⟨[authority, device], ?_⟩
    apply forEach_cons_eq_ok_iff.mpr
    refine ⟨_, _, _, handled, ?_, rfl⟩
    apply forEach_cons_eq_ok_iff.mpr
    exact ⟨_, _, _, handledDevice, rfl, rfl⟩
  · rw [if_neg different, if_neg different]
    refine ⟨[authority], ?_⟩
    apply forEach_cons_eq_ok_iff.mpr
    exact ⟨_, _, _, handled, rfl, rfl⟩

/-- So do the enrollments of an activation. -/
theorem enrollments_of_unenrolled (lawful : scheme.Lawful)
    (unenrolled : Unenrolled scheme profile db) (contentKeyEpoch : SyncContentKeyEpochRecord)
    (now : Int) :
    ∃ activation, (enrollments scheme profile secret deviceId contentKeyEpoch now).run db =
      .ok activation (db.putEnrollments scheme profile secret deviceId valid now) := by
  have authority := @handles_authority_of_unenrolled scheme db profile secret lawful unenrolled now
  have device (different : deviceId ≠ defaultProfileSyncAccountAuthorityDeviceId) :=
    @handles_device_of_unenrolled scheme db profile secret lawful unenrolled
      (secret.deviceSigner scheme profile defaultProfileSyncMembershipEpoch deviceId valid)
      different now
  unfold putEnrollments
  rcases @enrollments_cases scheme profile secret now deviceId contentKeyEpoch lawful valid db with
    ⟨refused, -⟩ | ⟨middle, handled, outcome⟩
  · exact absurd ⟨_, authority⟩ refused
  · obtain rfl := authority.unique handled
    rcases outcome with ⟨different, refused, -⟩ |
      ⟨activation, last, ran, ⟨isAuthority, rfl⟩ | ⟨different, handledDevice⟩⟩
    · exact absurd ⟨_, device different⟩ refused
    · rw [if_neg (not_not.mpr isAuthority)]
      exact ⟨activation, ran⟩
    · obtain rfl := (device different).unique handledDevice
      rw [if_pos different]
      exact ⟨activation, ran⟩

end Unenrolled

section Orders

/-- An enrollment writes keys and records from keys and records. -/
theorem SameMembership.putEnrollment {signer : ProfileSyncDeviceSigner}
    (same : SameMembership db next) :
    SameMembership
      (db.putAppliedMembership
        (secret.enrollment scheme profile recordKindEnrollDevice signer) now)
      (next.putAppliedMembership
        (secret.enrollment scheme profile recordKindEnrollDevice signer) now) := by
  have keys (state : SlateProfileDatabase) : (state.putAppliedMembership
      (secret.enrollment scheme profile recordKindEnrollDevice signer) now).syncDevicePublicKeys =
        (state.putSyncDevicePublicKey
          { profile, publicKey := signer.publicKey scheme.objects
            membershipEpoch := defaultProfileSyncMembershipEpoch } now).syncDevicePublicKeys := by
    unfold putAppliedMembership putMembershipKey recordSyncMembershipDevice
    rw [if_pos (show installsKey (secret.enrollment scheme profile recordKindEnrollDevice
      signer).record.recordKind = true from rfl), if_pos (show (secret.enrollment scheme profile
        recordKindEnrollDevice signer).record.recordKind = recordKindEnrollDevice from rfl)]
    rfl
  have records (state : SlateProfileDatabase) : (state.putAppliedMembership
      (secret.enrollment scheme profile recordKindEnrollDevice
        signer) now).syncAccountMembershipRecords =
        ((state.insertSyncAccountMembershipRecord (secret.enrollment scheme profile
          recordKindEnrollDevice signer).registration now).putSyncAccountMembershipRecordApplied
            profile (secret.enrollment scheme profile recordKindEnrollDevice
              signer).record.recordId now).syncAccountMembershipRecords := by
    unfold putAppliedMembership putMembershipKey recordSyncMembershipDevice
    rw [if_pos (show installsKey (secret.enrollment scheme profile recordKindEnrollDevice
      signer).record.recordKind = true from rfl), if_pos (show (secret.enrollment scheme profile
        recordKindEnrollDevice signer).record.recordKind = recordKindEnrollDevice from rfl)]
    rfl
  constructor
  · rw [(tables_putAppliedMembership _).1, (tables_putAppliedMembership _).1]
    exact same.localSyncDeviceId
  · rw [keys, keys]
    simp only [putSyncDevicePublicKey, same.syncDevicePublicKeys]
  · rw [records, records]
    simp only [putSyncAccountMembershipRecordApplied, insertSyncAccountMembershipRecord,
      same.syncAccountMembershipRecords]

theorem SameMembership.trans {last : SlateProfileDatabase} (first : SameMembership db next)
    (second : SameMembership next last) : SameMembership db last :=
  ⟨second.localSyncDeviceId.trans first.localSyncDeviceId,
    second.syncDevicePublicKeys.trans first.syncDevicePublicKeys,
    second.syncAccountMembershipRecords.trans first.syncAccountMembershipRecords⟩

theorem SameMembership.symm (same : SameMembership db next) : SameMembership next db :=
  ⟨same.localSyncDeviceId.symm, same.syncDevicePublicKeys.symm,
    same.syncAccountMembershipRecords.symm⟩

/-- The tables that registering the metadata writes from themselves. -/
structure SameMetadata (db next : SlateProfileDatabase) : Prop where
  localSyncDeviceId : next.localSyncDeviceId = db.localSyncDeviceId
  appSyncDomains : next.appSyncDomains = db.appSyncDomains
  syncContentKeyEpochs : next.syncContentKeyEpochs = db.syncContentKeyEpochs

theorem SameMetadata.trans {last : SlateProfileDatabase} (first : SameMetadata db next)
    (second : SameMetadata next last) : SameMetadata db last :=
  ⟨second.localSyncDeviceId.trans first.localSyncDeviceId,
    second.appSyncDomains.trans first.appSyncDomains,
    second.syncContentKeyEpochs.trans first.syncContentKeyEpochs⟩

theorem SameMetadata.symm (same : SameMetadata db next) : SameMetadata next db :=
  ⟨same.localSyncDeviceId.symm, same.appSyncDomains.symm, same.syncContentKeyEpochs.symm⟩

theorem sameMetadata_putEnrollments {valid : isValidSyncIdentifier deviceId = true} :
    SameMetadata db (db.putEnrollments scheme profile secret deviceId valid now) := by
  obtain ⟨sameDevice, sameDomains, sameKeys⟩ := @tables_putAppliedMembership db now
    (authorityEnrollment scheme profile secret)
  unfold putEnrollments
  split
  · obtain ⟨lastDevice, lastDomains, lastKeys⟩ := @tables_putAppliedMembership
      (db.putAppliedMembership (authorityEnrollment scheme profile secret) now) now
      (deviceEnrollment scheme profile secret deviceId valid)
    exact ⟨lastDevice.trans sameDevice, lastDomains.trans sameDomains, lastKeys.trans sameKeys⟩
  · exact ⟨sameDevice, sameDomains, sameKeys⟩

theorem appSyncDomains_ensureDefaultAppSyncDomains_congr
    (same : next.appSyncDomains = db.appSyncDomains) :
    (next.ensureDefaultAppSyncDomains profile now).appSyncDomains =
      (db.ensureDefaultAppSyncDomains profile now).appSyncDomains := by
  unfold ensureDefaultAppSyncDomains
  generalize defaultAppSyncDomains = seeds
  induction seeds generalizing db next with
  | nil => exact same
  | cons seed rest inductionHypothesis =>
      apply inductionHypothesis
      simp only [seedDefaultAppSyncDomain, same]

theorem SameMetadata.putDefaultActivation (same : SameMetadata db next) :
    SameMetadata (db.putDefaultActivation profile now)
      (next.putDefaultActivation profile now) := by
  have domains (state : SlateProfileDatabase) :
      (state.putDefaultActivation profile now).appSyncDomains =
        (state.ensureDefaultAppSyncDomains profile now).appSyncDomains := by
    have registered := @appSyncDomains_ensureDefaultAppSyncDomains_congr state
      (state.registerSyncDevice
        { profile, deviceId := state.localSyncDeviceId, label := some "Local Device"
          membershipEpoch := defaultProfileSyncMembershipEpoch, providerAuthority := false } now)
      profile now rfl
    rw [← registered]
    unfold SlateProfileDatabase.putDefaultActivation putLocalActivation
    generalize ensureDefaultAppSyncDomains profile now _ = seeded
    rfl
  have keys (state : SlateProfileDatabase) :
      (state.putDefaultActivation profile now).syncContentKeyEpochs =
        ((state.deactivateSyncContentKeyEpochs profile now).putSyncContentKeyEpoch
          { profile, keyId := defaultProfileSyncContentKeyId
            membershipEpoch := defaultProfileSyncMembershipEpoch
            algorithm := profileSyncContentKeyAlgorithmChacha20Poly1305, active := true }
          now).syncContentKeyEpochs := by
    obtain ⟨domains, seeded⟩ := @ensureDefaultAppSyncDomains_eq profile (state.registerSyncDevice
      { profile, deviceId := state.localSyncDeviceId, label := some "Local Device"
        membershipEpoch := defaultProfileSyncMembershipEpoch, providerAuthority := false } now) now
    unfold SlateProfileDatabase.putDefaultActivation putLocalActivation
    rw [seeded]
    rfl
  constructor
  · rw [(metadataActivated_putDefaultActivation profile now next).localSyncDeviceId,
      (metadataActivated_putDefaultActivation profile now db).localSyncDeviceId]
    exact same.localSyncDeviceId
  · rw [domains, domains]
    exact appSyncDomains_ensureDefaultAppSyncDomains_congr same.appSyncDomains
  · rw [keys, keys]
    simp only [putSyncContentKeyEpoch, deactivateSyncContentKeyEpochs, same.syncContentKeyEpochs]

/-- The roster entry of the local device once it is activated. -/
def activatedDevice (profile deviceId : String) (now : Int) (entry : Option SyncDeviceRecord) :
    SyncDeviceRecord :=
  match entry with
  | none =>
      { profile, deviceId, label := some "Local Device"
        membershipEpoch := defaultProfileSyncMembershipEpoch, providerAuthority := false
        createdAt := now, lastSeenAt := now }
  | some device =>
      { device with
        label := some "Local Device", membershipEpoch := defaultProfileSyncMembershipEpoch
        providerAuthority := false, lastSeenAt := now }

theorem lookup_syncDevices_putDefaultActivation (key : String × String) :
    Rows.lookup deviceKey key (db.putDefaultActivation profile now).syncDevices =
      if (profile, db.localSyncDeviceId) = key then
        some (activatedDevice profile db.localSyncDeviceId now
          (Rows.lookup deviceKey key db.syncDevices))
      else Rows.lookup deviceKey key db.syncDevices := by
  obtain ⟨domains, seeded⟩ := @ensureDefaultAppSyncDomains_eq profile (db.registerSyncDevice
    { profile, deviceId := db.localSyncDeviceId, label := some "Local Device"
      membershipEpoch := defaultProfileSyncMembershipEpoch, providerAuthority := false } now) now
  have looked : Rows.lookup deviceKey key (db.registerSyncDevice
      { profile, deviceId := db.localSyncDeviceId, label := some "Local Device"
        membershipEpoch := defaultProfileSyncMembershipEpoch, providerAuthority := false }
      now).syncDevices =
        if (profile, db.localSyncDeviceId) = key then some _
        else Rows.lookup deviceKey key db.syncDevices :=
    Rows.lookup_upsert (fun _ same => same) db.syncDevices
  unfold putDefaultActivation putLocalActivation
  rw [seeded]
  apply looked.trans
  by_cases own : (profile, db.localSyncDeviceId) = key
  · rw [if_pos own, if_pos own]
    cases Rows.lookup deviceKey key db.syncDevices <;> rfl
  · rw [if_neg own, if_neg own]

/-- The derived enrollments write the entries of the device and of the account authority. -/
theorem lookup_syncDevices_putEnrollments {valid : isValidSyncIdentifier deviceId = true}
    (key : String × String) :
    Rows.lookup deviceKey key
        (db.putEnrollments scheme profile secret deviceId valid now).syncDevices =
      if (profile, deviceId) = key then
        some (enrolledDevice profile deviceId now (Rows.lookup deviceKey key db.syncDevices))
      else if (profile, defaultProfileSyncAccountAuthorityDeviceId) = key then
        some (enrolledDevice profile defaultProfileSyncAccountAuthorityDeviceId now
          (Rows.lookup deviceKey key db.syncDevices))
      else Rows.lookup deviceKey key db.syncDevices := by
  have authority : Rows.lookup deviceKey key (db.putAppliedMembership (authorityEnrollment scheme
      profile secret) now).syncDevices =
        if (profile, defaultProfileSyncAccountAuthorityDeviceId) = key then
          some (enrolledDevice profile defaultProfileSyncAccountAuthorityDeviceId now
            (Rows.lookup deviceKey key db.syncDevices))
        else Rows.lookup deviceKey key db.syncDevices :=
    lookup_syncDevices_putEnrollment key
  have device (state : SlateProfileDatabase) : Rows.lookup deviceKey key
      (state.putAppliedMembership (deviceEnrollment scheme profile secret deviceId valid)
        now).syncDevices =
        if (profile, deviceId) = key then
          some (enrolledDevice profile deviceId now (Rows.lookup deviceKey key state.syncDevices))
        else Rows.lookup deviceKey key state.syncDevices :=
    lookup_syncDevices_putEnrollment key
  unfold putEnrollments
  by_cases different : deviceId ≠ defaultProfileSyncAccountAuthorityDeviceId
  · rw [if_pos different, device, authority]
    by_cases own : (profile, deviceId) = key
    · rw [if_pos own, if_pos own, if_neg]
      rintro rfl
      exact different (Prod.mk.inj own).2
    · rw [if_neg own, if_neg own]
  · rw [if_neg different, authority, not_not.mp different]
    split
    · rfl
    · rfl

/-- At one time, activating and enrolling a device leave the same entry in either order. -/
theorem activatedDevice_enrolledDevice_comm (entry : Option SyncDeviceRecord) :
    activatedDevice profile deviceId now (some (enrolledDevice profile deviceId now entry)) =
      enrolledDevice profile deviceId now
        (some (activatedDevice profile deviceId now entry)) := by
  cases entry with
  | none => rfl
  | some device => rfl

/-- The rows of an enrollment, in whatever order the roster has them. -/
structure SameRows (db next : SlateProfileDatabase) : Prop where
  roster : ∀ key, Rows.lookup deviceKey key next.syncDevices =
    Rows.lookup deviceKey key db.syncDevices
  membership : SameMembership db next
  metadata : SameMetadata db next

/-- Enrolling and then activating leaves what activating and then enrolling does. -/
theorem sameRows_orders {valid : isValidSyncIdentifier deviceId = true} (same : SameRows db next)
    (isLocal : db.localSyncDeviceId = deviceId) :
    SameRows
      ((db.putEnrollments scheme profile secret deviceId valid now).putDefaultActivation
        profile now)
      ((next.putDefaultActivation profile now).putEnrollments scheme profile secret deviceId
        valid now) := by
  have nextLocal : next.localSyncDeviceId = deviceId :=
    same.membership.localSyncDeviceId.trans isLocal
  have enrolledLocal : (db.putEnrollments scheme profile secret deviceId valid
      now).localSyncDeviceId = deviceId :=
    (@sameMetadata_putEnrollments scheme db profile deviceId secret now
      valid).localSyncDeviceId.trans isLocal
  constructor
  · intro key
    rw [lookup_syncDevices_putDefaultActivation, enrolledLocal]
    rw [lookup_syncDevices_putEnrollments, lookup_syncDevices_putEnrollments,
      lookup_syncDevices_putDefaultActivation, nextLocal, same.roster]
    by_cases own : (profile, deviceId) = key
    · rw [if_pos own, if_pos own, if_pos own, if_pos own, activatedDevice_enrolledDevice_comm]
    · rw [if_neg own, if_neg own, if_neg own, if_neg own]
  · have activated := (metadataActivated_putDefaultActivation profile now next).sameMembership
    have enrolled : SameMembership (db.putEnrollments scheme profile secret deviceId valid now)
        ((next.putDefaultActivation profile now).putEnrollments scheme profile secret deviceId
          valid now) := by
      unfold putEnrollments
      split
      · exact (same.membership.trans activated).putEnrollment.putEnrollment
      · exact (same.membership.trans activated).putEnrollment
    have last := (metadataActivated_putDefaultActivation profile now (db.putEnrollments scheme
      profile secret deviceId valid now)).sameMembership
    exact last.symm.trans enrolled
  · have first : SameMetadata (db.putDefaultActivation profile now)
        ((db.putEnrollments scheme profile secret deviceId valid now).putDefaultActivation profile
          now) := sameMetadata_putEnrollments.putDefaultActivation
    have second : SameMetadata (db.putDefaultActivation profile now)
        (next.putDefaultActivation profile now) := same.metadata.putDefaultActivation
    have third : SameMetadata (next.putDefaultActivation profile now)
        ((next.putDefaultActivation profile now).putEnrollments scheme profile secret deviceId
          valid now) := sameMetadata_putEnrollments
    exact first.symm.trans (second.trans third)

end Orders

section Fresh

variable {other : SlateProfileDatabase} {later : Int}

theorem untimed_putEnrollments {valid : isValidSyncIdentifier deviceId = true} :
    (db.putEnrollments scheme profile secret deviceId valid now).untimed =
      db.untimed.putEnrollments scheme profile secret deviceId valid 0 := by
  unfold putEnrollments
  split
  · simp only [untimed_putAppliedMembership]
  · simp only [untimed_putAppliedMembership]

theorem SameEnrollment.untimed (same : SameEnrollment db next) :
    SameEnrollment db.untimed next.untimed where
  syncDevices := congrArg (List.map SyncDeviceRecord.untimed) same.syncDevices
  syncDevicePublicKeys :=
    congrArg (List.map SyncDevicePublicKeyRecord.untimed) same.syncDevicePublicKeys
  syncAccountMembershipRecords :=
    congrArg (List.map SyncAccountMembershipRecord.untimed) same.syncAccountMembershipRecords
  syncContentKeyEpochs :=
    congrArg (List.map SyncContentKeyEpochRecord.untimed) same.syncContentKeyEpochs
  appSyncDomains := congrArg (List.map AppSyncDomainRecord.untimed) same.appSyncDomains

theorem untimed_freshEnrollment :
    (freshEnrollment deviceId now).untimed = freshEnrollment deviceId 0 := by
  unfold freshEnrollment seedDefaultSyncState
  rw [untimed_ensureDefaultAppSyncDomains, untimed_registerSyncDevice]
  rfl

/-- Fresh databases of a device have the same rows. -/
theorem sameRows_fresh (opened : freshDatabase deviceId now = .ok db)
    (openedLater : freshDatabase deviceId later = .ok other) :
    SameRows db.untimed other.untimed := by
  obtain ⟨-, same, sameDevice⟩ := freshDatabase_eq_ok opened
  obtain ⟨-, sameLater, sameDeviceLater⟩ := freshDatabase_eq_ok openedLater
  have first := same.untimed
  have second := sameLater.untimed
  rw [untimed_freshEnrollment] at first second
  have ownDevice : other.untimed.localSyncDeviceId = db.untimed.localSyncDeviceId :=
    sameDeviceLater.trans sameDevice.symm
  constructor
  · intro key
    rw [second.syncDevices, first.syncDevices]
  · exact ⟨ownDevice, second.syncDevicePublicKeys.trans first.syncDevicePublicKeys.symm,
      second.syncAccountMembershipRecords.trans first.syncAccountMembershipRecords.symm⟩
  · exact ⟨ownDevice, second.appSyncDomains.trans first.appSyncDomains.symm,
      second.syncContentKeyEpochs.trans first.syncContentKeyEpochs.symm⟩

theorem unenrolled_fresh (scheme : SyncSecretScheme) (profile : String)
    (opened : freshDatabase deviceId now = .ok db) : Unenrolled scheme profile db := by
  obtain ⟨noKeys, noRecords, -⟩ := freshDatabase_empty opened
  refine ⟨enrollmentTables_fresh opened, ?_, noKeys, noRecords⟩
  obtain ⟨-, same, -⟩ := freshDatabase_eq_ok opened
  obtain ⟨domains, state⟩ := @seedDefaultSyncState_eq { localSyncDeviceId := deviceId } now
  have fresh : freshEnrollment deviceId now = _ := state
  unfold LocalIsMember roster standing
  simp only
  rw [same.syncDevices, fresh]
  simp [registerSyncDevice, Rows.upsert, Rows.lookup, List.find?_cons]
  split <;> rfl

theorem Unenrolled.putDefaultActivation (unenrolled : Unenrolled scheme profile db) :
    Unenrolled scheme profile (db.putDefaultActivation profile now) := by
  have metadata := metadataActivated_putDefaultActivation profile now db
  exact ⟨metadata.tables unenrolled.tables, metadata.localIsMember,
    metadata.syncDevicePublicKeys.trans unenrolled.keys,
    metadata.syncAccountMembershipRecords.trans unenrolled.records⟩

/-- Registering the metadata takes no authority away. -/
theorem MetadataActivated.authorized (activated : MetadataActivated profile db next)
    (authorized : db.Authorized scheme profile secret) : next.Authorized scheme profile secret := by
  constructor
  · intro signer
    obtain ⟨notProvider, known⟩ := authorized.signs signer
    refine ⟨?_, ?_⟩
    · rw [activated.provider]
      split
      · rfl
      · exact notProvider
    · rw [activated.roster_key]
      exact known
  · exact activated.taken_iff.mpr authorized.taken

end Fresh

section Bundles

variable {bundle : ProfileSyncSecretHandoffBundle} {membershipEpoch createdAt : Int}
  {bytes signedRecord : List Nat}

/-- Signed bytes decode to the record that was signed. -/
theorem record_of_signed (lawful : scheme.Lawful) (decodes : decoded.Decodes scheme.objects)
    {authority : ProfileSyncDeviceSigner} {record : ProfileSyncMembershipRecord}
    (signed : decoded.signedRecord =
      signedProfileSyncMembershipRecordBytes scheme.objects authority record) :
    decoded.record = record := by
  unfold DecodedMembershipRecord.Decodes decodeSignedProfileSyncMembershipRecord at decodes
  rw [signed] at decodes
  obtain ⟨signedObject, isObject, decodes⟩ := bind_eq_ok_iff.mp decodes
  have read : SignedSyncObject.fromBytes scheme.objects
      (signedProfileSyncMembershipRecordBytes scheme.objects authority record) =
        .ok (authority.sign scheme.objects (scheme.objects.membershipRecord.toBytes record)) :=
    mapError_eq_ok_iff.mpr (lawful.objects.signed _)
  rw [read] at isObject
  obtain rfl := Except.ok.inj isObject
  obtain ⟨-, decodes⟩ := check_then_eq_ok_iff.mp decodes
  obtain ⟨payload, verified, decodes⟩ := bind_eq_ok_iff.mp decodes
  obtain ⟨-, rfl⟩ := (verifyWith_sign lawful.objects authority).mp
    (mapError_eq_ok_iff.mp verified)
  obtain ⟨readRecord, isRecord, decodes⟩ := bind_eq_ok_iff.mp decodes
  rw [lawful.membershipRecord] at isRecord
  obtain rfl := Except.ok.inj isRecord
  obtain ⟨-, -, decodes⟩ := bind_eq_ok_iff.mp decodes
  exact (Prod.mk.inj (Except.ok.inj decodes)).2.symm

theorem signedEnrollDeviceRecord_eq_ok
    (signed : signedEnrollDeviceRecord scheme profile secret membershipEpoch deviceId =
      .ok signedRecord) :
    ∃ authority signer : ProfileSyncDeviceSigner, signedRecord =
      signedProfileSyncMembershipRecordBytes scheme.objects authority
        (profileSyncEnrollDeviceRecord profile membershipEpoch
          (signer.publicKey scheme.objects)) := by
  obtain ⟨authority, -, signed⟩ := bind_eq_ok_iff.mp signed
  obtain ⟨signer, -, signed⟩ := bind_eq_ok_iff.mp signed
  exact ⟨authority, signer, (Except.ok.inj signed).symm⟩

theorem enrollmentBundle_eq_ok {enrollmentBundle : ProfileSyncEnrollmentBundle}
    (made : profileSyncEnrollmentBundleFromSecretWithEpoch scheme profile secret deviceId
      membershipEpoch createdAt = .ok enrollmentBundle) :
    ∃ authorityRecord targetRecords,
      signedEnrollDeviceRecord scheme profile secret membershipEpoch
        defaultProfileSyncAccountAuthorityDeviceId = .ok authorityRecord ∧
      signedTargetDeviceRecords scheme profile secret deviceId membershipEpoch =
        .ok targetRecords ∧
      enrollmentBundle.signedMembershipRecords = authorityRecord :: targetRecords := by
  obtain ⟨authorityRecord, authority, made⟩ := bind_eq_ok_iff.mp made
  obtain ⟨targetRecords, targets, made⟩ := bind_eq_ok_iff.mp made
  obtain ⟨-, -, made⟩ := bind_eq_ok_iff.mp made
  obtain rfl := Except.ok.inj made
  exact ⟨_, _, mapError_eq_ok_iff.mp authority, mapError_eq_ok_iff.mp targets, rfl⟩

/-- A bundle that was made passes its checks and carries the secret. -/
theorem handoffBundle_eq_ok
    (made : profileSyncSecretHandoffBundleFromSecretWithEpoch scheme profile secret deviceId
      membershipEpoch createdAt = .ok bundle) :
    validateProfileSyncSecretHandoffBundle scheme bundle = .ok () ∧ bundle.profile = profile ∧
      bundle.targetDeviceId = deviceId ∧
      bundle.syncSecretExport = secret.exportForProfile scheme profile createdAt ∧
      profileSyncEnrollmentBundleFromSecretWithEpoch scheme profile secret deviceId
        membershipEpoch createdAt = .ok bundle.enrollmentBundle := by
  obtain ⟨enrollmentBundle, enrollment, made⟩ := bind_eq_ok_iff.mp made
  obtain ⟨⟨⟩, valid, made⟩ := bind_eq_ok_iff.mp made
  obtain rfl := Except.ok.inj made
  exact ⟨valid, rfl, rfl, rfl, enrollment⟩

theorem isValidSyncIdentifier_of_validHandoff
    (valid : validateProfileSyncSecretHandoffBundle scheme bundle = .ok ()) :
    isValidSyncIdentifier bundle.targetDeviceId = true := by
  unfold validateProfileSyncSecretHandoffBundle at valid
  simp only [check_then_eq_ok_iff] at valid
  obtain ⟨-, -, validTarget, -⟩ := valid
  simpa using validTarget

/-- The exported secret is read back. -/
theorem secret_of_exported (lawful : scheme.Lawful)
    (exported : bundle.syncSecretExport = secret.exportForProfile scheme profile createdAt)
    (ofProfile : bundle.profile = profile) : bundle.secret scheme = .ok secret := by
  unfold ProfileSyncSecretHandoffBundle.secret
  rw [exported, ofProfile]
  apply mapError_eq_ok_iff.mpr
  unfold SlateSyncSecretExport.toSyncSecretForProfile
    SlateSyncSecretExport.validateExpectedProfile SlateSyncSecretExport.toSyncSecret
    SlateSyncSecretExport.validateSchema SlateSyncSecret.exportForProfile
  simp [lawful.decodeSecret, secret.sized]
  rfl

/-- What a bundle is written as is read back as that bundle. -/
theorem fromBytes_toBytes
    (faithful : scheme.handoffBundle.fromBytes (scheme.handoffBundle.toBytes bundle) = .ok bundle)
    (written : bundle.toBytes scheme = .ok bytes) :
    ProfileSyncSecretHandoffBundle.fromBytes scheme bytes = .ok bundle := by
  obtain ⟨⟨⟩, valid, written⟩ := bind_eq_ok_iff.mp written
  obtain ⟨⟨⟩, sized, written⟩ := bind_eq_ok_iff.mp written
  obtain rfl := Except.ok.inj written
  unfold ProfileSyncSecretHandoffBundle.fromBytes
  rw [sized, ok_bind, faithful, mapError_ok, ok_bind, valid]
  rfl

/-- The records of a batch come from its bytes. -/
theorem signedRecord_mem_of_decoded {signedRecords : List (List Nat)}
    {records : List DecodedMembershipRecord}
    (decodes : decodeSignedMembershipRecords scheme.objects signedRecords = .ok records) :
    ∀ decoded ∈ records, decoded.signedRecord ∈ signedRecords := by
  have read := mapM_eq_ok_iff.mp decodes
  clear decodes
  induction read with
  | nil =>
      intro decoded membership
      cases membership
  | cons first rest inductionHypothesis =>
      obtain ⟨⟨signedObject, record⟩, -, isFirst⟩ := bind_eq_ok_iff.mp first
      obtain rfl := Except.ok.inj isFirst
      intro decoded membership
      rcases List.mem_cons.mp membership with rfl | inRest
      · exact List.mem_cons_self ..
      · exact List.mem_cons_of_mem _ (inductionHypothesis decoded inRest)

/-- Every record of a bundle is of the bundle's epoch. -/
theorem epoch_of_bundled (lawful : scheme.Lawful)
    {enrollmentBundle : ProfileSyncEnrollmentBundle}
    (made : profileSyncEnrollmentBundleFromSecretWithEpoch scheme profile secret deviceId
      membershipEpoch createdAt = .ok enrollmentBundle)
    {records : List DecodedMembershipRecord}
    (decodes : decodeSignedMembershipRecords scheme.objects
      enrollmentBundle.signedMembershipRecords = .ok records) :
    ∀ decoded ∈ records, decoded.record.membershipEpoch = membershipEpoch := by
  obtain ⟨authorityRecord, targetRecords, authority, targets, bundled⟩ :=
    enrollmentBundle_eq_ok made
  have signedThen {enrolled : String} {signedRecord : List Nat}
      (signed : signedEnrollDeviceRecord scheme profile secret membershipEpoch enrolled =
        .ok signedRecord) (decoded : DecodedMembershipRecord)
      (decodesRecord : decoded.Decodes scheme.objects)
      (same : decoded.signedRecord = signedRecord) :
      decoded.record.membershipEpoch = membershipEpoch := by
    obtain ⟨signer, enrolledSigner, isSigned⟩ := signedEnrollDeviceRecord_eq_ok signed
    rw [record_of_signed lawful decodesRecord (same.trans isSigned)]
    rfl
  intro decoded membership
  have decodesRecord := decodes_of_mem_decodeSignedMembershipRecords decodes membership
  have fromBytes := signedRecord_mem_of_decoded decodes decoded membership
  rw [bundled] at fromBytes
  rcases List.mem_cons.mp fromBytes with ofAuthority | ofTarget
  · exact signedThen authority decoded decodesRecord ofAuthority
  · unfold signedTargetDeviceRecords at targets
    split at targets
    · obtain ⟨target, signed, rfl⟩ := map_eq_ok_iff.mp targets
      exact signedThen signed decoded decodesRecord (List.mem_singleton.mp ofTarget)
    · obtain rfl := Except.ok.inj targets
      cases ofTarget

/-- A bundle of the default epoch holds the derived enrollments. -/
theorem records_of_defaultEpoch (valid : isValidSyncIdentifier deviceId = true)
    {enrollmentBundle : ProfileSyncEnrollmentBundle}
    (made : profileSyncEnrollmentBundleFromSecretWithEpoch scheme profile secret deviceId
      defaultProfileSyncMembershipEpoch createdAt = .ok enrollmentBundle) :
    enrollmentBundle.signedMembershipRecords =
      (derivedEnrollments scheme profile secret deviceId valid).map (·.signedRecord) := by
  obtain ⟨authorityRecord, targetRecords, authority, targets, bundled⟩ :=
    enrollmentBundle_eq_ok made
  rw [signedEnrollDeviceRecord_of_valid
    SlateSyncSecret.isValidSyncIdentifier_accountAuthority] at authority
  obtain rfl := Except.ok.inj authority
  rw [bundled]
  unfold signedTargetDeviceRecords at targets
  unfold derivedEnrollments
  by_cases different : deviceId ≠ defaultProfileSyncAccountAuthorityDeviceId
  · rw [if_pos different, signedEnrollDeviceRecord_of_valid valid] at targets
    rw [if_pos different]
    obtain rfl := Except.ok.inj targets
    rfl
  · rw [if_neg different] at targets
    rw [if_neg different]
    obtain rfl := Except.ok.inj targets
    rfl

end Bundles

section Equivalence

variable {bundle : ProfileSyncSecretHandoffBundle} {membershipEpoch createdAt : Int}
  {bytes : List Nat}

/-- The bundle is read back from its bytes, and on a fresh database it leaves the rows that the
key itself leaves on one, time stamps aside. -/
structure EnrollsLikeKey (scheme : SyncSecretScheme) (profile : String)
    (secret : SlateSyncSecret) (deviceId : String) (membershipEpoch : Int)
    (bundle : ProfileSyncSecretHandoffBundle) (bytes : List Nat) : Prop where
  readBack : ProfileSyncSecretHandoffBundle.fromBytes scheme bytes = .ok bundle
  enrolls : ∀ openedAt now db, freshDatabase deviceId openedAt = .ok db →
    ∃ application next,
      (applyProfileSyncSecretHandoffBundle scheme bundle now).run db = .ok application next ∧
      ∀ openedLater later other, freshDatabase deviceId openedLater = .ok other →
        ∃ activation last,
          (activateLocalProfileSyncFromSecretWithKey scheme profile secret
            defaultProfileSyncContentKeyId membershipEpoch later).run other =
              .ok activation last ∧
          SameRows next.untimed last.untimed

/-- On a fresh database the key registers the metadata and then writes the enrollments. -/
theorem activation_of_fresh (lawful : scheme.Lawful) (valid : isValidSyncIdentifier deviceId = true)
    (opened : freshDatabase deviceId now = .ok db) (later : Int) :
    ∃ activation,
      (activateLocalProfileSyncFromSecret scheme profile secret later).run db =
        .ok activation ((db.putDefaultActivation profile later).putEnrollments scheme profile
          secret deviceId valid later) := by
  obtain ⟨contentKeyEpoch, ran⟩ := activation_run scheme profile secret later db
  obtain ⟨-, -, sameDevice⟩ := freshDatabase_eq_ok opened
  have unenrolled := unenrolled_fresh scheme profile opened
  obtain ⟨activation, enrolled⟩ := @enrollments_of_unenrolled scheme
    (db.putDefaultActivation profile later) profile deviceId secret valid lawful
    unenrolled.putDefaultActivation contentKeyEpoch later
  rw [sameDevice, enrolled] at ran
  exact ⟨activation, ran⟩

/-- Where the derived enrollments were just written, an activation only registers the
metadata. -/
theorem activation_of_enrolled (lawful : scheme.Lawful)
    (valid : isValidSyncIdentifier deviceId = true) (unenrolled : Unenrolled scheme profile db)
    (isLocal : db.localSyncDeviceId = deviceId) (now : Int) :
    ∃ activation,
      (activateLocalProfileSyncFromSecret scheme profile secret now).run
          (db.putEnrollments scheme profile secret deviceId valid now) =
        .ok activation ((db.putEnrollments scheme profile secret deviceId valid
          now).putDefaultActivation profile now) := by
  have authorityDecodes : (authorityEnrollment scheme profile secret).Decodes scheme.objects :=
    decodes_enrollment lawful (.inl rfl)
  have deviceDecodes : (deviceEnrollment scheme profile secret deviceId valid).Decodes
      scheme.objects := decodes_enrollment lawful (.inl rfl)
  have handled := @handles_authority_of_unenrolled scheme db profile secret lawful unenrolled now
  have authorized := authorized_of_handled lawful unenrolled.tables unenrolled.member handled
  have tables : EnrollmentTables scheme.objects
      (db.putAppliedMembership (authorityEnrollment scheme profile secret) now) := by
    obtain ⟨application, handled⟩ := handled
    exact unenrolled.tables.applyDecoded authorityDecodes handled
  -- The derived enrollments are applied and authorized, whichever of the two there are.
  have enrolled : EnrollmentTables scheme.objects
        (db.putEnrollments scheme profile secret deviceId valid now) ∧
      (db.putEnrollments scheme profile secret deviceId valid now).Authorized scheme profile
        secret ∧
      (deviceId ≠ defaultProfileSyncAccountAuthorityDeviceId →
        Taken (deviceEnrollment scheme profile secret deviceId valid)
          (db.putEnrollments scheme profile secret deviceId valid now)) := by
    unfold putEnrollments
    by_cases different : deviceId ≠ defaultProfileSyncAccountAuthorityDeviceId
    · have handledDevice := @handles_device_of_unenrolled scheme db profile secret lawful unenrolled
        (secret.deviceSigner scheme profile defaultProfileSyncMembershipEpoch deviceId valid)
        different now
      have authorizedLast := authorized_after_device lawful tables authorized different
        handledDevice
      obtain ⟨application, handledDevice⟩ := handledDevice
      rw [if_pos different]
      exact ⟨tables.applyDecoded deviceDecodes handledDevice, authorizedLast, fun _ =>
        (taken_handled_iff tables deviceDecodes deviceDecodes handledDevice).mpr (.inr rfl)⟩
    · rw [if_neg different]
      exact ⟨tables, authorized, fun other => absurd other different⟩
  obtain ⟨enrolledTables, enrolledAuthority, takenDevice⟩ := enrolled
  have metadata := metadataActivated_putDefaultActivation profile now
    (db.putEnrollments scheme profile secret deviceId valid now)
  have sameDevice : (db.putEnrollments scheme profile secret deviceId valid
      now).localSyncDeviceId = deviceId :=
    (@sameMetadata_putEnrollments scheme db profile deviceId secret now
      valid).localSyncDeviceId.trans isLocal
  obtain ⟨contentKeyEpoch, ran⟩ := activation_run scheme profile secret now
    (db.putEnrollments scheme profile secret deviceId valid now)
  obtain ⟨activation, again⟩ := @enrollments_of_taken scheme _ profile secret now deviceId
    contentKeyEpoch lawful (metadata.tables enrolledTables) (metadata.authorized enrolledAuthority)
    valid (fun different => metadata.taken_iff.mpr (takenDevice different))
  rw [sameDevice, again] at ran
  exact ⟨activation, ran⟩

/-- A handoff of the default epoch writes the enrollments and then registers the metadata. -/
theorem handoff_of_fresh (lawful : scheme.Lawful)
    (made : profileSyncSecretHandoffBundleFromSecretWithEpoch scheme profile secret deviceId
      defaultProfileSyncMembershipEpoch createdAt = .ok bundle)
    (valid : isValidSyncIdentifier deviceId = true) {openedAt : Int}
    (opened : freshDatabase deviceId openedAt = .ok db) (now : Int) :
    ∃ application,
      (applyProfileSyncSecretHandoffBundle scheme bundle now).run db =
        .ok application ((db.putEnrollments scheme profile secret deviceId valid
          now).putDefaultActivation profile now) := by
  obtain ⟨checked, ofProfile, ofTarget, exported, enrollment⟩ := handoffBundle_eq_ok made
  obtain ⟨-, -, sameDevice⟩ := freshDatabase_eq_ok opened
  have unenrolled := unenrolled_fresh scheme profile opened
  obtain ⟨applications, applied⟩ := @batch_of_unenrolled scheme db profile deviceId secret valid
    lawful unenrolled now
  rw [← records_of_defaultEpoch valid enrollment] at applied
  have admits : AdmitsHandoff scheme bundle secret now applications db
      (db.putEnrollments scheme profile secret deviceId valid now) :=
    ⟨checked, ofTarget.trans sameDevice.symm, secret_of_exported lawful exported ofProfile, applied⟩
  obtain ⟨activation, ran⟩ := @activation_of_enrolled scheme db profile deviceId secret lawful
    valid unenrolled sameDevice now
  refine ⟨⟨applications, activation⟩, ?_⟩
  rw [applyHandoff_of_admitted admits, ofProfile, ran]

/-- A handoff that succeeds on a fresh database is of the default epoch. -/
theorem epoch_of_handoff (lawful : scheme.Lawful)
    (made : profileSyncSecretHandoffBundleFromSecretWithEpoch scheme profile secret deviceId
      membershipEpoch createdAt = .ok bundle) {openedAt : Int}
    (opened : freshDatabase deviceId openedAt = .ok db)
    {application : ProfileSyncSecretHandoffApplication}
    (ran : (applyProfileSyncSecretHandoffBundle scheme bundle now).run db =
      .ok application next) : membershipEpoch = defaultProfileSyncMembershipEpoch := by
  obtain ⟨-, ofProfile, -, exported, enrollment⟩ := handoffBundle_eq_ok made
  have unenrolled := unenrolled_fresh scheme bundle.profile opened
  rcases @applyHandoffBundle_cases scheme db now bundle with ⟨failure, refused⟩ |
    ⟨other, applications, middle, admits⟩
  · rw [refused] at ran
    cases ran
  have isSecret := secret_of_exported lawful exported ofProfile
  obtain rfl := Except.ok.inj (isSecret.symm.trans admits.secret)
  obtain ⟨records, decodes, -⟩ := bind_eq_ok_iff.mp admits.applied
  have middleTables := unenrolled.tables.batch admits.applied
  rw [applyHandoff_of_admitted admits] at ran
  cases activated : (activateLocalProfileSyncFromSecret scheme bundle.profile secret now).run
      middle with
  | error failure last =>
      rw [activated] at ran
      cases ran
  | ok activation last =>
      have accepts := (activation_succeeds_iff lawful middleTables).mp ⟨activation, last, activated⟩
      rw [acceptsSecret_after_records_iff lawful unenrolled.tables admits decodes] at accepts
      rcases accepts.authority.enrolls with taken | among
      · exact absurd (unenrolled.untaken _) taken.not_untaken
      · exact (epoch_of_bundled lawful enrollment decodes _ among).symm

/-- A handoff enrolls like the key itself exactly where it is of the default epoch. -/
theorem handoff_enrolls_like_key_iff (lawful : scheme.Lawful)
    (faithful : ∀ bundle : ProfileSyncSecretHandoffBundle,
      scheme.handoffBundle.fromBytes (scheme.handoffBundle.toBytes bundle) = .ok bundle)
    (made : profileSyncSecretHandoffBundleFromSecretWithEpoch scheme profile secret deviceId
      membershipEpoch createdAt = .ok bundle)
    (written : bundle.toBytes scheme = .ok bytes) :
    EnrollsLikeKey scheme profile secret deviceId membershipEpoch bundle bytes ↔
      membershipEpoch = defaultProfileSyncMembershipEpoch := by
  obtain ⟨checked, -, ofTarget, -⟩ := handoffBundle_eq_ok made
  have valid := isValidSyncIdentifier_of_validHandoff checked
  rw [ofTarget] at valid
  constructor
  · intro like
    obtain ⟨db, opened⟩ := exists_freshDatabase valid 0
    obtain ⟨application, next, ran, -⟩ := like.enrolls 0 0 db opened
    exact epoch_of_handoff lawful made opened ran
  · rintro rfl
    refine ⟨fromBytes_toBytes (faithful bundle) written, ?_⟩
    intro openedAt now db opened
    obtain ⟨application, ran⟩ := handoff_of_fresh lawful made valid opened now
    refine ⟨application, _, ran, ?_⟩
    intro openedLater later other openedOther
    obtain ⟨activation, activated⟩ := @activation_of_fresh scheme other profile deviceId secret
      openedLater lawful valid openedOther later
    refine ⟨activation, _, activated, ?_⟩
    obtain ⟨-, -, sameDevice⟩ := freshDatabase_eq_ok opened
    rw [untimed_putDefaultActivation, untimed_putEnrollments, untimed_putEnrollments,
      untimed_putDefaultActivation]
    exact sameRows_orders (sameRows_fresh opened openedOther) sameDevice

end Equivalence

section Sample

theorem handoff_enrolls_like_key_iff_laptop :
    EnrollsLikeKey plainSecretScheme defaultProfileId zeroSecret "laptop" 1 laptopBundle
        (plainSecretScheme.handoffBundle.toBytes laptopBundle) ↔
      (1 : Int) = defaultProfileSyncMembershipEpoch :=
  have made : laptopHandoff 1 = .ok laptopBundle := by decide +kernel
  have written : laptopBundle.toBytes plainSecretScheme =
      .ok (plainSecretScheme.handoffBundle.toBytes laptopBundle) := by decide +kernel
  handoff_enrolls_like_key_iff plainSecretScheme_lawful
    (PlainScheme.codec_fromBytes_toBytes PlainScheme.handoffBundle) made written

/-- A bundle of the second epoch is made and written, but no fresh database takes it. -/
theorem handoff_of_later_epoch_enrolls_nothing :
    ¬ ∀ (scheme : SyncSecretScheme), scheme.Lawful →
      (∀ bundle : ProfileSyncSecretHandoffBundle,
        scheme.handoffBundle.fromBytes (scheme.handoffBundle.toBytes bundle) = .ok bundle) →
      ∀ profile secret deviceId membershipEpoch createdAt bundle bytes, 1 ≤ membershipEpoch →
        profileSyncSecretHandoffBundleFromSecretWithEpoch scheme profile secret deviceId
          membershipEpoch createdAt = .ok bundle →
        ProfileSyncSecretHandoffBundle.toBytes scheme bundle = .ok bytes →
        EnrollsLikeKey scheme profile secret deviceId membershipEpoch bundle bytes := by
  intro always
  have checked : ((laptopHandoff 2).toOption.bind fun bundle =>
      (bundle.toBytes plainSecretScheme).toOption).isSome = true := by
    decide +kernel
  cases made : laptopHandoff 2 with
  | error failure =>
      rw [made] at checked
      cases checked
  | ok bundle =>
      rw [made] at checked
      cases written : bundle.toBytes plainSecretScheme with
      | error failure =>
          simp only [Except.toOption, Option.bind_some, written] at checked
          cases checked
      | ok bytes =>
          have like := always plainSecretScheme plainSecretScheme_lawful
            (PlainScheme.codec_fromBytes_toBytes PlainScheme.handoffBundle) defaultProfileId
            zeroSecret "laptop" 2 40 bundle bytes (by decide) made written
          obtain ⟨db, opened⟩ := @exists_freshDatabase "laptop" (by decide) 0
          obtain ⟨application, next, ran, -⟩ := like.enrolls 0 0 db opened
          have sameEpoch := epoch_of_handoff plainSecretScheme_lawful made opened ran
          exact absurd sameEpoch (by decide)

end Sample

end SlateProfileDatabase

end Slate.Storage
