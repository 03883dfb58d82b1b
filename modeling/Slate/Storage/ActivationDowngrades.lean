import Slate.Storage.FreshDatabase
import Slate.Storage.RepeatedActivation

/-!
# Activations after other epochs

An activation registers the local device and the default content key at the default epoch before
any record is authorized. It keeps ranks exactly where the secret is accepted and nothing of the
profile stands above the default epoch.
-/

namespace Slate.Storage

open Slate.Foundation

namespace SlateProfileDatabase

variable {scheme : SyncSecretScheme} {db next : SlateProfileDatabase} {profile : String}
  {secret : SlateSyncSecret} {now : Int}

section Runs

/-- A run of the operations that write enrollments, from a fresh database on. -/
inductive EnrollmentRun (scheme : SyncSecretScheme) : SlateProfileDatabase → Prop
  | opened {deviceId : String} {now : Int} {db : SlateProfileDatabase}
      (opened : freshDatabase deviceId now = .ok db) : EnrollmentRun scheme db
  | activated {db : SlateProfileDatabase} (run : EnrollmentRun scheme db) (profile : String)
      (secret : SlateSyncSecret) (keyId : String) (membershipEpoch now : Int) :
      EnrollmentRun scheme (stateAfter (activateLocalProfileSyncFromSecretWithKey scheme profile
        secret keyId membershipEpoch now) db)
  | contentKey {db next : SlateProfileDatabase} {registration : SyncContentKeyEpochRegistration}
      {now : Int} {record : SyncContentKeyEpochRecord} (run : EnrollmentRun scheme db)
      (registered : db.registerSyncContentKeyEpoch registration now = .ok (record, next)) :
      EnrollmentRun scheme next
  | device {db : SlateProfileDatabase} (run : EnrollmentRun scheme db)
      (device : SyncDeviceRegistration) (now : Int) :
      EnrollmentRun scheme (db.registerSyncDevice device now)
  | records {db next : SlateProfileDatabase} {signedRecords : List (List Nat)} {now : Int}
      {applications : List SyncAccountMembershipRecordApplication}
      (run : EnrollmentRun scheme db)
      (applied : db.applySignedSyncAccountMembershipRecords scheme.objects signedRecords now =
        .ok (applications, next)) : EnrollmentRun scheme next

/-- What every such run keeps. -/
structure EnrollmentState (scheme : SyncSecretScheme) (db : SlateProfileDatabase) : Prop where
  tables : EnrollmentTables scheme.objects db
  unique : Rows.UniqueKeys contentKeyEpochKey db.syncContentKeyEpochs

theorem EnrollmentState.of_sameMembership (state : EnrollmentState scheme db)
    (same : SameMembership db next)
    (sameKeys : next.syncContentKeyEpochs = db.syncContentKeyEpochs) :
    EnrollmentState scheme next := by
  refine ⟨same.tables state.tables, ?_⟩
  rw [sameKeys]
  exact state.unique

theorem registerSyncContentKeyEpoch_eq_ok {registration : SyncContentKeyEpochRegistration}
    {record : SyncContentKeyEpochRecord}
    (registered : db.registerSyncContentKeyEpoch registration now = .ok (record, next)) :
    next = (if registration.active then db.deactivateSyncContentKeyEpochs registration.profile now
      else db).putSyncContentKeyEpoch registration now := by
  unfold registerSyncContentKeyEpoch at registered
  obtain ⟨-, registered⟩ := check_then_eq_ok_iff.mp registered
  simp only at registered
  cases found : Rows.lookup contentKeyEpochKey (registration.profile, registration.keyId)
      ((if registration.active then db.deactivateSyncContentKeyEpochs registration.profile now
        else db).putSyncContentKeyEpoch registration now).syncContentKeyEpochs with
  | none =>
      rw [found] at registered
      cases registered
  | some stored =>
      rw [found] at registered
      exact (ok_pair_inj registered).2.symm

theorem enrollmentState_contentKey {registration : SyncContentKeyEpochRegistration}
    {record : SyncContentKeyEpochRecord} (state : EnrollmentState scheme db)
    (registered : db.registerSyncContentKeyEpoch registration now = .ok (record, next)) :
    EnrollmentState scheme next := by
  rw [registerSyncContentKeyEpoch_eq_ok registered]
  by_cases active : registration.active = true
  · rw [if_pos active]
    have same : SameMembership db ((db.deactivateSyncContentKeyEpochs registration.profile
      now).putSyncContentKeyEpoch registration now) := ⟨rfl, rfl, rfl⟩
    exact ⟨same.tables state.tables, unique_putActive state.unique⟩
  · rw [if_neg active]
    have same : SameMembership db (db.putSyncContentKeyEpoch registration now) := ⟨rfl, rfl, rfl⟩
    exact ⟨same.tables state.tables, Rows.uniqueKeys_upsert (fun _ same => same) state.unique⟩

theorem enrollmentState_records {signedRecords : List (List Nat)}
    {applications : List SyncAccountMembershipRecordApplication}
    (state : EnrollmentState scheme db)
    (applied : db.applySignedSyncAccountMembershipRecords scheme.objects signedRecords now =
      .ok (applications, next)) : EnrollmentState scheme next := by
  refine ⟨state.tables.batch applied, ?_⟩
  obtain ⟨decodedRecords, -, run⟩ := bind_eq_ok_iff.mp applied
  refine forEach_invariant (fun state => Rows.UniqueKeys contentKeyEpochKey
    state.syncContentKeyEpochs) ?_ run state.unique
  intro decoded _ before application after handled unique
  rcases applyDecoded_state handled with ⟨-, rfl⟩ | ⟨-, rfl⟩
  · exact unique
  · rw [(tables_putAppliedMembership decoded).2.2]
    exact unique

theorem keeps_enrollDerivedDevice (profile : String) (secret : SlateSyncSecret)
    (membershipEpoch : Int) (deviceId : String) (now : Int) :
    Keeps (EnrollmentState scheme)
      (enrollDerivedDevice scheme profile secret membershipEpoch deviceId now) := by
  apply keeps_ofExcept_bind
  intro signedRecord _
  apply keeps_statement
  intro before application after applied state
  obtain ⟨⟨applications, result⟩, batch, last⟩ := bind_eq_ok_iff.mp applied
  simp only at last
  cases found : applications.getLast? with
  | none =>
      rw [found] at last
      cases last
  | some application =>
      rw [found] at last
      obtain ⟨-, rfl⟩ := ok_pair_inj last
      exact enrollmentState_records state batch

theorem keeps_activateMetadata (profile keyId : String) (membershipEpoch now : Int) :
    Keeps (EnrollmentState scheme)
      (activateLocalProfileSyncMetadataWithKey profile keyId membershipEpoch now) := by
  refine keeps_bind keeps_get fun start => ?_
  apply keeps_bind
  · apply keeps_modify
    intro before state
    exact state.of_sameMembership ⟨rfl, rfl, rfl⟩ rfl
  intro registered
  apply keeps_bind
  · apply keeps_modify
    intro before state
    obtain ⟨domains, seeded⟩ := @ensureDefaultAppSyncDomains_eq profile before now
    rw [seeded]
    exact state.of_sameMembership ⟨rfl, rfl, rfl⟩ rfl
  intro seeded
  apply keeps_bind
  · apply keeps_statement
    intro before record after registered state
    exact enrollmentState_contentKey state registered
  · exact fun _ => keeps_pure _

theorem keeps_activation (profile : String) (secret : SlateSyncSecret) (keyId : String)
    (membershipEpoch now : Int) :
    Keeps (EnrollmentState scheme) (activateLocalProfileSyncFromSecretWithKey scheme profile
      secret keyId membershipEpoch now) := by
  apply keeps_bind (keeps_activateMetadata profile keyId membershipEpoch now)
  intro activation
  apply keeps_bind (keeps_enrollDerivedDevice _ _ _ _ _)
  intro authority
  apply keeps_bind
  · unfold enrollLocalDevice
    split
    · exact keeps_bind (keeps_enrollDerivedDevice _ _ _ _ _) fun _ => keeps_pure _
    · exact keeps_pure _
  · exact fun _ => keeps_pure _

theorem EnrollmentRun.state (run : EnrollmentRun scheme db) : EnrollmentState scheme db := by
  induction run with
  | opened opened =>
      refine ⟨enrollmentTables_fresh opened, ?_⟩
      rw [(freshDatabase_empty opened).2.2]
      exact List.nodup_nil
  | activated run profile secret keyId membershipEpoch now inductionHypothesis =>
      exact keeps_activation profile secret keyId membershipEpoch now _ inductionHypothesis
  | contentKey run registered inductionHypothesis =>
      exact enrollmentState_contentKey inductionHypothesis registered
  | device run device now inductionHypothesis =>
      exact inductionHypothesis.of_sameMembership ⟨rfl, rfl, rfl⟩ rfl
  | records run applied inductionHypothesis =>
      exact enrollmentState_records inductionHypothesis applied

end Runs

section Ranks

/-- The content keys that the profile writes with. -/
def activeContentKeyEpochs (profile : String) (db : SlateProfileDatabase) :
    List SyncContentKeyEpochRecord :=
  db.syncContentKeyEpochs.filter fun record => record.profile = profile ∧ record.active

/-- One content key is active afterwards, and neither it nor the local device stands below what
was there before. -/
structure KeepsRanks (profile : String) (db next : SlateProfileDatabase) : Prop where
  contentKey : ∃ record, next.activeContentKeyEpochs profile = [record] ∧
    ∀ previous ∈ db.activeContentKeyEpochs profile,
      previous.membershipEpoch ≤ record.membershipEpoch
  roster : ∀ previousEpoch provider,
    db.rosterEntry profile db.localSyncDeviceId = some (previousEpoch, provider) →
      ∃ epoch, next.rosterEntry profile db.localSyncDeviceId = some (epoch, provider) ∧
        previousEpoch ≤ epoch

/-- A refused activation changes nothing, an accepted one downgrades nothing, and a second one
changes nothing but time stamps. -/
structure NeverDowngrades (scheme : SyncSecretScheme) (profile : String)
    (secret : SlateSyncSecret) (db : SlateProfileDatabase) : Prop where
  refused : ∀ now failure next,
    (activateLocalProfileSyncFromSecret scheme profile secret now).run db =
      .error failure next → SameEnrollment db next
  accepted : ∀ now activation next,
    (activateLocalProfileSyncFromSecret scheme profile secret now).run db =
      .ok activation next → KeepsRanks profile db next
  again : ∀ now later,
    (stateAfter (activateLocalProfileSyncFromSecret scheme profile secret later)
      (stateAfter (activateLocalProfileSyncFromSecret scheme profile secret now) db)).untimed =
      (stateAfter (activateLocalProfileSyncFromSecret scheme profile secret now) db).untimed

/-- The secret is accepted, and nothing that the activation registers stands above the default
epoch. -/
structure ActivatesUpwards (scheme : SyncSecretScheme) (profile : String)
    (secret : SlateSyncSecret) (db : SlateProfileDatabase) : Prop where
  accepts : db.AcceptsSecret scheme profile secret
  contentKey : ∀ previous ∈ db.activeContentKeyEpochs profile,
    previous.membershipEpoch ≤ defaultProfileSyncMembershipEpoch
  roster : ∀ previousEpoch provider,
    db.rosterEntry profile db.localSyncDeviceId = some (previousEpoch, provider) →
      previousEpoch ≤ defaultProfileSyncMembershipEpoch ∧ provider = false

theorem mem_activeContentKeyEpochs_iff {record : SyncContentKeyEpochRecord} :
    record ∈ db.activeContentKeyEpochs profile ↔
      record ∈ db.syncContentKeyEpochs ∧ record.profile = profile ∧ record.active = true := by
  simp [activeContentKeyEpochs]

/-- What an activation registers is the one active content key. -/
theorem activeContentKeyEpochs_of_activated (activated : Activated profile db) :
    ∃ record, db.activeContentKeyEpochs profile = [record] ∧
      record.membershipEpoch = defaultProfileSyncMembershipEpoch := by
  obtain ⟨record, found, epoch, -, active⟩ := activated.contentKey
  obtain ⟨membership, sameKey⟩ := Rows.mem_of_lookup found
  obtain ⟨ofProfile, isDefault⟩ := Prod.mk.inj sameKey
  have isActive : record ∈ db.activeContentKeyEpochs profile :=
    mem_activeContentKeyEpochs_iff.mpr ⟨membership, ofProfile, active⟩
  have onlyOne : ∀ other ∈ db.activeContentKeyEpochs profile, other = record := by
    intro other isOther
    obtain ⟨stored, otherProfile, otherActive⟩ := mem_activeContentKeyEpochs_iff.mp isOther
    have otherKey := activated.onlyActive other stored otherProfile otherActive
    apply List.inj_on_of_nodup_map activated.unique stored membership
    exact Prod.ext (otherProfile.trans ofProfile.symm) (otherKey.trans isDefault.symm)
  have noTwice : (db.activeContentKeyEpochs profile).Nodup :=
    (activated.unique.of_map _).filter _
  refine ⟨record, ?_, epoch⟩
  apply List.perm_singleton.mp
  apply (List.perm_ext_iff_of_nodup noTwice (List.nodup_singleton record)).mpr
  intro other
  rw [List.mem_singleton]
  constructor
  · exact onlyOne other
  · rintro rfl
    exact isActive

theorem rosterEntry_of_activated (activated : Activated profile db) :
    db.rosterEntry profile db.localSyncDeviceId =
      some (defaultProfileSyncMembershipEpoch, false) := by
  obtain ⟨device, found, -, epoch, provider⟩ := activated.device
  rw [rosterEntry, found, Option.map_some, epoch, provider]

/-- An accepted activation leaves the default epoch, whatever was there before. -/
theorem keepsRanks_iff (activated : Activated profile next)
    (sameDevice : next.localSyncDeviceId = db.localSyncDeviceId) :
    KeepsRanks profile db next ↔
      (∀ previous ∈ db.activeContentKeyEpochs profile,
        previous.membershipEpoch ≤ defaultProfileSyncMembershipEpoch) ∧
      ∀ previousEpoch provider,
        db.rosterEntry profile db.localSyncDeviceId = some (previousEpoch, provider) →
          previousEpoch ≤ defaultProfileSyncMembershipEpoch ∧ provider = false := by
  obtain ⟨record, isActive, recordEpoch⟩ := activeContentKeyEpochs_of_activated activated
  have entry := rosterEntry_of_activated activated
  rw [sameDevice] at entry
  constructor
  · rintro ⟨⟨active, same, above⟩, roster⟩
    obtain rfl := List.singleton_inj.mp (isActive.symm.trans same)
    rw [recordEpoch] at above
    refine ⟨above, ?_⟩
    intro previousEpoch provider previous
    obtain ⟨epoch, later, notBelow⟩ := roster previousEpoch provider previous
    obtain ⟨rfl, rfl⟩ := Prod.mk.inj (Option.some.inj (entry.symm.trans later))
    exact ⟨notBelow, rfl⟩
  · rintro ⟨contentKey, roster⟩
    constructor
    · rw [← recordEpoch] at contentKey
      exact ⟨record, isActive, contentKey⟩
    · intro previousEpoch provider previous
      obtain ⟨notAbove, rfl⟩ := roster previousEpoch provider previous
      exact ⟨_, entry, notAbove⟩

/-- Some time is not when the device was seen last. -/
theorem exists_unseen (seen : Option Int) : ∃ now, seen ≠ some now := by
  cases seen with
  | none => exact ⟨0, by simp⟩
  | some last =>
      refine ⟨last + 1, ?_⟩
      rw [Ne, Option.some_inj]
      omega

/-- From every state of a run, activating downgrades nothing exactly where the secret is
accepted and nothing stands above the default epoch. -/
theorem activation_never_downgrades_iff (lawful : scheme.Lawful) (run : EnrollmentRun scheme db)
    (profile : String) (secret : SlateSyncSecret) :
    NeverDowngrades scheme profile secret db ↔ ActivatesUpwards scheme profile secret db := by
  obtain ⟨tables, unique⟩ := run.state
  have succeeds (now : Int) := @activation_succeeds_iff scheme profile secret db now lawful tables
  have ranks {now : Int} {activation : ProfileSyncLocalSecretActivationRecord}
      {next : SlateProfileDatabase}
      (ran : (activateLocalProfileSyncFromSecret scheme profile secret now).run db =
        .ok activation next) := @keepsRanks_iff db next profile
    (by
      rw [← stateAfter_of_ok ran]
      exact activated_activation lawful tables.device unique)
    (by
      rw [← stateAfter_of_ok ran]
      exact localSyncDeviceId_activation lawful tables.device)
  constructor
  · intro never
    obtain ⟨now, unseen⟩ := exists_unseen (db.deviceLastSeenAt profile db.localSyncDeviceId)
    cases ran : (activateLocalProfileSyncFromSecret scheme profile secret now).run db with
    | error failure next =>
        -- A refused activation leaves the local device seen, so it changes the roster.
        have same := never.refused now failure next ran
        have seen := @deviceLastSeenAt_activation scheme db profile secret now lawful
        rw [stateAfter_of_error ran, deviceLastSeenAt, same.syncDevices] at seen
        exact absurd seen unseen
    | ok activation next =>
        obtain ⟨contentKey, roster⟩ := (ranks ran).mp (never.accepted now activation next ran)
        exact ⟨(succeeds now).mp ⟨activation, next, ran⟩, contentKey, roster⟩
  · intro upwards
    constructor
    · intro now failure next ran
      obtain ⟨activation, last, succeeded⟩ := (succeeds now).mpr upwards.accepts
      rw [ran] at succeeded
      cases succeeded
    · intro now activation next ran
      exact (ranks ran).mpr ⟨upwards.contentKey, upwards.roster⟩
    · intro now later
      exact activation_idempotent lawful tables unique later

end Ranks

section Sample

/-- The laptop's database as it is opened first. -/
def openedLaptop : SlateProfileDatabase :=
  commit (seedDefaultBookmarksIfNeeded 10) (freshEnrollment "laptop" 10)

theorem openedLaptop_run (scheme : SyncSecretScheme) : EnrollmentRun scheme openedLaptop :=
  .opened (if_pos (by decide))

theorem activation_never_downgrades_iff_laptop :
    NeverDowngrades plainSecretScheme defaultProfileId zeroSecret openedLaptop ↔
      ActivatesUpwards plainSecretScheme defaultProfileId zeroSecret openedLaptop :=
  activation_never_downgrades_iff plainSecretScheme_lawful (openedLaptop_run plainSecretScheme)
    defaultProfileId zeroSecret

/-- A content key of the second epoch. -/
def spareContentKey : SyncContentKeyEpochRegistration where
  profile := defaultProfileId
  keyId := "spare"
  membershipEpoch := 2
  algorithm := profileSyncContentKeyAlgorithmChacha20Poly1305
  active := true

/-- The active epochs before and after an activation that succeeds. -/
def activeEpochsAround (db : SlateProfileDatabase) : Option (List Int × List Int) :=
  match (activateLocalProfileSyncFromSecret plainSecretScheme defaultProfileId zeroSecret 30).run
      db with
  | .ok _ next => some ((db.activeContentKeyEpochs defaultProfileId).map (·.membershipEpoch),
      (next.activeContentKeyEpochs defaultProfileId).map (·.membershipEpoch))
  | .error _ _ => none

/-- A content key of the second epoch gives way to the default one of the first. -/
theorem activation_downgrades_content_key :
    ¬ ∀ (scheme : SyncSecretScheme) (db : SlateProfileDatabase), scheme.Lawful →
      EnrollmentRun scheme db → ∀ profile secret, NeverDowngrades scheme profile secret db := by
  intro always
  have checked : (do
      let (_, db) ← (openedLaptop.registerSyncContentKeyEpoch spareContentKey 20).toOption
      activeEpochsAround db) = some ([2], [1]) := by
    decide +kernel
  cases registered : openedLaptop.registerSyncContentKeyEpoch spareContentKey 20 with
  | error failure =>
      rw [registered] at checked
      cases checked
  | ok result =>
      obtain ⟨record, db⟩ := result
      rw [registered] at checked
      have around : activeEpochsAround db = some ([2], [1]) := checked
      unfold activeEpochsAround at around
      have never := always plainSecretScheme db plainSecretScheme_lawful
        ((openedLaptop_run plainSecretScheme).contentKey registered) defaultProfileId zeroSecret
      cases ran : (activateLocalProfileSyncFromSecret plainSecretScheme defaultProfileId
          zeroSecret 30).run db with
      | error failure next =>
          rw [ran] at around
          cases around
      | ok activation next =>
          rw [ran] at around
          obtain ⟨before, after⟩ := Prod.mk.inj (Option.some.inj around)
          obtain ⟨active, isActive, above⟩ := (never.accepted 30 activation next ran).contentKey
          rw [isActive] at after
          obtain ⟨previous, isPrevious, epoch⟩ :=
            List.mem_map.mp (before ▸ List.mem_singleton_self (2 : Int))
          have notBelow := above previous isPrevious
          have default : active.membershipEpoch = 1 := List.singleton_inj.mp after
          omega

end Sample

end SlateProfileDatabase

end Slate.Storage
