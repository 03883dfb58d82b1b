import Slate.Storage.LocalActivation
import Slate.Storage.PlainSecretScheme

/-!
# Handing a secret over

A handoff applies the records of its bundle as one batch and then activates the profile with
its secret, as statements of their own. The activation is accepted where the profile has, once
the records are applied, the two enrollments that the secret derives, and still trusts the
account authority of the first of them.
-/

namespace Slate.Storage

open Slate.Foundation

namespace SlateProfileDatabase

variable {scheme : SyncSecretScheme} {db next : SlateProfileDatabase} {profile : String}
  {secret : SlateSyncSecret} {decoded : DecodedMembershipRecord} {now : Int}

section Records

variable {other : DecodedMembershipRecord} {records : List DecodedMembershipRecord}
  {applications : List SyncAccountMembershipRecordApplication}
  {application : SyncAccountMembershipRecordApplication}

/-- Bytes decode to one record. -/
theorem eq_of_signedRecord_eq (decodes : decoded.Decodes scheme.objects)
    (otherDecodes : other.Decodes scheme.objects)
    (same : other.signedRecord = decoded.signedRecord) : other = decoded := by
  obtain ⟨signedRecord, signedObject, record⟩ := decoded
  obtain ⟨signedRecord', signedObject', record'⟩ := other
  obtain rfl : signedRecord' = signedRecord := same
  obtain ⟨rfl, rfl⟩ := Prod.mk.inj (Except.ok.inj (decodes.symm.trans otherDecodes))
  rfl

/-- Handling a record makes it an applied one, and no other. -/
theorem taken_handled_iff (tables : EnrollmentTables scheme.objects db)
    (decodes : decoded.Decodes scheme.objects) (otherDecodes : other.Decodes scheme.objects)
    (handled : db.applyDecodedSyncAccountMembershipRecord scheme.objects decoded now =
      .ok (application, next)) :
    Taken other next ↔ Taken other db ∨ other = decoded := by
  obtain ⟨-, ⟨-, rfl, taken⟩ | ⟨-, untaken, -, applied⟩⟩ :=
    applyDecoded_outcome tables.wellStored decodes handled
  · constructor
    · exact .inl
    · rintro (before | rfl)
      · exact before
      · exact taken
  · by_cases sameKey : (decoded.record.profile, decoded.record.recordId) =
        (other.record.profile, other.record.recordId)
    · obtain ⟨sameProfile, sameId⟩ := Prod.mk.inj sameKey
      obtain ⟨createdAt, appliedAt, row⟩ := applied.row
      have notBefore : ¬Taken other db := by
        rintro ⟨existing, stored, -, isApplied⟩
        rw [← sameProfile, ← sameId] at stored
        rw [(untaken existing stored).2] at isApplied
        cases isApplied
      rw [or_iff_right notBefore, Taken, ← sameProfile, ← sameId, row]
      constructor
      · rintro ⟨existing, stored, sameBytes, -⟩
        obtain rfl := Option.some.inj stored
        exact eq_of_signedRecord_eq decodes otherDecodes sameBytes.symm
      · rintro rfl
        exact ⟨_, rfl, rfl, rfl⟩
    · have different : other ≠ decoded := by
        rintro rfl
        exact sameKey rfl
      rw [(applied.storedRecord_other sameKey).1, or_iff_left different]

/-- A run of records applies exactly these. -/
theorem taken_run_iff (tables : EnrollmentTables scheme.objects db)
    (decodes : ∀ decoded ∈ records, decoded.Decodes scheme.objects)
    (otherDecodes : other.Decodes scheme.objects)
    (run : forEach (fun decoded => applyDecodedSyncAccountMembershipRecord scheme.objects
      decoded now) records db = .ok (applications, next)) :
    Taken other next ↔ Taken other db ∨ other ∈ records := by
  induction records generalizing db applications with
  | nil =>
      obtain ⟨-, rfl⟩ := ok_pair_inj run
      simp
  | cons decoded rest inductionHypothesis =>
      obtain ⟨first, middle, others, handled, tail, -⟩ := forEach_cons_eq_ok_iff.mp run
      have decodesFirst := decodes decoded (List.mem_cons_self ..)
      rw [inductionHypothesis (tables.applyDecoded decodesFirst handled)
        (fun record membership => decodes record (List.mem_cons_of_mem _ membership)) tail,
        taken_handled_iff tables decodesFirst otherDecodes handled, List.mem_cons, or_assoc]

/-- A device's epochs stay with it. -/
theorem epochs_handled (tables : EnrollmentTables scheme.objects db)
    (decodes : decoded.Decodes scheme.objects) {deviceId : String} {epoch : Int}
    (seen : epoch ∈ (db.roster profile deviceId).epochs)
    (handled : db.applyDecodedSyncAccountMembershipRecord scheme.objects decoded now =
      .ok (application, next)) : epoch ∈ (next.roster profile deviceId).epochs := by
  obtain ⟨-, ⟨-, rfl, -⟩ | ⟨-, -, -, applied⟩⟩ :=
    applyDecoded_outcome tables.wellStored decodes handled
  · exact seen
  · by_cases ofProfile : profile = decoded.record.profile
    · subst ofProfile
      rw [applied.roster]
      by_cases ofDevice : decoded.record.deviceId = deviceId
      · rw [← ofDevice, Roster.after_self]
        rw [← ofDevice] at seen
        exact Set.mem_insert_of_mem _ seen
      · rw [Roster.after_of_ne ofDevice]
        exact seen
    · rw [applied.otherRosters profile ofProfile]
      exact seen

/-- Once a device has a record of some epoch, no older record of it can still be applied. -/
theorem not_mem_of_stale (tables : EnrollmentTables scheme.objects db)
    (decodes : ∀ decoded ∈ records, decoded.Decodes scheme.objects)
    (otherDecodes : other.Decodes scheme.objects) {epoch : Int}
    (seen : epoch ∈ (db.roster other.record.profile other.record.deviceId).epochs)
    (stale : other.record.membershipEpoch ≤ epoch) (notTaken : ¬Taken other db)
    (run : forEach (fun decoded => applyDecodedSyncAccountMembershipRecord scheme.objects
      decoded now) records db = .ok (applications, next)) : other ∉ records := by
  induction records generalizing db applications with
  | nil => exact List.not_mem_nil
  | cons decoded rest inductionHypothesis =>
      obtain ⟨first, middle, others, handled, tail, -⟩ := forEach_cons_eq_ok_iff.mp run
      have decodesFirst := decodes decoded (List.mem_cons_self ..)
      have different : other ≠ decoded := by
        rintro rfl
        obtain ⟨-, ⟨-, -, taken⟩ | ⟨-, -, admits, -⟩⟩ :=
          applyDecoded_outcome tables.wellStored decodesFirst handled
        · exact notTaken taken
        · have newer := admits.newer epoch seen
          omega
      have stillNot : ¬Taken other middle := by
        rw [taken_handled_iff tables decodesFirst otherDecodes handled]
        exact not_or.mpr ⟨notTaken, different⟩
      have inRest : other ∉ rest := inductionHypothesis
        (tables.applyDecoded decodesFirst handled)
        (fun record membership => decodes record (List.mem_cons_of_mem _ membership))
        (epochs_handled tables decodesFirst seen handled) stillNot tail
      rw [List.mem_cons]
      exact not_or.mpr ⟨different, inRest⟩

/-- An applied record left its epoch. -/
theorem epoch_of_taken (tables : EnrollmentTables scheme.objects db)
    (decodes : decoded.Decodes scheme.objects) (taken : Taken decoded db) :
    decoded.record.membershipEpoch ∈
      (db.roster decoded.record.profile decoded.record.deviceId).epochs := by
  obtain ⟨row, stored, sameBytes, isApplied⟩ := taken
  obtain ⟨createdAt, appliedAt, rfl⟩ := exists_row_of_bytes tables.wellStored decodes
    ((storedRecord_eq_some_iff tables.wellStored).mp stored).1 sameBytes
  exact ⟨_, _, stored, rfl, isApplied, rfl⟩

end Records

section Authority

/-- The profile trusts the secret's account authority at the default epoch. -/
structure KnowsAccountAuthority (scheme : SyncSecretScheme) (profile : String)
    (secret : SlateSyncSecret) (db : SlateProfileDatabase) : Prop where
  known : ∃ key, (db.roster profile defaultProfileSyncAccountAuthorityDeviceId).key = some key ∧
    key.trusted = true ∧ key.membershipEpoch ≤ defaultProfileSyncMembershipEpoch ∧
    key.publicKey = secret.accountAuthorityKey scheme profile
  notProvider : db.localSyncDeviceId = defaultProfileSyncAccountAuthorityDeviceId ∨
    (db.roster profile defaultProfileSyncAccountAuthorityDeviceId).provider = false

/-- The account authority's enrollment is applied, and its key is the trusted one. -/
structure EnrolledAuthority (scheme : SyncSecretScheme) (profile : String)
    (secret : SlateSyncSecret) (db : SlateProfileDatabase) : Prop where
  taken : Taken (authorityEnrollment scheme profile secret) db
  knows : db.KnowsAccountAuthority scheme profile secret

/-- Records that leave the account authority enrolled: its enrollment was applied before or is
one of them, what was applied before still stands, and nothing else is new for it. -/
structure LeavesAuthority (scheme : SyncSecretScheme) (profile : String)
    (secret : SlateSyncSecret) (records : List DecodedMembershipRecord)
    (db : SlateProfileDatabase) : Prop where
  enrolls : Taken (authorityEnrollment scheme profile secret) db ∨
    authorityEnrollment scheme profile secret ∈ records
  stands : Taken (authorityEnrollment scheme profile secret) db →
    db.KnowsAccountAuthority scheme profile secret
  nothingElse : ∀ decoded ∈ records,
    decoded.record.deviceId = defaultProfileSyncAccountAuthorityDeviceId →
      Taken decoded db ∨ decoded = authorityEnrollment scheme profile secret

variable {records : List DecodedMembershipRecord}
  {applications : List SyncAccountMembershipRecordApplication}

theorem knowsAccountAuthority_congr {other : SlateProfileDatabase}
    (sameDevice : other.localSyncDeviceId = db.localSyncDeviceId)
    (sameStanding : other.roster profile defaultProfileSyncAccountAuthorityDeviceId =
      db.roster profile defaultProfileSyncAccountAuthorityDeviceId) :
    other.KnowsAccountAuthority scheme profile secret ↔
      db.KnowsAccountAuthority scheme profile secret := by
  constructor
  · rintro ⟨known, notProvider⟩
    rw [sameStanding] at known notProvider
    rw [sameDevice] at notProvider
    exact ⟨known, notProvider⟩
  · rintro ⟨known, notProvider⟩
    refine ⟨?_, ?_⟩
    · rw [sameStanding]
      exact known
    · rw [sameStanding, sameDevice]
      exact notProvider

theorem leavesAuthority_nil_iff :
    db.LeavesAuthority scheme profile secret [] ↔ db.EnrolledAuthority scheme profile secret := by
  constructor
  · intro leaves
    have taken := leaves.enrolls.resolve_right List.not_mem_nil
    exact ⟨taken, leaves.stands taken⟩
  · intro enrolled
    exact ⟨.inl enrolled.taken, fun _ => enrolled.knows, fun _ membership => by cases membership⟩

section Step

variable {middle : SlateProfileDatabase} {rest : List DecodedMembershipRecord}

/-- A record that was applied before leaves it to the others. -/
theorem leavesAuthority_cons_of_taken (taken : Taken decoded db) :
    db.LeavesAuthority scheme profile secret (decoded :: rest) ↔
      db.LeavesAuthority scheme profile secret rest := by
  constructor
  · rintro ⟨enrolls, stands, nothingElse⟩
    refine ⟨?_, stands, fun record membership =>
      nothingElse record (List.mem_cons_of_mem _ membership)⟩
    rcases enrolls with before | among
    · exact .inl before
    · rcases List.mem_cons.mp among with rfl | inRest
      · exact .inl taken
      · exact .inr inRest
  · rintro ⟨enrolls, stands, nothingElse⟩
    refine ⟨enrolls.imp_right (List.mem_cons_of_mem _), stands, ?_⟩
    intro record membership ofAuthority
    rcases List.mem_cons.mp membership with rfl | inRest
    · exact .inl taken
    · exact nothingElse record inRest ofAuthority

/-- So does a record of another device. -/
theorem leavesAuthority_cons_of_other
    (otherDevice : decoded.record.deviceId ≠ defaultProfileSyncAccountAuthorityDeviceId)
    (knows : middle.KnowsAccountAuthority scheme profile secret ↔
      db.KnowsAccountAuthority scheme profile secret)
    (taken : ∀ record, record.record.deviceId = defaultProfileSyncAccountAuthorityDeviceId →
      (record ∈ rest ∨ record = authorityEnrollment scheme profile secret) →
        (Taken record middle ↔ Taken record db ∨ record = decoded)) :
    db.LeavesAuthority scheme profile secret (decoded :: rest) ↔
      middle.LeavesAuthority scheme profile secret rest := by
  have different (record : DecodedMembershipRecord)
      (ofAuthority : record.record.deviceId = defaultProfileSyncAccountAuthorityDeviceId) :
      record ≠ decoded := by
    rintro rfl
    exact otherDevice ofAuthority
  have sameTaken (record : DecodedMembershipRecord)
      (ofAuthority : record.record.deviceId = defaultProfileSyncAccountAuthorityDeviceId)
      (listed : record ∈ rest ∨ record = authorityEnrollment scheme profile secret) :
      Taken record middle ↔ Taken record db := by
    rw [taken record ofAuthority listed, or_iff_left (different record ofAuthority)]
  have enrollment := sameTaken (authorityEnrollment scheme profile secret) rfl (.inr rfl)
  constructor
  · rintro ⟨enrolls, stands, nothingElse⟩
    refine ⟨?_, ?_, ?_⟩
    · rw [enrollment]
      exact enrolls.imp_right fun among =>
        (List.mem_cons.mp among).resolve_left (different _ rfl)
    · rw [enrollment, knows]
      exact stands
    · intro record membership ofAuthority
      rw [sameTaken record ofAuthority (.inl membership)]
      exact nothingElse record (List.mem_cons_of_mem _ membership) ofAuthority
  · rintro ⟨enrolls, stands, nothingElse⟩
    rw [enrollment] at enrolls
    rw [enrollment, knows] at stands
    refine ⟨enrolls.imp_right (List.mem_cons_of_mem _), stands, ?_⟩
    intro record membership ofAuthority
    rcases List.mem_cons.mp membership with rfl | inRest
    · exact absurd ofAuthority otherDevice
    · rw [← sameTaken record ofAuthority (.inl inRest)]
      exact nothingElse record inRest ofAuthority

/-- Once the enrollment itself is applied, it stands. -/
theorem leavesAuthority_cons_enrollment
    (untaken : Untaken (authorityEnrollment scheme profile secret) db)
    (knows : middle.KnowsAccountAuthority scheme profile secret)
    (taken : ∀ record, (record ∈ rest ∨ record = authorityEnrollment scheme profile secret) →
      (Taken record middle ↔
        Taken record db ∨ record = authorityEnrollment scheme profile secret)) :
    db.LeavesAuthority scheme profile secret
        (authorityEnrollment scheme profile secret :: rest) ↔
      middle.LeavesAuthority scheme profile secret rest := by
  constructor
  · rintro ⟨-, -, nothingElse⟩
    refine ⟨.inl ((taken _ (.inr rfl)).mpr (.inr rfl)), fun _ => knows, ?_⟩
    intro record membership ofAuthority
    rw [taken record (.inl membership)]
    exact .inl (nothingElse record (List.mem_cons_of_mem _ membership) ofAuthority)
  · rintro ⟨-, -, nothingElse⟩
    refine ⟨.inr (List.mem_cons_self ..), fun before => absurd untaken before.not_untaken, ?_⟩
    intro record membership ofAuthority
    rcases List.mem_cons.mp membership with rfl | inRest
    · exact .inr rfl
    · have later := nothingElse record inRest ofAuthority
      rw [taken record (.inl inRest)] at later
      exact later.elim id .inr

end Step

/-- Another record of the account authority takes its place for good. -/
theorem not_leavesAuthority_of_displaced (lawful : scheme.Lawful)
    (tables : EnrollmentTables scheme.objects db)
    (decodes : decoded.Decodes scheme.objects)
    (ofProfile : decoded.record.profile = profile)
    (ofAuthority : decoded.record.deviceId = defaultProfileSyncAccountAuthorityDeviceId)
    (admits : (db.roster decoded.record.profile decoded.record.deviceId).Admits decoded.record)
    (recordApplied : RecordApplied scheme.objects decoded db next)
    (nextTables : EnrollmentTables scheme.objects next)
    (taken : Taken (authorityEnrollment scheme profile secret) next ↔
      Taken (authorityEnrollment scheme profile secret) db)
    (decodesAll : ∀ decoded ∈ records, decoded.Decodes scheme.objects) {last : SlateProfileDatabase}
    (run : forEach (fun decoded => applyDecodedSyncAccountMembershipRecord scheme.objects
      decoded now) records next = .ok (applications, last)) :
    ¬next.LeavesAuthority scheme profile secret records := by
  have enrollmentDecodes : (authorityEnrollment scheme profile secret).Decodes scheme.objects :=
    decodes_enrollment lawful (.inl rfl)
  have valid := validRecord_of_validate decodes.checked.valid
  have roster := recordApplied.roster
  rw [ofProfile] at roster admits
  rw [ofAuthority] at admits
  have standing : next.roster profile defaultProfileSyncAccountAuthorityDeviceId =
      (db.roster profile defaultProfileSyncAccountAuthorityDeviceId).after decoded.record := by
    rw [roster, ← ofAuthority]
    exact Roster.after_self _ _
  rintro ⟨enrolls, stands, -⟩
  by_cases before : Taken (authorityEnrollment scheme profile secret) db
  · -- The record is newer than the enrollment, so its key is, or it distrusts the key.
    have newer : defaultProfileSyncMembershipEpoch < decoded.record.membershipEpoch :=
      admits.newer _ (epoch_of_taken tables enrollmentDecodes before)
    obtain ⟨key, known, trusted, epoch, -⟩ := (stands (taken.mpr before)).known
    rw [standing] at known
    simp only [Standing.after] at known
    split at known
    · rename_i installs
      obtain ⟨publicKey, -, rfl⟩ := Option.map_eq_some_iff.mp known
      exact absurd newer (not_lt.mpr epoch)
    · obtain ⟨previous, -, rfl⟩ := Option.map_eq_some_iff.mp known
      cases trusted
  · -- The enrollment is older than the record, so it cannot be applied any more.
    have seen : decoded.record.membershipEpoch ∈
        (next.roster profile defaultProfileSyncAccountAuthorityDeviceId).epochs := by
      rw [standing]
      exact Set.mem_insert ..
    have absent := not_mem_of_stale nextTables decodesAll enrollmentDecodes seen valid.epoch
      (fun after => before (taken.mp after)) run
    rcases enrolls with after | among
    · exact before (taken.mp after)
    · exact absent among

/-- A run leaves the account authority enrolled exactly if its records say so. -/
theorem enrolledAuthority_run_iff (lawful : scheme.Lawful)
    (tables : EnrollmentTables scheme.objects db)
    (decodes : ∀ decoded ∈ records, decoded.Decodes scheme.objects)
    (ofProfile : ∀ decoded ∈ records, decoded.record.profile = profile)
    (run : forEach (fun decoded => applyDecodedSyncAccountMembershipRecord scheme.objects
      decoded now) records db = .ok (applications, next)) :
    next.EnrolledAuthority scheme profile secret ↔
      db.LeavesAuthority scheme profile secret records := by
  induction records generalizing db applications with
  | nil =>
      obtain ⟨-, rfl⟩ := ok_pair_inj run
      exact leavesAuthority_nil_iff.symm
  | cons decoded rest inductionHypothesis =>
      obtain ⟨first, middle, others, handled, tail, -⟩ := forEach_cons_eq_ok_iff.mp run
      have enrollmentDecodes : (authorityEnrollment scheme profile secret).Decodes
          scheme.objects := decodes_enrollment lawful (.inl rfl)
      have decodesFirst := decodes decoded (List.mem_cons_self ..)
      have profileFirst := ofProfile decoded (List.mem_cons_self ..)
      have decodesRest := fun record membership =>
        decodes record (List.mem_cons_of_mem decoded membership)
      have middleTables := tables.applyDecoded decodesFirst handled
      have takenMiddle (record : DecodedMembershipRecord)
          (listed : record ∈ rest ∨ record = authorityEnrollment scheme profile secret) :
          Taken record middle ↔ Taken record db ∨ record = decoded := by
        apply taken_handled_iff tables decodesFirst _ handled
        rcases listed with membership | rfl
        · exact decodesRest record membership
        · exact enrollmentDecodes
      rw [inductionHypothesis middleTables decodesRest
        (fun record membership => ofProfile record (List.mem_cons_of_mem _ membership)) tail]
      symm
      obtain ⟨-, ⟨-, rfl, taken⟩ | ⟨-, untaken, admits, recordApplied⟩⟩ :=
        applyDecoded_outcome tables.wellStored decodesFirst handled
      · exact leavesAuthority_cons_of_taken taken
      have sameDevice := localSyncDeviceId_applyDecoded handled
      have roster := recordApplied.roster
      rw [profileFirst] at roster
      by_cases ofAuthority : decoded.record.deviceId = defaultProfileSyncAccountAuthorityDeviceId
      · by_cases isEnrollment : authorityEnrollment scheme profile secret = decoded
        · subst isEnrollment
          have own : (db.roster profile).after (authorityEnrollment scheme profile secret)
              defaultProfileSyncAccountAuthorityDeviceId = _ := Roster.after_self _ _
          apply leavesAuthority_cons_enrollment untaken _ takenMiddle
          constructor
          · rw [roster, own]
            exact ⟨_, rfl, rfl, le_refl _, rfl⟩
          · rw [roster, own]
            exact .inr rfl
        · have sameTaken := takenMiddle _ (.inr rfl)
          rw [or_iff_left isEnrollment] at sameTaken
          have displaced := not_leavesAuthority_of_displaced lawful tables decodesFirst profileFirst
            ofAuthority admits recordApplied middleTables sameTaken decodesRest tail
          refine iff_of_false ?_ displaced
          rintro ⟨-, -, nothingElse⟩
          rcases nothingElse decoded (List.mem_cons_self ..) ofAuthority with taken | same
          · exact taken.not_untaken untaken
          · exact isEnrollment same.symm
      · apply leavesAuthority_cons_of_other ofAuthority
        · apply knowsAccountAuthority_congr sameDevice
          rw [roster, Roster.after_of_ne ofAuthority]
        · exact fun record _ => takenMiddle record

end Authority

section Bundles

variable {bundle : ProfileSyncSecretHandoffBundle} {records : List DecodedMembershipRecord}
  {applications : List SyncAccountMembershipRecordApplication} {middle : SlateProfileDatabase}

/-- The bundle is for this device and passes its checks, and its records are accepted. -/
structure AdmitsHandoff (scheme : SyncSecretScheme) (bundle : ProfileSyncSecretHandoffBundle)
    (secret : SlateSyncSecret) (now : Int)
    (applications : List SyncAccountMembershipRecordApplication)
    (db middle : SlateProfileDatabase) : Prop where
  valid : validateProfileSyncSecretHandoffBundle scheme bundle = .ok ()
  target : bundle.targetDeviceId = db.localSyncDeviceId
  secret : bundle.secret scheme = .ok secret
  applied : db.applySignedSyncAccountMembershipRecords scheme.objects
    bundle.enrollmentBundle.signedMembershipRecords now = .ok (applications, middle)

/-- What the checks of a handoff bundle say about the bundle in it. -/
theorem validEnrollment_of_validHandoff
    (valid : validateProfileSyncSecretHandoffBundle scheme bundle = .ok ()) :
    bundle.enrollmentBundle.profile = bundle.profile ∧
      bundle.enrollmentBundle.targetDeviceId = bundle.targetDeviceId ∧
      validateProfileSyncEnrollmentBundle scheme bundle.enrollmentBundle = .ok () := by
  unfold validateProfileSyncSecretHandoffBundle at valid
  simp only [check_then_eq_ok_iff] at valid
  obtain ⟨-, -, -, -, ofProfile, ofTarget, valid⟩ := valid
  obtain ⟨-, -, valid⟩ := bind_eq_ok_iff.mp valid
  exact ⟨not_not.mp ofProfile, not_not.mp ofTarget, valid⟩

/-- An admitted handoff applies its records; the activation decides how it ends. -/
theorem applyHandoff_of_admitted (admits : AdmitsHandoff scheme bundle secret now applications
    db middle) :
    (applyProfileSyncSecretHandoffBundle scheme bundle now).run db =
      match (activateLocalProfileSyncFromSecret scheme bundle.profile secret now).run middle with
      | .ok activation next => .ok ⟨applications, activation⟩ next
      | .error failure next => .error (.storage failure) next := by
  obtain ⟨-, sameTarget, validEnrollment⟩ := validEnrollment_of_validHandoff admits.valid
  have batch : (applyProfileSyncEnrollmentBundle scheme bundle.enrollmentBundle now).run db =
      .ok applications middle := by
    unfold applyProfileSyncEnrollmentBundle
    rw [EStateM.run_bind, validEnrollment]
    simp only [MonadExcept.ofExcept, EStateM.run_pure, EStateM.run_bind, EStateM.run_get]
    rw [if_neg (not_not.mpr (sameTarget.trans admits.target))]
    apply statement_eq_ok_iff.mpr
    rw [admits.applied]
    rfl
  have read : bundle.toSyncSecret scheme = .ok secret := by
    unfold ProfileSyncSecretHandoffBundle.toSyncSecret
    rw [admits.valid]
    exact admits.secret
  unfold applyProfileSyncSecretHandoffBundle
  rw [EStateM.run_bind, admits.valid]
  simp only [MonadExcept.ofExcept, EStateM.run_pure, EStateM.run_bind, EStateM.run_get]
  rw [if_neg (not_not.mpr admits.target), read]
  simp only [EStateM.run_bind, EStateM.run_pure, batch, EStateM.run_adaptExcept]
  cases (activateLocalProfileSyncFromSecret scheme bundle.profile secret now).run middle <;> rfl

/-- Every other handoff is refused before anything is written. -/
theorem applyHandoff_of_not_admitted
    (refuses : ¬∃ secret applications middle,
      AdmitsHandoff scheme bundle secret now applications db middle) :
    ∃ failure, (applyProfileSyncSecretHandoffBundle scheme bundle now).run db =
      .error failure db := by
  unfold applyProfileSyncSecretHandoffBundle
  rw [EStateM.run_bind]
  cases valid : validateProfileSyncSecretHandoffBundle scheme bundle with
  | error failure => exact ⟨failure, rfl⟩
  | ok checked =>
      obtain ⟨-, sameTarget, validEnrollment⟩ := validEnrollment_of_validHandoff valid
      simp only [MonadExcept.ofExcept, EStateM.run_pure, EStateM.run_bind, EStateM.run_get]
      split
      · exact ⟨_, rfl⟩
      rename_i target
      cases read : bundle.toSyncSecret scheme with
      | error failure => exact ⟨failure, rfl⟩
      | ok secret =>
          simp only [EStateM.run_bind, EStateM.run_pure]
          obtain ⟨-, -, isSecret⟩ := bind_eq_ok_iff.mp read
          have batch : (applyProfileSyncEnrollmentBundle scheme bundle.enrollmentBundle now).run
              db = (statement fun db => (db.applySignedSyncAccountMembershipRecords scheme.objects
                bundle.enrollmentBundle.signedMembershipRecords now).mapError
                  EnrollmentError.storage).run db := by
            unfold applyProfileSyncEnrollmentBundle
            rw [EStateM.run_bind, validEnrollment]
            simp only [MonadExcept.ofExcept, EStateM.run_pure, EStateM.run_bind, EStateM.run_get]
            rw [if_neg (not_not.mpr (sameTarget.trans (not_not.mp target)))]
          rw [batch]
          cases applied : db.applySignedSyncAccountMembershipRecords scheme.objects
              bundle.enrollmentBundle.signedMembershipRecords now with
          | error failure =>
              refine ⟨.storage failure, ?_⟩
              simp [statement, EStateM.run, applied, Except.mapError]
          | ok result =>
              exact absurd ⟨secret, result.1, result.2,
                ⟨valid, not_not.mp target, isSecret, applied⟩⟩ refuses

/-- A handoff is refused as a whole, or its records are applied and the activation follows. -/
theorem applyHandoffBundle_cases :
    (∃ failure, (applyProfileSyncSecretHandoffBundle scheme bundle now).run db =
        .error failure db) ∨
    ∃ secret applications middle,
      AdmitsHandoff scheme bundle secret now applications db middle := by
  by_cases admits : ∃ secret applications middle,
      AdmitsHandoff scheme bundle secret now applications db middle
  · exact .inr admits
  · exact .inl (applyHandoff_of_not_admitted admits)

/-- Reading the records of a bundle once or twice gives the same records. -/
theorem records_eq_of_read {signedRecords : List (List Nat)}
    {found : List ProfileSyncMembershipRecord}
    (read : List.Forall₂ (fun signedRecord record => ∃ signedObject,
      decodeSignedProfileSyncMembershipRecord scheme.objects signedRecord =
        .ok (signedObject, record) ∧ record.profile = profile) signedRecords found)
    (decodes : decodeSignedMembershipRecords scheme.objects signedRecords = .ok records) :
    found = records.map (·.record) ∧ ∀ decoded ∈ records, decoded.record.profile = profile := by
  induction read generalizing records with
  | nil =>
      obtain rfl := Except.ok.inj decodes
      exact ⟨rfl, fun _ membership => by cases membership⟩
  | cons first others inductionHypothesis =>
      obtain ⟨signedObject, decodesFirst, ofProfile⟩ := first
      rw [decodeSignedMembershipRecords, List.mapM_cons, decodesFirst] at decodes
      obtain ⟨decoded, isFirst, decodes⟩ := bind_eq_ok_iff.mp decodes
      obtain ⟨rest, decodesRest, decodes⟩ := bind_eq_ok_iff.mp decodes
      obtain rfl := Except.ok.inj isFirst
      obtain rfl := Except.ok.inj decodes
      obtain ⟨rfl, restOfProfile⟩ := inductionHypothesis decodesRest
      exact ⟨rfl, List.forall_mem_cons.mpr ⟨ofProfile, restOfProfile⟩⟩

/-- The decoded records of a valid bundle are of its profile, and one of them gives the target
device a key. -/
theorem records_of_validEnrollment {enrollmentBundle : ProfileSyncEnrollmentBundle}
    (valid : validateProfileSyncEnrollmentBundle scheme enrollmentBundle = .ok ())
    (decodes : decodeSignedMembershipRecords scheme.objects
      enrollmentBundle.signedMembershipRecords = .ok records) :
    (∀ decoded ∈ records, decoded.record.profile = enrollmentBundle.profile) ∧
      ∃ decoded ∈ records, decoded.record.deviceId = enrollmentBundle.targetDeviceId := by
  unfold validateProfileSyncEnrollmentBundle at valid
  simp only [check_then_eq_ok_iff] at valid
  obtain ⟨-, -, -, -, -, valid⟩ := valid
  obtain ⟨found, read, valid⟩ := bind_eq_ok_iff.mp valid
  have readOnce := (mapM_eq_ok_iff.mp read).imp (S := fun signedRecord record =>
    ∃ signedObject, decodeSignedProfileSyncMembershipRecord scheme.objects signedRecord =
      .ok (signedObject, record) ∧ record.profile = enrollmentBundle.profile) (by
    intro signedRecord record isRead
    obtain ⟨⟨signedObject, decodedRecord⟩, decoded, isRead⟩ := bind_eq_ok_iff.mp isRead
    simp only [check_then_eq_ok_iff] at isRead
    obtain ⟨ofProfile, isRead⟩ := isRead
    obtain rfl := Except.ok.inj isRead
    exact ⟨signedObject, mapError_eq_ok_iff.mp decoded, not_not.mp ofProfile⟩)
  obtain ⟨rfl, ofProfile⟩ := records_eq_of_read readOnce decodes
  refine ⟨ofProfile, ?_⟩
  have enrollsTarget := check_eq_ok_iff.mp valid
  simp only [Bool.not_eq_true', Bool.not_eq_false, List.any_eq_true, List.mem_map,
    Bool.and_eq_true, beq_iff_eq] at enrollsTarget
  obtain ⟨_, ⟨decoded, membership, rfl⟩, ofTarget, -⟩ := enrollsTarget
  exact ⟨decoded, membership, ofTarget⟩

end Bundles

section Acceptance

variable {bundle : ProfileSyncSecretHandoffBundle} {records : List DecodedMembershipRecord}
  {applications : List SyncAccountMembershipRecordApplication} {middle : SlateProfileDatabase}

/-- The records bring everything that the activation asks for: they leave the account authority
enrolled, and the local device's enrollment was applied before or is one of them. -/
structure BringsEnrollments (scheme : SyncSecretScheme) (profile : String)
    (secret : SlateSyncSecret) (records : List DecodedMembershipRecord)
    (db : SlateProfileDatabase) : Prop where
  authority : db.LeavesAuthority scheme profile secret records
  device : db.localSyncDeviceId ≠ defaultProfileSyncAccountAuthorityDeviceId →
    ∀ signer, secret.deriveProfileSyncDeviceSigner scheme profile db.localSyncDeviceId
      defaultProfileSyncMembershipEpoch = .ok signer →
        Taken (secret.enrollment scheme profile recordKindEnrollDevice signer) db ∨
          secret.enrollment scheme profile recordKindEnrollDevice signer ∈ records

/-- A profile with applied records has a key, so it accepts an account authority only if this is
enrolled. -/
theorem acceptsAccountAuthority_iff_of_taken (tables : EnrollmentTables scheme.objects db)
    (taken : Taken decoded db) (ofProfile : decoded.record.profile = profile) :
    db.AcceptsAccountAuthority scheme profile secret ↔
      db.EnrolledAuthority scheme profile secret := by
  constructor
  · intro accepts
    cases accepts with
    | unenrolled unkeyed _ =>
        obtain ⟨row, stored, -, isApplied⟩ := taken
        obtain ⟨membership, rowProfile, -⟩ :=
          (storedRecord_eq_some_iff tables.wellStored).mp stored
        rw [tables.not_applied unkeyed row membership (rowProfile.trans ofProfile)] at isApplied
        cases isApplied
    | enrolled known notProvider taken => exact ⟨taken, known, notProvider⟩
  · rintro ⟨taken, known, notProvider⟩
    exact .enrolled known notProvider taken

/-- A device with an applied record is accepted only if its enrollment was applied. -/
theorem acceptsDevice_iff_of_taken (tables : EnrollmentTables scheme.objects db)
    (decodes : decoded.Decodes scheme.objects) (taken : Taken decoded db)
    (ofProfile : decoded.record.profile = profile) {signer : ProfileSyncDeviceSigner}
    (ofDevice : decoded.record.deviceId = signer.deviceId) :
    db.AcceptsDevice scheme profile secret signer ↔
      Taken (secret.enrollment scheme profile recordKindEnrollDevice signer) db := by
  constructor
  · rintro (enrolled | ⟨-, older, -⟩)
    · exact enrolled
    · have seen := epoch_of_taken tables decodes taken
      rw [ofProfile, ofDevice] at seen
      have valid := validRecord_of_validate decodes.checked.valid
      exact absurd (older _ seen) (not_lt.mpr valid.epoch)
  · exact .inl

theorem localSyncDeviceId_batch {signedRecords : List (List Nat)}
    (applied : db.applySignedSyncAccountMembershipRecords scheme.objects signedRecords now =
      .ok (applications, next)) : next.localSyncDeviceId = db.localSyncDeviceId := by
  obtain ⟨records, -, run⟩ := bind_eq_ok_iff.mp applied
  exact forEach_invariant (fun state => state.localSyncDeviceId = db.localSyncDeviceId)
    (fun _ _ _ _ _ handled same => (localSyncDeviceId_applyDecoded handled).trans same) run rfl

/-- Once the records of a bundle are applied, its secret is accepted exactly if they bring its
enrollments. -/
theorem acceptsSecret_after_records_iff (lawful : scheme.Lawful)
    (tables : EnrollmentTables scheme.objects db)
    (admits : AdmitsHandoff scheme bundle secret now applications db middle)
    (decodes : decodeSignedMembershipRecords scheme.objects
      bundle.enrollmentBundle.signedMembershipRecords = .ok records) :
    middle.AcceptsSecret scheme bundle.profile secret ↔
      db.BringsEnrollments scheme bundle.profile secret records := by
  obtain ⟨ofProfile, sameTarget, valid⟩ := validEnrollment_of_validHandoff admits.valid
  obtain ⟨recordsOfProfile, decoded, membership, ofTarget⟩ :=
    records_of_validEnrollment valid decodes
  rw [ofProfile] at recordsOfProfile
  have run := admits.applied
  unfold applySignedSyncAccountMembershipRecords at run
  rw [decodes, ok_bind] at run
  have decodesAll : ∀ record ∈ records, record.Decodes scheme.objects := fun _ isRecord =>
    decodes_of_mem_decodeSignedMembershipRecords decodes isRecord
  have middleTables : EnrollmentTables scheme.objects middle := tables.batch admits.applied
  have sameDevice := localSyncDeviceId_batch admits.applied
  have takenTarget : Taken decoded middle := (taken_run_iff tables decodesAll
    (decodesAll decoded membership) run).mpr (.inr membership)
  have ofLocal : decoded.record.deviceId = db.localSyncDeviceId :=
    ofTarget.trans (sameTarget.trans admits.target)
  have authority := @acceptsAccountAuthority_iff_of_taken scheme middle bundle.profile secret _
    middleTables takenTarget (recordsOfProfile decoded membership)
  rw [enrolledAuthority_run_iff lawful tables decodesAll recordsOfProfile run] at authority
  have device (signer : ProfileSyncDeviceSigner)
      (isSigner : secret.deriveProfileSyncDeviceSigner scheme bundle.profile db.localSyncDeviceId
        defaultProfileSyncMembershipEpoch = .ok signer) :
      middle.AcceptsDevice scheme bundle.profile secret signer ↔
        Taken (secret.enrollment scheme bundle.profile recordKindEnrollDevice signer) db ∨
          secret.enrollment scheme bundle.profile recordKindEnrollDevice signer ∈ records := by
    rw [SlateSyncSecret.deriveProfileSyncDeviceSigner_of_valid secret tables.device] at isSigner
    obtain rfl := Except.ok.inj isSigner
    rw [acceptsDevice_iff_of_taken middleTables (decodesAll decoded membership) takenTarget
      (recordsOfProfile decoded membership) ofLocal,
      taken_run_iff tables decodesAll (decodes_enrollment lawful (.inl rfl)) run]
  constructor
  · rintro ⟨accepts, acceptsDevice⟩
    refine ⟨authority.mp accepts, fun different signer isSigner => ?_⟩
    rw [sameDevice] at acceptsDevice
    exact (device signer isSigner).mp (acceptsDevice different signer isSigner)
  · rintro ⟨leaves, brings⟩
    refine ⟨authority.mpr leaves, fun different signer isSigner => ?_⟩
    rw [sameDevice] at different isSigner
    exact (device signer isSigner).mpr (brings different signer isSigner)

end Acceptance

section Atomicity

variable {bundle : ProfileSyncSecretHandoffBundle}

/-- The tables that a refused handoff is to leave as they were. -/
structure SameSyncTables (db next : SlateProfileDatabase) : Prop
    extends SameEnrollment db next where
  roots : next.syncState = db.syncState

/-- Applying the bundle, whenever that is, changes everything it is to change or nothing. -/
def HandsOverAtomically (scheme : SyncSecretScheme) (bundle : ProfileSyncSecretHandoffBundle)
    (db : SlateProfileDatabase) : Prop :=
  ∀ now failure next,
    (applyProfileSyncSecretHandoffBundle scheme bundle now).run db = .error failure next →
      SameSyncTables db next

/-- A bundle that the database admits brings the enrollments that its secret derives. -/
def CompletesHandoff (scheme : SyncSecretScheme) (bundle : ProfileSyncSecretHandoffBundle)
    (db : SlateProfileDatabase) : Prop :=
  ∀ secret now applications middle records,
    AdmitsHandoff scheme bundle secret now applications db middle →
    decodeSignedMembershipRecords scheme.objects
      bundle.enrollmentBundle.signedMembershipRecords = .ok records →
    db.BringsEnrollments scheme bundle.profile secret records

/-- A bundle that is admitted once is admitted at any time. -/
theorem AdmitsHandoff.anytime (tables : EnrollmentTables scheme.objects db)
    {applications : List SyncAccountMembershipRecordApplication} {middle : SlateProfileDatabase}
    (admits : AdmitsHandoff scheme bundle secret now applications db middle) (later : Int) :
    ∃ applications' middle', AdmitsHandoff scheme bundle secret later applications' db middle' := by
  obtain ⟨applications', middle', applied, -⟩ :=
    @applySigned_simulates scheme.objects db middle now db later _ ⟨rfl, tables, tables⟩ _
      admits.applied
  exact ⟨applications', middle', admits.valid, admits.target, admits.secret, applied⟩

/-- In every history, applying a handoff bundle leaves all tables as they were whenever it fails,
exactly if the bundles that the database admits bring the enrollments of their secret. -/
theorem handoff_is_atomic_iff (lawful : scheme.Lawful) {start : SlateProfileDatabase}
    (empty : start.syncAccountMembershipRecords = [])
    (device : isValidSyncIdentifier start.localSyncDeviceId)
    (life : MembershipLife scheme.objects KeepsKeyed start db)
    (bundle : ProfileSyncSecretHandoffBundle) :
    HandsOverAtomically scheme bundle db ↔ CompletesHandoff scheme bundle db := by
  have tables : EnrollmentTables scheme.objects db := life.enrollmentTables empty device
  constructor
  · intro atomic secret now applications middle records admits decodes
    -- A time at which the local device was not seen yet.
    obtain ⟨later, unseen⟩ : ∃ later, db.deviceLastSeenAt bundle.profile db.localSyncDeviceId ≠
        some later := by
      cases db.deviceLastSeenAt bundle.profile db.localSyncDeviceId with
      | none => exact ⟨0, by simp⟩
      | some seen =>
          refine ⟨seen + 1, fun same => ?_⟩
          have sameTime := Option.some.inj same
          omega
    obtain ⟨applications', middle', admitsLater⟩ := admits.anytime tables later
    rw [← acceptsSecret_after_records_iff lawful tables admitsLater decodes]
    have middleTables : EnrollmentTables scheme.objects middle' :=
      tables.batch admitsLater.applied
    by_contra refuses
    have outcome := applyHandoff_of_admitted admitsLater
    cases ran : (activateLocalProfileSyncFromSecret scheme bundle.profile secret later).run
        middle' with
    | ok activation next =>
        exact refuses ((activation_succeeds_iff lawful middleTables).mp ⟨activation, next, ran⟩)
    | error failure next =>
        rw [ran] at outcome
        have same := atomic later _ next outcome
        have seen := @deviceLastSeenAt_activation scheme middle' bundle.profile secret later lawful
        rw [stateAfter_of_error ran, localSyncDeviceId_batch admitsLater.applied] at seen
        rw [deviceLastSeenAt, same.syncDevices] at seen
        exact unseen seen
  · intro completes now failure next failed
    by_cases admits : ∃ secret applications middle,
        AdmitsHandoff scheme bundle secret now applications db middle
    · obtain ⟨secret, applications, middle, admits⟩ := admits
      obtain ⟨records, decodes, -⟩ := bind_eq_ok_iff.mp admits.applied
      have brings := completes secret now applications middle records admits decodes
      rw [← acceptsSecret_after_records_iff lawful tables admits decodes] at brings
      obtain ⟨activation, last, ran⟩ :=
        (@activation_succeeds_iff scheme bundle.profile secret middle now lawful
          (tables.batch admits.applied)).mpr brings
      rw [applyHandoff_of_admitted admits, ran] at failed
      cases failed
    · obtain ⟨refusal, refused⟩ := applyHandoff_of_not_admitted admits
      rw [refused] at failed
      obtain ⟨-, rfl⟩ := EStateM.Result.error.inj failed
      exact ⟨⟨rfl, rfl, rfl, rfl, rfl⟩, rfl⟩

end Atomicity

section Sample

def zeroSecret : SlateSyncSecret := ⟨List.replicate 32 0, rfl⟩

/-- A bundle for the laptop. -/
def laptopHandoff (membershipEpoch : Int) :
    Except EnrollmentError ProfileSyncSecretHandoffBundle :=
  profileSyncSecretHandoffBundleFromSecretWithEpoch plainSecretScheme defaultProfileId zeroSecret
    "laptop" membershipEpoch 40

/-- The devices of the roster once a bundle was refused. -/
def rosterAfterRefusal (bundle : ProfileSyncSecretHandoffBundle) (now : Int)
    (db : SlateProfileDatabase) : Option (List String) :=
  match (applyProfileSyncSecretHandoffBundle plainSecretScheme bundle now).run db with
  | .ok _ _ => none
  | .error _ next => some (next.syncDevices.map (·.deviceId))

/-- A bundle of another epoch is refused by the activation, after its records were applied. -/
theorem handoff_keeps_records_of_refused_bundle :
    ¬ ∀ (scheme : SyncSecretScheme) (start db : SlateProfileDatabase), scheme.Lawful →
      start.syncAccountMembershipRecords = [] → isValidSyncIdentifier start.localSyncDeviceId →
      MembershipLife scheme.objects KeepsKeyed start db →
      ∀ bundle, HandsOverAtomically scheme bundle db := by
  intro always
  have checked : (do
      let bundle ← (laptopHandoff 2).toOption
      let db ← (freshDatabase "laptop" 10).toOption
      pure (db.localSyncDeviceId, db.syncAccountMembershipRecords,
        db.syncDevices.map (·.deviceId), rosterAfterRefusal bundle 50 db)) =
      some ("laptop", [], ["laptop"], some ["laptop", "account-authority"]) := by
    decide +kernel
  cases made : laptopHandoff 2 with
  | error failure =>
      rw [made] at checked
      cases checked
  | ok bundle =>
      cases opened : freshDatabase "laptop" 10 with
      | error failure =>
          rw [made, opened] at checked
          cases checked
      | ok db =>
          rw [made, opened] at checked
          have parts := Option.some.inj checked
          simp only [Prod.mk.injEq] at parts
          obtain ⟨device, empty, before, after⟩ := parts
          have valid : isValidSyncIdentifier db.localSyncDeviceId := by
            rw [device]
            decide
          have atomic := always plainSecretScheme db db plainSecretScheme_lawful empty valid
            .start bundle 50
          unfold rosterAfterRefusal at after
          cases ran : (applyProfileSyncSecretHandoffBundle plainSecretScheme bundle 50).run db with
          | ok application next =>
              rw [ran] at after
              cases after
          | error failure next =>
              rw [ran] at after
              have same := (atomic failure next ran).syncDevices
              simp only [same, before] at after
              cases after

/-- The laptop's bundle at the default epoch. -/
def laptopBundle : ProfileSyncSecretHandoffBundle where
  profile := defaultProfileId
  schemaVersion := profileSyncSecretHandoffBundleSchemaVersion
  targetDeviceId := "laptop"
  createdAt := 40
  syncSecretExport := zeroSecret.exportForProfile plainSecretScheme defaultProfileId 40
  enrollmentBundle :=
    { profile := defaultProfileId, schemaVersion := profileSyncEnrollmentBundleSchemaVersion
      targetDeviceId := "laptop", createdAt := 40
      signedMembershipRecords :=
        [(authorityEnrollment plainSecretScheme defaultProfileId zeroSecret).signedRecord,
          (zeroSecret.enrollment plainSecretScheme defaultProfileId recordKindEnrollDevice
            (zeroSecret.deviceSigner plainSecretScheme defaultProfileId
              defaultProfileSyncMembershipEpoch "laptop" (by decide))).signedRecord] }

example : laptopHandoff 1 = .ok laptopBundle := by decide +kernel

/-- Nothing was applied on the laptop yet. -/
theorem handoff_is_atomic_iff_laptop :
    HandsOverAtomically plainSecretScheme laptopBundle { localSyncDeviceId := "laptop" } ↔
      CompletesHandoff plainSecretScheme laptopBundle { localSyncDeviceId := "laptop" } :=
  handoff_is_atomic_iff plainSecretScheme_lawful rfl (by decide) .start laptopBundle

end Sample

end SlateProfileDatabase

end Slate.Storage
