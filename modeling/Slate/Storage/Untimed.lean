import Slate.Storage.ActivationEffects

/-!
# The sync tables without their time stamps

The clock stamps the rows that enrollments and activations write. Nothing else depends on it:
neither which records are accepted nor what the other columns hold.
-/

namespace Slate.Storage

open Slate.Foundation

section Rows

def AppSyncDomainRecord.untimed (domain : AppSyncDomainRecord) : AppSyncDomainRecord :=
  { domain with createdAt := 0, updatedAt := 0 }

def SyncDeviceRecord.untimed (device : SyncDeviceRecord) : SyncDeviceRecord :=
  { device with createdAt := 0, lastSeenAt := 0 }

def SyncDevicePublicKeyRecord.untimed (key : SyncDevicePublicKeyRecord) :
    SyncDevicePublicKeyRecord :=
  { key with createdAt := 0, updatedAt := 0 }

/-- That a record was applied is kept, not when. -/
def SyncAccountMembershipRecord.untimed (record : SyncAccountMembershipRecord) :
    SyncAccountMembershipRecord :=
  { record with createdAt := 0, appliedAt := record.appliedAt.map fun _ => 0 }

def SyncContentKeyEpochRecord.untimed (record : SyncContentKeyEpochRecord) :
    SyncContentKeyEpochRecord :=
  { record with createdAt := 0, updatedAt := 0 }

end Rows

namespace SlateProfileDatabase

/-- The database with the time stamps of its sync tables left out. -/
def untimed (db : SlateProfileDatabase) : SlateProfileDatabase :=
  { db with
    appSyncDomains := db.appSyncDomains.map AppSyncDomainRecord.untimed
    syncDevices := db.syncDevices.map SyncDeviceRecord.untimed
    syncDevicePublicKeys := db.syncDevicePublicKeys.map SyncDevicePublicKeyRecord.untimed
    syncAccountMembershipRecords := db.syncAccountMembershipRecords.map SyncAccountMembershipRecord.untimed
    syncContentKeyEpochs := db.syncContentKeyEpochs.map SyncContentKeyEpochRecord.untimed }

variable {scheme : SyncObjectScheme} {db next : SlateProfileDatabase} {profile : String}
  {decoded : DecodedMembershipRecord} {now : Int}

section Writes

/-- The writes of `applyMembershipKey`. -/
def putMembershipKey (record : ProfileSyncMembershipRecord) (now : Int)
    (db : SlateProfileDatabase) : SlateProfileDatabase :=
  if installsKey record.recordKind then
    match record.devicePublicKey with
    | none => db
    | some publicKey =>
        (db.putSyncDevicePublicKey
          { profile := record.profile, publicKey, membershipEpoch := record.membershipEpoch }
          now).recordSyncDeviceRosterEntry record.profile publicKey.deviceId
            record.membershipEpoch now
  else db.putSyncDevicePublicKeyTrusted record.profile record.deviceId false now

/-- The writes of a record that is applied. -/
def putAppliedMembership (decoded : DecodedMembershipRecord) (now : Int)
    (db : SlateProfileDatabase) : SlateProfileDatabase :=
  (((db.insertSyncAccountMembershipRecord decoded.registration now).putMembershipKey
    decoded.record now).recordSyncMembershipDevice decoded.record
      now).putSyncAccountMembershipRecordApplied decoded.record.profile decoded.record.recordId
        now

theorem applyMembershipKey_state {record : ProfileSyncMembershipRecord}
    {deviceKey : Option SyncDevicePublicKeyRecord} {keyed : SlateProfileDatabase}
    (applied : db.applyMembershipKey record now = .ok (deviceKey, keyed)) :
    keyed = db.putMembershipKey record now := by
  unfold applyMembershipKey at applied
  unfold putMembershipKey
  by_cases installs : installsKey record.recordKind
  · rw [if_pos installs] at applied ⊢
    cases carried : record.devicePublicKey with
    | none =>
        rw [carried] at applied
        cases applied
    | some publicKey =>
        rw [carried] at applied
        obtain ⟨⟨key, registered⟩, registers, kept⟩ := bind_eq_ok_iff.mp applied
        obtain ⟨-, rfl⟩ := ok_pair_inj kept
        unfold registerSyncDevicePublicKey at registers
        obtain ⟨-, registers⟩ := check_then_eq_ok_iff.mp registers
        obtain ⟨found, -, registers⟩ := bind_eq_ok_iff.mp registers
        cases found with
        | none => cases registers
        | some record =>
            obtain ⟨-, rfl⟩ := ok_pair_inj registers
            rfl
  · rw [if_neg installs] at applied ⊢
    split at applied
    · unfold setSyncDevicePublicKeyTrusted at applied
      obtain ⟨-, applied⟩ := check_then_eq_ok_iff.mp applied
      obtain ⟨found, -, applied⟩ := bind_eq_ok_iff.mp applied
      obtain ⟨-, rfl⟩ := ok_pair_inj applied
      rfl
    · cases applied

theorem applyNew_state {bootstrapped : Bool}
    {application : SyncAccountMembershipRecordApplication}
    (applied : db.applyNewSyncAccountMembershipRecord decoded bootstrapped now =
      .ok (application, next)) : next = db.putAppliedMembership decoded now := by
  obtain ⟨-, -, -, -, row, deviceKey, keyed, found, -, keyApplied, rfl⟩ :=
    applyNewSyncAccountMembershipRecord_stages applied
  obtain ⟨ofProfile, ofId⟩ := Prod.mk.inj (Rows.mem_of_lookup found).2
  rw [ofProfile, ofId, applyMembershipKey_state keyApplied]
  rfl

/-- A record that was applied before changes nothing, another one writes its rows. -/
theorem applyDecoded_state {application : SyncAccountMembershipRecordApplication}
    (handled : db.applyDecodedSyncAccountMembershipRecord scheme decoded now =
      .ok (application, next)) :
    application.applied = false ∧ next = db ∨
      application.applied = true ∧ next = db.putAppliedMembership decoded now := by
  obtain ⟨bootstrapped, -, handled⟩ := bind_eq_ok_iff.mp handled
  obtain ⟨found, -, handled⟩ := bind_eq_ok_iff.mp handled
  have applies (applied : db.applyNewSyncAccountMembershipRecord decoded bootstrapped now =
      .ok (application, next)) : application.applied = true ∧
        next = db.putAppliedMembership decoded now :=
    ⟨(applyNewSyncAccountMembershipRecord_eq_ok applied).2.1, applyNew_state applied⟩
  cases found with
  | none => exact .inr (applies handled)
  | some existing =>
      simp only at handled
      split at handled
      · cases handled
      · split at handled
        · obtain ⟨deviceKey, -, handled⟩ := bind_eq_ok_iff.mp handled
          obtain ⟨rfl, rfl⟩ := ok_pair_inj handled
          exact .inl ⟨rfl, rfl⟩
        · exact .inr (applies handled)

end Writes

section Commutes

/-! Each write stamps its row and leaves the others to what the tables hold. -/

theorem untimed_registerSyncDevice (device : SyncDeviceRegistration) :
    (db.registerSyncDevice device now).untimed = db.untimed.registerSyncDevice device 0 := by
  unfold registerSyncDevice untimed
  simp only
  rw [Rows.map_upsert SyncDeviceRecord.untimed]
  · rfl
  · exact fun _ => rfl
  · exact fun _ => rfl

theorem untimed_recordSyncDeviceRosterEntry (deviceId : String) (membershipEpoch : Int) :
    (db.recordSyncDeviceRosterEntry profile deviceId membershipEpoch now).untimed =
      db.untimed.recordSyncDeviceRosterEntry profile deviceId membershipEpoch 0 := by
  unfold recordSyncDeviceRosterEntry untimed
  simp only
  rw [Rows.map_upsert SyncDeviceRecord.untimed]
  · rfl
  · exact fun _ => rfl
  · exact fun _ => rfl

theorem untimed_recordSyncDeviceRosterEntryWithProviderAuthority (deviceId : String)
    (membershipEpoch : Int) (providerAuthority : Bool) :
    (db.recordSyncDeviceRosterEntryWithProviderAuthority profile deviceId membershipEpoch
      providerAuthority now).untimed =
      db.untimed.recordSyncDeviceRosterEntryWithProviderAuthority profile deviceId
        membershipEpoch providerAuthority 0 := by
  unfold recordSyncDeviceRosterEntryWithProviderAuthority untimed
  simp only
  rw [Rows.map_upsert SyncDeviceRecord.untimed]
  · rfl
  · exact fun _ => rfl
  · exact fun _ => rfl

theorem untimed_recordSyncMembershipDevice (record : ProfileSyncMembershipRecord) :
    (db.recordSyncMembershipDevice record now).untimed =
      db.untimed.recordSyncMembershipDevice record 0 := by
  unfold recordSyncMembershipDevice
  split
  · apply untimed_recordSyncDeviceRosterEntryWithProviderAuthority
  · split
    · apply untimed_recordSyncDeviceRosterEntryWithProviderAuthority
    · apply untimed_recordSyncDeviceRosterEntry

theorem untimed_putSyncDevicePublicKey (registration : SyncDevicePublicKeyRegistration) :
    (db.putSyncDevicePublicKey registration now).untimed =
      db.untimed.putSyncDevicePublicKey registration 0 := by
  unfold putSyncDevicePublicKey untimed
  simp only
  rw [Rows.map_upsert SyncDevicePublicKeyRecord.untimed]
  · rfl
  · exact fun _ => rfl
  · exact fun _ => rfl

theorem untimed_putSyncDevicePublicKeyTrusted (deviceId : String) (trusted : Bool) :
    (db.putSyncDevicePublicKeyTrusted profile deviceId trusted now).untimed =
      db.untimed.putSyncDevicePublicKeyTrusted profile deviceId trusted 0 := by
  unfold putSyncDevicePublicKeyTrusted untimed
  simp only [List.map_map]
  congr 1
  apply List.map_congr_left
  intro record _
  by_cases own : publicKeyKey record = (profile, deviceId)
  · have ownUntimed : publicKeyKey record.untimed = (profile, deviceId) := own
    simp only [Function.comp_apply, if_pos own, if_pos ownUntimed]
    rfl
  · have otherUntimed : publicKeyKey record.untimed ≠ (profile, deviceId) := own
    simp only [Function.comp_apply, if_neg own, if_neg otherUntimed]

theorem untimed_putMembershipKey (record : ProfileSyncMembershipRecord) :
    (db.putMembershipKey record now).untimed = db.untimed.putMembershipKey record 0 := by
  unfold putMembershipKey
  split
  · cases record.devicePublicKey with
    | none => rfl
    | some publicKey =>
        simp only [untimed_recordSyncDeviceRosterEntry, untimed_putSyncDevicePublicKey]
  · apply untimed_putSyncDevicePublicKeyTrusted

theorem untimed_insertSyncAccountMembershipRecord
    (registration : SyncAccountMembershipRecordRegistration) :
    (db.insertSyncAccountMembershipRecord registration now).untimed =
      db.untimed.insertSyncAccountMembershipRecord registration 0 := by
  unfold insertSyncAccountMembershipRecord untimed
  simp only
  rw [Rows.map_upsert SyncAccountMembershipRecord.untimed]
  · rfl
  · exact fun _ => rfl
  · exact fun _ => rfl

theorem untimed_putSyncAccountMembershipRecordApplied (recordId : String) :
    (db.putSyncAccountMembershipRecordApplied profile recordId now).untimed =
      db.untimed.putSyncAccountMembershipRecordApplied profile recordId 0 := by
  unfold putSyncAccountMembershipRecordApplied untimed
  simp only [List.map_map]
  congr 1
  apply List.map_congr_left
  intro record _
  by_cases own : membershipRecordKey record = (profile, recordId)
  · have ownUntimed : membershipRecordKey record.untimed = (profile, recordId) := own
    simp only [Function.comp_apply, if_pos own, if_pos ownUntimed]
    cases isApplied : record.appliedAt <;> simp [SyncAccountMembershipRecord.untimed, isApplied]
  · have otherUntimed : membershipRecordKey record.untimed ≠ (profile, recordId) := own
    simp only [Function.comp_apply, if_neg own, if_neg otherUntimed]

theorem untimed_putAppliedMembership (decoded : DecodedMembershipRecord) :
    (db.putAppliedMembership decoded now).untimed =
      db.untimed.putAppliedMembership decoded 0 := by
  simp only [putAppliedMembership, untimed_putSyncAccountMembershipRecordApplied,
    untimed_recordSyncMembershipDevice, untimed_putMembershipKey,
    untimed_insertSyncAccountMembershipRecord]

theorem untimed_seedDefaultAppSyncDomain (domain : DefaultAppSyncDomain) :
    (db.seedDefaultAppSyncDomain profile now domain).untimed =
      db.untimed.seedDefaultAppSyncDomain profile 0 domain := by
  unfold seedDefaultAppSyncDomain untimed
  simp only
  rw [Rows.map_upsert AppSyncDomainRecord.untimed]
  · rfl
  · exact fun _ => rfl
  · exact fun _ => rfl

theorem untimed_ensureDefaultAppSyncDomains :
    (db.ensureDefaultAppSyncDomains profile now).untimed =
      db.untimed.ensureDefaultAppSyncDomains profile 0 := by
  unfold ensureDefaultAppSyncDomains
  generalize defaultAppSyncDomains = seeds
  induction seeds generalizing db with
  | nil => rfl
  | cons seed rest inductionHypothesis =>
      rw [List.foldl_cons, List.foldl_cons, inductionHypothesis,
        untimed_seedDefaultAppSyncDomain]

theorem untimed_deactivateSyncContentKeyEpochs :
    (db.deactivateSyncContentKeyEpochs profile now).untimed =
      db.untimed.deactivateSyncContentKeyEpochs profile 0 := by
  unfold deactivateSyncContentKeyEpochs untimed
  simp only [List.map_map]
  congr 1
  apply List.map_congr_left
  intro record _
  by_cases own : record.profile = profile ∧ record.active = true
  · have ownUntimed : record.untimed.profile = profile ∧ record.untimed.active = true := own
    simp only [Function.comp_apply, if_pos own, if_pos ownUntimed]
    rfl
  · have otherUntimed : ¬(record.untimed.profile = profile ∧ record.untimed.active = true) := own
    simp only [Function.comp_apply, if_neg own, if_neg otherUntimed]

theorem untimed_putSyncContentKeyEpoch (registration : SyncContentKeyEpochRegistration) :
    (db.putSyncContentKeyEpoch registration now).untimed =
      db.untimed.putSyncContentKeyEpoch registration 0 := by
  unfold putSyncContentKeyEpoch untimed
  simp only
  rw [Rows.map_upsert SyncContentKeyEpochRecord.untimed]
  · rfl
  · exact fun _ => rfl
  · exact fun _ => rfl

end Commutes

section Reads

theorem storedRecord_untimed (recordId : String) :
    db.untimed.storedRecord profile recordId =
      (db.storedRecord profile recordId).map SyncAccountMembershipRecord.untimed := by
  apply Rows.lookup_map
  exact fun _ => rfl

/-- What the tables say of the devices is not a matter of time. -/
theorem roster_untimed (profile : String) : db.untimed.roster profile = db.roster profile := by
  funext deviceId
  have keys : Rows.lookup publicKeyKey (profile, deviceId) db.untimed.syncDevicePublicKeys =
      (Rows.lookup publicKeyKey (profile, deviceId) db.syncDevicePublicKeys).map
        SyncDevicePublicKeyRecord.untimed := by
    apply Rows.lookup_map
    exact fun _ => rfl
  have devices : Rows.lookup deviceKey (profile, deviceId) db.untimed.syncDevices =
      (Rows.lookup deviceKey (profile, deviceId) db.syncDevices).map SyncDeviceRecord.untimed := by
    apply Rows.lookup_map
    exact fun _ => rfl
  apply Standing.ext
  · simp only [roster, standing, keys, Option.map_map]
    rfl
  · simp only [roster, standing, devices, Option.any_map]
    rfl
  · ext epoch
    simp only [roster, standing, Set.mem_ofPred_eq, storedRecord_untimed,
      Option.map_eq_some_iff]
    constructor
    · rintro ⟨recordId, row, ⟨stored, found, rfl⟩, ofDevice, isApplied, sameEpoch⟩
      exact ⟨recordId, stored, found, ofDevice,
        by simpa [SyncAccountMembershipRecord.untimed] using isApplied, sameEpoch⟩
    · rintro ⟨recordId, row, found, ofDevice, isApplied, sameEpoch⟩
      exact ⟨recordId, row.untimed, ⟨row, found, rfl⟩, ofDevice,
        by simpa [SyncAccountMembershipRecord.untimed] using isApplied, sameEpoch⟩

theorem taken_untimed_iff : Taken decoded db.untimed ↔ Taken decoded db := by
  simp only [Taken, storedRecord_untimed, Option.map_eq_some_iff]
  constructor
  · rintro ⟨row, ⟨stored, found, rfl⟩, sameBytes, isApplied⟩
    exact ⟨stored, found, sameBytes,
      by simpa [SyncAccountMembershipRecord.untimed] using isApplied⟩
  · rintro ⟨row, found, sameBytes, isApplied⟩
    exact ⟨row.untimed, ⟨row, found, rfl⟩, sameBytes,
      by simpa [SyncAccountMembershipRecord.untimed] using isApplied⟩

theorem untaken_untimed_iff : Untaken decoded db.untimed ↔ Untaken decoded db := by
  simp only [Untaken, storedRecord_untimed, Option.map_eq_some_iff]
  constructor
  · intro untaken row found
    have free := untaken row.untimed ⟨row, found, rfl⟩
    simpa [SyncAccountMembershipRecord.untimed] using free
  · rintro untaken _ ⟨row, found, rfl⟩
    have free := untaken row found
    simpa [SyncAccountMembershipRecord.untimed] using free

end Reads

section Simulation

/-- The databases differ in time stamps only, and both are as the operations keep them. -/
structure SameAside (scheme : SyncObjectScheme) (db next : SlateProfileDatabase) : Prop where
  untimed : next.untimed = db.untimed
  before : EnrollmentTables scheme db
  after : EnrollmentTables scheme next

namespace SameAside

variable {other : SlateProfileDatabase} (same : SameAside scheme db other)
include same

theorem roster (profile : String) : other.roster profile = db.roster profile := by
  rw [← roster_untimed, same.untimed, roster_untimed]

theorem taken_iff : Taken decoded other ↔ Taken decoded db := by
  rw [← taken_untimed_iff, same.untimed, taken_untimed_iff]

theorem untaken_iff : Untaken decoded other ↔ Untaken decoded db := by
  rw [← untaken_untimed_iff, same.untimed, untaken_untimed_iff]

end SameAside

/-- A record that could be handled has bytes. -/
theorem nonempty_of_handled {application : SyncAccountMembershipRecordApplication}
    (tables : EnrollmentTables scheme db) (decodes : decoded.Decodes scheme)
    (handled : db.applyDecodedSyncAccountMembershipRecord scheme decoded now =
      .ok (application, next)) : decoded.signedRecord ≠ [] := by
  have stored : ∃ row ∈ next.syncAccountMembershipRecords,
      row.signedRecord = decoded.signedRecord := by
    obtain ⟨-, ⟨-, rfl, row, found, sameBytes, -⟩ | ⟨-, -, -, applied⟩⟩ :=
      applyDecoded_outcome tables.wellStored decodes handled
    · exact ⟨row, ((storedRecord_eq_some_iff tables.wellStored).mp found).1, sameBytes⟩
    · obtain ⟨createdAt, appliedAt, found⟩ := applied.row
      exact ⟨_, ((storedRecord_eq_some_iff applied.wellStored).mp found).1, rfl⟩
  obtain ⟨row, membership, sameBytes⟩ := stored
  obtain ⟨kept, createdAt, appliedAt, -, nonempty, rfl⟩ :=
    (tables.applyDecoded decodes handled).wellStored.rows row membership
  rw [← sameBytes]
  exact nonempty

/-- A record that is handled at one time is handled at any other, with the same outcome. -/
theorem applyDecoded_simulates {other : SlateProfileDatabase} {later : Int}
    (decodes : decoded.Decodes scheme) (same : SameAside scheme db other)
    {application : SyncAccountMembershipRecordApplication}
    (handled : db.applyDecodedSyncAccountMembershipRecord scheme decoded now =
      .ok (application, next)) :
    ∃ application' next', other.applyDecodedSyncAccountMembershipRecord scheme decoded later =
      .ok (application', next') ∧ SameAside scheme next next' := by
  have nonempty := nonempty_of_handled same.before decodes handled
  have tables := same.before.applyDecoded decodes handled
  obtain ⟨authorized, outcome⟩ := applyDecoded_outcome same.before.wellStored decodes handled
  rw [← same.roster] at authorized
  have state := applyDecoded_state handled
  rcases outcome with ⟨-, rfl, taken⟩ | ⟨isApplied, untaken, admits, -⟩
  · obtain ⟨application', repeated, -⟩ := exists_applyDecoded_of_taken same.after.wellStored
      decodes authorized (same.taken_iff.mpr taken)
    exact ⟨application', other, repeated, same⟩
  · rw [← same.roster] at admits
    have free := same.untaken_iff.mpr untaken
    obtain ⟨application', next', repeated⟩ := exists_applyDecoded_of_untaken
      same.after.wellStored decodes nonempty authorized admits free
    have written : next = db.putAppliedMembership decoded now := by
      rcases state with ⟨notApplied, -⟩ | ⟨-, written⟩
      · rw [isApplied] at notApplied
        cases notApplied
      · exact written
    have rewritten : next' = other.putAppliedMembership decoded later := by
      obtain ⟨-, ⟨-, -, taken⟩ | ⟨applied, -⟩⟩ :=
        applyDecoded_outcome same.after.wellStored decodes repeated
      · exact absurd free taken.not_untaken
      · rcases applyDecoded_state repeated with ⟨notApplied, -⟩ | ⟨-, rewritten⟩
        · rw [applied] at notApplied
          cases notApplied
        · exact rewritten
    refine ⟨application', next', repeated, ⟨?_, tables, same.after.applyDecoded decodes repeated⟩⟩
    rw [written, rewritten, untimed_putAppliedMembership, untimed_putAppliedMembership,
      same.untimed]

/-- So does a whole batch. -/
theorem applySigned_simulates {other : SlateProfileDatabase} {later : Int}
    {signedRecords : List (List Nat)} (same : SameAside scheme db other)
    {applications : List SyncAccountMembershipRecordApplication}
    (applied : db.applySignedSyncAccountMembershipRecords scheme signedRecords now =
      .ok (applications, next)) :
    ∃ applications' next', other.applySignedSyncAccountMembershipRecords scheme signedRecords
      later = .ok (applications', next') ∧ SameAside scheme next next' := by
  obtain ⟨decodedRecords, decoded, run⟩ := bind_eq_ok_iff.mp applied
  obtain ⟨applications', next', run', sameNext⟩ := forEach_simulates (SameAside scheme)
    (fun record membership _ _ _ _ related handled => applyDecoded_simulates
      (decodes_of_mem_decodeSignedMembershipRecords decoded membership) related handled)
    same run
  refine ⟨applications', next', ?_, sameNext⟩
  unfold applySignedSyncAccountMembershipRecords
  rw [decoded, ok_bind]
  exact run'

end Simulation

end SlateProfileDatabase

end Slate.Storage
