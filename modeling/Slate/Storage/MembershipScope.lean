import Slate.Storage.MembershipAuthority

/-!
# The profile a membership record is applied to

A record names its profile, and everything it changes are rows of that profile: its own
row, the device's key and the device's roster entry.
-/

namespace Slate.Storage

open Slate.Foundation

namespace SlateProfileDatabase

/-- The database without the devices, keys, membership records and roots of a profile. -/
def withoutMembershipOf (profile : String) (db : SlateProfileDatabase) :
    SlateProfileDatabase :=
  { db with
    syncDevices := db.syncDevices.filter fun row => row.profile != profile
    syncDevicePublicKeys := db.syncDevicePublicKeys.filter fun row => row.profile != profile
    syncAccountMembershipRecords :=
      db.syncAccountMembershipRecords.filter fun row => row.profile != profile
    syncState := db.syncState.filter fun row => row.profile != profile }

/-- The step leaves everything but the membership of the profile as it was. -/
def OnlyMembershipOf (profile : String) (db next : SlateProfileDatabase) : Prop :=
  next.withoutMembershipOf profile = db.withoutMembershipOf profile

variable {scheme : SyncObjectScheme} {db next : SlateProfileDatabase} {profile : String}
  {decoded : DecodedMembershipRecord} {now : Int}

theorem OnlyMembershipOf.refl (profile : String) (db : SlateProfileDatabase) :
    OnlyMembershipOf profile db db := rfl

theorem OnlyMembershipOf.trans {first second third : SlateProfileDatabase}
    (before : OnlyMembershipOf profile first second)
    (after : OnlyMembershipOf profile second third) : OnlyMembershipOf profile first third :=
  Eq.trans after before

section Rows

/-- Updating rows with one key keeps the rows of other profiles. -/
theorem filter_map_update {Row : Type} {key : Row → String × String} {keep : Row → Bool}
    {wanted : String × String} {update : Row → Row}
    (dropped : ∀ row, key row = wanted → keep row = false ∧ keep (update row) = false)
    (rows : List Row) :
    (rows.map fun row => if key row = wanted then update row else row).filter keep =
      rows.filter keep := by
  induction rows with
  | nil => rfl
  | cons head rest inductionHypothesis =>
      rw [List.map_cons]
      by_cases same : key head = wanted
      · simp [same, dropped head same, inductionHypothesis]
      · simp [same, List.filter_cons, inductionHypothesis]

theorem onlyMembershipOf_insertSyncAccountMembershipRecord
    (registration : SyncAccountMembershipRecordRegistration) :
    OnlyMembershipOf registration.profile db
      (db.insertSyncAccountMembershipRecord registration now) := by
  simp only [OnlyMembershipOf, withoutMembershipOf, insertSyncAccountMembershipRecord]
  rw [Rows.filter_upsert_of_dropped]
  · simp
  · intro existing same
    have ofProfile : existing.profile = registration.profile := congrArg Prod.fst same
    simp [ofProfile]

theorem onlyMembershipOf_putSyncDevicePublicKey
    (registration : SyncDevicePublicKeyRegistration) :
    OnlyMembershipOf registration.profile db (db.putSyncDevicePublicKey registration now) := by
  simp only [OnlyMembershipOf, withoutMembershipOf, putSyncDevicePublicKey]
  rw [Rows.filter_upsert_of_dropped]
  · simp
  · intro existing same
    have ofProfile : existing.profile = registration.profile := congrArg Prod.fst same
    simp [ofProfile]

theorem onlyMembershipOf_putSyncDevicePublicKeyTrusted (deviceId : String) (trusted : Bool) :
    OnlyMembershipOf profile db
      (db.putSyncDevicePublicKeyTrusted profile deviceId trusted now) := by
  simp only [OnlyMembershipOf, withoutMembershipOf, putSyncDevicePublicKeyTrusted]
  rw [filter_map_update]
  intro row same
  have ofProfile : row.profile = profile := congrArg Prod.fst same
  simp [ofProfile]

theorem onlyMembershipOf_putSyncAccountMembershipRecordApplied (recordId : String) :
    OnlyMembershipOf profile db
      (db.putSyncAccountMembershipRecordApplied profile recordId now) := by
  simp only [OnlyMembershipOf, withoutMembershipOf, putSyncAccountMembershipRecordApplied]
  rw [filter_map_update]
  intro row same
  have ofProfile : row.profile = profile := congrArg Prod.fst same
  simp [ofProfile]

theorem onlyMembershipOf_recordSyncDeviceRosterEntry (deviceId : String)
    (membershipEpoch : Int) :
    OnlyMembershipOf profile db
      (db.recordSyncDeviceRosterEntry profile deviceId membershipEpoch now) := by
  simp only [OnlyMembershipOf, withoutMembershipOf, recordSyncDeviceRosterEntry]
  rw [Rows.filter_upsert_of_dropped]
  · simp
  · intro existing same
    have ofProfile : existing.profile = profile := congrArg Prod.fst same
    simp [ofProfile]

theorem onlyMembershipOf_recordSyncDeviceRosterEntryWithProviderAuthority (deviceId : String)
    (membershipEpoch : Int) (providerAuthority : Bool) :
    OnlyMembershipOf profile db (db.recordSyncDeviceRosterEntryWithProviderAuthority profile
      deviceId membershipEpoch providerAuthority now) := by
  simp only [OnlyMembershipOf, withoutMembershipOf,
    recordSyncDeviceRosterEntryWithProviderAuthority]
  rw [Rows.filter_upsert_of_dropped]
  · simp
  · intro existing same
    have ofProfile : existing.profile = profile := congrArg Prod.fst same
    simp [ofProfile]

theorem onlyMembershipOf_setProfileSyncRoot {rootId objectId : String}
    (h : db.setProfileSyncRoot profile rootId objectId now = .ok ((), next)) :
    OnlyMembershipOf profile db next := by
  unfold setProfileSyncRoot at h
  split at h
  · cases h
  · obtain ⟨-, rfl⟩ := ok_pair_inj h
    simp only [OnlyMembershipOf, withoutMembershipOf]
    rw [Rows.filter_upsert_of_dropped]
    · simp
    · intro existing same
      have ofProfile : existing.profile = profile := congrArg Prod.fst same
      simp [ofProfile]

end Rows

section Application

theorem onlyMembershipOf_recordSyncMembershipDevice (record : ProfileSyncMembershipRecord) :
    OnlyMembershipOf record.profile db (db.recordSyncMembershipDevice record now) := by
  unfold recordSyncMembershipDevice
  split
  · apply onlyMembershipOf_recordSyncDeviceRosterEntryWithProviderAuthority
  · split
    · apply onlyMembershipOf_recordSyncDeviceRosterEntryWithProviderAuthority
    · apply onlyMembershipOf_recordSyncDeviceRosterEntry

theorem onlyMembershipOf_applyMembershipKey {record : ProfileSyncMembershipRecord}
    {deviceKey : Option SyncDevicePublicKeyRecord}
    (h : db.applyMembershipKey record now = .ok (deviceKey, next)) :
    OnlyMembershipOf record.profile db next := by
  unfold applyMembershipKey at h
  split at h
  · split at h
    · cases h
    next publicKey _ =>
      obtain ⟨⟨key, registered⟩, registration, h⟩ := bind_eq_ok_iff.mp h
      obtain ⟨-, rfl⟩ := ok_pair_inj h
      unfold registerSyncDevicePublicKey at registration
      split at registration
      · cases registration
      · obtain ⟨stored, -, registration⟩ := bind_eq_ok_iff.mp registration
        split at registration
        · obtain ⟨-, rfl⟩ := ok_pair_inj registration
          exact (onlyMembershipOf_putSyncDevicePublicKey _).trans
            (onlyMembershipOf_recordSyncDeviceRosterEntry _ _)
        · cases registration
  · split at h
    · unfold setSyncDevicePublicKeyTrusted at h
      split at h
      · cases h
      · obtain ⟨stored, -, h⟩ := bind_eq_ok_iff.mp h
        obtain ⟨-, rfl⟩ := ok_pair_inj h
        exact onlyMembershipOf_putSyncDevicePublicKeyTrusted _ _
    · cases h

/-- A new record changes only rows of its profile. -/
theorem onlyMembershipOf_applyNewSyncAccountMembershipRecord {bootstrapped : Bool}
    {application : SyncAccountMembershipRecordApplication}
    (h : db.applyNewSyncAccountMembershipRecord decoded bootstrapped now =
      .ok (application, next)) :
    OnlyMembershipOf decoded.record.profile db next := by
  obtain ⟨-, -, -, -, row, deviceKey, keyed, lookup, -, keyApplied, rfl⟩ :=
    applyNewSyncAccountMembershipRecord_stages h
  have ofProfile : row.profile = decoded.record.profile :=
    congrArg Prod.fst (Rows.mem_of_lookup lookup).2
  apply (onlyMembershipOf_insertSyncAccountMembershipRecord decoded.registration).trans
  apply (onlyMembershipOf_applyMembershipKey keyApplied).trans
  apply (onlyMembershipOf_recordSyncMembershipDevice decoded.record).trans
  rw [ofProfile]
  apply onlyMembershipOf_putSyncAccountMembershipRecordApplied

/-- A record with its id is stored and was applied. -/
def AlreadyApplied (decoded : DecodedMembershipRecord) (db : SlateProfileDatabase) : Prop :=
  ∃ row, db.syncAccountMembershipRecord decoded.record.profile decoded.record.recordId =
    .ok (some row) ∧ row.appliedAt.isSome

theorem alreadyApplied_of_applyNew {bootstrapped : Bool}
    {application : SyncAccountMembershipRecordApplication}
    (valid : isValidSyncIdentifier decoded.record.recordId)
    (h : db.applyNewSyncAccountMembershipRecord decoded bootstrapped now =
      .ok (application, next)) : AlreadyApplied decoded next := by
  obtain ⟨-, -, -, -, row, deviceKey, keyed, lookup, -, keyApplied, rfl⟩ :=
    applyNewSyncAccountMembershipRecord_stages h
  have own : membershipRecordKey row = (row.profile, row.recordId) := rfl
  refine ⟨{ row with appliedAt := some (row.appliedAt.getD now) }, ?_, rfl⟩
  rw [syncAccountMembershipRecord, if_pos valid, syncAccountMembershipRecords_of_stages keyApplied]
  simp only [putSyncAccountMembershipRecordApplied]
  rw [Rows.lookup_map (fun other => by split <;> rfl), lookup, Option.map_some, if_pos own]

/-- A record that was applied before changes nothing, any other one only its profile. -/
theorem applyDecoded_scope {application : SyncAccountMembershipRecordApplication}
    (h : db.applyDecodedSyncAccountMembershipRecord scheme decoded now =
      .ok (application, next)) :
    (AlreadyApplied decoded db ∧ next = db) ∨
      (¬ AlreadyApplied decoded db ∧ AlreadyApplied decoded next ∧
        OnlyMembershipOf decoded.record.profile db next) := by
  obtain ⟨bootstrapped, -, h⟩ := bind_eq_ok_iff.mp h
  obtain ⟨existing, found, h⟩ := bind_eq_ok_iff.mp h
  have valid : isValidSyncIdentifier decoded.record.recordId := by
    by_contra invalid
    rw [syncAccountMembershipRecord, if_neg invalid] at found
    cases found
  cases existing with
  | none =>
      refine .inr ⟨?_, alreadyApplied_of_applyNew valid h,
        onlyMembershipOf_applyNewSyncAccountMembershipRecord h⟩
      rintro ⟨row, stored, -⟩
      rw [found] at stored
      cases stored
  | some existing =>
      simp only at h
      split at h
      · cases h
      · split at h
        next isApplied =>
          obtain ⟨deviceKey, -, h⟩ := bind_eq_ok_iff.mp h
          obtain ⟨-, rfl⟩ := ok_pair_inj h
          exact .inl ⟨⟨existing, found, isApplied⟩, rfl⟩
        next notApplied =>
          refine .inr ⟨?_, alreadyApplied_of_applyNew valid h,
            onlyMembershipOf_applyNewSyncAccountMembershipRecord h⟩
          rintro ⟨row, stored, isApplied⟩
          rw [found] at stored
          cases stored
          exact notApplied isApplied

/-- A record of another profile that was not applied before shows outside the profile. -/
theorem alreadyApplied_iff_of_onlyMembershipOf (only : OnlyMembershipOf profile db next)
    (other : decoded.record.profile ≠ profile) :
    AlreadyApplied decoded next ↔ AlreadyApplied decoded db := by
  have sameRows : next.syncAccountMembershipRecords.filter (fun row => row.profile != profile) =
      db.syncAccountMembershipRecords.filter fun row => row.profile != profile :=
    congrArg SlateProfileDatabase.syncAccountMembershipRecords only
  have lookup_outside : ∀ rows : List SyncAccountMembershipRecord,
      Rows.lookup membershipRecordKey (decoded.record.profile, decoded.record.recordId) rows =
        Rows.lookup membershipRecordKey (decoded.record.profile, decoded.record.recordId)
          (rows.filter fun row => row.profile != profile) := by
    intro rows
    rw [Rows.lookup, Rows.lookup, List.find?_filter]
    congr 1
    funext row
    by_cases same : membershipRecordKey row =
      (decoded.record.profile, decoded.record.recordId)
    · have ofOther : row.profile ≠ profile := by
        rwa [show row.profile = decoded.record.profile from congrArg Prod.fst same]
      simp [same, ofOther]
    · simp [same]
  simp only [AlreadyApplied, syncAccountMembershipRecord]
  rw [lookup_outside next.syncAccountMembershipRecords, sameRows, ← lookup_outside]

theorem onlyMembershipOf_applyRecords {records : List DecodedMembershipRecord}
    {applications : List SyncAccountMembershipRecordApplication}
    (ofProfile : ∀ decoded ∈ records, decoded.record.profile = profile)
    (h : forEach (fun decoded => applyDecodedSyncAccountMembershipRecord scheme decoded now)
      records db = .ok (applications, next)) : OnlyMembershipOf profile db next := by
  induction records generalizing db applications with
  | nil =>
      obtain ⟨-, rfl⟩ := ok_pair_inj h
      exact .refl profile db
  | cons decoded rest inductionHypothesis =>
      obtain ⟨application, middle, others, first, tail, -⟩ := forEach_cons_eq_ok_iff.mp h
      apply OnlyMembershipOf.trans ?_ (inductionHypothesis
        (fun other membership => ofProfile other (List.mem_cons_of_mem _ membership)) tail)
      rcases applyDecoded_scope first with ⟨-, rfl⟩ | ⟨-, -, only⟩
      · exact .refl profile middle
      · rwa [ofProfile decoded (List.mem_cons_self ..)] at only

end Application

section SingleRecord

/-- `apply_signed_sync_account_membership_record_and_set_profile_sync_root`: the last of the
applications of a batch of one. -/
def applySignedSyncAccountMembershipRecordAndSetProfileSyncRoot (scheme : SyncObjectScheme)
    (profile rootId objectId : String) (signedRecord : List Nat) (now : Int)
    (db : SlateProfileDatabase) :
    Except StorageError (SyncAccountMembershipRecordApplication × SlateProfileDatabase) := do
  let (applications, db) ← db.applySignedSyncAccountMembershipRecordsAndSetProfileSyncRoot
    scheme profile rootId objectId [signedRecord] now
  match applications.getLast? with
  | some application => pure (application, db)
  | none => throw (.database .queryReturnedNoRows)

end SingleRecord

end SlateProfileDatabase

end Slate.Storage
