import Slate.Storage.Membership

/-!
# The membership authority chain

Every trusted key goes back to an applied record, and every applied record to the key
of a trusted signer, down to one self-signed record that found the profile without keys.
The chain is an invariant of every run of batches, whatever records they carry.
-/

namespace Slate.Storage

open Slate.Foundation

namespace SlateProfileDatabase

variable {scheme : SyncObjectScheme}

/-- One record handled by a committed batch, with the database it was handled in. -/
structure MembershipEvent where
  before : SlateProfileDatabase
  decoded : DecodedMembershipRecord
  application : SyncAccountMembershipRecordApplication

/-- Handle a record and note what it was handled in. -/
def applyDecodedNoted (scheme : SyncObjectScheme) (now : Int) (decoded : DecodedMembershipRecord)
    (db : SlateProfileDatabase) :
    Except StorageError (MembershipEvent × SlateProfileDatabase) := do
  let (application, next) ← db.applyDecodedSyncAccountMembershipRecord scheme decoded now
  pure ({ before := db, decoded, application }, next)

/-- The events of a batch. -/
def membershipEvents (scheme : SyncObjectScheme) (signedRecords : List (List Nat)) (now : Int)
    (db : SlateProfileDatabase) :
    Except StorageError (List MembershipEvent × SlateProfileDatabase) := do
  let decodedRecords ← decodeSignedMembershipRecords scheme signedRecords
  forEach (applyDecodedNoted scheme now) decodedRecords db

/-- Runs of batches; a failed batch leaves the database as it was. -/
inductive MembershipRun (scheme : SyncObjectScheme) (start : SlateProfileDatabase) :
    List MembershipEvent → SlateProfileDatabase → Prop where
  | start : MembershipRun scheme start [] start
  | batch {events batch : List MembershipEvent} {db next : SlateProfileDatabase}
      {signedRecords : List (List Nat)} {now : Int}
      {applications : List SyncAccountMembershipRecordApplication}
      (run : MembershipRun scheme start events db)
      (applied : db.applySignedSyncAccountMembershipRecords scheme signedRecords now =
        .ok (applications, next))
      (noted : db.membershipEvents scheme signedRecords now = .ok (batch, next)) :
      MembershipRun scheme start (events ++ batch) next
  | failed {events : List MembershipEvent} {db : SlateProfileDatabase}
      {signedRecords : List (List Nat)} {now : Int} {failure : StorageError}
      (run : MembershipRun scheme start events db)
      (failed : db.applySignedSyncAccountMembershipRecords scheme signedRecords now =
        .error failure) :
      MembershipRun scheme start events db

/-- Noting the events changes neither the outcome nor the applications. -/
theorem exists_membershipEvents {signedRecords : List (List Nat)} {now : Int}
    {db next : SlateProfileDatabase}
    {applications : List SyncAccountMembershipRecordApplication}
    (applied : db.applySignedSyncAccountMembershipRecords scheme signedRecords now =
      .ok (applications, next)) :
    ∃ batch, db.membershipEvents scheme signedRecords now = .ok (batch, next) ∧
      batch.map (·.application) = applications := by
  obtain ⟨decodedRecords, decoded, run⟩ := bind_eq_ok_iff.mp applied
  have noted : ∃ batch, forEach (applyDecodedNoted scheme now) decodedRecords db =
      .ok (batch, next) ∧ batch.map (·.application) = applications := by
    clear decoded applied
    induction decodedRecords generalizing db applications with
    | nil =>
        cases run
        exact ⟨[], rfl, rfl⟩
    | cons head rest inductionHypothesis =>
        obtain ⟨application, middle, others, first, tail, rfl⟩ := forEach_cons_eq_ok_iff.mp run
        obtain ⟨batch, continued, same⟩ := inductionHypothesis tail
        refine ⟨⟨db, head, application⟩ :: batch, ?_, by simp [same]⟩
        refine forEach_cons_eq_ok_iff.mpr ⟨_, middle, batch, ?_, continued, rfl⟩
        rw [applyDecodedNoted, first]
        rfl
  obtain ⟨batch, noted, same⟩ := noted
  exact ⟨batch, bind_eq_ok_iff.mpr ⟨decodedRecords, decoded, noted⟩, same⟩

section Decoding

/-- What every decoded record has passed. -/
structure DecodedMembershipRecord.Checked (scheme : SyncObjectScheme)
    (decoded : DecodedMembershipRecord) : Prop where
  signer : isValidSyncIdentifier decoded.signedObject.deviceId
  selfSigned : ∃ payload, decoded.signedObject.verifyWith scheme
    { deviceId := decoded.signedObject.deviceId
      bytes := decoded.signedObject.publicKey } = .ok payload
  valid : validateProfileSyncMembershipRecord decoded.record = .ok ()

theorem checked_of_decode {signedRecord : List Nat} {signedObject : SignedSyncObject}
    {record : ProfileSyncMembershipRecord}
    (h : decodeSignedProfileSyncMembershipRecord scheme signedRecord =
      .ok (signedObject, record)) :
    DecodedMembershipRecord.Checked scheme ⟨signedRecord, signedObject, record⟩ := by
  obtain ⟨object, -, h⟩ := bind_eq_ok_iff.mp h
  split at h
  · cases h
  next valid =>
    obtain ⟨payload, verified, h⟩ := bind_eq_ok_iff.mp h
    obtain ⟨decodedRecord, -, h⟩ := bind_eq_ok_iff.mp h
    obtain ⟨_, checked, h⟩ := bind_eq_ok_iff.mp h
    obtain ⟨rfl, rfl⟩ := ok_pair_inj h
    exact ⟨by simpa using valid, ⟨payload, mapError_eq_ok_iff.mp verified⟩, checked⟩

theorem checked_of_mem_decodeSignedMembershipRecords {signedRecords : List (List Nat)}
    {decodedRecords : List DecodedMembershipRecord}
    (h : decodeSignedMembershipRecords scheme signedRecords = .ok decodedRecords)
    {decoded : DecodedMembershipRecord} (membership : decoded ∈ decodedRecords) :
    decoded.Checked scheme := by
  induction signedRecords generalizing decodedRecords with
  | nil =>
      cases h
      simp at membership
  | cons head rest inductionHypothesis =>
      simp only [decodeSignedMembershipRecords, List.mapM_cons] at h
      obtain ⟨first, firstDecoded, h⟩ := bind_eq_ok_iff.mp h
      obtain ⟨others, restDecoded, h⟩ := bind_eq_ok_iff.mp h
      cases h
      obtain ⟨⟨signedObject, record⟩, decodedHead, h⟩ := bind_eq_ok_iff.mp firstDecoded
      cases h
      rcases List.mem_cons.mp membership with rfl | inRest
      · exact checked_of_decode decodedHead
      · exact inductionHypothesis restDecoded inRest

end Decoding

section Authorization

variable {db : SlateProfileDatabase} {signedObject : SignedSyncObject}
  {record : ProfileSyncMembershipRecord}

theorem bootstraps_iff :
    db.bootstraps signedObject record ↔
      (∀ key ∈ db.syncDevicePublicKeys, key.profile ≠ record.profile) ∧
      record.recordKind = recordKindEnrollDevice ∧
      record.deviceId = signedObject.deviceId ∧
      record.devicePublicKey = some
        { deviceId := signedObject.deviceId, bytes := signedObject.publicKey } := by
  have unkeyed : (db.syncDevicePublicKeysOf record.profile).isEmpty ↔
      ∀ key ∈ db.syncDevicePublicKeys, key.profile ≠ record.profile := by
    rw [List.isEmpty_iff, List.eq_nil_iff_forall_not_mem]
    simp [syncDevicePublicKeysOf, List.mem_insertionSort]
  simp only [bootstraps, Bool.and_eq_true, unkeyed, beq_iff_eq, and_assoc]
  refine and_congr_right fun _ => and_congr_right fun _ => and_congr_right fun _ => ?_
  cases record.devicePublicKey with
  | none => simp
  | some publicKey =>
      obtain ⟨deviceId, bytes⟩ := publicKey
      simp

/-- A signer that may authorize a record in the state of the database. -/
structure IsAuthorizingSigner (scheme : SyncObjectScheme) (signedObject : SignedSyncObject)
    (record : ProfileSyncMembershipRecord) (db : SlateProfileDatabase)
    (signer : SyncDevicePublicKeyRecord) : Prop where
  stored : signer ∈ db.syncDevicePublicKeys
  profile : signer.profile = record.profile
  device : signer.publicKey.deviceId = signedObject.deviceId
  trusted : signer.trusted = true
  notProvider : db.syncDeviceProviderAuthority record.profile signedObject.deviceId = .ok false
  epoch : signer.membershipEpoch ≤ record.membershipEpoch
  verifies : ∃ payload, signedObject.verifyWith scheme signer.publicKey = .ok payload

/-- A record is authorized by bootstrapping the profile or by its signer. -/
theorem authorizeSyncAccountMembershipRecord_cases {bootstrapped : Bool}
    (h : db.authorizeSyncAccountMembershipRecord scheme signedObject record =
      .ok bootstrapped) :
    (bootstrapped = true ∧ db.bootstraps signedObject record) ∨
      (bootstrapped = false ∧
        ∃ signer, IsAuthorizingSigner scheme signedObject record db signer) := by
  unfold authorizeSyncAccountMembershipRecord at h
  split at h
  next bootstraps =>
    exact .inl ⟨(Except.ok.inj h).symm, bootstraps⟩
  next =>
    obtain ⟨found, lookup, h⟩ := bind_eq_ok_iff.mp h
    split at h
    · cases h
    next signer filtered =>
      obtain ⟨rfl, trusted⟩ := Option.filter_eq_some_iff.mp filtered
      obtain ⟨provider, providerFound, h⟩ := bind_eq_ok_iff.mp h
      cases provider with
      | true => cases h
      | false =>
          split at h
          next => cases h
          next epoch =>
            obtain ⟨payload, verified, h⟩ := bind_eq_ok_iff.mp h
            have stored : Rows.lookup publicKeyKey (record.profile, signedObject.deviceId)
                db.syncDevicePublicKeys = some signer := by
              unfold syncDevicePublicKey at lookup
              split at lookup
              · exact Except.ok.inj lookup
              · cases lookup
            obtain ⟨signerMem, signerKey⟩ := Rows.mem_of_lookup stored
            obtain ⟨ofProfile, ofDevice⟩ := Prod.mk.inj signerKey
            exact .inr ⟨(Except.ok.inj h).symm, signer, signerMem, ofProfile, ofDevice, trusted,
              providerFound, not_lt.mp epoch, payload, mapError_eq_ok_iff.mp verified⟩

end Authorization

section Effects

variable {db next : SlateProfileDatabase} {record : ProfileSyncMembershipRecord} {now : Int}

/-- What applying a record may do to the key table. -/
structure KeysAfter (record : ProfileSyncMembershipRecord) (keys next :
    List SyncDevicePublicKeyRecord) : Prop where
  /-- A trusted key was there, or is the key of the record. -/
  trusted : ∀ key ∈ next, key.trusted = true → key ∈ keys ∨
    (installsKey record.recordKind ∧ key.profile = record.profile ∧
      record.devicePublicKey = some key.publicKey ∧
      key.membershipEpoch = record.membershipEpoch)
  /-- No key is removed. -/
  kept : ∀ key ∈ keys, ∃ later ∈ next, later.profile = key.profile
  installed : installsKey record.recordKind → ∃ key ∈ next, key.profile = record.profile

theorem keysAfter_putSyncDevicePublicKey {publicKey : ProfileSyncDevicePublicKey}
    (installs : installsKey record.recordKind) (found : record.devicePublicKey = some publicKey) :
    KeysAfter record db.syncDevicePublicKeys
      (db.putSyncDevicePublicKey
        { profile := record.profile, publicKey, membershipEpoch := record.membershipEpoch }
        now).syncDevicePublicKeys := by
  have keyed : ∀ wanted, wanted ∈ db.syncDevicePublicKeys.map publicKeyKey ∨
      wanted = (record.profile, publicKey.deviceId) →
      ∃ key ∈ (db.putSyncDevicePublicKey
        { profile := record.profile, publicKey, membershipEpoch := record.membershipEpoch }
        now).syncDevicePublicKeys, publicKeyKey key = wanted := by
    intro wanted present
    refine Rows.key_mem_upsert (fun existing same => ?_) present
    have ofProfile : existing.profile = record.profile := congrArg Prod.fst same
    exact Prod.ext ofProfile rfl
  refine ⟨fun key membership _ => ?_, fun key membership => ?_, fun _ => ?_⟩
  · rcases Rows.mem_upsert membership with old | rfl | ⟨existing, -, sameKey, rfl⟩
    · exact .inl old
    · exact .inr ⟨installs, rfl, found, rfl⟩
    · exact .inr ⟨installs, congrArg Prod.fst sameKey, found, rfl⟩
  · obtain ⟨later, laterMem, sameKey⟩ := keyed _ (.inl (List.mem_map_of_mem membership))
    exact ⟨later, laterMem, congrArg Prod.fst sameKey⟩
  · obtain ⟨key, keyMem, sameKey⟩ := keyed _ (.inr rfl)
    exact ⟨key, keyMem, congrArg Prod.fst sameKey⟩

theorem keysAfter_putSyncDevicePublicKeyTrusted
    (revokes : installsKey record.recordKind = false) (deviceId : String) :
    KeysAfter record db.syncDevicePublicKeys
      (db.putSyncDevicePublicKeyTrusted record.profile deviceId false
        now).syncDevicePublicKeys := by
  refine ⟨fun key membership trusted => ?_, fun key membership => ?_, fun installs => ?_⟩
  · obtain ⟨existing, existingMem, rfl⟩ := List.mem_map.mp membership
    split at trusted
    · cases trusted
    next other =>
      rw [if_neg other]
      exact .inl existingMem
  · refine ⟨_, List.mem_map_of_mem membership, ?_⟩
    split <;> rfl
  · rw [revokes] at installs
    cases installs

/-- The tables after the key of a record was applied. -/
theorem applyMembershipKey_eq_ok {deviceKey : Option SyncDevicePublicKeyRecord}
    (h : db.applyMembershipKey record now = .ok (deviceKey, next)) :
    KeysAfter record db.syncDevicePublicKeys next.syncDevicePublicKeys ∧
      next.syncAccountMembershipRecords = db.syncAccountMembershipRecords ∧
      ∀ device ∈ next.syncDevices,
        device ∈ db.syncDevices ∨ device.profile = record.profile := by
  unfold applyMembershipKey at h
  split at h
  next installs =>
    split at h
    · cases h
    next publicKey found =>
      obtain ⟨⟨key, registered⟩, registration, h⟩ := bind_eq_ok_iff.mp h
      obtain ⟨-, rfl⟩ := ok_pair_inj h
      unfold registerSyncDevicePublicKey at registration
      split at registration
      · cases registration
      · obtain ⟨stored, -, registration⟩ := bind_eq_ok_iff.mp registration
        split at registration
        · obtain ⟨-, rfl⟩ := ok_pair_inj registration
          refine ⟨keysAfter_putSyncDevicePublicKey installs found, rfl, ?_⟩
          intro device membership
          rcases Rows.mem_upsert membership with old | rfl | ⟨existing, -, sameKey, rfl⟩
          · exact .inl old
          · exact .inr rfl
          · exact .inr (congrArg Prod.fst sameKey)
        · cases registration
  next installs =>
    split at h
    · unfold setSyncDevicePublicKeyTrusted at h
      split at h
      · cases h
      · obtain ⟨found, -, h⟩ := bind_eq_ok_iff.mp h
        obtain ⟨-, rfl⟩ := ok_pair_inj h
        refine ⟨keysAfter_putSyncDevicePublicKeyTrusted (by simpa using installs) _, rfl, ?_⟩
        intro device membership
        exact .inl membership
    · cases h

theorem tables_recordSyncMembershipDevice :
    (db.recordSyncMembershipDevice record now).syncDevicePublicKeys = db.syncDevicePublicKeys ∧
      (db.recordSyncMembershipDevice record now).syncAccountMembershipRecords =
        db.syncAccountMembershipRecords := by
  unfold recordSyncMembershipDevice
  split
  · exact ⟨rfl, rfl⟩
  · split <;> exact ⟨rfl, rfl⟩

theorem syncDevices_recordSyncMembershipDevice {device : SyncDeviceRecord}
    (membership : device ∈ (db.recordSyncMembershipDevice record now).syncDevices) :
    device ∈ db.syncDevices ∨ device.profile = record.profile := by
  unfold recordSyncMembershipDevice at membership
  split at membership
  · rcases Rows.mem_upsert membership with old | rfl | ⟨existing, -, sameKey, rfl⟩
    · exact .inl old
    · exact .inr rfl
    · exact .inr (congrArg Prod.fst sameKey)
  · split at membership
    all_goals
      rcases Rows.mem_upsert membership with old | rfl | ⟨existing, -, sameKey, rfl⟩
      · exact .inl old
      · exact .inr rfl
      · exact .inr (congrArg Prod.fst sameKey)

/-- What applying a record may do to the table of membership records. -/
structure RecordsAfter (decoded : DecodedMembershipRecord)
    (records next : List SyncAccountMembershipRecord) : Prop where
  /-- An applied row was applied before, or belongs to the profile of the record. -/
  ofProfile : ∀ row ∈ next, row.appliedAt.isSome → row ∈ records ∨
    row.profile = decoded.record.profile
  kept : ∀ row ∈ records, row.appliedAt.isSome → row ∈ next
  applied : ∃ row ∈ next, row.profile = decoded.record.profile ∧
    row.recordId = decoded.record.recordId ∧ row.signedRecord = decoded.signedRecord ∧
    row.appliedAt.isSome

/-- What applying a record does to the tables of the authority chain. -/
structure AppliedMembership (decoded : DecodedMembershipRecord)
    (db next : SlateProfileDatabase) : Prop where
  keys : KeysAfter decoded.record db.syncDevicePublicKeys next.syncDevicePublicKeys
  records : RecordsAfter decoded db.syncAccountMembershipRecords
    next.syncAccountMembershipRecords
  devices : ∀ device ∈ next.syncDevices,
    device ∈ db.syncDevices ∨ device.profile = decoded.record.profile

/-- Inserting a record and marking it keeps the other rows. -/
theorem recordsAfter_apply {decoded : DecodedMembershipRecord}
    {stored : SyncAccountMembershipRecord}
    (found : Rows.lookup membershipRecordKey (decoded.record.profile, decoded.record.recordId)
      (db.insertSyncAccountMembershipRecord decoded.registration now
        ).syncAccountMembershipRecords = some stored)
    (sameBytes : stored.signedRecord = decoded.signedRecord) :
    RecordsAfter decoded db.syncAccountMembershipRecords
      ((db.insertSyncAccountMembershipRecord decoded.registration now
        ).putSyncAccountMembershipRecordApplied stored.profile stored.recordId now
          ).syncAccountMembershipRecords := by
  obtain ⟨storedMem, storedKey⟩ := Rows.mem_of_lookup found
  refine ⟨fun row membership isApplied => ?_, fun row membership isApplied => ?_, ?_⟩
  · obtain ⟨inserted, insertedMem, rfl⟩ := List.mem_map.mp membership
    split at isApplied
    next same =>
      rw [if_pos same]
      exact .inr (congrArg Prod.fst (same.trans storedKey))
    next other =>
      rw [if_neg other]
      rcases Rows.mem_upsert insertedMem with old | rfl | ⟨existing, old, -, rfl⟩
      · exact .inl old
      · exact absurd storedKey.symm other
      · exact .inl old
  · have inserted : row ∈ (db.insertSyncAccountMembershipRecord decoded.registration now
        ).syncAccountMembershipRecords := Rows.mem_upsert_ignore membership
    refine List.mem_map.mpr ⟨row, inserted, ?_⟩
    obtain ⟨time, appliedAt⟩ := Option.isSome_iff_exists.mp isApplied
    split
    · rw [appliedAt, Option.getD_some, ← appliedAt]
    · rfl
  · have own : membershipRecordKey stored = (stored.profile, stored.recordId) := rfl
    refine ⟨_, List.mem_map_of_mem storedMem, ?_⟩
    rw [if_pos own]
    exact ⟨congrArg Prod.fst storedKey, congrArg Prod.snd storedKey, sameBytes, rfl⟩

/-- The row a stored record is found as. -/
theorem recordSyncAccountMembershipRecord_eq_ok
    {registration : SyncAccountMembershipRecordRegistration}
    {row : SyncAccountMembershipRecord}
    (h : db.recordSyncAccountMembershipRecord registration now = .ok (row, next)) :
    next = db.insertSyncAccountMembershipRecord registration now ∧
      Rows.lookup membershipRecordKey (registration.profile, registration.recordId)
        next.syncAccountMembershipRecords = some row ∧
      row.signedRecord = registration.signedRecord := by
  obtain ⟨_, -, h⟩ := bind_eq_ok_iff.mp h
  obtain ⟨found, lookup, h⟩ := bind_eq_ok_iff.mp h
  cases found with
  | none => cases h
  | some found =>
      simp only at h
      split at h
      · cases h
      next sameBytes =>
        obtain ⟨rfl, rfl⟩ := ok_pair_inj h
        refine ⟨rfl, ?_, not_not.mp sameBytes⟩
        unfold syncAccountMembershipRecord at lookup
        split at lookup
        · exact Except.ok.inj lookup
        · cases lookup

/-- The stages of a new record: it is not stale, the transition is valid, its row is stored,
its key is applied and the row is marked. -/
theorem applyNewSyncAccountMembershipRecord_stages {decoded : DecodedMembershipRecord}
    {bootstrapped : Bool} {application : SyncAccountMembershipRecordApplication}
    (h : db.applyNewSyncAccountMembershipRecord decoded bootstrapped now =
      .ok (application, next)) :
    application.bootstrapped = bootstrapped ∧ application.applied = true ∧
      db.rejectStaleSyncAccountMembershipRecord decoded.record = .ok () ∧
      db.rejectInvalidSyncAccountMembershipTransition decoded.record = .ok () ∧
      ∃ row deviceKey keyed,
        Rows.lookup membershipRecordKey (decoded.record.profile, decoded.record.recordId)
          (db.insertSyncAccountMembershipRecord decoded.registration now
            ).syncAccountMembershipRecords = some row ∧
        row.signedRecord = decoded.signedRecord ∧
        (db.insertSyncAccountMembershipRecord decoded.registration now).applyMembershipKey
          decoded.record now = .ok (deviceKey, keyed) ∧
        next = (keyed.recordSyncMembershipDevice decoded.record now
          ).putSyncAccountMembershipRecordApplied row.profile row.recordId now := by
  obtain ⟨_, notStale, h⟩ := bind_eq_ok_iff.mp h
  obtain ⟨_, validTransition, h⟩ := bind_eq_ok_iff.mp h
  obtain ⟨⟨stored, inserted⟩, recorded, h⟩ := bind_eq_ok_iff.mp h
  obtain ⟨⟨deviceKey, keyed⟩, keyApplied, h⟩ := bind_eq_ok_iff.mp h
  obtain ⟨⟨appliedRecord, marked⟩, markApplied, h⟩ := bind_eq_ok_iff.mp h
  obtain ⟨rfl, rfl⟩ := ok_pair_inj h
  obtain ⟨rfl, lookup, sameBytes⟩ := recordSyncAccountMembershipRecord_eq_ok recorded
  obtain ⟨marking, -, markApplied⟩ := bind_eq_ok_iff.mp markApplied
  split at markApplied
  · obtain ⟨-, rfl⟩ := ok_pair_inj markApplied
    exact ⟨rfl, rfl, notStale, validTransition, stored, deviceKey, keyed, lookup, sameBytes,
      keyApplied, rfl⟩
  · cases markApplied

/-- Storing the row before the key, or the key before the row, is the same. -/
theorem syncAccountMembershipRecords_of_stages {decoded : DecodedMembershipRecord}
    {row : SyncAccountMembershipRecord} {deviceKey : Option SyncDevicePublicKeyRecord}
    {keyed : SlateProfileDatabase}
    (keyApplied : (db.insertSyncAccountMembershipRecord decoded.registration now
      ).applyMembershipKey decoded.record now = .ok (deviceKey, keyed)) :
    ((keyed.recordSyncMembershipDevice decoded.record now
        ).putSyncAccountMembershipRecordApplied row.profile row.recordId now
          ).syncAccountMembershipRecords =
      ((db.insertSyncAccountMembershipRecord decoded.registration now
        ).putSyncAccountMembershipRecordApplied row.profile row.recordId now
          ).syncAccountMembershipRecords := by
  obtain ⟨-, records, -⟩ := applyMembershipKey_eq_ok keyApplied
  obtain ⟨-, sameRecords⟩ : _ ∧ _ := @tables_recordSyncMembershipDevice keyed decoded.record now
  simp only [putSyncAccountMembershipRecordApplied, sameRecords, records]

/-- The outcomes of a new record that was authorized. -/
theorem applyNewSyncAccountMembershipRecord_eq_ok {decoded : DecodedMembershipRecord}
    {bootstrapped : Bool} {application : SyncAccountMembershipRecordApplication}
    (h : db.applyNewSyncAccountMembershipRecord decoded bootstrapped now =
      .ok (application, next)) :
    application.bootstrapped = bootstrapped ∧ application.applied = true ∧
      AppliedMembership decoded db next := by
  obtain ⟨bootstrap, isApplied, -, -, row, deviceKey, keyed, lookup, sameBytes, keyApplied, rfl⟩ :=
    applyNewSyncAccountMembershipRecord_stages h
  refine ⟨bootstrap, isApplied, ?_⟩
  obtain ⟨keys, -, devices⟩ := applyMembershipKey_eq_ok keyApplied
  obtain ⟨sameKeys, -⟩ : _ ∧ _ := @tables_recordSyncMembershipDevice keyed decoded.record now
  refine ⟨?_, ?_, fun device membership => ?_⟩
  · have same : ((keyed.recordSyncMembershipDevice decoded.record now
        ).putSyncAccountMembershipRecordApplied row.profile row.recordId now
          ).syncDevicePublicKeys = keyed.syncDevicePublicKeys := sameKeys
    rw [same]
    exact keys
  · rw [syncAccountMembershipRecords_of_stages keyApplied]
    exact recordsAfter_apply lookup sameBytes
  · rcases syncDevices_recordSyncMembershipDevice membership with old | ofProfile
    · exact devices device old
    · exact .inr ofProfile

/-- A record is authorized; then it was applied before, or is applied now. -/
theorem applyDecodedSyncAccountMembershipRecord_cases {decoded : DecodedMembershipRecord}
    {application : SyncAccountMembershipRecordApplication}
    (h : db.applyDecodedSyncAccountMembershipRecord scheme decoded now =
      .ok (application, next)) :
    db.authorizeSyncAccountMembershipRecord scheme decoded.signedObject decoded.record =
        .ok application.bootstrapped ∧
      ((application.applied = false ∧ next = db ∧
          ∃ row ∈ db.syncAccountMembershipRecords,
            row.profile = decoded.record.profile ∧ row.appliedAt.isSome) ∨
        (application.applied = true ∧ AppliedMembership decoded db next)) := by
  obtain ⟨bootstrapped, authorized, h⟩ := bind_eq_ok_iff.mp h
  obtain ⟨found, lookup, h⟩ := bind_eq_ok_iff.mp h
  cases found with
  | none =>
      obtain ⟨same, applied, after⟩ := applyNewSyncAccountMembershipRecord_eq_ok h
      exact ⟨same ▸ authorized, .inr ⟨applied, after⟩⟩
  | some existing =>
      simp only at h
      split at h
      · cases h
      · split at h
        next isApplied =>
          obtain ⟨deviceKey, -, h⟩ := bind_eq_ok_iff.mp h
          obtain ⟨rfl, rfl⟩ := ok_pair_inj h
          refine ⟨authorized, .inl ⟨rfl, rfl, existing, ?_⟩⟩
          have stored : Rows.lookup membershipRecordKey
              (decoded.record.profile, decoded.record.recordId)
              db.syncAccountMembershipRecords = some existing := by
            unfold syncAccountMembershipRecord at lookup
            split at lookup
            · exact Except.ok.inj lookup
            · cases lookup
          obtain ⟨membership, sameKey⟩ := Rows.mem_of_lookup stored
          exact ⟨membership, congrArg Prod.fst sameKey, isApplied⟩
        next =>
          obtain ⟨same, applied, after⟩ := applyNewSyncAccountMembershipRecord_eq_ok h
          exact ⟨same ▸ authorized, .inr ⟨applied, after⟩⟩

end Effects

namespace MembershipEvent

/-- The self-signed record that found its profile without keys. -/
structure IsBootstrap (scheme : SyncObjectScheme) (event : MembershipEvent) : Prop where
  unkeyed : ∀ key ∈ event.before.syncDevicePublicKeys,
    key.profile ≠ event.decoded.record.profile
  kind : event.decoded.record.recordKind = recordKindEnrollDevice
  device : event.decoded.record.deviceId = event.decoded.signedObject.deviceId
  key : event.decoded.record.devicePublicKey = some
    { deviceId := event.decoded.signedObject.deviceId
      bytes := event.decoded.signedObject.publicKey }
  selfSigned : ∃ payload, event.decoded.signedObject.verifyWith scheme
    { deviceId := event.decoded.signedObject.deviceId
      bytes := event.decoded.signedObject.publicKey } = .ok payload
  noted : event.application.bootstrapped = true

/-- The record bootstrapped its profile or was signed by a key that was trusted when it
was handled, not marked as provider authority, and not newer than the record. -/
def IsAuthorized (scheme : SyncObjectScheme) (event : MembershipEvent) : Prop :=
  event.IsBootstrap scheme ∨ ∃ signer, IsAuthorizingSigner scheme event.decoded.signedObject
    event.decoded.record event.before signer

/-- The record was applied and left this key. -/
structure Installs (event : MembershipEvent) (key : SyncDevicePublicKeyRecord) : Prop where
  applied : event.application.applied = true
  kind : installsKey event.decoded.record.recordKind
  profile : key.profile = event.decoded.record.profile
  publicKey : event.decoded.record.devicePublicKey = some key.publicKey
  epoch : key.membershipEpoch = event.decoded.record.membershipEpoch

/-- The record bootstrapped the profile. -/
def bootstrapsProfile (profile : String) (event : MembershipEvent) : Bool :=
  event.application.bootstrapped && event.decoded.record.profile == profile

end MembershipEvent

/-- A profile without keys, membership records and providers. -/
structure EmptyProfile (profile : String) (db : SlateProfileDatabase) : Prop where
  keys : ∀ key ∈ db.syncDevicePublicKeys, key.profile ≠ profile
  records : ∀ row ∈ db.syncAccountMembershipRecords, row.profile ≠ profile
  providers : ∀ device ∈ db.syncDevices, device.profile = profile →
    device.providerAuthority = false

/-- What holds of a profile after every run of batches. -/
structure AuthorityChain (scheme : SyncObjectScheme) (profile : String)
    (events : List MembershipEvent) (db : SlateProfileDatabase) : Prop where
  trusted : ∀ key ∈ db.syncDevicePublicKeys, key.profile = profile → key.trusted = true →
    ∃ event ∈ events, event.Installs key ∧ event.IsAuthorized scheme
  recorded : ∀ event ∈ events, event.application.applied = true →
    ∃ row ∈ db.syncAccountMembershipRecords, row.profile = event.decoded.record.profile ∧
      row.recordId = event.decoded.record.recordId ∧
      row.signedRecord = event.decoded.signedRecord ∧ row.appliedAt.isSome
  bootstraps : (events.filter (MembershipEvent.bootstrapsProfile profile)).length ≤ 1
  /-- While no key is known nothing has happened to the profile. -/
  unkeyed : (∀ key ∈ db.syncDevicePublicKeys, key.profile ≠ profile) →
    events.filter (MembershipEvent.bootstrapsProfile profile) = [] ∧
    (∀ row ∈ db.syncAccountMembershipRecords, row.appliedAt.isSome → row.profile ≠ profile) ∧
    ∀ device ∈ db.syncDevices, device.profile = profile → device.providerAuthority = false
  signers : ∀ event ∈ events, event.application.applied = true →
    event.decoded.record.profile = profile →
    event.before.syncDeviceProviderAuthority profile event.decoded.signedObject.deviceId =
      .ok false

theorem EmptyProfile.authorityChain {profile : String} {db : SlateProfileDatabase}
    (empty : EmptyProfile profile db) : AuthorityChain scheme profile [] db where
  trusted key membership ofProfile := absurd ofProfile (empty.keys key membership)
  recorded := by simp
  bootstraps := by simp
  unkeyed _ := ⟨rfl, fun row membership _ => empty.records row membership, empty.providers⟩
  signers := by simp

section Chain

variable {profile : String} {events : List MembershipEvent} {db next : SlateProfileDatabase}
  {decoded : DecodedMembershipRecord} {now : Int}
  {application : SyncAccountMembershipRecordApplication}

/-- An authorized record, in terms of its event. -/
theorem isAuthorized_of_authorize (checked : decoded.Checked scheme)
    (authorized : db.authorizeSyncAccountMembershipRecord scheme decoded.signedObject
      decoded.record = .ok application.bootstrapped) :
    (application.bootstrapped = true ∧
        MembershipEvent.IsBootstrap scheme ⟨db, decoded, application⟩) ∨
      (application.bootstrapped = false ∧
        ∃ signer, IsAuthorizingSigner scheme decoded.signedObject decoded.record db signer) := by
  rcases authorizeSyncAccountMembershipRecord_cases authorized with
    ⟨bootstrapped, bootstraps⟩ | ordinary
  · obtain ⟨unkeyed, kind, device, key⟩ := bootstraps_iff.mp bootstraps
    exact .inl ⟨bootstrapped, unkeyed, kind, device, key, checked.selfSigned, bootstrapped⟩
  · exact .inr ordinary

/-- After a record of the profile was applied, the profile has a key. -/
theorem exists_key_of_applied (checked : decoded.Checked scheme)
    (authorized : db.authorizeSyncAccountMembershipRecord scheme decoded.signedObject
      decoded.record = .ok application.bootstrapped)
    (after : AppliedMembership decoded db next) :
    ∃ key ∈ next.syncDevicePublicKeys, key.profile = decoded.record.profile := by
  rcases isAuthorized_of_authorize checked authorized with ⟨-, bootstrap⟩ | ⟨-, signer, signs⟩
  · refine after.keys.installed ?_
    have kind : decoded.record.recordKind = recordKindEnrollDevice := bootstrap.kind
    rw [kind]
    decide
  · obtain ⟨later, laterMem, sameProfile⟩ := after.keys.kept signer signs.stored
    exact ⟨later, laterMem, sameProfile.trans signs.profile⟩

/-- The signer of an authorized record is not marked as provider authority. -/
theorem signer_not_provider (chain : AuthorityChain scheme profile events db)
    (checked : decoded.Checked scheme)
    (authorized : db.authorizeSyncAccountMembershipRecord scheme decoded.signedObject
      decoded.record = .ok application.bootstrapped)
    (ofProfile : decoded.record.profile = profile) :
    db.syncDeviceProviderAuthority profile decoded.signedObject.deviceId = .ok false := by
  rcases isAuthorized_of_authorize checked authorized with ⟨-, bootstrap⟩ | ⟨-, signer, signs⟩
  · have unkeyed : ∀ key ∈ db.syncDevicePublicKeys, key.profile ≠ profile := by
      rw [← ofProfile]
      exact bootstrap.unkeyed
    obtain ⟨-, -, noProviders⟩ := chain.unkeyed unkeyed
    rw [syncDeviceProviderAuthority, if_pos checked.signer]
    cases found : Rows.lookup deviceKey (profile, decoded.signedObject.deviceId)
        db.syncDevices with
    | none => rfl
    | some device =>
        obtain ⟨deviceMem, sameKey⟩ := Rows.mem_of_lookup found
        simp [noProviders device deviceMem (congrArg Prod.fst sameKey)]
  · rw [← ofProfile]
    exact signs.notProvider

/-- A replayed record changes nothing and bootstraps nothing. -/
theorem AuthorityChain.replayed (chain : AuthorityChain scheme profile events db)
    (checked : decoded.Checked scheme)
    (authorized : db.authorizeSyncAccountMembershipRecord scheme decoded.signedObject
      decoded.record = .ok application.bootstrapped)
    (replay : application.applied = false)
    {row : SyncAccountMembershipRecord} (rowMem : row ∈ db.syncAccountMembershipRecords)
    (rowProfile : row.profile = decoded.record.profile) (isApplied : row.appliedAt.isSome) :
    AuthorityChain scheme profile (events ++ [⟨db, decoded, application⟩]) db := by
  have noBootstrap : MembershipEvent.bootstrapsProfile profile ⟨db, decoded, application⟩ =
      false := by
    rcases isAuthorized_of_authorize checked authorized with ⟨-, bootstrap⟩ | ⟨ordinary, -⟩
    · by_cases ofProfile : decoded.record.profile = profile
      · -- A profile with an applied record has a key, so nothing can bootstrap it.
        have unkeyed : ∀ key ∈ db.syncDevicePublicKeys, key.profile ≠ profile := by
          rw [← ofProfile]
          exact bootstrap.unkeyed
        exact absurd (rowProfile.trans ofProfile) ((chain.unkeyed unkeyed).2.1 row rowMem isApplied)
      · simp [MembershipEvent.bootstrapsProfile, ofProfile]
    · simp [MembershipEvent.bootstrapsProfile, ordinary]
  have sameBootstraps : (events ++ [(⟨db, decoded, application⟩ : MembershipEvent)]).filter
      (MembershipEvent.bootstrapsProfile profile) =
      events.filter (MembershipEvent.bootstrapsProfile profile) := by
    simp [noBootstrap]
  refine ⟨fun key membership ofProfile trusted => ?_, fun event membership applied => ?_, ?_,
    fun unkeyed => ?_, fun event membership applied ofProfile => ?_⟩
  · obtain ⟨event, eventMem, installs⟩ := chain.trusted key membership ofProfile trusted
    exact ⟨event, by simp [eventMem], installs⟩
  · rcases List.mem_append.mp membership with old | new
    · exact chain.recorded event old applied
    · rw [List.mem_singleton.mp new] at applied
      exact absurd applied (by simp [replay])
  · rw [sameBootstraps]
    exact chain.bootstraps
  · rw [sameBootstraps]
    exact chain.unkeyed unkeyed
  · rcases List.mem_append.mp membership with old | new
    · exact chain.signers event old applied ofProfile
    · rw [List.mem_singleton.mp new] at applied
      exact absurd applied (by simp [replay])

/-- An applied record extends the chain. -/
theorem AuthorityChain.applied (chain : AuthorityChain scheme profile events db)
    (checked : decoded.Checked scheme)
    (authorized : db.authorizeSyncAccountMembershipRecord scheme decoded.signedObject
      decoded.record = .ok application.bootstrapped)
    (isApplied : application.applied = true) (after : AppliedMembership decoded db next) :
    AuthorityChain scheme profile (events ++ [⟨db, decoded, application⟩]) next := by
  have keptKeys : (∀ key ∈ next.syncDevicePublicKeys, key.profile ≠ profile) →
      (∀ key ∈ db.syncDevicePublicKeys, key.profile ≠ profile) ∧
        decoded.record.profile ≠ profile := by
    intro unkeyed
    constructor
    · intro key membership ofProfile
      obtain ⟨later, laterMem, sameProfile⟩ := after.keys.kept key membership
      exact unkeyed later laterMem (sameProfile.trans ofProfile)
    · intro ofProfile
      obtain ⟨key, keyMem, keyProfile⟩ := exists_key_of_applied checked authorized after
      exact unkeyed key keyMem (keyProfile.trans ofProfile)
  refine ⟨fun key membership ofProfile trusted => ?_, fun event membership applied => ?_, ?_,
    fun unkeyed => ?_, fun event membership applied ofProfile => ?_⟩
  · rcases after.keys.trusted key membership trusted with old | ⟨installs, ofRecord, found, epoch⟩
    · obtain ⟨event, eventMem, installed⟩ := chain.trusted key old ofProfile trusted
      exact ⟨event, by simp [eventMem], installed⟩
    · refine ⟨⟨db, decoded, application⟩, by simp, ⟨isApplied, installs, ofRecord, found, epoch⟩, ?_⟩
      rcases isAuthorized_of_authorize checked authorized with ⟨-, bootstrap⟩ | ⟨-, signer⟩
      · exact .inl bootstrap
      · exact .inr signer
  · rcases List.mem_append.mp membership with old | new
    · obtain ⟨row, rowMem, rowProfile, rowId, rowBytes, rowApplied⟩ :=
        chain.recorded event old applied
      exact ⟨row, after.records.kept row rowMem rowApplied, rowProfile, rowId, rowBytes,
        rowApplied⟩
    · rw [List.mem_singleton.mp new]
      exact after.records.applied
  · rw [List.filter_append, List.length_append]
    cases bootstraps : MembershipEvent.bootstrapsProfile profile ⟨db, decoded, application⟩ with
    | false => simpa [bootstraps] using chain.bootstraps
    | true =>
        obtain ⟨bootstrapped, ofProfile⟩ := (Bool.and_eq_true _ _).mp bootstraps
        rcases isAuthorized_of_authorize checked authorized with ⟨-, bootstrap⟩ | ⟨ordinary, -⟩
        · have unkeyed : ∀ key ∈ db.syncDevicePublicKeys, key.profile ≠ profile := by
            rw [← beq_iff_eq.mp ofProfile]
            exact bootstrap.unkeyed
          rw [(chain.unkeyed unkeyed).1]
          simp [bootstraps]
        · exact absurd bootstrapped (by simp [ordinary])
  · obtain ⟨unkeyedBefore, otherProfile⟩ := keptKeys unkeyed
    obtain ⟨noBootstraps, noRecords, noProviders⟩ := chain.unkeyed unkeyedBefore
    refine ⟨?_, fun row rowMem rowApplied => ?_, fun device deviceMem ofProfile => ?_⟩
    · simp [List.filter_append, noBootstraps, MembershipEvent.bootstrapsProfile, otherProfile]
    · rcases after.records.ofProfile row rowMem rowApplied with old | ofRecord
      · exact noRecords row old rowApplied
      · rw [ofRecord]
        exact otherProfile
    · rcases after.devices device deviceMem with old | ofRecord
      · exact noProviders device old ofProfile
      · exact absurd (ofRecord.symm.trans ofProfile) otherProfile
  · rcases List.mem_append.mp membership with old | new
    · exact chain.signers event old applied ofProfile
    · rw [List.mem_singleton.mp new] at ofProfile ⊢
      exact signer_not_provider chain checked authorized ofProfile

/-- One record keeps the chain. -/
theorem AuthorityChain.step (chain : AuthorityChain scheme profile events db)
    (checked : decoded.Checked scheme)
    (h : db.applyDecodedSyncAccountMembershipRecord scheme decoded now =
      .ok (application, next)) :
    AuthorityChain scheme profile (events ++ [⟨db, decoded, application⟩]) next := by
  obtain ⟨authorized, ⟨replay, rfl, row, rowMem, rowProfile, isApplied⟩ | ⟨isApplied, after⟩⟩ :=
    applyDecodedSyncAccountMembershipRecord_cases h
  · exact chain.replayed checked authorized replay rowMem rowProfile isApplied
  · exact chain.applied checked authorized isApplied after

/-- A batch keeps the chain. -/
theorem AuthorityChain.batch (chain : AuthorityChain scheme profile events db)
    {decodedRecords : List DecodedMembershipRecord}
    (checked : ∀ decoded ∈ decodedRecords, decoded.Checked scheme)
    {batch : List MembershipEvent}
    (h : forEach (applyDecodedNoted scheme now) decodedRecords db = .ok (batch, next)) :
    AuthorityChain scheme profile (events ++ batch) next := by
  induction decodedRecords generalizing events db batch with
  | nil =>
      cases h
      simpa using chain
  | cons head rest inductionHypothesis =>
      obtain ⟨event, middle, others, first, tail, rfl⟩ := forEach_cons_eq_ok_iff.mp h
      obtain ⟨⟨application, stepped⟩, applied, first⟩ := bind_eq_ok_iff.mp first
      obtain ⟨rfl, rfl⟩ := ok_pair_inj first
      have extended := chain.step (checked head (by simp)) applied
      have continued := inductionHypothesis extended
        (fun decoded membership => checked decoded (by simp [membership])) tail
      simpa using continued

/-- Every run keeps the chain. -/
theorem MembershipRun.authorityChain {start : SlateProfileDatabase}
    (run : MembershipRun scheme start events db) (empty : EmptyProfile profile start) :
    AuthorityChain scheme profile events db := by
  induction run with
  | start => exact empty.authorityChain
  | batch run applied noted inductionHypothesis =>
      obtain ⟨decodedRecords, decoded, stepped⟩ := bind_eq_ok_iff.mp noted
      exact inductionHypothesis.batch
        (fun record membership =>
          checked_of_mem_decodeSignedMembershipRecords decoded membership) stepped
  | failed run failed inductionHypothesis => exact inductionHypothesis

end Chain

/-- From an empty profile, every trusted key was installed by an applied record that
bootstrapped the profile or was signed by an authorized key; at most one record
bootstraps the profile, and no applied record was signed by a provider authority. -/
theorem membership_authority_chain {start final : SlateProfileDatabase}
    {events : List MembershipEvent} (run : MembershipRun scheme start events final)
    {profile : String} (empty : EmptyProfile profile start) :
    (∀ key ∈ final.syncDevicePublicKeys, key.profile = profile → key.trusted = true →
      ∃ event ∈ events, event.Installs key ∧ event.IsAuthorized scheme ∧
        ∃ row ∈ final.syncAccountMembershipRecords, row.profile = profile ∧
          row.recordId = event.decoded.record.recordId ∧
          row.signedRecord = event.decoded.signedRecord ∧ row.appliedAt.isSome) ∧
    (events.filter (MembershipEvent.bootstrapsProfile profile)).length ≤ 1 ∧
    ∀ event ∈ events, event.application.applied = true →
      event.decoded.record.profile = profile →
      event.before.syncDeviceProviderAuthority profile event.decoded.signedObject.deviceId =
        .ok false := by
  have chain := run.authorityChain empty
  refine ⟨fun key membership ofProfile trusted => ?_, chain.bootstraps, chain.signers⟩
  obtain ⟨event, eventMem, installs, authorized⟩ := chain.trusted key membership ofProfile trusted
  obtain ⟨row, rowMem, rowProfile, rowId, rowBytes, rowApplied⟩ :=
    chain.recorded event eventMem installs.applied
  exact ⟨event, eventMem, installs, authorized, row, rowMem,
    rowProfile.trans (installs.profile.symm.trans ofProfile), rowId, rowBytes, rowApplied⟩

section Sample

/-- The bytes of an ASCII text. -/
def asciiBytes (text : String) : List Nat :=
  text.toList.map Char.toNat

/-- A codec that knows the bytes of one object. -/
def knownObject {Object : Type} (bytes : List Nat) (object : Object) : ObjectCodec Object where
  toBytes _ := bytes
  fromBytes given := if given = bytes then .ok object else .error "expected value"

/-- The record that enrolls the laptop. -/
def laptopEnrollment : ProfileSyncMembershipRecord :=
  { profile := "default", recordId := "epoch-1-enroll-laptop", schemaVersion := 1
    membershipEpoch := 1, recordKind := recordKindEnrollDevice, deviceId := "laptop"
    devicePublicKey := some { deviceId := "laptop", bytes := List.replicate 32 7 }
    createdAt := 1 }

/-- The enrollment, signed by the laptop. -/
def laptopSignedEnrollment : SignedSyncObject :=
  { version := 1, deviceId := "laptop", publicKey := List.replicate 32 7
    payload := asciiBytes "enroll laptop", signature := List.replicate 64 9 }

/-- A scheme in which the laptop's signature of its enrollment is the only valid one. -/
def laptopScheme : SyncObjectScheme where
  signed := knownObject (asciiBytes "signed enroll laptop") laptopSignedEnrollment
  encrypted := knownObject [] ⟨1, "", "", "", "", [], []⟩
  membershipRecord := knownObject (asciiBytes "enroll laptop") laptopEnrollment
  manifest := knownObject [] ⟨"", "", 1, 1, none, [], [], [], {}, 0⟩
  deviceHead := knownObject [] ⟨"", "", "", 1, 1, "", none, 0, 0, 0⟩
  snapshot := knownObject [] ⟨"", 1, 0, [], [], 0⟩
  settingText := knownObject [] ⟨"", "", "", "", "", 0, 0⟩
  signPayload _ _ := List.replicate 64 9
  verifyPayload publicKey payload signature :=
    publicKey == List.replicate 32 7 && payload == asciiBytes "enroll laptop" &&
      signature == List.replicate 64 9
  sealPayload _ _ _ plaintext := plaintext
  openPayload _ _ _ ciphertext := some ciphertext
  publicKey _ := List.replicate 32 7
  nonce _ := List.replicate profileSyncNonceBytes 0
  objectName _ := "object"

/-- The laptop's key goes back to the record that enrolled it. -/
theorem membership_authority_chain_laptop :
    ∃ events final,
      MembershipRun laptopScheme { localSyncDeviceId := "laptop" } events final ∧
      ∃ key ∈ final.syncDevicePublicKeys, key.trusted = true ∧
        ∃ event ∈ events, event.Installs key ∧ event.IsAuthorized laptopScheme := by
  have applied : ∃ applications next,
      applySignedSyncAccountMembershipRecords laptopScheme
        [asciiBytes "signed enroll laptop"] 10 { localSyncDeviceId := "laptop" } =
          .ok (applications, next) ∧
      next.syncDevicePublicKeys =
        [⟨"default", ⟨"laptop", List.replicate 32 7⟩, 1, true, 10, 10⟩] :=
    ⟨_, _, rfl, rfl⟩
  obtain ⟨applications, final, applied, keys⟩ := applied
  obtain ⟨batch, noted, -⟩ := exists_membershipEvents applied
  have run : MembershipRun laptopScheme { localSyncDeviceId := "laptop" } ([] ++ batch) final :=
    .batch .start applied noted
  have empty : EmptyProfile "default" { localSyncDeviceId := "laptop" } := by
    constructor <;> simp
  obtain ⟨chain, -, -⟩ := membership_authority_chain run empty
  have stored : (⟨"default", ⟨"laptop", List.replicate 32 7⟩, 1, true, 10, 10⟩ :
      SyncDevicePublicKeyRecord) ∈ final.syncDevicePublicKeys := by
    rw [keys]
    exact List.mem_singleton.mpr rfl
  obtain ⟨event, eventMem, installs, authorized, -⟩ := chain _ stored rfl rfl
  exact ⟨_, final, run, _, stored, rfl, event, eventMem, installs, authorized⟩

end Sample

end SlateProfileDatabase

end Slate.Storage
