import Slate.Storage.MembershipAuthority

/-!
# Revocation and membership epochs

Records of one device are applied in the order of their epochs, and a revoked device is
trusted again only through a newer enrollment. Both are invariants of every history of
stored and applied records, whatever the records are and however often they are repeated.
-/

namespace Slate.Storage

open Slate.Foundation

namespace SlateProfileDatabase

variable {scheme : SyncObjectScheme}

/-- The device has a trusted key. -/
def HasTrustedKey (profile deviceId : String) (db : SlateProfileDatabase) : Prop :=
  ∃ key ∈ db.syncDevicePublicKeys, key.profile = profile ∧
    key.publicKey.deviceId = deviceId ∧ key.trusted = true

namespace MembershipEvent

/-- The event applied a record of this device. -/
def applies (profile deviceId : String) (event : MembershipEvent) : Bool :=
  event.application.applied && event.decoded.record.profile == profile &&
    event.decoded.record.deviceId == deviceId

theorem applies_iff {profile deviceId : String} {event : MembershipEvent} :
    event.applies profile deviceId = true ↔ event.application.applied = true ∧
      event.decoded.record.profile = profile ∧ event.decoded.record.deviceId = deviceId := by
  simp [applies, and_assoc]

/-- The event applied an enrollment of this device. -/
structure Enrolls (profile deviceId : String) (event : MembershipEvent) : Prop where
  applied : event.applies profile deviceId = true
  kind : event.decoded.record.recordKind = recordKindEnrollDevice ∨
    event.decoded.record.recordKind = recordKindEnrollProvider

end MembershipEvent

section Decoding

/-- What a signed record decodes to. -/
def DecodedMembershipRecord.Decodes (scheme : SyncObjectScheme)
    (decoded : DecodedMembershipRecord) : Prop :=
  decodeSignedProfileSyncMembershipRecord scheme decoded.signedRecord =
    .ok (decoded.signedObject, decoded.record)

theorem decodes_of_mem_decodeSignedMembershipRecords {signedRecords : List (List Nat)}
    {decodedRecords : List DecodedMembershipRecord}
    (h : decodeSignedMembershipRecords scheme signedRecords = .ok decodedRecords)
    {decoded : DecodedMembershipRecord} (membership : decoded ∈ decodedRecords) :
    decoded.Decodes scheme := by
  induction signedRecords generalizing decodedRecords with
  | nil =>
      cases h
      simp at membership
  | cons head rest inductionHypothesis =>
      simp only [decodeSignedMembershipRecords, List.mapM_cons] at h
      obtain ⟨first, firstDecoded, h⟩ := bind_eq_ok_iff.mp h
      obtain ⟨others, restDecoded, h⟩ := bind_eq_ok_iff.mp h
      cases h
      obtain ⟨⟨signedObject, record⟩, decodedHead, h⟩ := bind_eq_ok_iff.mp firstDecoded
      cases h
      rcases List.mem_cons.mp membership with rfl | inRest
      · exact decodedHead
      · exact inductionHypothesis restDecoded inRest

theorem DecodedMembershipRecord.Decodes.checked {decoded : DecodedMembershipRecord}
    (decodes : decoded.Decodes scheme) : decoded.Checked scheme :=
  checked_of_decode decodes

/-- A valid record that installs a key carries a key of its own device. -/
theorem deviceId_of_valid {record : ProfileSyncMembershipRecord}
    (valid : validateProfileSyncMembershipRecord record = .ok ())
    (installs : installsKey record.recordKind = true) {publicKey : ProfileSyncDevicePublicKey}
    (carried : record.devicePublicKey = some publicKey) :
    publicKey.deviceId = record.deviceId := by
  unfold validateProfileSyncMembershipRecord at valid
  simp only [check_then_eq_ok_iff, installs, if_true, carried] at valid
  obtain ⟨-, -, -, -, -, valid⟩ := valid
  unfold validateMembershipRecordPublicKey at valid
  simp only [check_then_eq_ok_iff, check_eq_ok_iff, not_not] at valid
  exact valid.2.1

/-- The row stored for a record has the fields that the record decodes to. -/
def RowDecodes (scheme : SyncObjectScheme) (row : SyncAccountMembershipRecord) : Prop :=
  ∃ signedObject record,
    decodeSignedProfileSyncMembershipRecord scheme row.signedRecord =
      .ok (signedObject, record) ∧
    row.profile = record.profile ∧ row.deviceId = record.deviceId ∧
      row.membershipEpoch = record.membershipEpoch

variable {db next : SlateProfileDatabase} {decoded : DecodedMembershipRecord} {now : Int}

theorem rowDecodes_insert (decodes : decoded.Decodes scheme)
    (rows : ∀ row ∈ db.syncAccountMembershipRecords, RowDecodes scheme row) :
    ∀ row ∈ (db.insertSyncAccountMembershipRecord decoded.registration now
      ).syncAccountMembershipRecords, RowDecodes scheme row := by
  intro row membership
  rcases Rows.mem_upsert membership with old | rfl | ⟨existing, old, -, same⟩
  · exact rows row old
  · exact ⟨decoded.signedObject, decoded.record, decodes, rfl, rfl, rfl⟩
  · rw [same]
    exact rows existing old

theorem rowDecodes_putApplied {profile recordId : String}
    (rows : ∀ row ∈ db.syncAccountMembershipRecords, RowDecodes scheme row) :
    ∀ row ∈ (db.putSyncAccountMembershipRecordApplied profile recordId now
      ).syncAccountMembershipRecords, RowDecodes scheme row := by
  intro row membership
  obtain ⟨existing, old, rfl⟩ := List.mem_map.mp membership
  split
  · exact rows existing old
  · exact rows existing old

end Decoding

section Effects

variable {db next : SlateProfileDatabase} {record : ProfileSyncMembershipRecord} {now : Int}

/-- A record that is not stale is newer than every applied record of its device. -/
theorem epoch_lt_of_not_stale
    (notStale : db.rejectStaleSyncAccountMembershipRecord record = .ok ())
    {row : SyncAccountMembershipRecord}
    (membership : row ∈ db.appliedMembershipRecords record.profile record.deviceId) :
    row.membershipEpoch < record.membershipEpoch := by
  obtain ⟨latest, found, h⟩ := bind_eq_ok_iff.mp notStale
  unfold latestAppliedSyncAccountMembershipEpoch at found
  split at found
  next valid =>
    have latestFound := Except.ok.inj found
    have epochMem := List.mem_map_of_mem (f := (·.membershipEpoch)) membership
    cases latest with
    | none =>
        rw [List.max?_eq_none_iff.mp latestFound] at epochMem
        simp at epochMem
    | some latestEpoch =>
        obtain ⟨latestMem, largest⟩ := List.max?_eq_some_iff.mp latestFound
        have le := largest _ epochMem
        simp only [check_then_eq_ok_iff] at h
        obtain ⟨notOlder, h⟩ := h
        by_cases same : record.membershipEpoch = latestEpoch
        · -- The record at the latest epoch is the conflict that is reported.
          rw [if_pos same] at h
          obtain ⟨conflict, conflictFound, h⟩ := bind_eq_ok_iff.mp h
          obtain ⟨other, otherMem, otherEpoch⟩ := List.mem_map.mp latestMem
          unfold appliedSyncAccountMembershipRecordForDeviceEpoch at conflictFound
          rw [if_pos valid] at conflictFound
          cases conflict with
          | none =>
              have absent := List.argmin_eq_none.mp (Except.ok.inj conflictFound)
              have present : other ∈ (db.appliedMembershipRecords record.profile
                  record.deviceId).filter fun row =>
                    row.membershipEpoch == record.membershipEpoch :=
                List.mem_filter.mpr ⟨otherMem, by simp [otherEpoch, same]⟩
              rw [absent] at present
              simp at present
          | some applied => cases h
        · omega
  next => cases found

/-- A rotation finds a trusted key of its device. -/
theorem hasTrustedKey_of_rotation
    (valid : db.rejectInvalidSyncAccountMembershipTransition record = .ok ())
    (kind : record.recordKind = recordKindRotateDeviceKey) :
    HasTrustedKey record.profile record.deviceId db := by
  unfold rejectInvalidSyncAccountMembershipTransition at valid
  rw [if_neg (by rw [kind]; decide), if_pos kind] at valid
  obtain ⟨found, lookup, h⟩ := bind_eq_ok_iff.mp valid
  unfold syncDevicePublicKey at lookup
  split at lookup
  · cases found with
    | none => cases h
    | some key =>
        simp only [check_eq_ok_iff] at h
        obtain ⟨membership, sameKey⟩ := Rows.mem_of_lookup (Except.ok.inj lookup)
        obtain ⟨ofProfile, ofDevice⟩ := Prod.mk.inj sameKey
        exact ⟨key, membership, ofProfile, ofDevice, by simpa using h⟩
  · cases lookup

/-- After a revocation the device has no trusted key. -/
theorem not_hasTrustedKey_of_revocation {deviceKey : Option SyncDevicePublicKeyRecord}
    (h : db.applyMembershipKey record now = .ok (deviceKey, next))
    (kind : record.recordKind = recordKindRevokeDevice) :
    ¬HasTrustedKey record.profile record.deviceId next := by
  rintro ⟨key, membership, ofProfile, ofDevice, trusted⟩
  unfold applyMembershipKey at h
  rw [if_neg (by rw [kind]; decide), if_pos kind] at h
  unfold setSyncDevicePublicKeyTrusted at h
  simp only [check_then_eq_ok_iff] at h
  obtain ⟨-, h⟩ := h
  obtain ⟨found, -, h⟩ := bind_eq_ok_iff.mp h
  obtain ⟨-, rfl⟩ := ok_pair_inj h
  obtain ⟨existing, existingMem, rfl⟩ := List.mem_map.mp membership
  split at trusted
  · cases trusted
  next other =>
    rw [if_neg other] at ofProfile ofDevice
    exact other (Prod.ext ofProfile ofDevice)

/-- A key becomes trusted only through a record that installs a key of its device. -/
theorem hasTrustedKey_of_applied {decoded : DecodedMembershipRecord}
    (checked : decoded.Checked scheme) (after : AppliedMembership decoded db next)
    {profile deviceId : String} (trusted : HasTrustedKey profile deviceId next) :
    HasTrustedKey profile deviceId db ∨
      (installsKey decoded.record.recordKind = true ∧ decoded.record.profile = profile ∧
        decoded.record.deviceId = deviceId) := by
  obtain ⟨key, membership, ofProfile, ofDevice, isTrusted⟩ := trusted
  rcases after.keys.trusted key membership isTrusted with old | ⟨installs, sameProfile, carried, -⟩
  · exact .inl ⟨key, old, ofProfile, ofDevice, isTrusted⟩
  · refine .inr ⟨installs, sameProfile.symm.trans ofProfile, ?_⟩
    rw [← deviceId_of_valid checked.valid installs carried]
    exact ofDevice

end Effects

section History

/-- What a history keeps: rows agree with their records, applied records of a device have
increasing epochs, and trust after a revocation comes from a later enrollment. -/
structure EpochHistory (scheme : SyncObjectScheme) (events : List MembershipEvent)
    (db : SlateProfileDatabase) : Prop where
  rows : ∀ row ∈ db.syncAccountMembershipRecords, RowDecodes scheme row
  recorded : ∀ event ∈ events, event.application.applied = true →
    ∃ row ∈ db.appliedMembershipRecords event.decoded.record.profile
      event.decoded.record.deviceId,
      row.membershipEpoch = event.decoded.record.membershipEpoch
  increasing : ∀ profile deviceId, ((events.filter (·.applies profile deviceId)).map
    (·.decoded.record.membershipEpoch)).Pairwise (· < ·)
  revoked : ∀ profile deviceId earlier revocation later,
    events = earlier ++ revocation :: later → revocation.applies profile deviceId = true →
    revocation.decoded.record.recordKind = recordKindRevokeDevice →
    HasTrustedKey profile deviceId db →
    ∃ enrollment ∈ later, enrollment.Enrolls profile deviceId ∧
      revocation.decoded.record.membershipEpoch < enrollment.decoded.record.membershipEpoch

variable {events : List MembershipEvent} {db next : SlateProfileDatabase}
  {decoded : DecodedMembershipRecord} {now : Int}
  {application : SyncAccountMembershipRecordApplication}

theorem EpochHistory.empty {start : SlateProfileDatabase}
    (empty : start.syncAccountMembershipRecords = []) : EpochHistory scheme [] start where
  rows := by simp [empty]
  recorded := by simp
  increasing := by simp
  revoked := by simp

/-- Where an event of an extended history stands. -/
theorem split_append_singleton {earlier later : List MembershipEvent}
    {added event : MembershipEvent} (split : events ++ [added] = earlier ++ event :: later) :
    (event = added ∧ later = []) ∨
      ∃ before, later = before ++ [added] ∧ events = earlier ++ event :: before := by
  rcases List.eq_nil_or_concat' later with rfl | ⟨before, last, rfl⟩
  · have same := (List.append_inj' split rfl).2
    exact .inl ⟨(List.cons.inj same).1.symm, rfl⟩
  · rw [← List.cons_append, ← List.append_assoc] at split
    obtain ⟨sameEvents, sameLast⟩ := List.append_inj' split rfl
    exact .inr ⟨before, by rw [(List.cons.inj sameLast).1], sameEvents⟩

/-- An event that applied nothing adds nothing. -/
theorem EpochHistory.replayed (history : EpochHistory scheme events db)
    (replay : application.applied = false) :
    EpochHistory scheme (events ++ [⟨db, decoded, application⟩]) db := by
  refine ⟨history.rows, ?_, ?_, ?_⟩
  · intro event membership isApplied
    rcases List.mem_append.mp membership with old | new
    · exact history.recorded event old isApplied
    · rw [List.mem_singleton.mp new] at isApplied
      rw [replay] at isApplied
      cases isApplied
  · intro profile deviceId
    have unapplied : MembershipEvent.applies profile deviceId ⟨db, decoded, application⟩ =
        false := by
      simp [MembershipEvent.applies, replay]
    rw [List.filter_append, List.filter_singleton, unapplied]
    simpa using history.increasing profile deviceId
  · intro profile deviceId earlier revocation later split isRevoked kind trusted
    rcases split_append_singleton split with ⟨rfl, -⟩ | ⟨before, rfl, sameEvents⟩
    · rw [MembershipEvent.applies_iff, replay] at isRevoked
      cases isRevoked.1
    · obtain ⟨enrollment, membership, enrolls, newer⟩ :=
        history.revoked profile deviceId earlier revocation before sameEvents isRevoked kind
          trusted
      exact ⟨enrollment, List.mem_append_left _ membership, enrolls, newer⟩

/-- The stored row of an applied record is found among the applied rows of its device. -/
theorem exists_row_of_applied (decodes : decoded.Decodes scheme)
    (after : AppliedMembership decoded db next)
    (rows : ∀ row ∈ next.syncAccountMembershipRecords, RowDecodes scheme row) :
    ∃ row ∈ next.appliedMembershipRecords decoded.record.profile decoded.record.deviceId,
      row.membershipEpoch = decoded.record.membershipEpoch := by
  obtain ⟨row, membership, ofProfile, -, sameBytes, isApplied⟩ := after.records.applied
  obtain ⟨signedObject, record, rowDecodes, -, sameDevice, sameEpoch⟩ := rows row membership
  rw [sameBytes, show decodeSignedProfileSyncMembershipRecord scheme decoded.signedRecord = _
    from decodes] at rowDecodes
  obtain ⟨-, rfl⟩ := Prod.mk.inj (Except.ok.inj rowDecodes)
  refine ⟨row, List.mem_filter.mpr ⟨membership, ?_⟩, sameEpoch⟩
  simp [ofProfile, sameDevice, isApplied]

/-- A record that is applied extends the history. -/
theorem EpochHistory.applied (history : EpochHistory scheme events db)
    (decodes : decoded.Decodes scheme) {bootstrapped : Bool}
    (h : db.applyNewSyncAccountMembershipRecord decoded bootstrapped now =
      .ok (application, next)) :
    EpochHistory scheme (events ++ [⟨db, decoded, application⟩]) next := by
  obtain ⟨-, isApplied, notStale, validTransition, row, deviceKey, keyed, -, -, keyApplied,
    nextEq⟩ := applyNewSyncAccountMembershipRecord_stages h
  obtain ⟨-, -, after⟩ := applyNewSyncAccountMembershipRecord_eq_ok h
  have rows : ∀ row ∈ next.syncAccountMembershipRecords, RowDecodes scheme row := by
    rw [nextEq, syncAccountMembershipRecords_of_stages keyApplied]
    exact rowDecodes_putApplied (rowDecodes_insert decodes history.rows)
  -- Every earlier applied record of the device has a smaller epoch.
  have newer : ∀ event ∈ events,
      event.applies decoded.record.profile decoded.record.deviceId = true →
      event.decoded.record.membershipEpoch < decoded.record.membershipEpoch := by
    intro event membership applies
    obtain ⟨eventApplied, ofProfile, ofDevice⟩ := MembershipEvent.applies_iff.mp applies
    obtain ⟨row, rowMem, sameEpoch⟩ := history.recorded event membership eventApplied
    rw [ofProfile, ofDevice] at rowMem
    rw [← sameEpoch]
    exact epoch_lt_of_not_stale notStale rowMem
  refine ⟨rows, ?_, ?_, ?_⟩
  · intro event membership eventApplied
    rcases List.mem_append.mp membership with old | new
    · obtain ⟨row, rowMem, sameEpoch⟩ := history.recorded event old eventApplied
      obtain ⟨stored, isRow⟩ := List.mem_filter.mp rowMem
      refine ⟨row, List.mem_filter.mpr ⟨after.records.kept row stored ?_, isRow⟩, sameEpoch⟩
      simp only [Bool.and_eq_true] at isRow
      exact isRow.2
    · rw [List.mem_singleton.mp new]
      exact exists_row_of_applied decodes after rows
  · intro profile deviceId
    rw [List.filter_append, List.map_append, List.pairwise_append]
    refine ⟨history.increasing profile deviceId, ?_, ?_⟩
    · rw [List.filter_singleton]
      cases MembershipEvent.applies profile deviceId ⟨db, decoded, application⟩ <;> simp
    · intro earlier earlierMem last lastMem
      obtain ⟨event, eventMem, rfl⟩ := List.mem_map.mp earlierMem
      obtain ⟨old, applies⟩ := List.mem_filter.mp eventMem
      obtain ⟨new, newMem, rfl⟩ := List.mem_map.mp lastMem
      obtain ⟨same, newApplies⟩ := List.mem_filter.mp newMem
      rw [List.mem_singleton.mp same] at newApplies ⊢
      obtain ⟨-, rfl, rfl⟩ := MembershipEvent.applies_iff.mp newApplies
      exact newer event old applies
  · intro profile deviceId earlier revocation later split isRevoked kind trusted
    rcases split_append_singleton split with ⟨rfl, -⟩ | ⟨before, rfl, sameEvents⟩
    · -- The revocation itself leaves no trusted key.
      obtain ⟨-, rfl, rfl⟩ := MembershipEvent.applies_iff.mp isRevoked
      have keys : next.syncDevicePublicKeys = keyed.syncDevicePublicKeys := by
        rw [nextEq]
        exact tables_recordSyncMembershipDevice.1
      obtain ⟨key, membership, found⟩ := trusted
      rw [keys] at membership
      exact absurd ⟨key, membership, found⟩ (not_hasTrustedKey_of_revocation keyApplied kind)
    · have revokedBefore := history.revoked profile deviceId earlier revocation before sameEvents
        isRevoked kind
      have kept : HasTrustedKey profile deviceId db →
          ∃ enrollment ∈ before ++ [⟨db, decoded, application⟩],
            enrollment.Enrolls profile deviceId ∧
              revocation.decoded.record.membershipEpoch <
                enrollment.decoded.record.membershipEpoch := by
        intro trustedBefore
        obtain ⟨enrollment, membership, enrolls, isNewer⟩ := revokedBefore trustedBefore
        exact ⟨enrollment, List.mem_append_left _ membership, enrolls, isNewer⟩
      rcases hasTrustedKey_of_applied decodes.checked after trusted with
        trustedBefore | ⟨installs, rfl, rfl⟩
      · exact kept trustedBefore
      · by_cases rotates : decoded.record.recordKind = recordKindRotateDeviceKey
        · exact kept (hasTrustedKey_of_rotation validTransition rotates)
        · have enrolls : decoded.record.recordKind = recordKindEnrollDevice ∨
              decoded.record.recordKind = recordKindEnrollProvider := by
            simpa [installsKey, rotates] using installs
          refine ⟨⟨db, decoded, application⟩, by simp, ⟨?_, enrolls⟩, ?_⟩
          · exact MembershipEvent.applies_iff.mpr ⟨isApplied, rfl, rfl⟩
          · exact newer revocation (by simp [sameEvents]) isRevoked

/-- One record extends the history. -/
theorem EpochHistory.step (history : EpochHistory scheme events db)
    (decodes : decoded.Decodes scheme)
    (h : db.applyDecodedSyncAccountMembershipRecord scheme decoded now =
      .ok (application, next)) :
    EpochHistory scheme (events ++ [⟨db, decoded, application⟩]) next := by
  obtain ⟨bootstrapped, -, h⟩ := bind_eq_ok_iff.mp h
  obtain ⟨found, -, h⟩ := bind_eq_ok_iff.mp h
  cases found with
  | none => exact history.applied decodes h
  | some existing =>
      simp only at h
      split at h
      · cases h
      · split at h
        · obtain ⟨deviceKey, -, h⟩ := bind_eq_ok_iff.mp h
          obtain ⟨rfl, rfl⟩ := ok_pair_inj h
          exact history.replayed rfl
        · exact history.applied decodes h

theorem EpochHistory.batch (history : EpochHistory scheme events db)
    {decodedRecords : List DecodedMembershipRecord}
    (decodes : ∀ decoded ∈ decodedRecords, decoded.Decodes scheme)
    {batch : List MembershipEvent}
    (h : forEach (applyDecodedNoted scheme now) decodedRecords db = .ok (batch, next)) :
    EpochHistory scheme (events ++ batch) next := by
  induction decodedRecords generalizing events db batch with
  | nil =>
      cases h
      simpa using history
  | cons head rest inductionHypothesis =>
      obtain ⟨event, middle, others, first, tail, rfl⟩ := forEach_cons_eq_ok_iff.mp h
      obtain ⟨⟨application, stepped⟩, applied, first⟩ := bind_eq_ok_iff.mp first
      obtain ⟨rfl, rfl⟩ := ok_pair_inj first
      have extended := history.step (decodes head (by simp)) applied
      have continued := inductionHypothesis extended
        (fun decoded membership => decodes decoded (by simp [membership])) tail
      simpa using continued

/-- Storing a record without applying it changes no epoch and no key. -/
theorem EpochHistory.stored (history : EpochHistory scheme events db)
    {signedRecord : List Nat} {row : SyncAccountMembershipRecord}
    (h : db.recordSignedSyncAccountMembershipRecord scheme signedRecord now =
      .ok (row, next)) : EpochHistory scheme events next := by
  obtain ⟨⟨signedObject, record⟩, decodes, h⟩ := bind_eq_ok_iff.mp h
  obtain ⟨rfl, -, -⟩ := recordSyncAccountMembershipRecord_eq_ok h
  refine ⟨rowDecodes_insert decodes history.rows, ?_, history.increasing, history.revoked⟩
  intro event membership isApplied
  obtain ⟨row, rowMem, sameEpoch⟩ := history.recorded event membership isApplied
  obtain ⟨stored, isRow⟩ := List.mem_filter.mp rowMem
  exact ⟨row, List.mem_filter.mpr ⟨Rows.mem_upsert_ignore stored, isRow⟩, sameEpoch⟩

end History

end SlateProfileDatabase

end Slate.Storage
