import Slate.Storage.MembershipRoster

/-!
# Replaying membership records

A batch of records is replayed on a database that knows some of them already. The batch
goes through exactly if every record, known or new, is authorized by the roster that it
meets, and the new ones are admitted by it. Which roster a database ends up with depends
only on the order of the records of each device.
-/

namespace Slate.Storage

open Slate.Foundation
open SlateProfileDatabase (DecodedMembershipRecord)

namespace Roster

/-- Every record is authorized by the roster it meets; a record that is not known yet is
also admitted, and changes the roster for the records after it. -/
def Resumes (scheme : SyncObjectScheme) (known : List DecodedMembershipRecord) :
    List DecodedMembershipRecord → Roster → Prop
  | [], _ => True
  | decoded :: rest, roster =>
      roster.Authorizes scheme decoded ∧
        if decoded ∈ known then Resumes scheme known rest roster
        else
          (roster decoded.record.deviceId).Admits decoded.record ∧
            Resumes scheme known rest (roster.after decoded)

/-- The records of a batch that are not known yet. -/
def newRecords (known records : List DecodedMembershipRecord) : List DecodedMembershipRecord :=
  records.filter fun decoded => decide (decoded ∉ known)

variable {scheme : SyncObjectScheme}

/-- If nothing is known, every record is both authorized and admitted. -/
theorem resumes_nil_iff {records : List DecodedMembershipRecord} {roster : Roster} :
    Resumes scheme [] records roster ↔
      AuthorizesAll scheme records roster ∧ AdmitsAll records roster := by
  induction records generalizing roster with
  | nil => simp [Resumes, AuthorizesAll, AdmitsAll, AllAdmitted]
  | cons decoded rest inductionHypothesis =>
      rw [Resumes, if_neg List.not_mem_nil, inductionHypothesis]
      constructor
      · rintro ⟨authorized, admitted, authorizedRest, admittedRest⟩
        exact ⟨⟨authorized, authorizedRest⟩, admitted, admittedRest⟩
      · rintro ⟨⟨authorized, authorizedRest⟩, admitted, admittedRest⟩
        exact ⟨authorized, admitted, authorizedRest, admittedRest⟩

theorem newRecords_nil (records : List DecodedMembershipRecord) :
    newRecords [] records = records := by
  simp [newRecords]

end Roster

namespace SlateProfileDatabase

variable {scheme : SyncObjectScheme} {db next : SlateProfileDatabase}
  {decoded : DecodedMembershipRecord} {profile : String} {now : Int}

section Batches

/-- Decoded records of one profile with different ids. -/
structure RecordBatch (scheme : SyncObjectScheme) (profile : String)
    (records : List DecodedMembershipRecord) : Prop where
  decodes : ∀ decoded ∈ records, decoded.Decodes scheme
  nonempty : ∀ decoded ∈ records, decoded.signedRecord ≠ []
  ofProfile : ∀ decoded ∈ records, decoded.record.profile = profile
  ids : (records.map (·.record.recordId)).Nodup

theorem RecordBatch.tail {rest : List DecodedMembershipRecord}
    (batch : RecordBatch scheme profile (decoded :: rest)) : RecordBatch scheme profile rest where
  decodes other membership := batch.decodes other (List.mem_cons_of_mem _ membership)
  nonempty other membership := batch.nonempty other (List.mem_cons_of_mem _ membership)
  ofProfile other membership := batch.ofProfile other (List.mem_cons_of_mem _ membership)
  ids := (List.nodup_cons.mp batch.ids).2

/-- The later records of a batch have other ids than its first. -/
theorem RecordBatch.other_key {rest : List DecodedMembershipRecord}
    (batch : RecordBatch scheme profile (decoded :: rest)) {other : DecodedMembershipRecord}
    (membership : other ∈ rest) :
    (decoded.record.profile, decoded.record.recordId) ≠
      (other.record.profile, other.record.recordId) := by
  intro same
  apply (List.nodup_cons.mp batch.ids).1
  exact List.mem_map.mpr ⟨other, membership, (Prod.mk.inj same).2.symm⟩

theorem Taken.not_untaken (taken : Taken decoded db) : ¬Untaken decoded db := by
  intro untaken
  obtain ⟨row, stored, -, isApplied⟩ := taken
  rw [(untaken row stored).2] at isApplied
  cases isApplied

theorem RecordApplied.storedRecord_other (applied : RecordApplied scheme decoded db next)
    {other : DecodedMembershipRecord}
    (different : (decoded.record.profile, decoded.record.recordId) ≠
      (other.record.profile, other.record.recordId)) :
    (Taken other next ↔ Taken other db) ∧ (Untaken other next ↔ Untaken other db) := by
  have same := applied.otherRows other.record.profile other.record.recordId different
  rw [Taken, Taken, Untaken, Untaken, same]
  exact ⟨Iff.rfl, Iff.rfl⟩

/-- Records that are known are taken, the others are free: then a batch goes through
exactly if the roster resumes it, and it applies the new records. -/
theorem forEach_applyDecoded_iff {known records : List DecodedMembershipRecord}
    (wellStored : WellStored scheme db) (batch : RecordBatch scheme profile records)
    (taken : ∀ decoded ∈ records, decoded ∈ known → Taken decoded db)
    (untaken : ∀ decoded ∈ records, decoded ∉ known → Untaken decoded db) :
    (∃ applications next, forEach (fun decoded =>
      applyDecodedSyncAccountMembershipRecord scheme decoded now) records db =
        .ok (applications, next)) ↔
      Roster.Resumes scheme known records (db.roster profile) := by
  induction records generalizing db with
  | nil => exact ⟨fun _ => trivial, fun _ => ⟨[], db, rfl⟩⟩
  | cons decoded rest inductionHypothesis =>
      have decodes := batch.decodes decoded (List.mem_cons_self ..)
      have ofProfile := batch.ofProfile decoded (List.mem_cons_self ..)
      have takenRest := fun other membership =>
        taken other (List.mem_cons_of_mem decoded membership)
      have untakenRest := fun other membership =>
        untaken other (List.mem_cons_of_mem decoded membership)
      have kept : ∀ {next}, RecordApplied scheme decoded db next →
          ((∃ applications final, forEach (fun decoded =>
            applyDecodedSyncAccountMembershipRecord scheme decoded now) rest next =
              .ok (applications, final)) ↔
            Roster.Resumes scheme known rest ((db.roster profile).after decoded)) := by
        intro next applied
        rw [← ofProfile, ← applied.roster, ofProfile]
        apply inductionHypothesis applied.wellStored batch.tail
        · intro other membership isKnown
          exact (applied.storedRecord_other (batch.other_key membership)).1.mpr
            (takenRest other membership isKnown)
        · intro other membership isNew
          exact (applied.storedRecord_other (batch.other_key membership)).2.mpr
            (untakenRest other membership isNew)
      rw [Roster.Resumes]
      constructor
      · rintro ⟨applications, final, run⟩
        obtain ⟨application, next, others, first, tail, -⟩ := forEach_cons_eq_ok_iff.mp run
        obtain ⟨authorized, outcome⟩ := applyDecoded_outcome wellStored decodes first
        rw [ofProfile] at authorized outcome
        refine ⟨authorized, ?_⟩
        by_cases isKnown : decoded ∈ known
        · rw [if_pos isKnown]
          rcases outcome with ⟨-, rfl, -⟩ | ⟨-, free, -⟩
          · exact (inductionHypothesis wellStored batch.tail takenRest untakenRest).mp
              ⟨others, final, tail⟩
          · exact absurd free (taken decoded (List.mem_cons_self ..) isKnown).not_untaken
        · rw [if_neg isKnown]
          rcases outcome with ⟨-, -, again⟩ | ⟨-, -, admits, applied⟩
          · exact absurd (untaken decoded (List.mem_cons_self ..) isKnown) again.not_untaken
          · exact ⟨admits, (kept applied).mp ⟨others, final, tail⟩⟩
      · rintro ⟨authorized, resumes⟩
        rw [← ofProfile] at authorized
        by_cases isKnown : decoded ∈ known
        · rw [if_pos isKnown] at resumes
          obtain ⟨application, first, -⟩ := @exists_applyDecoded_of_taken _ db decoded now
            wellStored decodes authorized (taken decoded (List.mem_cons_self ..) isKnown)
          obtain ⟨others, final, tail⟩ :=
            (inductionHypothesis wellStored batch.tail takenRest untakenRest).mpr resumes
          exact ⟨_, final, forEach_cons_eq_ok_iff.mpr ⟨_, _, others, first, tail, rfl⟩⟩
        · rw [if_neg isKnown] at resumes
          obtain ⟨admits, resumes⟩ := resumes
          rw [← ofProfile] at admits
          have free := untaken decoded (List.mem_cons_self ..) isKnown
          obtain ⟨application, next, first⟩ := @exists_applyDecoded_of_untaken _ db decoded now
            wellStored decodes (batch.nonempty decoded (List.mem_cons_self ..)) authorized admits
            free
          obtain ⟨-, ⟨-, -, again⟩ | ⟨-, -, -, applied⟩⟩ :=
            applyDecoded_outcome wellStored decodes first
          · exact absurd free again.not_untaken
          · obtain ⟨others, final, tail⟩ := (kept applied).mpr resumes
            exact ⟨_, final, forEach_cons_eq_ok_iff.mpr ⟨_, _, others, first, tail, rfl⟩⟩

/-- What was applied once stays applied. -/
theorem RecordApplied.taken (applied : RecordApplied scheme decoded db next)
    (untaken : Untaken decoded db) {other : DecodedMembershipRecord} (taken : Taken other db) :
    Taken other next := by
  by_cases same : (decoded.record.profile, decoded.record.recordId) =
      (other.record.profile, other.record.recordId)
  · obtain ⟨row, stored, -, isApplied⟩ := taken
    obtain ⟨sameProfile, sameId⟩ := Prod.mk.inj same
    rw [← sameProfile, ← sameId] at stored
    rw [(untaken row stored).2] at isApplied
    cases isApplied
  · exact (applied.storedRecord_other same).1.mpr taken

theorem RecordApplied.taken_self (applied : RecordApplied scheme decoded db next) :
    Taken decoded next := by
  obtain ⟨createdAt, appliedAt, stored⟩ := applied.row
  exact ⟨_, stored, rfl, rfl⟩

/-- A batch that goes through applies the new records, in their order. -/
theorem forEach_applyDecoded_effect {known records : List DecodedMembershipRecord}
    {applications : List SyncAccountMembershipRecordApplication} {final : SlateProfileDatabase}
    (wellStored : WellStored scheme db) (batch : RecordBatch scheme profile records)
    (taken : ∀ decoded ∈ records, decoded ∈ known → Taken decoded db)
    (untaken : ∀ decoded ∈ records, decoded ∉ known → Untaken decoded db)
    (run : forEach (fun decoded => applyDecodedSyncAccountMembershipRecord scheme decoded now)
      records db = .ok (applications, final)) :
    applications.map (·.applied) = records.map (fun decoded => decide (decoded ∉ known)) ∧
      final.roster profile =
        (db.roster profile).afterAll (Roster.newRecords known records) := by
  induction records generalizing db applications with
  | nil =>
      cases run
      exact ⟨rfl, rfl⟩
  | cons decoded rest inductionHypothesis =>
      have decodes := batch.decodes decoded (List.mem_cons_self ..)
      have ofProfile := batch.ofProfile decoded (List.mem_cons_self ..)
      obtain ⟨application, next, others, first, tail, rfl⟩ := forEach_cons_eq_ok_iff.mp run
      obtain ⟨-, ⟨replayed, rfl, again⟩ | ⟨isApplied, free, -, applied⟩⟩ :=
        applyDecoded_outcome wellStored decodes first
      · have isKnown : decoded ∈ known := by
          by_contra isNew
          exact again.not_untaken (untaken decoded (List.mem_cons_self ..) isNew)
        obtain ⟨flags, rosterOf⟩ := inductionHypothesis wellStored batch.tail
          (fun other membership => taken other (List.mem_cons_of_mem _ membership))
          (fun other membership => untaken other (List.mem_cons_of_mem _ membership)) tail
        refine ⟨by simp [replayed, isKnown, flags], ?_⟩
        rw [rosterOf, Roster.newRecords, Roster.newRecords, List.filter_cons_of_neg (by simpa)]
      · have isNew : decoded ∉ known := by
          intro isKnown
          exact (taken decoded (List.mem_cons_self ..) isKnown).not_untaken free
        obtain ⟨flags, rosterOf⟩ := inductionHypothesis applied.wellStored batch.tail
          (fun other membership isKnown =>
            (applied.storedRecord_other (batch.other_key membership)).1.mpr
              (taken other (List.mem_cons_of_mem _ membership) isKnown))
          (fun other membership otherNew =>
            (applied.storedRecord_other (batch.other_key membership)).2.mpr
              (untaken other (List.mem_cons_of_mem _ membership) otherNew)) tail
        refine ⟨by simp [isApplied, isNew, flags], ?_⟩
        have stepped := applied.roster
        rw [ofProfile] at stepped
        rw [rosterOf, stepped, Roster.newRecords, Roster.newRecords,
          List.filter_cons_of_pos (by simpa)]
        rfl

/-- If a batch applies exactly the records that are not known, these were free before. -/
theorem untaken_of_applied {known records : List DecodedMembershipRecord}
    {applications : List SyncAccountMembershipRecordApplication} {final : SlateProfileDatabase}
    (wellStored : WellStored scheme db) (batch : RecordBatch scheme profile records)
    (run : forEach (fun decoded => applyDecodedSyncAccountMembershipRecord scheme decoded now)
      records db = .ok (applications, final))
    (flags : applications.map (·.applied) =
      records.map (fun decoded => decide (decoded ∉ known))) :
    ∀ decoded ∈ records, decoded ∉ known → Untaken decoded db := by
  induction records generalizing db applications with
  | nil => simp
  | cons decoded rest inductionHypothesis =>
      have decodes := batch.decodes decoded (List.mem_cons_self ..)
      obtain ⟨application, next, others, first, tail, rfl⟩ := forEach_cons_eq_ok_iff.mp run
      obtain ⟨firstFlag, restFlags⟩ := List.cons.inj flags
      intro other membership isNew
      obtain ⟨-, ⟨replayed, rfl, -⟩ | ⟨isApplied, free, -, applied⟩⟩ :=
        applyDecoded_outcome wellStored decodes first
      · rcases List.mem_cons.mp membership with rfl | later
        · have flag : application.applied = decide (other ∉ known) := firstFlag
          rw [replayed] at flag
          exact absurd isNew (by simpa using flag.symm)
        · exact inductionHypothesis wellStored batch.tail tail restFlags other later isNew
      · rcases List.mem_cons.mp membership with rfl | later
        · exact free
        · exact (applied.storedRecord_other (batch.other_key later)).2.mp
            (inductionHypothesis applied.wellStored batch.tail tail restFlags other later isNew)

/-- After a batch went through, all its records are applied. -/
theorem taken_of_replay {records : List DecodedMembershipRecord}
    {applications : List SyncAccountMembershipRecordApplication} {final : SlateProfileDatabase}
    (wellStored : WellStored scheme db)
    (decodes : ∀ decoded ∈ records, decoded.Decodes scheme)
    (run : forEach (fun decoded => applyDecodedSyncAccountMembershipRecord scheme decoded now)
      records db = .ok (applications, final)) :
    WellStored scheme final ∧ (∀ decoded ∈ records, Taken decoded final) ∧
      ∀ decoded, Taken decoded db → Taken decoded final := by
  induction records generalizing db applications with
  | nil =>
      cases run
      exact ⟨wellStored, by simp, fun _ taken => taken⟩
  | cons first rest inductionHypothesis =>
      obtain ⟨application, next, others, stepped, tail, -⟩ := forEach_cons_eq_ok_iff.mp run
      have decodesRest := fun other membership =>
        decodes other (List.mem_cons_of_mem first membership)
      obtain ⟨-, ⟨-, rfl, again⟩ | ⟨-, free, -, applied⟩⟩ :=
        applyDecoded_outcome wellStored (decodes first (List.mem_cons_self ..)) stepped
      · obtain ⟨stored, takenRest, kept⟩ := inductionHypothesis wellStored decodesRest tail
        exact ⟨stored, List.forall_mem_cons.mpr ⟨kept first again, takenRest⟩, kept⟩
      · obtain ⟨stored, takenRest, kept⟩ :=
          inductionHypothesis applied.wellStored decodesRest tail
        exact ⟨stored, List.forall_mem_cons.mpr ⟨kept first applied.taken_self, takenRest⟩,
          fun other taken => kept other (applied.taken free taken)⟩

end Batches

section Lives

/-- The lives of a database: records are stored or applied in batches, and other steps
leave the table of records alone. -/
inductive MembershipLife (scheme : SyncObjectScheme)
    (Other : SlateProfileDatabase → SlateProfileDatabase → Prop) (start : SlateProfileDatabase) :
    SlateProfileDatabase → Prop where
  | start : MembershipLife scheme Other start start
  | stored {db next : SlateProfileDatabase} {signedRecord : List Nat} {now : Int}
      {row : SyncAccountMembershipRecord} (life : MembershipLife scheme Other start db)
      (stored : db.recordSignedSyncAccountMembershipRecord scheme signedRecord now =
        .ok (row, next)) :
      MembershipLife scheme Other start next
  | applied {db next : SlateProfileDatabase} {signedRecords : List (List Nat)} {now : Int}
      {applications : List SyncAccountMembershipRecordApplication}
      (life : MembershipLife scheme Other start db)
      (applied : db.applySignedSyncAccountMembershipRecords scheme signedRecords now =
        .ok (applications, next)) :
      MembershipLife scheme Other start next
  | other {db next : SlateProfileDatabase} (life : MembershipLife scheme Other start db)
      (sameRecords : next.syncAccountMembershipRecords = db.syncAccountMembershipRecords)
      (other : Other db next) :
      MembershipLife scheme Other start next

variable {Other : SlateProfileDatabase → SlateProfileDatabase → Prop}
  {start : SlateProfileDatabase}

/-- The step of storing a record. -/
theorem recordSignedSyncAccountMembershipRecord_eq_ok {signedRecord : List Nat}
    {row : SyncAccountMembershipRecord}
    (stored : db.recordSignedSyncAccountMembershipRecord scheme signedRecord now =
      .ok (row, next)) :
    ∃ decoded : DecodedMembershipRecord, decoded.Decodes scheme ∧ decoded.signedRecord ≠ [] ∧
      next = db.insertSyncAccountMembershipRecord decoded.registration now := by
  obtain ⟨⟨signedObject, record⟩, decodes, stored⟩ := bind_eq_ok_iff.mp stored
  refine ⟨⟨signedRecord, signedObject, record⟩, decodes, ?_,
    (recordSyncAccountMembershipRecord_eq_ok stored).1⟩
  obtain ⟨_, valid, -⟩ := bind_eq_ok_iff.mp stored
  unfold validateSyncAccountMembershipRegistration at valid
  simp only [check_then_eq_ok_iff, check_eq_ok_iff] at valid
  exact valid.2.2.2.2.2

theorem wellStored_insert (wellStored : WellStored scheme db)
    (decodes : decoded.Decodes scheme) (nonempty : decoded.signedRecord ≠ []) :
    WellStored scheme (db.insertSyncAccountMembershipRecord decoded.registration now) := by
  refine ⟨Rows.uniqueKeys_upsert (fun _ same => same) wellStored.unique, fun row membership => ?_⟩
  rcases Rows.mem_upsert membership with old | rfl | ⟨existing, old, -, same⟩
  · exact wellStored.rows row old
  · exact ⟨decoded, now, none, decodes, nonempty, rfl⟩
  · rw [same]
    exact wellStored.rows existing old

/-- Storing a record without applying it changes no standing and takes no record. -/
theorem roster_insert (profile : String) :
    (db.insertSyncAccountMembershipRecord decoded.registration now).roster profile =
      db.roster profile := by
  funext deviceId
  refine Standing.ext rfl rfl ?_
  ext epoch
  simp only [roster, standing, Set.mem_ofPred_eq]
  constructor
  · rintro ⟨recordId, row, stored, ofDevice, isApplied, sameEpoch⟩
    refine ⟨recordId, row, ?_, ofDevice, isApplied, sameEpoch⟩
    rw [storedRecord_insert] at stored
    split at stored
    · cases found : db.storedRecord profile recordId with
      | none =>
          rw [found] at stored
          cases stored
          cases isApplied
      | some existing =>
          rw [found] at stored
          exact stored
    · exact stored
  · rintro ⟨recordId, row, stored, ofDevice, isApplied, sameEpoch⟩
    refine ⟨recordId, row, ?_, ofDevice, isApplied, sameEpoch⟩
    rw [storedRecord_insert, stored]
    split <;> rfl

theorem taken_insert_iff {other : DecodedMembershipRecord} :
    Taken other (db.insertSyncAccountMembershipRecord decoded.registration now) ↔
      Taken other db := by
  unfold Taken
  rw [storedRecord_insert]
  split
  · cases found : db.storedRecord other.record.profile other.record.recordId with
    | none => simp
    | some existing => simp
  · rfl

/-- What one handled record keeps, a batch keeps. -/
theorem batch_invariant (Invariant : SlateProfileDatabase → Prop)
    (wellStored : WellStored scheme db) {signedRecords : List (List Nat)}
    {applications : List SyncAccountMembershipRecordApplication}
    (step : ∀ decoded before after, decoded.Decodes scheme → WellStored scheme before →
      Invariant before → Untaken decoded before →
      (before.roster decoded.record.profile decoded.record.deviceId).Admits decoded.record →
      RecordApplied scheme decoded before after → Invariant after)
    (applied : db.applySignedSyncAccountMembershipRecords scheme signedRecords now =
      .ok (applications, next)) (holds : Invariant db) :
    WellStored scheme next ∧ Invariant next := by
  obtain ⟨decodedRecords, decoded, run⟩ := bind_eq_ok_iff.mp applied
  refine forEach_invariant (fun state => WellStored scheme state ∧ Invariant state) ?_ run
    ⟨wellStored, holds⟩
  rintro record membership before application after stepped ⟨stored, holdsBefore⟩
  have decodes := decodes_of_mem_decodeSignedMembershipRecords decoded membership
  obtain ⟨-, ⟨-, rfl, -⟩ | ⟨-, free, admits, recordApplied⟩⟩ :=
    applyDecoded_outcome stored decodes stepped
  · exact ⟨stored, holdsBefore⟩
  · exact ⟨recordApplied.wellStored,
      step record before after decodes stored holdsBefore free admits recordApplied⟩

theorem MembershipLife.wellStored (life : MembershipLife scheme Other start db)
    (empty : WellStored scheme start) : WellStored scheme db := by
  induction life with
  | start => exact empty
  | stored life stored inductionHypothesis =>
      obtain ⟨decoded, decodes, nonempty, rfl⟩ :=
        recordSignedSyncAccountMembershipRecord_eq_ok stored
      exact wellStored_insert inductionHypothesis decodes nonempty
  | applied life applied inductionHypothesis =>
      exact (batch_invariant (fun _ => True) inductionHypothesis
        (fun _ _ _ _ _ _ _ _ _ => trivial) applied trivial).1
  | other life sameRecords other inductionHypothesis =>
      exact ⟨sameRecords ▸ inductionHypothesis.unique, sameRecords ▸ inductionHypothesis.rows⟩

/-- A record that was applied stays applied. -/
theorem MembershipLife.taken (life : MembershipLife scheme Other start db)
    (wellStored : WellStored scheme start) (taken : Taken decoded start) : Taken decoded db := by
  induction life with
  | start => exact taken
  | stored life stored inductionHypothesis =>
      obtain ⟨record, -, -, rfl⟩ := recordSignedSyncAccountMembershipRecord_eq_ok stored
      exact taken_insert_iff.mpr inductionHypothesis
  | applied life applied inductionHypothesis =>
      refine (batch_invariant (Taken decoded) (life.wellStored wellStored) ?_ applied
        inductionHypothesis).2
      intro record before after _ _ takenBefore free _ recordApplied
      exact recordApplied.taken free takenBefore
  | other life sameRecords other inductionHypothesis =>
      obtain ⟨row, stored, sameBytes, isApplied⟩ := inductionHypothesis
      refine ⟨row, ?_, sameBytes, isApplied⟩
      rw [storedRecord, sameRecords]
      exact stored

end Lives

section Orders

/-- Keys and provider flags of the profile are only written by applying records. -/
def KeepsRoster (profile : String) (db next : SlateProfileDatabase) : Prop :=
  next.roster profile = db.roster profile

/-- The records that were applied to a profile, in the order in which they were. -/
structure RecordOrder (scheme : SyncObjectScheme) (profile : String)
    (order : List DecodedMembershipRecord) (db : SlateProfileDatabase) : Prop where
  admitted : Roster.unknown.AdmitsAll order
  roster : db.roster profile = Roster.unknown.afterAll order
  mem_iff : ∀ decoded, decoded.Decodes scheme →
    (decoded ∈ order ↔ decoded.record.profile = profile ∧ Taken decoded db)
  decodes : ∀ decoded ∈ order, decoded.Decodes scheme

theorem EmptyProfile.recordOrder (empty : EmptyProfile profile db) :
    RecordOrder scheme profile [] db := by
  have unstored : ∀ recordId, db.storedRecord profile recordId = none := by
    intro recordId
    rw [storedRecord, Rows.lookup_eq_none_iff]
    intro row membership same
    exact empty.records row membership (congrArg Prod.fst same)
  refine ⟨trivial, ?_, fun decoded decodes => ?_, by simp⟩
  · funext deviceId
    refine Standing.ext (unkeyed_roster_iff.mpr empty.keys deviceId) ?_ ?_
    · change Option.any _ (Rows.lookup deviceKey (profile, deviceId) db.syncDevices) = false
      cases found : Rows.lookup deviceKey (profile, deviceId) db.syncDevices with
      | none => rfl
      | some device =>
          obtain ⟨membership, sameKey⟩ := Rows.mem_of_lookup found
          exact empty.providers device membership (congrArg Prod.fst sameKey)
    · ext epoch
      simp [roster, standing, unstored, Roster.afterAll, foldSlots, Roster.unknown,
        Standing.unknown]
  · simp only [List.not_mem_nil, false_iff]
    rintro ⟨rfl, row, stored, -⟩
    rw [unstored] at stored
    cases stored

/-- Applying a record of the profile extends the order. -/
theorem RecordOrder.applied {order : List DecodedMembershipRecord}
    (recordOrder : RecordOrder scheme profile order db) (decodes : decoded.Decodes scheme)
    (ofProfile : decoded.record.profile = profile) (untaken : Untaken decoded db)
    (admits : (db.roster decoded.record.profile decoded.record.deviceId).Admits decoded.record)
    (applied : RecordApplied scheme decoded db next) :
    RecordOrder scheme profile (order ++ [decoded]) next := by
  subst ofProfile
  refine ⟨?_, ?_, fun other otherDecodes => ?_, ?_⟩
  · refine (allAdmitted_append _ _ _).mpr ⟨recordOrder.admitted, ?_, trivial⟩
    have found := admits
    rw [recordOrder.roster] at found
    exact found
  · rw [applied.roster, recordOrder.roster, Roster.afterAll, Roster.afterAll, foldSlots_append]
    rfl
  · rw [List.mem_append, recordOrder.mem_iff other otherDecodes, List.mem_singleton]
    constructor
    · rintro (⟨ofProfile, taken⟩ | rfl)
      · exact ⟨ofProfile, applied.taken untaken taken⟩
      · exact ⟨rfl, applied.taken_self⟩
    · rintro ⟨ofProfile, taken⟩
      by_cases same : (decoded.record.profile, decoded.record.recordId) =
          (other.record.profile, other.record.recordId)
      · -- The one row of the id holds the bytes of both records.
        obtain ⟨row, stored, sameBytes, -⟩ := taken
        obtain ⟨createdAt, appliedAt, own⟩ := applied.row
        obtain ⟨sameProfile, sameId⟩ := Prod.mk.inj same
        rw [← sameProfile, ← sameId] at stored
        obtain rfl := Option.some.inj (own.symm.trans stored)
        obtain ⟨signedRecord, signedObject, record⟩ := other
        obtain rfl : decoded.signedRecord = signedRecord := sameBytes
        obtain ⟨rfl, rfl⟩ := Prod.mk.inj (Except.ok.inj (decodes.symm.trans otherDecodes))
        exact .inr rfl
      · exact .inl ⟨ofProfile, (applied.storedRecord_other same).1.mp taken⟩
  · intro other membership
    rcases List.mem_append.mp membership with old | new
    · exact recordOrder.decodes other old
    · rw [List.mem_singleton.mp new]
      exact decodes

/-- A step that changes neither the roster nor what was applied keeps the order. -/
theorem RecordOrder.kept {order : List DecodedMembershipRecord}
    (recordOrder : RecordOrder scheme profile order db)
    (sameRoster : next.roster profile = db.roster profile)
    (sameTaken : ∀ other : DecodedMembershipRecord, other.record.profile = profile →
      (Taken other next ↔ Taken other db)) : RecordOrder scheme profile order next where
  admitted := recordOrder.admitted
  roster := sameRoster.trans recordOrder.roster
  mem_iff other otherDecodes := by
    rw [recordOrder.mem_iff other otherDecodes]
    exact and_congr_right fun ofProfile => (sameTaken other ofProfile).symm
  decodes := recordOrder.decodes

theorem MembershipLife.recordOrder {start : SlateProfileDatabase}
    (life : MembershipLife scheme (KeepsRoster profile) start db)
    (wellStored : WellStored scheme start) (empty : EmptyProfile profile start) :
    ∃ order, RecordOrder scheme profile order db := by
  induction life with
  | start => exact ⟨[], empty.recordOrder⟩
  | stored life stored inductionHypothesis =>
      obtain ⟨order, recordOrder⟩ := inductionHypothesis
      obtain ⟨decoded, -, -, rfl⟩ := recordSignedSyncAccountMembershipRecord_eq_ok stored
      exact ⟨order, recordOrder.kept (roster_insert profile) fun _ _ => taken_insert_iff⟩
  | applied life applied inductionHypothesis =>
      refine (batch_invariant (fun db => ∃ order, RecordOrder scheme profile order db)
        (life.wellStored wellStored) ?_ applied inductionHypothesis).2
      rintro record before after decodes - ⟨order, recordOrder⟩ free admits recordApplied
      by_cases ofProfile : record.record.profile = profile
      · exact ⟨_, recordOrder.applied decodes ofProfile free admits recordApplied⟩
      · refine ⟨order, recordOrder.kept
          (recordApplied.otherRosters profile fun same => ofProfile same.symm) ?_⟩
        intro other otherProfile
        refine (recordApplied.storedRecord_other fun same => ofProfile ?_).1
        rw [(Prod.mk.inj same).1]
        exact otherProfile
  | other life sameRecords other inductionHypothesis =>
      obtain ⟨order, recordOrder⟩ := inductionHypothesis
      refine ⟨order, recordOrder.kept other fun record _ => ?_⟩
      unfold Taken storedRecord
      rw [sameRecords]

/-- Epochs increase along records that a standing admits in turn. -/
theorem increasing_of_admittedInTurn {records : List DecodedMembershipRecord}
    {standing : Standing}
    (admitted : AdmittedInTurn (fun decoded => Standing.after decoded.record)
      (fun standing decoded => standing.Admits decoded.record) records standing) :
    (records.Pairwise fun left right =>
      left.record.membershipEpoch < right.record.membershipEpoch) ∧
      ∀ decoded ∈ records, ∀ epoch ∈ standing.epochs,
        epoch < decoded.record.membershipEpoch := by
  induction records generalizing standing with
  | nil => simp
  | cons decoded rest inductionHypothesis =>
      obtain ⟨admits, later⟩ := admitted
      obtain ⟨increasing, newer⟩ := inductionHypothesis later
      constructor
      · refine List.pairwise_cons.mpr ⟨fun other membership => ?_, increasing⟩
        exact newer other membership _ (Set.mem_insert ..)
      · intro other membership epoch applied
        rcases List.mem_cons.mp membership with rfl | inRest
        · exact admits.newer epoch applied
        · exact newer other inRest epoch (Set.mem_insert_of_mem _ applied)

/-- Records in the order of their epochs have, device by device, the order in which they
were applied. -/
theorem RecordOrder.itemsOf_eq {order log : List DecodedMembershipRecord}
    (recordOrder : RecordOrder scheme profile order db)
    (sameRecords : ∀ decoded, decoded ∈ log ↔ decoded ∈ order) (distinct : log.Nodup)
    (ordered : log.Pairwise fun left right =>
      left.record.membershipEpoch ≤ right.record.membershipEpoch) (deviceId : String) :
    itemsOf Roster.deviceOf deviceId log = itemsOf Roster.deviceOf deviceId order := by
  have increasing := (increasing_of_admittedInTurn
    ((allAdmitted_iff order Roster.unknown).mp recordOrder.admitted deviceId)).1
  have same : ∀ decoded, decoded ∈ itemsOf Roster.deviceOf deviceId log ↔
      decoded ∈ itemsOf Roster.deviceOf deviceId order := by
    intro decoded
    rw [itemsOf, itemsOf, List.mem_filter, List.mem_filter, sameRecords]
  refine eq_of_increasing (fun decoded => decoded.record.membershipEpoch) ?_ increasing same
  -- Two records of one device never have the same epoch.
  have epochs_ne : ∀ left ∈ itemsOf Roster.deviceOf deviceId log,
      ∀ right ∈ itemsOf Roster.deviceOf deviceId log, left ≠ right →
        left.record.membershipEpoch ≠ right.record.membershipEpoch := by
    intro left leftMem right rightMem different
    have comparable := List.Pairwise.forall_of_forall_of_flip
      (R := fun left right : DecodedMembershipRecord => left ≠ right →
        left.record.membershipEpoch ≠ right.record.membershipEpoch)
      (fun _ _ h => absurd rfl h) (increasing.imp fun before _ => before.ne)
      (increasing.imp fun before _ => before.ne')
    exact comparable ((same left).mp leftMem) ((same right).mp rightMem) different
  have both := List.Pairwise.and (ordered.filter _ : (itemsOf Roster.deviceOf deviceId
    log).Pairwise _) (List.Nodup.filter _ distinct)
  refine List.Pairwise.imp_of_mem ?_ both
  rintro left right leftMem rightMem ⟨le, different⟩
  exact lt_of_le_of_ne le (epochs_ne left leftMem right rightMem different)

end Orders

end SlateProfileDatabase

end Slate.Storage
