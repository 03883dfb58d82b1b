import Slate.ProfileSync.LogPropagation

/-!
# The roots of a membership log

Every record of a membership log is published under a root that is named by its id, the log
itself under a fixed name, all in one name space. The publication is followed request by
request.
-/

namespace Slate.ProfileSync

open Slate.Foundation Slate.Storage
open SlateProfileDatabase

/-- A point of a publication: the records whose roots are published so far, and the store. -/
structure PublicationPoint where
  published : List SyncAccountMembershipRecord
  store : ObjectStore

section Points

variable (scheme : SyncObjectScheme) (profile : String)

/-- The points that the records lead through: one after the object of a record is stored, one
after its root is published. -/
def recordPoints : List SyncAccountMembershipRecord → List SyncAccountMembershipRecord →
    ObjectStore → List PublicationPoint
  | [], _, _ => []
  | record :: rest, published, store =>
      let (objectId, stored) := store.putEncryptedObject scheme profile record.signedRecord
      let rooted := stored.publishRoot profile (syncMembershipRecordRootId record.recordId) objectId
      { published, store := stored } ::
        { published := published ++ [record], store := rooted } ::
          recordPoints rest (published ++ [record]) rooted

/-- The store after all records are published. -/
def afterRecords (records : List SyncAccountMembershipRecord) (store : ObjectStore) :
    ObjectStore :=
  records.foldl
    (fun store record =>
      let (objectId, stored) := store.putEncryptedObject scheme profile record.signedRecord
      stored.publishRoot profile (syncMembershipRecordRootId record.recordId) objectId) store

/-- The points of a whole publication, from its start to its end. -/
def publicationPoints (rootId : String) (records : List SyncAccountMembershipRecord)
    (logBytes : List Nat) (store : ObjectStore) : List PublicationPoint :=
  let (objectId, stored) :=
    (afterRecords scheme profile records store).putEncryptedObject scheme profile logBytes
  { published := [], store } :: recordPoints scheme profile records [] store ++
    [{ published := records, store := stored },
      { published := records, store := stored.publishRoot profile rootId objectId }]

/-- A root resolves to an object with these bytes. -/
def Resolves (store : ObjectStore) (rootId : String) (bytes : List Nat) : Prop :=
  ∃ objectId, store.resolveProfileSyncRoot profile rootId = some objectId ∧
    store.find scheme profile objectId = some bytes

/-- The record roots published so far name their records. The root of the log names what it
named at the start, nothing or an earlier log, or the new log. -/
structure RootsIntact (rootId : String) (logBytes : List Nat) (start : ObjectStore)
    (point : PublicationPoint) : Prop where
  records : ∀ record ∈ point.published, Resolves scheme profile point.store
    (syncMembershipRecordRootId record.recordId) record.signedRecord
  log : point.store.resolveProfileSyncRoot profile rootId =
      start.resolveProfileSyncRoot profile rootId ∨
    Resolves scheme profile point.store rootId logBytes

end Points

section Roots

variable {scheme : SyncObjectScheme} {profile rootId objectId : String} {logBytes : List Nat}
  {store next start : ObjectStore}

theorem syncMembershipRecordRootId_inj {first second : String}
    (same : syncMembershipRecordRootId first = syncMembershipRecordRootId second) :
    first = second := by
  unfold syncMembershipRecordRootId at same
  generalize "account/membership/" = front at same
  have lists := congrArg String.toList same
  rw [String.toList_append, String.toList_append] at lists
  exact String.ext (List.append_cancel_left lists)

theorem syncMembershipRecordRootId_log :
    syncMembershipRecordRootId "log" = profileSyncMembershipLogRootId := by
  decide

/-- A root keeps its object while other objects are stored and other roots are published. -/
theorem Resolves.extends (lawful : scheme.Lawful) {bytes : List Nat}
    (resolves : Resolves scheme profile store rootId bytes) (grown : store.Extends next)
    (sameRoot : next.resolveProfileSyncRoot profile rootId =
      store.resolveProfileSyncRoot profile rootId) : Resolves scheme profile next rootId bytes := by
  obtain ⟨objectId, resolved, found⟩ := resolves
  exact ⟨objectId, sameRoot.trans resolved, grown.find lawful found⟩

theorem resolves_publishRoot {bytes : List Nat}
    (found : store.find scheme profile objectId = some bytes) :
    Resolves scheme profile (store.publishRoot profile rootId objectId) rootId bytes :=
  ⟨objectId, ObjectStore.resolveProfileSyncRoot_publishRoot rootId, found⟩

theorem resolveProfileSyncRoot_of_roots_eq (same : next.roots = store.roots) (name : String) :
    next.resolveProfileSyncRoot profile name = store.resolveProfileSyncRoot profile name := by
  rw [ObjectStore.resolveProfileSyncRoot, same, ObjectStore.resolveProfileSyncRoot]

/-- Storing an object keeps the roots intact. -/
theorem RootsIntact.put (lawful : scheme.Lawful) {published : List SyncAccountMembershipRecord}
    (intact : RootsIntact scheme profile rootId logBytes start ⟨published, store⟩)
    {bytes : List Nat}
    (put : store.putEncryptedObject scheme profile bytes = (objectId, next)) :
    RootsIntact scheme profile rootId logBytes start ⟨published, next⟩ := by
  obtain ⟨grown, sameRoots, -⟩ := ObjectStore.putEncryptedObject_spec lawful put
  refine ⟨fun record membership => ?_, ?_⟩
  · exact (intact.records record membership).extends lawful grown
      (resolveProfileSyncRoot_of_roots_eq sameRoots _)
  · rcases intact.log with same | resolves
    · exact .inl ((resolveProfileSyncRoot_of_roots_eq sameRoots _).trans same)
    · exact .inr (resolves.extends lawful grown (resolveProfileSyncRoot_of_roots_eq sameRoots _))

/-- Publishing the root of a record keeps the others, unless one of them has its name. -/
theorem RootsIntact.publishRecord (lawful : scheme.Lawful)
    {published : List SyncAccountMembershipRecord} {record : SyncAccountMembershipRecord}
    (intact : RootsIntact scheme profile profileSyncMembershipLogRootId logBytes start
      ⟨published, store⟩)
    (found : store.find scheme profile objectId = some record.signedRecord)
    (fresh : ∀ other ∈ published, other.recordId ≠ record.recordId)
    (notLog : record.recordId ≠ "log") :
    RootsIntact scheme profile profileSyncMembershipLogRootId logBytes start
      ⟨published ++ [record],
        store.publishRoot profile (syncMembershipRecordRootId record.recordId) objectId⟩ := by
  have logRoot : syncMembershipRecordRootId record.recordId ≠ profileSyncMembershipLogRootId := by
    rw [← syncMembershipRecordRootId_log]
    exact fun same => notLog (syncMembershipRecordRootId_inj same)
  have grown := @ObjectStore.extends_publishRoot store profile objectId
    (syncMembershipRecordRootId record.recordId)
  have logSame := @ObjectStore.resolveProfileSyncRoot_publishRoot_of_ne store profile objectId _ _
    logRoot
  refine ⟨fun other membership => ?_, ?_⟩
  · rcases List.mem_append.mp membership with earlier | own
    · apply (intact.records other earlier).extends lawful grown
      apply ObjectStore.resolveProfileSyncRoot_publishRoot_of_ne
      exact fun same => fresh other earlier (syncMembershipRecordRootId_inj same).symm
    · obtain rfl := List.mem_singleton.mp own
      exact resolves_publishRoot found
  · rcases intact.log with same | resolves
    · exact .inl (logSame.trans same)
    · exact .inr (resolves.extends lawful grown logSame)

/-- Publishing the log keeps the roots of the records, unless one has the log's name. -/
theorem RootsIntact.publishLog (lawful : scheme.Lawful)
    {published : List SyncAccountMembershipRecord}
    (intact : RootsIntact scheme profile profileSyncMembershipLogRootId logBytes start
      ⟨published, store⟩)
    (found : store.find scheme profile objectId = some logBytes)
    (notLog : ∀ record ∈ published, record.recordId ≠ "log") :
    RootsIntact scheme profile profileSyncMembershipLogRootId logBytes start
      ⟨published, store.publishRoot profile profileSyncMembershipLogRootId objectId⟩ := by
  refine ⟨fun record membership => ?_, .inr (resolves_publishRoot found)⟩
  apply (intact.records record membership).extends lawful (ObjectStore.extends_publishRoot _)
  apply ObjectStore.resolveProfileSyncRoot_publishRoot_of_ne
  rw [← syncMembershipRecordRootId_log]
  exact fun same => notLog record membership (syncMembershipRecordRootId_inj same).symm

end Roots

section Publication

variable {scheme : SyncObjectScheme} {logCodec : ObjectCodec ProfileSyncMembershipLog}
  {profile : String} {logBytes : List Nat} {db : SlateProfileDatabase}
  {store next start : ObjectStore}

/-- With ids of their own, none of them the log's, the records are published with every root
intact on the way. -/
theorem intact_recordPoints (lawful : scheme.Lawful)
    (records : List SyncAccountMembershipRecord) {published : List SyncAccountMembershipRecord}
    (intact : RootsIntact scheme profile profileSyncMembershipLogRootId logBytes start
      ⟨published, store⟩)
    (unique : ((published ++ records).map (·.recordId)).Nodup)
    (notLog : ∀ record ∈ records, record.recordId ≠ "log") :
    (∀ point ∈ recordPoints scheme profile records published store,
      RootsIntact scheme profile profileSyncMembershipLogRootId logBytes start point) ∧
    RootsIntact scheme profile profileSyncMembershipLogRootId logBytes start
      ⟨published ++ records, afterRecords scheme profile records store⟩ := by
  induction records generalizing published store with
  | nil =>
      rw [List.append_nil]
      exact ⟨by simp [recordPoints], intact⟩
  | cons record rest inductionHypothesis =>
      cases put : store.putEncryptedObject scheme profile record.signedRecord with
      | mk objectId stored =>
          have found := (ObjectStore.putEncryptedObject_spec lawful put).2.2.1
          have afterPut := intact.put lawful put
          have fresh : ∀ other ∈ published, other.recordId ≠ record.recordId := by
            intro other earlier same
            rw [List.map_append, List.nodup_append] at unique
            exact unique.2.2 _ (List.mem_map_of_mem earlier) _
              (List.mem_map_of_mem (List.mem_cons_self ..)) same
          have afterPublish := afterPut.publishRecord lawful found fresh
            (notLog record (List.mem_cons_self ..))
          have regroup : published ++ record :: rest = published ++ [record] ++ rest := by simp
          rw [regroup] at unique ⊢
          obtain ⟨points, last⟩ := inductionHypothesis afterPublish unique
            fun other later => notLog other (List.mem_cons_of_mem _ later)
          have afterFirst : afterRecords scheme profile (record :: rest) store =
              afterRecords scheme profile rest (stored.publishRoot profile
                (syncMembershipRecordRootId record.recordId) objectId) := by
            simp only [afterRecords, List.foldl_cons, put]
          rw [afterFirst]
          refine ⟨?_, last⟩
          simp only [recordPoints, put, List.mem_cons, forall_eq_or_imp]
          exact ⟨afterPut, afterPublish, points⟩

theorem intact_publicationPoints (lawful : scheme.Lawful)
    {records : List SyncAccountMembershipRecord}
    (unique : (records.map (·.recordId)).Nodup)
    (notLog : ∀ record ∈ records, record.recordId ≠ "log") :
    ∀ point ∈ publicationPoints scheme profile profileSyncMembershipLogRootId records logBytes
        store,
      RootsIntact scheme profile profileSyncMembershipLogRootId logBytes store point := by
  have begin_intact : RootsIntact scheme profile profileSyncMembershipLogRootId logBytes store
      ⟨[], store⟩ := ⟨by simp, .inl rfl⟩
  obtain ⟨points, last⟩ := intact_recordPoints lawful records begin_intact unique notLog
  cases put : (afterRecords scheme profile records store).putEncryptedObject scheme profile
      logBytes with
  | mk objectId stored =>
      have found := (ObjectStore.putEncryptedObject_spec lawful put).2.2.1
      have afterPut := last.put lawful put
      simp only [publicationPoints, put, List.cons_append, List.mem_cons, List.mem_append,
        List.not_mem_nil, or_false, forall_eq_or_imp]
      refine ⟨begin_intact, ?_⟩
      rintro point (ofRecords | rfl | rfl)
      · exact points point ofRecords
      · exact afterPut
      · exact afterPut.publishLog lawful found notLog

/-- A publication stores and publishes what its points say. -/
theorem afterRecords_of_forEach (lawful : scheme.Lawful)
    {records : List SyncAccountMembershipRecord} {entries : List ProfileSyncMembershipLogEntry}
    (published : forEach (publishMembershipLogEntry scheme profile) records store =
      .ok (entries, next)) : next = afterRecords scheme profile records store := by
  induction records generalizing store entries with
  | nil =>
      obtain ⟨-, rfl⟩ := ok_pair_inj published
      rfl
  | cons record rest inductionHypothesis =>
      obtain ⟨entry, middle, others, first, tail, -⟩ := forEach_cons_eq_ok_iff.mp published
      rw [inductionHypothesis tail]
      obtain ⟨⟨objectId, rooted⟩, put, written⟩ := bind_eq_ok_iff.mp first
      obtain ⟨-, rfl⟩ := ok_pair_inj written
      obtain ⟨stored, isStored, rfl⟩ :=
        (ObjectStore.putRetainedRoot_eq_ok_iff lawful).mp (mapError_eq_ok_iff.mp put)
      simp only [afterRecords, List.foldl_cons, isStored]

theorem publicationPoints_getLast? (lawful : scheme.Lawful)
    {published : PublishedProfileSyncMembershipLog} {rootId : String}
    (publishes : publishLocalSyncAccountMembershipLog scheme logCodec profile rootId db store =
      .ok (some published, next)) :
    (publicationPoints scheme profile rootId (db.syncAccountMembershipRecordsOf profile)
        (logCodec.toBytes published.log) store).getLast? =
      some ⟨db.syncAccountMembershipRecordsOf profile, next⟩ := by
  obtain ⟨some_record, few⟩ := count_of_published publishes
  have nonempty : db.syncAccountMembershipRecordCount profile ≠ 0 := by omega
  unfold publishLocalSyncAccountMembershipLog planLocalSyncAccountMembershipLog at publishes
  simp only [length_rowsOf, isEmpty_forRecordCount, requiresCompaction_forRecordCount,
    nonempty, not_lt.mpr few, decide_false, Bool.false_eq_true, if_false] at publishes
  obtain ⟨⟨entries, middle⟩, listed, publishes⟩ := bind_eq_ok_iff.mp publishes
  obtain ⟨⟨objectId, rooted⟩, put, publishes⟩ := bind_eq_ok_iff.mp publishes
  obtain ⟨isPublished, rfl⟩ := ok_pair_inj publishes
  obtain rfl := Option.some.inj isPublished
  obtain ⟨stored, isStored, rfl⟩ :=
    (ObjectStore.putRetainedRoot_eq_ok_iff lawful).mp (mapError_eq_ok_iff.mp put)
  rw [afterRecords_of_forEach lawful listed] at isStored
  dsimp only at isStored ⊢
  unfold publicationPoints
  rw [isStored]
  exact List.getLast?_append_of_ne_nil _ (List.cons_ne_nil _ _)

/-- A log is not read as a signed membership record: it lacks the fields of one. -/
def LogsAreNoRecords (scheme : SyncObjectScheme) (logCodec : ObjectCodec ProfileSyncMembershipLog) :
    Prop :=
  ∀ log decoded,
    decodeSignedProfileSyncMembershipRecord scheme (logCodec.toBytes log) ≠ .ok decoded

/-- A record with the log's name is overwritten by the log. -/
theorem not_intact_of_log_record (lawful : scheme.Lawful) (wellStored : WellStored scheme db)
    (logsAreNoRecords : LogsAreNoRecords scheme logCodec)
    {published : PublishedProfileSyncMembershipLog}
    (publishes : publishLocalSyncAccountMembershipLog scheme logCodec profile
      profileSyncMembershipLogRootId db store = .ok (some published, next))
    {record : SyncAccountMembershipRecord}
    (membership : record ∈ db.syncAccountMembershipRecordsOf profile)
    (isLog : record.recordId = "log") :
    ¬RootsIntact scheme profile profileSyncMembershipLogRootId (logCodec.toBytes published.log)
      store ⟨db.syncAccountMembershipRecordsOf profile, next⟩ := by
  intro intact
  obtain ⟨objectId, resolved, found⟩ := intact.records record membership
  rw [isLog, syncMembershipRecordRootId_log] at resolved
  have logPublished := LogPublished.of_publish lawful publishes
  obtain rfl := Option.some.inj (logPublished.root.symm.trans resolved)
  have sameBytes := Option.some.inj (logPublished.object.symm.trans found)
  obtain ⟨decoded, decodes, -, createdAt, appliedAt, rfl⟩ := rowsOf_stored wellStored record membership
  apply logsAreNoRecords published.log
  rw [sameBytes]
  exact decodes

/-- A publication under the log's name always succeeds, and its roots are intact at every point
exactly if no record of the profile has the id "log". -/
theorem membership_roots_intact_iff (lawful : scheme.Lawful) (wellStored : WellStored scheme db)
    (logsAreNoRecords : LogsAreNoRecords scheme logCodec)
    (some_record : 1 ≤ db.syncAccountMembershipRecordCount profile)
    (few : db.syncAccountMembershipRecordCount profile ≤ profileSyncMembershipLogMaxRecords) :
    ∃ published next,
      publishLocalSyncAccountMembershipLog scheme logCodec profile
        profileSyncMembershipLogRootId db store = .ok (some published, next) ∧
      (publicationPoints scheme profile profileSyncMembershipLogRootId
        (db.syncAccountMembershipRecordsOf profile) (logCodec.toBytes published.log)
        store).getLast? = some ⟨db.syncAccountMembershipRecordsOf profile, next⟩ ∧
      ((∀ point ∈ publicationPoints scheme profile profileSyncMembershipLogRootId
          (db.syncAccountMembershipRecordsOf profile) (logCodec.toBytes published.log) store,
        RootsIntact scheme profile profileSyncMembershipLogRootId
          (logCodec.toBytes published.log) store point) ↔
        ∀ record ∈ db.syncAccountMembershipRecordsOf profile, record.recordId ≠ "log") := by
  obtain ⟨published, next, publishes, -⟩ := @publishLocalSyncAccountMembershipLog_spec scheme
    profile profileSyncMembershipLogRootId db logCodec lawful some_record few store
  have last := publicationPoints_getLast? lawful publishes
  refine ⟨published, next, publishes, last, ?_, ?_⟩
  · intro intact record membership isLog
    exact not_intact_of_log_record lawful wellStored logsAreNoRecords publishes membership isLog
      (intact _ (List.mem_of_getLast? last))
  · exact intact_publicationPoints lawful (rowsOf_ids wellStored)

end Publication

section Sample

/-- The log as a list of numbers that begins with a version no signed object has. -/
def markedLogCodec : ObjectCodec ProfileSyncMembershipLog where
  toBytes log := 0 :: plainLogCodec.toBytes log
  fromBytes numbers := plainLogCodec.fromBytes numbers.tail

theorem markedLogCodec_logsAreNoRecords : LogsAreNoRecords plainScheme markedLogCodec := by
  intro log decoded decodes
  obtain ⟨signedObject, opened, decodes⟩ := bind_eq_ok_iff.mp decodes
  obtain ⟨-, decodes⟩ := check_then_eq_ok_iff.mp decodes
  obtain ⟨payload, verified, -⟩ := bind_eq_ok_iff.mp decodes
  have version : signedObject.version = 0 := by
    have read := mapError_eq_ok_iff.mp (mapError_eq_ok_iff.mp opened)
    simp only [plainScheme, PlainScheme.codec, PlainScheme.signed, Serial.decode, Serial.via,
      Serial.pair, Serial.nat, markedLogCodec, Option.bind_some] at read
    split at read
    · rename_i object found
      cases read
      split at found
      · rename_i value rest whole
        cases found
        obtain ⟨fields, isRead, same⟩ := Option.map_eq_some_iff.mp whole
        obtain ⟨others, -, rfl⟩ := Option.map_eq_some_iff.mp isRead
        exact (congrArg SignedSyncObject.version (Prod.mk.inj same).1).symm
      · cases found
    · cases read
  have refused := mapError_eq_ok_iff.mp verified
  rw [SignedSyncObject.verifyWith, if_pos (by rw [version]; decide)] at refused
  cases refused

/-- What the laptop stores of its own enrollment under a record id. -/
def laptopEnrollment (recordId : String) :
    Except StorageError (List SyncAccountMembershipRecordApplication × SlateProfileDatabase) :=
  applySignedSyncAccountMembershipRecords plainScheme
    [signedRecordBy laptopKey { enrollmentOf laptopKey with recordId }] 10 freshLaptop

/-- The publisher of one record with an id of its own. -/
theorem exists_publisher {recordId : String}
    (applies : (laptopEnrollment recordId).toOption.any (fun (_, publisher) =>
      (publisher.syncAccountMembershipRecordsOf "default").map (·.recordId) = [recordId])) :
    ∃ publisher, WellStored plainScheme publisher ∧
      (publisher.syncAccountMembershipRecordsOf "default").map (·.recordId) = [recordId] := by
  cases applied : laptopEnrollment recordId with
  | error failure => simp [applied, Except.toOption] at applies
  | ok result =>
      obtain ⟨applications, publisher⟩ := result
      have life : MembershipLife plainScheme (fun _ _ => True) freshLaptop publisher :=
        .applied .start applied
      refine ⟨publisher, life.wellStored (wellStored_of_no_records rfl), ?_⟩
      simpa [applied, Except.toOption] using applies

/-- The log is published over the root of a record with the id "log". -/
theorem membership_roots_overwritten :
    ¬∀ (scheme : SyncObjectScheme) (logCodec : ObjectCodec ProfileSyncMembershipLog)
      (profile : String) (db : SlateProfileDatabase) (store next : ObjectStore)
      (published : PublishedProfileSyncMembershipLog),
      scheme.Lawful → WellStored scheme db → LogsAreNoRecords scheme logCodec →
      publishLocalSyncAccountMembershipLog scheme logCodec profile
        profileSyncMembershipLogRootId db store = .ok (some published, next) →
      ∀ point ∈ publicationPoints scheme profile profileSyncMembershipLogRootId
          (db.syncAccountMembershipRecordsOf profile) (logCodec.toBytes published.log) store,
        RootsIntact scheme profile profileSyncMembershipLogRootId
          (logCodec.toBytes published.log) store point := by
  intro always
  obtain ⟨publisher, wellStored, ids⟩ := @exists_publisher "log" (by decide +kernel)
  have count : publisher.syncAccountMembershipRecordCount "default" = 1 := by
    rw [← length_rowsOf, ← List.length_map, ids]
    rfl
  obtain ⟨published, next, publishes, -⟩ := @publishLocalSyncAccountMembershipLog_spec plainScheme
    "default" profileSyncMembershipLogRootId publisher markedLogCodec plainScheme_lawful
    count.ge (by rw [count]; decide) {}
  have isRecord : "log" ∈ (publisher.syncAccountMembershipRecordsOf "default").map (·.recordId) := by
    rw [ids]
    exact List.mem_singleton_self _
  obtain ⟨record, membership, isLog⟩ := List.mem_map.mp isRecord
  apply not_intact_of_log_record plainScheme_lawful wellStored markedLogCodec_logsAreNoRecords
    publishes membership isLog
  exact always _ _ _ _ _ _ _ plainScheme_lawful wellStored markedLogCodec_logsAreNoRecords publishes
    _ (List.mem_of_getLast? (publicationPoints_getLast? plainScheme_lawful publishes))

/-- The roots of a log with the laptop's enrollment are intact at every point. -/
theorem membership_roots_intact_of_enrollment :
    ∃ publisher published next,
      publisher.syncAccountMembershipRecordCount "default" = 1 ∧
      publishLocalSyncAccountMembershipLog plainScheme markedLogCodec "default"
        profileSyncMembershipLogRootId publisher {} = .ok (some published, next) ∧
      ∀ point ∈ publicationPoints plainScheme "default" profileSyncMembershipLogRootId
          (publisher.syncAccountMembershipRecordsOf "default")
          (markedLogCodec.toBytes published.log) {},
        RootsIntact plainScheme "default" profileSyncMembershipLogRootId
          (markedLogCodec.toBytes published.log) {} point := by
  obtain ⟨publisher, wellStored, ids⟩ :=
    @exists_publisher "epoch-1-enroll-laptop" (by decide +kernel)
  have count : publisher.syncAccountMembershipRecordCount "default" = 1 := by
    rw [← length_rowsOf, ← List.length_map, ids]
    rfl
  obtain ⟨published, next, publishes, -, intact⟩ :=
    @membership_roots_intact_iff plainScheme markedLogCodec "default" publisher {}
      plainScheme_lawful wellStored markedLogCodec_logsAreNoRecords count.ge
      (by rw [count]; decide)
  refine ⟨publisher, published, next, count, publishes, intact.mpr ?_⟩
  intro record membership isLog
  have isId := List.mem_map_of_mem (f := fun row : SyncAccountMembershipRecord => row.recordId) membership
  rw [ids, isLog] at isId
  revert isId
  decide

end Sample

end Slate.ProfileSync
