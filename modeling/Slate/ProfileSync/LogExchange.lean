import Slate.ProfileSync.MembershipLog
import Slate.Storage.MembershipReplay
import Slate.Storage.Recorded

/-!
# Publishing and pulling a membership log

The log of a database that was written by the code can always be published and always
passes the receiver's checks. A pull is then the replay of the log's records, in the order
of the log, on the receiver's database.
-/

namespace Slate.ProfileSync

open Slate.Foundation Slate.Storage
open SlateProfileDatabase

variable {scheme : SyncObjectScheme} {profile rootId : String} {db : SlateProfileDatabase}

section DecodedLog

/-- The record that a row stores. -/
def decodedRow (scheme : SyncObjectScheme) (row : SyncAccountMembershipRecord) :
    Option DecodedMembershipRecord :=
  match decodeSignedProfileSyncMembershipRecord scheme row.signedRecord with
  | .ok (signedObject, record) => some ⟨row.signedRecord, signedObject, record⟩
  | .error _ => none

/-- The records of a profile in the order of its log. -/
def decodedLog (scheme : SyncObjectScheme) (profile : String) (db : SlateProfileDatabase) :
    List DecodedMembershipRecord :=
  (db.syncAccountMembershipRecordsOf profile).filterMap (decodedRow scheme)

/-- The row was written for the record. -/
def StoresRecord (scheme : SyncObjectScheme) (row : SyncAccountMembershipRecord)
    (decoded : DecodedMembershipRecord) : Prop :=
  decoded.Decodes scheme ∧ decoded.signedRecord ≠ [] ∧
    ∃ createdAt appliedAt, row = decoded.row createdAt appliedAt

theorem decodedRow_of_stores {row : SyncAccountMembershipRecord}
    {decoded : DecodedMembershipRecord} (stores : StoresRecord scheme row decoded) :
    decodedRow scheme row = some decoded := by
  obtain ⟨decodes, -, createdAt, appliedAt, rfl⟩ := stores
  unfold decodedRow
  rw [show decodeSignedProfileSyncMembershipRecord scheme
    (decoded.row createdAt appliedAt).signedRecord = _ from decodes]
  rfl

/-- Rows that each store a record decode to the list of these records. -/
theorem stores_decodedRows {rows : List SyncAccountMembershipRecord}
    (stored : ∀ row ∈ rows, ∃ decoded, StoresRecord scheme row decoded) :
    List.Forall₂ (StoresRecord scheme) rows (rows.filterMap (decodedRow scheme)) := by
  induction rows with
  | nil => exact .nil
  | cons row rest inductionHypothesis =>
      obtain ⟨decoded, stores⟩ := stored row (List.mem_cons_self ..)
      rw [List.filterMap_cons_some (decodedRow_of_stores stores)]
      exact .cons stores (inductionHypothesis fun other membership =>
        stored other (List.mem_cons_of_mem _ membership))

theorem decodeSignedMembershipRecords_of_stores {rows : List SyncAccountMembershipRecord}
    {records : List DecodedMembershipRecord}
    (stores : List.Forall₂ (StoresRecord scheme) rows records) :
    decodeSignedMembershipRecords scheme (rows.map (·.signedRecord)) = .ok records := by
  rw [decodeSignedMembershipRecords, mapM_eq_ok_iff, List.forall₂_map_left_iff]
  refine stores.imp fun row decoded found => ?_
  obtain ⟨decodes, -, createdAt, appliedAt, rfl⟩ := found
  rw [show decodeSignedProfileSyncMembershipRecord scheme
    (decoded.row createdAt appliedAt).signedRecord = _ from decodes]
  rfl

/-- A field of the rows is a field of the records they store. -/
theorem map_eq_of_stores {Field : Type} (ofRow : SyncAccountMembershipRecord → Field)
    (ofRecord : DecodedMembershipRecord → Field)
    (same : ∀ decoded createdAt appliedAt,
      ofRow (DecodedMembershipRecord.row decoded createdAt appliedAt) = ofRecord decoded)
    {rows : List SyncAccountMembershipRecord} {records : List DecodedMembershipRecord}
    (stores : List.Forall₂ (StoresRecord scheme) rows records) :
    rows.map ofRow = records.map ofRecord := by
  induction stores with
  | nil => rfl
  | cons first rest inductionHypothesis =>
      obtain ⟨-, -, createdAt, appliedAt, rfl⟩ := first
      rw [List.map_cons, List.map_cons, inductionHypothesis, same]

theorem mem_rowsOf_iff {row : SyncAccountMembershipRecord} :
    row ∈ db.syncAccountMembershipRecordsOf profile ↔
      row ∈ db.syncAccountMembershipRecords ∧ row.profile = profile := by
  rw [syncAccountMembershipRecordsOf, List.mem_insertionSort, List.mem_filter, beq_iff_eq]

theorem rowsOf_stored (wellStored : WellStored scheme db) :
    ∀ row ∈ db.syncAccountMembershipRecordsOf profile,
      ∃ decoded, StoresRecord scheme row decoded := by
  intro row membership
  obtain ⟨decoded, createdAt, appliedAt, decodes, nonempty, same⟩ :=
    wellStored.rows row (mem_rowsOf_iff.mp membership).1
  exact ⟨decoded, decodes, nonempty, createdAt, appliedAt, same⟩

theorem rowsOf_ids (wellStored : WellStored scheme db) :
    ((db.syncAccountMembershipRecordsOf profile).map (·.recordId)).Nodup := by
  have sorted : (db.syncAccountMembershipRecordsOf profile).Perm
      (db.syncAccountMembershipRecords.filter fun record => record.profile == profile) :=
    List.perm_insertionSort _ _
  rw [(sorted.map _).nodup_iff]
  have keys := Rows.uniqueKeys_filter (fun record => record.profile == profile)
    wellStored.unique
  rw [Rows.UniqueKeys] at keys
  refine List.Nodup.of_map (fun recordId => (profile, recordId)) ?_
  rw [List.map_map]
  have same : (db.syncAccountMembershipRecords.filter fun record => record.profile == profile
      ).map ((fun recordId => (profile, recordId)) ∘ (·.recordId)) =
      (db.syncAccountMembershipRecords.filter fun record => record.profile == profile
        ).map membershipRecordKey := by
    apply List.map_congr_left
    intro row membership
    have ofProfile := (List.mem_filter.mp membership).2
    rw [beq_iff_eq] at ofProfile
    exact Prod.ext ofProfile.symm rfl
  rw [same]
  exact keys

theorem stores_decodedLog (wellStored : WellStored scheme db) :
    List.Forall₂ (StoresRecord scheme) (db.syncAccountMembershipRecordsOf profile)
      (decodedLog scheme profile db) :=
  stores_decodedRows (rowsOf_stored wellStored)

theorem mem_decodedLog {decoded : DecodedMembershipRecord} (wellStored : WellStored scheme db)
    (membership : decoded ∈ decodedLog scheme profile db) :
    ∃ row ∈ db.syncAccountMembershipRecordsOf profile, StoresRecord scheme row decoded := by
  obtain ⟨row, rowMem, found⟩ := List.mem_filterMap.mp membership
  obtain ⟨stored, stores⟩ := rowsOf_stored wellStored row rowMem
  rw [decodedRow_of_stores stores] at found
  obtain rfl := Option.some.inj found
  exact ⟨row, rowMem, stores⟩

/-- The log of a database is a batch of records of the profile. -/
theorem recordBatch_decodedLog (wellStored : WellStored scheme db) :
    RecordBatch scheme profile (decodedLog scheme profile db) := by
  refine ⟨fun decoded membership => ?_, fun decoded membership => ?_,
    fun decoded membership => ?_, ?_⟩
  · obtain ⟨row, -, stores⟩ := mem_decodedLog wellStored membership
    exact stores.1
  · obtain ⟨row, -, stores⟩ := mem_decodedLog wellStored membership
    exact stores.2.1
  · obtain ⟨row, rowMem, -, -, createdAt, appliedAt, rfl⟩ := mem_decodedLog wellStored membership
    exact (mem_rowsOf_iff.mp rowMem).2
  · have sameIds := map_eq_of_stores (·.recordId) (·.record.recordId) (fun _ _ _ => rfl)
      (@stores_decodedLog _ profile _ wellStored)
    rw [← sameIds]
    exact rowsOf_ids wellStored

theorem membershipRecordLe_total (left right : SyncAccountMembershipRecord) :
    membershipRecordLe left right ∨ membershipRecordLe right left := by
  unfold membershipRecordLe
  rcases lt_trichotomy left.membershipEpoch right.membershipEpoch with less | same | greater
  · exact .inl (.inl less)
  · rcases le_total left.recordId right.recordId with le | ge
    · exact .inl (.inr ⟨same, le⟩)
    · exact .inr (.inr ⟨same.symm, ge⟩)
  · exact .inr (.inl greater)

theorem membershipRecordLe_trans {first second third : SyncAccountMembershipRecord}
    (before : membershipRecordLe first second) (after : membershipRecordLe second third) :
    membershipRecordLe first third := by
  unfold membershipRecordLe at before after ⊢
  rcases before with less | ⟨same, le⟩
  · rcases after with less' | ⟨same', -⟩
    · exact .inl (less.trans less')
    · exact .inl (by omega)
  · rcases after with less' | ⟨same', le'⟩
    · exact .inl (by omega)
    · exact .inr ⟨same.trans same', le.trans le'⟩

theorem rowsOf_ordered :
    (db.syncAccountMembershipRecordsOf profile).Pairwise membershipRecordLe := by
  have total : Std.Total membershipRecordLe := ⟨membershipRecordLe_total⟩
  have transitive : IsTrans SyncAccountMembershipRecord membershipRecordLe :=
    ⟨fun _ _ _ => membershipRecordLe_trans⟩
  exact List.pairwise_insertionSort membershipRecordLe _

/-- The log lists the records by their epochs. -/
theorem decodedLog_ordered (wellStored : WellStored scheme db) :
    (decodedLog scheme profile db).Pairwise fun left right =>
      left.record.membershipEpoch ≤ right.record.membershipEpoch := by
  have sameEpochs := map_eq_of_stores (·.membershipEpoch) (·.record.membershipEpoch)
    (fun _ _ _ => rfl) (@stores_decodedLog _ profile _ wellStored)
  have ordered : ((db.syncAccountMembershipRecordsOf profile).map
      (·.membershipEpoch)).Pairwise (· ≤ ·) := by
    rw [List.pairwise_map]
    refine rowsOf_ordered.imp fun below => ?_
    rcases below with less | ⟨same, -⟩
    · exact less.le
    · exact same.le
  rw [sameEpochs, List.pairwise_map] at ordered
  exact ordered

end DecodedLog

section Publish

variable {logCodec : ObjectCodec ProfileSyncMembershipLog} {store next : ObjectStore}

/-- The entry lists the record of the row and names the object that holds its bytes. -/
structure ListsRow (scheme : SyncObjectScheme) (profile : String) (store : ObjectStore)
    (row : SyncAccountMembershipRecord) (entry : ProfileSyncMembershipLogEntry) : Prop where
  recordId : entry.recordId = row.recordId
  rootId : entry.rootId = syncMembershipRecordRootId row.recordId
  epoch : entry.membershipEpoch = row.membershipEpoch
  kind : entry.recordKind = row.recordKind
  deviceId : entry.deviceId = row.deviceId
  signerDeviceId : entry.signerDeviceId = row.signerDeviceId
  named : entry.objectId ≠ ""
  object : store.find scheme profile entry.objectId = some row.signedRecord

/-- A published log: its root names it, and it lists the rows of the database in order. -/
structure LogPublished (scheme : SyncObjectScheme)
    (logCodec : ObjectCodec ProfileSyncMembershipLog) (profile rootId : String)
    (db : SlateProfileDatabase) (published : PublishedProfileSyncMembershipLog)
    (store : ObjectStore) : Prop where
  root : store.resolveProfileSyncRoot profile rootId = some published.objectId
  object : store.find scheme profile published.objectId =
    some (logCodec.toBytes published.log)
  schema : published.log.schemaVersion = profileSyncMembershipLogSchemaVersion
  ofProfile : published.log.profile = profile
  entries : List.Forall₂ (ListsRow scheme profile store)
    (db.syncAccountMembershipRecordsOf profile) published.log.records

theorem publishMembershipLogEntry_spec (lawful : scheme.Lawful)
    (row : SyncAccountMembershipRecord) (store : ObjectStore) :
    ∃ entry next, publishMembershipLogEntry scheme profile row store = .ok (entry, next) ∧
      store.Extends next ∧ ListsRow scheme profile next row entry := by
  cases put : store.putEncryptedObject scheme profile row.signedRecord with
  | mk objectId stored =>
      obtain ⟨grown, -, found, named⟩ := ObjectStore.putEncryptedObject_spec lawful put
      have published : store.putRetainedRoot scheme profile
          (syncMembershipRecordRootId row.recordId) row.signedRecord = .ok (objectId,
            stored.publishRoot profile (syncMembershipRecordRootId row.recordId) objectId) :=
        (ObjectStore.putRetainedRoot_eq_ok_iff lawful).mpr ⟨stored, put, rfl⟩
      refine ⟨⟨row.recordId, syncMembershipRecordRootId row.recordId, objectId,
        row.membershipEpoch, row.recordKind, row.deviceId, row.signerDeviceId⟩,
        stored.publishRoot profile (syncMembershipRecordRootId row.recordId) objectId, ?_,
        grown.trans (ObjectStore.extends_publishRoot _),
        ⟨rfl, rfl, rfl, rfl, rfl, rfl, named, found⟩⟩
      unfold publishMembershipLogEntry publishSignedSyncAccountMembershipRecord
      simp only [published]
      rfl

theorem ListsRow.extends (lawful : scheme.Lawful) {row : SyncAccountMembershipRecord}
    {entry : ProfileSyncMembershipLogEntry} (lists : ListsRow scheme profile store row entry)
    (grown : store.Extends next) : ListsRow scheme profile next row entry :=
  { lists with object := grown.find lawful lists.object }

/-- Every row can be published and is listed. -/
theorem publishMembershipLogEntries_spec (lawful : scheme.Lawful)
    (rows : List SyncAccountMembershipRecord) (store : ObjectStore) :
    ∃ entries next,
      forEach (publishMembershipLogEntry scheme profile) rows store = .ok (entries, next) ∧
        store.Extends next ∧ List.Forall₂ (ListsRow scheme profile next) rows entries := by
  induction rows generalizing store with
  | nil => exact ⟨[], store, rfl, .refl store, .nil⟩
  | cons row rest inductionHypothesis =>
      obtain ⟨entry, middle, first, grown, lists⟩ :=
        @publishMembershipLogEntry_spec _ profile lawful row store
      obtain ⟨entries, next, tail, grownRest, listsRest⟩ := inductionHypothesis middle
      exact ⟨entry :: entries, next, forEach_cons_eq_ok_iff.mpr ⟨_, _, _, first, tail, rfl⟩,
        grown.trans grownRest, .cons (lists.extends lawful grownRest) listsRest⟩

theorem length_rowsOf :
    (db.syncAccountMembershipRecordsOf profile).length =
      db.syncAccountMembershipRecordCount profile := by
  rw [syncAccountMembershipRecordsOf, List.length_insertionSort,
    syncAccountMembershipRecordCount]

theorem isEmpty_forRecordCount (recordCount : Nat) :
    (ProfileSyncMembershipLogPublicationPlan.forRecordCount profile rootId recordCount).isEmpty =
      decide (recordCount = 0) := by
  unfold ProfileSyncMembershipLogPublicationPlan.isEmpty
    ProfileSyncMembershipLogPublicationPlan.forRecordCount
  by_cases empty : recordCount = 0
  · simp [empty]
  · by_cases large : profileSyncMembershipLogMaxRecords < recordCount
    · simp [empty, large]
    · simp [empty, large]

theorem requiresCompaction_forRecordCount (recordCount : Nat) :
    (ProfileSyncMembershipLogPublicationPlan.forRecordCount profile rootId
      recordCount).requiresCompaction =
        decide (profileSyncMembershipLogMaxRecords < recordCount) := by
  unfold ProfileSyncMembershipLogPublicationPlan.requiresCompaction
    ProfileSyncMembershipLogPublicationPlan.forRecordCount
  by_cases empty : recordCount = 0
  · simp [empty]
  · by_cases large : profileSyncMembershipLogMaxRecords < recordCount
    · simp [empty, large]
    · simp [empty, large]

/-- A log of one to 512 records is always published. -/
theorem publishLocalSyncAccountMembershipLog_spec (lawful : scheme.Lawful)
    (some_record : 1 ≤ db.syncAccountMembershipRecordCount profile)
    (few : db.syncAccountMembershipRecordCount profile ≤ profileSyncMembershipLogMaxRecords)
    (store : ObjectStore) :
    ∃ published next,
      publishLocalSyncAccountMembershipLog scheme logCodec profile rootId db store =
        .ok (some published, next) ∧ store.Extends next ∧
      LogPublished scheme logCodec profile rootId db published next := by
  obtain ⟨entries, middle, listed, grown, lists⟩ := @publishMembershipLogEntries_spec _ profile
    lawful (db.syncAccountMembershipRecordsOf profile) store
  let log : ProfileSyncMembershipLog :=
    { profile, schemaVersion := profileSyncMembershipLogSchemaVersion, records := entries }
  cases put : middle.putEncryptedObject scheme profile (logCodec.toBytes log) with
  | mk objectId stored =>
      obtain ⟨grownLog, -, found, -⟩ := ObjectStore.putEncryptedObject_spec lawful put
      have publishedRoot : middle.putRetainedRoot scheme profile rootId
          (logCodec.toBytes log) = .ok (objectId, stored.publishRoot profile rootId objectId) :=
        (ObjectStore.putRetainedRoot_eq_ok_iff lawful).mpr ⟨stored, put, rfl⟩
      have nonempty : db.syncAccountMembershipRecordCount profile ≠ 0 := by omega
      refine ⟨⟨profile, rootId, objectId, log⟩, stored.publishRoot profile rootId objectId, ?_,
        grown.trans (grownLog.trans (ObjectStore.extends_publishRoot _)),
        ⟨ObjectStore.resolveProfileSyncRoot_publishRoot rootId, found, rfl, rfl, ?_⟩⟩
      · unfold publishLocalSyncAccountMembershipLog planLocalSyncAccountMembershipLog
        simp only [length_rowsOf, isEmpty_forRecordCount, requiresCompaction_forRecordCount,
          nonempty, not_lt.mpr few, decide_false, Bool.false_eq_true, if_false, listed, ok_bind]
        rw [publishedRoot]
        rfl
      · exact lists.imp fun row entry listsRow => listsRow.extends lawful grownLog

/-- Only logs of one to 512 records are published. -/
theorem count_of_published {published : PublishedProfileSyncMembershipLog}
    (publishes : publishLocalSyncAccountMembershipLog scheme logCodec profile rootId db store =
      .ok (some published, next)) :
    1 ≤ db.syncAccountMembershipRecordCount profile ∧
      db.syncAccountMembershipRecordCount profile ≤ profileSyncMembershipLogMaxRecords := by
  unfold publishLocalSyncAccountMembershipLog planLocalSyncAccountMembershipLog at publishes
  by_cases empty : db.syncAccountMembershipRecordCount profile = 0
  · simp only [isEmpty_forRecordCount, empty, decide_true, if_true] at publishes
    cases publishes
  · by_cases large : profileSyncMembershipLogMaxRecords <
        db.syncAccountMembershipRecordCount profile
    · simp only [isEmpty_forRecordCount, empty, decide_false, Bool.false_eq_true, if_false,
        requiresCompaction_forRecordCount, large, decide_true, if_true] at publishes
      cases publishes
    · omega

theorem LogPublished.of_publish (lawful : scheme.Lawful)
    {published : PublishedProfileSyncMembershipLog}
    (publishes : publishLocalSyncAccountMembershipLog scheme logCodec profile rootId db store =
      .ok (some published, next)) :
    LogPublished scheme logCodec profile rootId db published next := by
  obtain ⟨some_record, few⟩ := count_of_published publishes
  obtain ⟨expected, expectedStore, found, -, log⟩ :=
    @publishLocalSyncAccountMembershipLog_spec _ profile rootId _ logCodec lawful some_record few
      store
  obtain ⟨same, rfl⟩ := ok_pair_inj (found.symm.trans publishes)
  obtain rfl := Option.some.inj same
  exact log

end Publish

section Checks

variable {logCodec : ObjectCodec ProfileSyncMembershipLog} {store : ObjectStore}

/-- An entry that lists a stored record passes the checks of a log entry. -/
theorem validateMembershipLogEntry_of_lists {row : SyncAccountMembershipRecord}
    {entry : ProfileSyncMembershipLogEntry} {decoded : DecodedMembershipRecord}
    (stores : StoresRecord scheme row decoded)
    (lists : ListsRow scheme profile store row entry) :
    validateMembershipLogEntry entry = .ok () := by
  obtain ⟨decodes, -, createdAt, appliedAt, rfl⟩ := stores
  have checked := decodes.checked
  have valid := validRecord_of_validate checked.valid
  obtain ⟨recordId, rootId, epoch, kind, deviceId, signerDeviceId, named, -⟩ := lists
  have nonempty : entry.recordId ≠ "" := by
    rw [recordId]
    intro empty
    have found : isValidSyncIdentifier "" := empty ▸ valid.recordId
    exact absurd found (by decide)
  unfold validateMembershipLogEntry
  rw [check_then_eq_ok_iff, check_then_eq_ok_iff, check_then_eq_ok_iff, check_then_eq_ok_iff,
    check_then_eq_ok_iff, check_then_eq_ok_iff, check_then_eq_ok_iff, check_eq_ok_iff]
  refine ⟨nonempty, ?_, ?_, named, ?_, ?_, ?_, ?_⟩
  · rw [recordId]
    simpa [isValidMembershipLogIdentifier, DecodedMembershipRecord.row] using valid.recordId
  · rw [rootId, recordId]
    exact not_not.mpr rfl
  · rw [epoch]
    exact not_lt.mpr valid.epoch
  · rw [kind]
    simpa [isSupportedMembershipLogRecordKind, DecodedMembershipRecord.row] using valid.kind
  · rw [deviceId]
    simpa [isValidMembershipLogIdentifier, DecodedMembershipRecord.row] using valid.deviceId
  · rw [signerDeviceId]
    simpa [isValidMembershipLogIdentifier, DecodedMembershipRecord.row] using checked.signer

theorem validateMembershipLogEntryObject_of_lists {row : SyncAccountMembershipRecord}
    {entry : ProfileSyncMembershipLogEntry} {decoded : DecodedMembershipRecord}
    (stores : StoresRecord scheme row decoded) (ofProfile : row.profile = profile)
    (lists : ListsRow scheme profile store row entry) :
    validateMembershipLogEntryObject scheme profile entry row.signedRecord = .ok () := by
  obtain ⟨decodes, -, createdAt, appliedAt, rfl⟩ := stores
  have decoding : decodeSignedMembershipRecordForMembershipLog scheme decoded.signedRecord =
      .ok (decoded.signedObject.deviceId, decoded.record) := by
    obtain ⟨object, parsed, h⟩ := bind_eq_ok_iff.mp decodes
    rw [check_then_eq_ok_iff] at h
    obtain ⟨-, h⟩ := h
    obtain ⟨payload, verified, h⟩ := bind_eq_ok_iff.mp h
    obtain ⟨record, read, h⟩ := bind_eq_ok_iff.mp h
    obtain ⟨_, -, h⟩ := bind_eq_ok_iff.mp h
    obtain ⟨rfl, rfl⟩ := ok_pair_inj h
    unfold decodeSignedMembershipRecordForMembershipLog
    rw [mapError_eq_ok_iff.mp parsed, ok_bind, mapError_eq_ok_iff.mp verified, ok_bind,
      mapError_eq_ok_iff.mp read]
    rfl
  obtain ⟨recordId, rootId, epoch, kind, deviceId, signerDeviceId, -, -⟩ := lists
  unfold validateMembershipLogEntryObject
  change ((decodeSignedMembershipRecordForMembershipLog scheme decoded.signedRecord).mapError
    ProfileSyncReceiveError.syncObject >>= _) = _
  rw [decoding, mapError_ok, ok_bind, check_eq_ok_iff]
  simp [recordId, rootId, epoch, kind, deviceId, signerDeviceId, DecodedMembershipRecord.row,
    ← ofProfile]

/-- The loop accepts entries that are valid, have new ids and come in order. -/
theorem validateMembershipLogEntries_eq_ok {entries : List ProfileSyncMembershipLogEntry}
    {seen : List String} {previous : Option (Int × String)}
    (valid : ∀ entry ∈ entries, validateMembershipLogEntry entry = .ok ())
    (distinct : (entries.map (·.recordId)).Nodup)
    (unseen : ∀ entry ∈ entries, entry.recordId ∉ seen)
    (ordered : entries.Pairwise fun left right =>
      membershipLogKeyLt (right.membershipEpoch, right.recordId)
        (left.membershipEpoch, left.recordId) = false)
    (above : ∀ entry ∈ entries,
      previous.any (membershipLogKeyLt (entry.membershipEpoch, entry.recordId)) = false) :
    validateMembershipLogEntries entries seen previous = .ok () := by
  induction entries generalizing seen previous with
  | nil => rfl
  | cons entry rest inductionHypothesis =>
      obtain ⟨fresh, distinctRest⟩ := List.nodup_cons.mp distinct
      obtain ⟨below, orderedRest⟩ := List.pairwise_cons.mp ordered
      have unseenRest : ∀ other ∈ rest, other.recordId ∉ entry.recordId :: seen := by
        intro other membership
        rw [List.mem_cons, not_or]
        refine ⟨fun same => ?_, unseen other (List.mem_cons_of_mem _ membership)⟩
        exact fresh (List.mem_map.mpr ⟨other, membership, same⟩)
      have tail : validateMembershipLogEntries rest (entry.recordId :: seen)
          (some (entry.membershipEpoch, entry.recordId)) = .ok () :=
        inductionHypothesis
          (fun other membership => valid other (List.mem_cons_of_mem _ membership))
          distinctRest unseenRest orderedRest below
      unfold validateMembershipLogEntries
      rw [valid entry (List.mem_cons_self ..), ok_bind, check_then_eq_ok_iff]
      refine ⟨unseen entry (List.mem_cons_self ..), ?_⟩
      rw [check_then_eq_ok_iff]
      exact ⟨by simp [above entry (List.mem_cons_self ..)], tail⟩

/-- The codec of the log reads back what it wrote. -/
def ReadsBack (logCodec : ObjectCodec ProfileSyncMembershipLog) : Prop :=
  ∀ log, logCodec.fromBytes (logCodec.toBytes log) = .ok log

variable {published : PublishedProfileSyncMembershipLog}

/-- The keys of the rows of a log. -/
theorem membershipLogKeyLt_eq_false {left right : SyncAccountMembershipRecord}
    (below : membershipRecordLe left right) :
    membershipLogKeyLt (right.membershipEpoch, right.recordId)
      (left.membershipEpoch, left.recordId) = false := by
  unfold membershipLogKeyLt
  rcases below with less | ⟨same, le⟩
  · simp [less.le, less.ne']
  · rw [same]
    simp only [lt_self_iff_false, decide_false, Bool.false_or, decide_true, Bool.true_and,
      decide_eq_false_iff_not]
    exact not_lt.mpr le

theorem exists_row_of_lists {rows : List SyncAccountMembershipRecord}
    {entries : List ProfileSyncMembershipLogEntry}
    (lists : List.Forall₂ (ListsRow scheme profile store) rows entries)
    {entry : ProfileSyncMembershipLogEntry} (membership : entry ∈ entries) :
    ∃ row ∈ rows, ListsRow scheme profile store row entry := by
  induction lists with
  | nil => cases membership
  | cons first rest inductionHypothesis =>
      rcases List.mem_cons.mp membership with rfl | later
      · exact ⟨_, List.mem_cons_self .., first⟩
      · obtain ⟨row, rowMem, listsRow⟩ := inductionHypothesis later
        exact ⟨row, List.mem_cons_of_mem _ rowMem, listsRow⟩

theorem keys_of_lists {rows : List SyncAccountMembershipRecord}
    {entries : List ProfileSyncMembershipLogEntry}
    (lists : List.Forall₂ (ListsRow scheme profile store) rows entries) :
    entries.map (fun entry => (entry.membershipEpoch, entry.recordId)) =
      rows.map (fun row => (row.membershipEpoch, row.recordId)) := by
  induction lists with
  | nil => rfl
  | cons first rest inductionHypothesis =>
      rw [List.map_cons, List.map_cons, inductionHypothesis, first.epoch, first.recordId]

/-- The object of an entry is fetched and matches the entry. -/
theorem fetchMembershipLogRecord_of_lists {row : SyncAccountMembershipRecord}
    {entry : ProfileSyncMembershipLogEntry} {decoded : DecodedMembershipRecord}
    (stores : StoresRecord scheme row decoded) (ofProfile : row.profile = profile)
    (lists : ListsRow scheme profile store row entry) :
    fetchMembershipLogRecord scheme profile store entry = .ok row.signedRecord := by
  have fetched : store.getProfileSyncObject scheme profile entry.objectId =
      .ok ⟨entry.objectId, row.signedRecord⟩ :=
    ObjectStore.getProfileSyncObject_eq_ok_iff.mpr ⟨rfl, lists.object⟩
  unfold fetchMembershipLogRecord
  rw [fetched, mapError_ok, ok_bind,
    validateMembershipLogEntryObject_of_lists stores ofProfile lists]
  rfl

/-- A published log passes the receiver's checks. -/
theorem LogPublished.decodes (wellStored : WellStored scheme db) (readsBack : ReadsBack logCodec)
    (few : db.syncAccountMembershipRecordCount profile ≤ profileSyncMembershipLogMaxRecords)
    (log : LogPublished scheme logCodec profile rootId db published store) :
    decodeProfileSyncMembershipLog logCodec (logCodec.toBytes published.log) profile =
      .ok published.log := by
  have sameKeys := keys_of_lists log.entries
  have length : published.log.records.length =
      (db.syncAccountMembershipRecordsOf profile).length := log.entries.length_eq.symm
  have checked : validateMembershipLogEntries published.log.records [] none = .ok () := by
    apply validateMembershipLogEntries_eq_ok
    · intro entry membership
      obtain ⟨row, rowMem, lists⟩ := exists_row_of_lists log.entries membership
      obtain ⟨decoded, stores⟩ := rowsOf_stored wellStored row rowMem
      exact validateMembershipLogEntry_of_lists stores lists
    · have ids := congrArg (List.map Prod.snd) sameKeys
      simp only [List.map_map, Function.comp_def] at ids
      rw [ids]
      exact rowsOf_ids wellStored
    · simp
    · have ordered : ((db.syncAccountMembershipRecordsOf profile).map (fun row =>
          (row.membershipEpoch, row.recordId))).Pairwise fun left right =>
            membershipLogKeyLt right left = false := by
        rw [List.pairwise_map]
        exact rowsOf_ordered.imp membershipLogKeyLt_eq_false
      rw [← sameKeys, List.pairwise_map] at ordered
      exact ordered
    · simp
  unfold decodeProfileSyncMembershipLog validateProfileSyncMembershipLog
  rw [readsBack published.log, mapError_ok, ok_bind]
  have small : ¬profileSyncMembershipLogMaxRecords < published.log.records.length := by
    rw [length, length_rowsOf]
    omega
  simp only [log.schema, log.ofProfile, ne_eq, not_true_eq_false, if_false, small, checked,
    ok_bind]
  rfl

/-- The record objects of a published log are fetched and match their entries. -/
theorem LogPublished.fetches (wellStored : WellStored scheme db)
    (log : LogPublished scheme logCodec profile rootId db published store) :
    published.log.records.mapM (fetchMembershipLogRecord scheme profile store) =
      .ok ((db.syncAccountMembershipRecordsOf profile).map (·.signedRecord)) := by
  rw [mapM_eq_ok_iff, List.forall₂_map_right_iff]
  have listed := (List.forall₂_and_left _ _).mpr
    ⟨fun row (membership : row ∈ db.syncAccountMembershipRecordsOf profile) => membership,
      log.entries⟩
  refine (listed.imp fun row entry found => ?_).flip
  obtain ⟨membership, lists⟩ := found
  obtain ⟨decoded, stores⟩ := rowsOf_stored wellStored row membership
  exact fetchMembershipLogRecord_of_lists stores (mem_rowsOf_iff.mp membership).2 lists

/-- Every entry of a published log names an object that matches it. -/
theorem LogPublished.objects (wellStored : WellStored scheme db)
    (log : LogPublished scheme logCodec profile rootId db published store)
    {entry : ProfileSyncMembershipLogEntry} (membership : entry ∈ published.log.records) :
    ∃ signedRecord, store.find scheme profile entry.objectId = some signedRecord ∧
      validateMembershipLogEntryObject scheme profile entry signedRecord = .ok () := by
  obtain ⟨row, rowMem, lists⟩ := exists_row_of_lists log.entries membership
  obtain ⟨decoded, stores⟩ := rowsOf_stored wellStored row rowMem
  exact ⟨row.signedRecord, lists.object,
    validateMembershipLogEntryObject_of_lists stores (mem_rowsOf_iff.mp rowMem).2 lists⟩

end Checks

section Pull

variable {logCodec : ObjectCodec ProfileSyncMembershipLog} {store : ObjectStore}
  {published : PublishedProfileSyncMembershipLog} {now : Int}
  {receiver next : SlateProfileDatabase}
  {applications : List SyncAccountMembershipRecordApplication}

/-- A pull of a published log that the receiver has not recorded yet replays its records. -/
theorem pull_published_log_iff (wellStored : WellStored scheme db)
    (readsBack : ReadsBack logCodec)
    (few : db.syncAccountMembershipRecordCount profile ≤ profileSyncMembershipLogMaxRecords)
    (log : LogPublished scheme logCodec profile rootId db published store)
    (named : rootId ≠ "")
    (unpulled : receiver.storedRoot profile rootId ≠ some published.objectId)
    {pulledLog : ProfileSyncMembershipLog} :
    pullAndApplySyncAccountMembershipLogIfChanged scheme logCodec profile rootId store now
        receiver = .ok (.applied pulledLog applications, next) ↔
      pulledLog = published.log ∧ ∃ replayed, forEach (fun decoded =>
        applyDecodedSyncAccountMembershipRecord scheme decoded now)
          (decodedLog scheme profile db) receiver = .ok (applications, replayed) ∧
        replayed.setProfileSyncRoot profile rootId published.objectId now = .ok ((), next) := by
  have fetched : store.getProfileSyncObject scheme profile published.objectId =
      .ok ⟨published.objectId, logCodec.toBytes published.log⟩ :=
    ObjectStore.getProfileSyncObject_eq_ok_iff.mpr ⟨rfl, log.object⟩
  have rootOf : receiver.profileSyncRoot profile rootId =
      .ok (receiver.storedRoot profile rootId) := profileSyncRoot_eq_ok_iff.mpr ⟨named, rfl⟩
  unfold pullAndApplySyncAccountMembershipLogIfChanged
    applySignedSyncAccountMembershipRecordsAndSetProfileSyncRoot
  rw [log.root]
  simp only [rootOf, mapError_ok, ok_bind, if_neg unpulled, fetched,
    log.decodes wellStored readsBack few, log.fetches wellStored,
    decodeSignedMembershipRecords_of_stores (stores_decodedLog wellStored)]
  rw [bind_eq_ok_iff]
  constructor
  · rintro ⟨⟨found, reached⟩, run, h⟩
    obtain ⟨same, rfl⟩ := ok_pair_inj h
    obtain ⟨⟨foundApplications, replayed⟩, replay, h⟩ :=
      bind_eq_ok_iff.mp (mapError_eq_ok_iff.mp run)
    obtain ⟨⟨_, rooted⟩, rootSet, h⟩ := bind_eq_ok_iff.mp h
    obtain ⟨rfl, rfl⟩ := ok_pair_inj h
    obtain ⟨rfl, rfl⟩ := ProfileSyncMembershipLogPullStatus.applied.inj same
    exact ⟨rfl, replayed, replay, rootSet⟩
  · rintro ⟨rfl, replayed, run, rootSet⟩
    refine ⟨(applications, next), ?_, rfl⟩
    rw [mapError_eq_ok_iff, bind_eq_ok_iff]
    refine ⟨(applications, replayed), run, ?_⟩
    rw [bind_eq_ok_iff]
    exact ⟨((), next), rootSet, rfl⟩

/-- A log whose object is recorded is not applied again. -/
theorem unpulled_of_applied {pulledLog : ProfileSyncMembershipLog}
    (log : LogPublished scheme logCodec profile rootId db published store)
    (pulled : pullAndApplySyncAccountMembershipLogIfChanged scheme logCodec profile rootId store
      now receiver = .ok (.applied pulledLog applications, next)) :
    rootId ≠ "" ∧ receiver.storedRoot profile rootId ≠ some published.objectId := by
  unfold pullAndApplySyncAccountMembershipLogIfChanged at pulled
  rw [log.root] at pulled
  obtain ⟨localRoot, found, pulled⟩ := bind_eq_ok_iff.mp pulled
  obtain ⟨named, stored⟩ := profileSyncRoot_eq_ok_iff.mp (mapError_eq_ok_iff.mp found)
  refine ⟨named, fun recorded => ?_⟩
  rw [if_pos (stored.symm.trans recorded)] at pulled
  cases pulled

end Pull

end Slate.ProfileSync
