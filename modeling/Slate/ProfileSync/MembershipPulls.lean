import Slate.ProfileSync.LogPropagation
import Slate.Storage.MembershipScope
import Slate.Storage.PullScope

/-!
# Whose membership a pull changes

A pull is made for one profile. The log and every record in it are checked to be of that
profile; a record that is pulled by itself is applied to the profile that it names.
-/

namespace Slate.ProfileSync

open Slate.Foundation Slate.Storage
open SlateProfileDatabase

inductive ProfileSyncMembershipRecordPullStatus where
  | noPublishedRoot (profile rootId : String)
  | unchanged (profile rootId objectId : String)
  | applied (application : SyncAccountMembershipRecordApplication)
deriving DecidableEq, Repr

def pullAndApplySyncAccountMembershipRecordIfChanged (scheme : SyncObjectScheme)
    (profile rootId : String) (store : ObjectStore) (now : Int) (db : SlateProfileDatabase) :
    Except ProfileSyncReceiveError
      (ProfileSyncMembershipRecordPullStatus × SlateProfileDatabase) := do
  match store.resolveProfileSyncRoot profile rootId with
  | none => pure (.noPublishedRoot profile rootId, db)
  | some objectId =>
    let localRoot ← (db.profileSyncRoot profile rootId).mapError ProfileSyncReceiveError.storage
    if localRoot = some objectId then
      pure (.unchanged profile rootId objectId, db)
    else
      let signedRecord ← (store.getProfileSyncObject scheme profile objectId).mapError
        ProfileSyncReceiveError.broadwebd
      let (application, db) ←
        (db.applySignedSyncAccountMembershipRecordAndSetProfileSyncRoot scheme profile rootId
          objectId signedRecord.bytes now).mapError ProfileSyncReceiveError.storage
      pure (.applied application, db)

variable {scheme : SyncObjectScheme} {logCodec : ObjectCodec ProfileSyncMembershipLog}
  {profile rootId objectId : String} {store : ObjectStore} {now : Int}
  {db next : SlateProfileDatabase}

section Log

theorem exists_of_mem_mapM {ε α β : Type} {convert : α → Except ε β} {items : List α}
    {results : List β} (h : items.mapM convert = .ok results) {result : β}
    (membership : result ∈ results) : ∃ item ∈ items, convert item = .ok result := by
  rw [mapM_eq_ok_iff] at h
  induction h with
  | nil => simp at membership
  | cons first _ inductionHypothesis =>
      rcases List.mem_cons.mp membership with rfl | inRest
      · exact ⟨_, List.mem_cons_self .., first⟩
      · obtain ⟨item, itemMem, converted⟩ := inductionHypothesis inRest
        exact ⟨item, List.mem_cons_of_mem _ itemMem, converted⟩

/-- Both decoders read the same record. -/
theorem record_of_decodeForMembershipLog {signedRecord : List Nat}
    {signedObject : SignedSyncObject} {record logRecord : ProfileSyncMembershipRecord}
    {signerDeviceId : String}
    (decodes : decodeSignedProfileSyncMembershipRecord scheme signedRecord =
      .ok (signedObject, record))
    (listed : decodeSignedMembershipRecordForMembershipLog scheme signedRecord =
      .ok (signerDeviceId, logRecord)) : logRecord = record := by
  obtain ⟨opened, openedBytes, decodes⟩ := bind_eq_ok_iff.mp decodes
  obtain ⟨logOpened, logBytes, listed⟩ := bind_eq_ok_iff.mp listed
  have same : logOpened = opened := by
    rw [membershipRecordError, mapError_eq_ok_iff] at openedBytes
    exact Except.ok.inj (logBytes.symm.trans openedBytes)
  subst same
  simp only [check_then_eq_ok_iff] at decodes
  obtain ⟨-, decodes⟩ := decodes
  obtain ⟨payload, verified, decodes⟩ := bind_eq_ok_iff.mp decodes
  obtain ⟨logPayload, logVerified, listed⟩ := bind_eq_ok_iff.mp listed
  rw [membershipRecordError, mapError_eq_ok_iff] at verified
  obtain rfl := Except.ok.inj (logVerified.symm.trans verified)
  obtain ⟨read, readRecord, decodes⟩ := bind_eq_ok_iff.mp decodes
  obtain ⟨logRead, logReadRecord, listed⟩ := bind_eq_ok_iff.mp listed
  rw [membershipRecordError, mapError_eq_ok_iff] at readRecord
  obtain rfl := Except.ok.inj (logReadRecord.symm.trans readRecord)
  obtain ⟨-, -, decodes⟩ := bind_eq_ok_iff.mp decodes
  cases decodes
  cases listed
  rfl

/-- A record that passed the checks of its entry is of the profile that is pulled. -/
theorem profile_of_fetchMembershipLogRecord {entry : ProfileSyncMembershipLogEntry}
    {signedRecord : List Nat} {signedObject : SignedSyncObject}
    {record : ProfileSyncMembershipRecord}
    (fetched : fetchMembershipLogRecord scheme profile store entry = .ok signedRecord)
    (decodes : decodeSignedProfileSyncMembershipRecord scheme signedRecord =
      .ok (signedObject, record)) : record.profile = profile := by
  obtain ⟨object, -, fetched⟩ := bind_eq_ok_iff.mp fetched
  obtain ⟨_, validated, fetched⟩ := bind_eq_ok_iff.mp fetched
  cases fetched
  obtain ⟨⟨signerDeviceId, logRecord⟩, listed, validated⟩ := bind_eq_ok_iff.mp validated
  rw [mapError_eq_ok_iff] at listed
  simp only [check_eq_ok_iff, not_or, not_not] at validated
  rw [← record_of_decodeForMembershipLog decodes listed]
  exact validated.1

/-- Applying records of one profile and setting a root of it changes only rows of it. -/
theorem onlyMembershipOf_applySignedRecords {signedRecords : List (List Nat)}
    {applications : List SyncAccountMembershipRecordApplication}
    (ofProfile : ∀ signedRecord ∈ signedRecords, ∀ signedObject record,
      decodeSignedProfileSyncMembershipRecord scheme signedRecord = .ok (signedObject, record) →
      record.profile = profile)
    (h : db.applySignedSyncAccountMembershipRecordsAndSetProfileSyncRoot scheme profile rootId
      objectId signedRecords now = .ok (applications, next)) :
    OnlyMembershipOf profile db next := by
  obtain ⟨records, decoded, h⟩ := bind_eq_ok_iff.mp h
  obtain ⟨⟨_, applied⟩, run, h⟩ := bind_eq_ok_iff.mp h
  obtain ⟨⟨_, rooted⟩, rootSet, h⟩ := bind_eq_ok_iff.mp h
  obtain ⟨-, rfl⟩ := ok_pair_inj h
  apply OnlyMembershipOf.trans ?_ (onlyMembershipOf_setProfileSyncRoot rootSet)
  apply onlyMembershipOf_applyRecords ?_ run
  intro record membership
  obtain ⟨signedRecord, ofBatch, converted⟩ := exists_of_mem_mapM decoded membership
  obtain ⟨⟨signedObject, payload⟩, decodes, converted⟩ := bind_eq_ok_iff.mp converted
  cases converted
  exact ofProfile _ ofBatch _ _ decodes

/-- A pulled log changes only rows of the profile it is pulled for. -/
theorem onlyMembershipOf_pullMembershipLog {status : ProfileSyncMembershipLogPullStatus}
    (h : pullAndApplySyncAccountMembershipLogIfChanged scheme logCodec profile rootId store now
      db = .ok (status, next)) : OnlyMembershipOf profile db next := by
  unfold pullAndApplySyncAccountMembershipLogIfChanged at h
  split at h
  · obtain ⟨-, rfl⟩ := ok_pair_inj h
    exact .refl profile db
  · obtain ⟨localRoot, -, h⟩ := bind_eq_ok_iff.mp h
    split at h
    · obtain ⟨-, rfl⟩ := ok_pair_inj h
      exact .refl profile db
    · obtain ⟨logObject, -, h⟩ := bind_eq_ok_iff.mp h
      obtain ⟨log, -, h⟩ := bind_eq_ok_iff.mp h
      obtain ⟨signedRecords, fetched, h⟩ := bind_eq_ok_iff.mp h
      obtain ⟨⟨applications, applied⟩, run, h⟩ := bind_eq_ok_iff.mp h
      obtain ⟨-, rfl⟩ := ok_pair_inj h
      rw [mapError_eq_ok_iff] at run
      apply onlyMembershipOf_applySignedRecords ?_ run
      intro signedRecord membership signedObject record decodes
      obtain ⟨entry, -, fetchedEntry⟩ := exists_of_mem_mapM fetched membership
      exact profile_of_fetchMembershipLogRecord fetchedEntry decodes

end Log

section Record

/-- The record that a pull would apply is of the profile it is pulled for, or was applied
before. -/
def PullsOwnRecord (scheme : SyncObjectScheme) (profile rootId : String) (store : ObjectStore)
    (db : SlateProfileDatabase) : Prop :=
  ∀ objectId object signedObject record,
    store.resolveProfileSyncRoot profile rootId = some objectId →
    db.storedRoot profile rootId ≠ some objectId →
    store.getProfileSyncObject scheme profile objectId = .ok object →
    decodeSignedProfileSyncMembershipRecord scheme object.bytes = .ok (signedObject, record) →
    record.profile = profile ∨ AlreadyApplied ⟨object.bytes, signedObject, record⟩ db

/-- Applying one record and setting the root. -/
theorem applySignedRecord_eq_ok {signedRecord : List Nat}
    {application : SyncAccountMembershipRecordApplication}
    (h : db.applySignedSyncAccountMembershipRecordAndSetProfileSyncRoot scheme profile rootId
      objectId signedRecord now = .ok (application, next)) :
    ∃ signedObject record,
      decodeSignedProfileSyncMembershipRecord scheme signedRecord =
        .ok (signedObject, record) ∧
      ∃ application applied,
        db.applyDecodedSyncAccountMembershipRecord scheme ⟨signedRecord, signedObject, record⟩
          now = .ok (application, applied) ∧
        applied.setProfileSyncRoot profile rootId objectId now = .ok ((), next) := by
  obtain ⟨⟨applications, reached⟩, run, h⟩ := bind_eq_ok_iff.mp h
  have same : reached = next := by
    cases last : applications.getLast? with
    | none =>
        simp only [last] at h
        cases h
    | some found =>
        simp only [last] at h
        exact (ok_pair_inj h).2
  subst same
  obtain ⟨records, decoded, run⟩ := bind_eq_ok_iff.mp run
  obtain ⟨⟨_, applied⟩, steps, run⟩ := bind_eq_ok_iff.mp run
  obtain ⟨⟨_, rooted⟩, rootSet, run⟩ := bind_eq_ok_iff.mp run
  obtain ⟨-, rfl⟩ := ok_pair_inj run
  rw [decodeSignedMembershipRecords, mapM_eq_ok_iff] at decoded
  obtain ⟨_, _, converted, rest, rfl⟩ := List.forall₂_cons_left_iff.mp decoded
  obtain rfl := List.forall₂_nil_left_iff.mp rest
  obtain ⟨⟨signedObject, record⟩, decodes, converted⟩ := bind_eq_ok_iff.mp converted
  cases converted
  obtain ⟨applied, _, _, applies, steps, -⟩ := forEach_cons_eq_ok_iff.mp steps
  obtain ⟨-, rfl⟩ := ok_pair_inj steps
  exact ⟨_, _, decodes, _, _, applies, rootSet⟩

theorem onlyMembershipOf_pullMembershipRecord_iff
    {status : ProfileSyncMembershipRecordPullStatus}
    (h : pullAndApplySyncAccountMembershipRecordIfChanged scheme profile rootId store now db =
      .ok (status, next)) :
    OnlyMembershipOf profile db next ↔ PullsOwnRecord scheme profile rootId store db := by
  unfold pullAndApplySyncAccountMembershipRecordIfChanged at h
  split at h
  next unresolved =>
    obtain ⟨-, rfl⟩ := ok_pair_inj h
    refine iff_of_true (.refl profile db) ?_
    intro objectId _ _ _ resolved
    rw [unresolved] at resolved
    cases resolved
  next objectId resolved =>
    obtain ⟨localRoot, found, h⟩ := bind_eq_ok_iff.mp h
    obtain ⟨-, stored⟩ := profileSyncRoot_eq_ok_iff.mp (mapError_eq_ok_iff.mp found)
    split at h
    next unchanged =>
      obtain ⟨-, rfl⟩ := ok_pair_inj h
      refine iff_of_true (.refl profile db) ?_
      intro other _ _ _ otherResolved different
      obtain rfl := Option.some.inj (resolved.symm.trans otherResolved)
      exact absurd (stored.trans unchanged) different
    next changed =>
      obtain ⟨object, fetched, h⟩ := bind_eq_ok_iff.mp h
      rw [mapError_eq_ok_iff] at fetched
      obtain ⟨⟨application, applied⟩, run, h⟩ := bind_eq_ok_iff.mp h
      obtain ⟨-, rfl⟩ := ok_pair_inj h
      obtain ⟨signedObject, record, decodes, _, afterRecord, applies, rootSet⟩ :=
        applySignedRecord_eq_ok (mapError_eq_ok_iff.mp run)
      have rooted := onlyMembershipOf_setProfileSyncRoot rootSet
      constructor
      · intro only other fetchedObject _ _ otherResolved _ otherFetched opened
        obtain rfl := Option.some.inj (resolved.symm.trans otherResolved)
        obtain rfl := Except.ok.inj (fetched.symm.trans otherFetched)
        obtain ⟨rfl, rfl⟩ := Prod.mk.inj (Except.ok.inj (decodes.symm.trans opened))
        rw [or_iff_not_imp_left]
        intro other
        apply (alreadyApplied_iff_of_onlyMembershipOf only other).mp
        apply (alreadyApplied_iff_of_onlyMembershipOf rooted other).mpr
        rcases applyDecoded_scope applies with ⟨isApplied, rfl⟩ | ⟨-, isApplied, -⟩
        · exact isApplied
        · exact isApplied
      · intro own
        apply OnlyMembershipOf.trans ?_ rooted
        rcases applyDecoded_scope applies with ⟨-, rfl⟩ | ⟨notApplied, -, only⟩
        · exact .refl profile _
        · have different : db.storedRoot profile rootId ≠ some objectId :=
            fun same => changed (stored.symm.trans same)
          rcases own objectId object _ _ resolved different fetched decodes with
            ofProfile | isApplied
          · rwa [ofProfile] at only
          · exact absurd isApplied notApplied

end Record

/-- A membership pull changes only rows of the profile it is made for, except that a record
which is pulled by itself is applied to whatever profile it names. -/
theorem membership_pulls_stay_in_profile_iff (scheme : SyncObjectScheme)
    (logCodec : ObjectCodec ProfileSyncMembershipLog) (profile rootId : String)
    (store : ObjectStore) (now : Int) (db : SlateProfileDatabase) :
    (∀ status next, pullAndApplySyncAccountMembershipRecordIfChanged scheme profile rootId store
        now db = .ok (status, next) →
      (OnlyMembershipOf profile db next ↔ PullsOwnRecord scheme profile rootId store db)) ∧
    ∀ status next, pullAndApplySyncAccountMembershipLogIfChanged scheme logCodec profile rootId
        store now db = .ok (status, next) → OnlyMembershipOf profile db next :=
  ⟨fun _ _ pulled => onlyMembershipOf_pullMembershipRecord_iff pulled,
    fun _ _ pulled => onlyMembershipOf_pullMembershipLog pulled⟩

section Sample

def recordRootId : String := "account/membership/record"

/-- The laptop enrolls itself in a profile, and the record is published under a root of the
default profile. -/
def storeWithRecordOf (profile : String) : ObjectStore where
  objects := [⟨"default", signedRecordBy laptopKey { enrollmentOf laptopKey with profile }⟩]
  roots := [⟨"default", recordRootId, plainScheme.objectName 0⟩]

/-- A record of another profile is pulled for the default profile and bootstraps the other. -/
theorem pulled_record_bootstraps_other_profile :
    ¬ ∀ (scheme : SyncObjectScheme) (profile rootId : String) (store : ObjectStore) (now : Int)
      (db : SlateProfileDatabase) status next,
      pullAndApplySyncAccountMembershipRecordIfChanged scheme profile rootId store now db =
        .ok (status, next) → OnlyMembershipOf profile db next := by
  intro always
  have run : (do
      let pulled ← succeeded (pullAndApplySyncAccountMembershipRecordIfChanged plainScheme
        "default" recordRootId (storeWithRecordOf "work") 20 freshPhone)
      guard (pulled.2.syncDevicePublicKeys.any (·.profile == "work")) : Option Unit).isSome =
        true := by
    decide +kernel
  simp only [Option.isSome_iff_exists, Option.bind_eq_bind, Option.bind_eq_some_iff,
    succeeded_eq_some_iff, Option.guard_eq_some', exists_const] at run
  obtain ⟨⟨status, next⟩, pulled, bootstrapped⟩ := run
  have only := always _ _ _ _ _ _ _ _ pulled
  obtain ⟨key, membership, ofWork⟩ := List.any_eq_true.mp bootstrapped
  have outside : key ∈ next.syncDevicePublicKeys.filter fun row => row.profile != "default" := by
    rw [beq_iff_eq] at ofWork
    simp [membership, ofWork]
  have sameKeys := congrArg SlateProfileDatabase.syncDevicePublicKeys only
  rw [show next.syncDevicePublicKeys.filter (fun row => row.profile != "default") = []
    from sameKeys] at outside
  cases outside

/-- A record of the pulled profile stays in it. -/
theorem pulled_record_of_profile_stays :
    ∃ status next, pullAndApplySyncAccountMembershipRecordIfChanged plainScheme "default"
        recordRootId (storeWithRecordOf "default") 20 freshPhone = .ok (status, next) ∧
      OnlyMembershipOf "default" freshPhone next := by
  have run : (do
      let pulled ← succeeded (pullAndApplySyncAccountMembershipRecordIfChanged plainScheme
        "default" recordRootId (storeWithRecordOf "default") 20 freshPhone)
      let objectId ← (storeWithRecordOf "default").resolveProfileSyncRoot "default" recordRootId
      let object ← succeeded ((storeWithRecordOf "default").getProfileSyncObject plainScheme
        "default" objectId)
      let opened ← succeeded (decodeSignedProfileSyncMembershipRecord plainScheme object.bytes)
      guard (opened.2.profile = "default") : Option Unit).isSome = true := by
    decide +kernel
  simp only [Option.isSome_iff_exists, Option.bind_eq_bind, Option.bind_eq_some_iff,
    succeeded_eq_some_iff, Option.guard_eq_some', exists_const] at run
  obtain ⟨⟨status, next⟩, pulled, objectId, resolved, object, fetched, ⟨signedObject, record⟩,
    opened, ofProfile⟩ := run
  refine ⟨status, next, pulled, ((membership_pulls_stay_in_profile_iff plainScheme plainLogCodec
    "default" recordRootId (storeWithRecordOf "default") 20 freshPhone).1 status next
    pulled).mpr ?_⟩
  intro otherId otherObject otherSigned otherRecord otherResolved _ otherFetched decodes
  obtain rfl := Option.some.inj (resolved.symm.trans otherResolved)
  obtain rfl := Except.ok.inj (fetched.symm.trans otherFetched)
  obtain ⟨-, rfl⟩ := Prod.mk.inj (Except.ok.inj (opened.symm.trans decodes))
  exact .inl ofProfile

end Sample

end Slate.ProfileSync
