import Slate.ProfileSync.LogExchange
import Slate.Storage.PlainScheme

/-!
# How membership logs propagate

A log lists records by epoch and record id, while each record is authorized by what the
records before it left. A fresh receiver therefore ends up with the publisher's members
exactly if the order of the log is one in which the records authorize each other. A later
log lists the known records again, and the receiver authorizes these again, by the roster
it has by then.
-/

namespace Slate.ProfileSync

open Slate.Foundation Slate.Storage
open SlateProfileDatabase

variable {scheme : SyncObjectScheme} {logCodec : ObjectCodec ProfileSyncMembershipLog}
  {profile rootId : String}

section Fresh

/-- A receiver that knows nothing of the profile and never recorded the log's root. -/
structure FreshReceiver (scheme : SyncObjectScheme) (profile rootId : String)
    (receiver : SlateProfileDatabase) : Prop where
  empty : EmptyProfile profile receiver
  wellStored : WellStored scheme receiver
  unpulled : receiver.storedRoot profile rootId = none

/-- The log is published, passes the receiver's checks, and its pull leaves the receiver
with the members of the publisher. -/
def Propagates (scheme : SyncObjectScheme) (logCodec : ObjectCodec ProfileSyncMembershipLog)
    (profile rootId : String) (publisher : SlateProfileDatabase) (store : ObjectStore)
    (receiver : SlateProfileDatabase) (now : Int) : Prop :=
  ∃ published next,
    publishLocalSyncAccountMembershipLog scheme logCodec profile rootId publisher store =
      .ok (some published, next) ∧
    decodeProfileSyncMembershipLog logCodec (logCodec.toBytes published.log) profile =
      .ok published.log ∧
    (∀ entry ∈ published.log.records, ∃ signedRecord,
      next.find scheme profile entry.objectId = some signedRecord ∧
      validateMembershipLogEntryObject scheme profile entry signedRecord = .ok ()) ∧
    ∃ log applications received,
      pullAndApplySyncAccountMembershipLogIfChanged scheme logCodec profile rootId next now
        receiver = .ok (.applied log applications, received) ∧
      (received.roster profile).members = (publisher.roster profile).members

theorem roster_setProfileSyncRoot {db next : SlateProfileDatabase} {objectId : String}
    {now : Int} (rooted : db.setProfileSyncRoot profile rootId objectId now = .ok ((), next))
    (other : String) : next.roster other = db.roster other := by
  unfold setProfileSyncRoot at rooted
  split at rooted
  · cases rooted
  · cases rooted
    rfl

section Publisher

variable {publisher receiver : SlateProfileDatabase} {store : ObjectStore} {now : Int}

/-- The log of a publisher whose records are all applied lists what was applied. -/
theorem mem_decodedLog_iff {order : List DecodedMembershipRecord}
    (wellStored : WellStored scheme publisher)
    (recordOrder : RecordOrder scheme profile order publisher)
    (applied : ∀ row ∈ publisher.syncAccountMembershipRecords, row.profile = profile →
      row.appliedAt.isSome) (decoded : DecodedMembershipRecord) :
    decoded ∈ decodedLog scheme profile publisher ↔ decoded ∈ order := by
  constructor
  · intro membership
    obtain ⟨row, rowMem, stores⟩ := mem_decodedLog wellStored membership
    obtain ⟨stored, ofProfile⟩ := mem_rowsOf_iff.mp rowMem
    have isApplied := applied row stored ofProfile
    obtain ⟨decodes, -, createdAt, appliedAt, rfl⟩ := stores
    refine (recordOrder.mem_iff decoded decodes).mpr ⟨ofProfile, _, ?_, rfl, isApplied⟩
    exact (storedRecord_eq_some_iff wellStored).mpr ⟨stored, rfl, rfl⟩
  · intro membership
    have decodes := recordOrder.decodes decoded membership
    obtain ⟨ofProfile, row, stored, sameBytes, -⟩ :=
      (recordOrder.mem_iff decoded decodes).mp membership
    obtain ⟨rowMem, rowProfile, -⟩ := (storedRecord_eq_some_iff wellStored).mp stored
    obtain ⟨other, createdAt, appliedAt, otherDecodes, nonempty, same⟩ :=
      wellStored.rows row rowMem
    obtain ⟨createdAt', appliedAt', rowEq⟩ :=
      exists_row_of_bytes wellStored decodes rowMem sameBytes
    have bytes : decoded.signedRecord ≠ [] := by
      rw [← sameBytes, same]
      exact nonempty
    exact List.mem_filterMap.mpr ⟨row, mem_rowsOf_iff.mpr ⟨rowMem, rowProfile.trans ofProfile⟩,
      decodedRow_of_stores ⟨decodes, bytes, createdAt', appliedAt', rowEq⟩⟩

/-- Where keys are only written by applying records, the log leaves the publisher's roster
and every record of it is admitted, whatever the order in which records were applied. -/
theorem decodedLog_leaves_roster {start : SlateProfileDatabase}
    (life : MembershipLife scheme (KeepsRoster profile) start publisher)
    (wellStored : WellStored scheme start) (empty : EmptyProfile profile start)
    (applied : ∀ row ∈ publisher.syncAccountMembershipRecords, row.profile = profile →
      row.appliedAt.isSome) :
    Roster.unknown.AdmitsAll (decodedLog scheme profile publisher) ∧
      Roster.unknown.afterAll (decodedLog scheme profile publisher) =
        publisher.roster profile := by
  obtain ⟨order, recordOrder⟩ := life.recordOrder wellStored empty
  have stored := life.wellStored wellStored
  have distinct : (decodedLog scheme profile publisher).Nodup :=
    List.Nodup.of_map _ (recordBatch_decodedLog stored).ids
  have same := recordOrder.itemsOf_eq (mem_decodedLog_iff stored recordOrder applied) distinct
    (decodedLog_ordered stored)
  constructor
  · exact (allAdmitted_congr same _).mpr recordOrder.admitted
  · rw [recordOrder.roster]
    exact foldSlots_congr same _

/-- The pull of a log by a fresh receiver is the replay of its records. -/
theorem pull_fresh_iff (lawful : scheme.Lawful) (readsBack : ReadsBack logCodec)
    (wellStored : WellStored scheme publisher)
    (some_record : 1 ≤ publisher.syncAccountMembershipRecordCount profile)
    (few : publisher.syncAccountMembershipRecordCount profile ≤
      profileSyncMembershipLogMaxRecords)
    (named : rootId ≠ "") (fresh : FreshReceiver scheme profile rootId receiver) :
    Propagates scheme logCodec profile rootId publisher store receiver now ↔
      Roster.Resumes scheme [] (decodedLog scheme profile publisher) Roster.unknown ∧
        (Roster.unknown.afterAll (decodedLog scheme profile publisher)).members =
          (publisher.roster profile).members := by
  obtain ⟨published, next, publishes, -, log⟩ :=
    @publishLocalSyncAccountMembershipLog_spec _ profile rootId _ logCodec lawful some_record few
      store
  have unpulled : receiver.storedRoot profile rootId ≠ some published.objectId := by
    rw [fresh.unpulled]
    exact Option.some_ne_none _ ∘ Eq.symm
  have known : receiver.roster profile = Roster.unknown :=
    (EmptyProfile.recordOrder fresh.empty : RecordOrder scheme profile [] receiver).roster
  have batch := @recordBatch_decodedLog _ profile _ wellStored
  have untaken : ∀ decoded ∈ decodedLog scheme profile publisher, decoded ∉ [] →
      Untaken decoded receiver := by
    intro decoded membership _ row stored
    obtain ⟨rowMem, ofProfile, -⟩ := (storedRecord_eq_some_iff fresh.wellStored).mp stored
    exact absurd (ofProfile.trans (batch.ofProfile decoded membership))
      (fresh.empty.records row rowMem)
  have replay := @forEach_applyDecoded_iff _ receiver profile now [] _ fresh.wellStored batch
    (fun _ _ isKnown => absurd isKnown List.not_mem_nil) untaken
  rw [known] at replay
  have effect : ∀ {applications replayed}, forEach (fun decoded =>
      applyDecodedSyncAccountMembershipRecord scheme decoded now)
        (decodedLog scheme profile publisher) receiver = .ok (applications, replayed) →
      replayed.roster profile =
        Roster.unknown.afterAll (decodedLog scheme profile publisher) := by
    intro applications replayed run
    obtain ⟨-, left⟩ := forEach_applyDecoded_effect fresh.wellStored batch
      (fun _ _ isKnown => absurd isKnown List.not_mem_nil) untaken run
    rw [known, Roster.newRecords_nil] at left
    exact left
  constructor
  · rintro ⟨published', next', publishes', -, -, log', applications, received, pulled, members⟩
    obtain ⟨same, rfl⟩ := ok_pair_inj (publishes.symm.trans publishes')
    obtain rfl := Option.some.inj same
    obtain ⟨-, replayed, run, rooted⟩ :=
      (pull_published_log_iff wellStored readsBack few log named unpulled).mp pulled
    refine ⟨replay.mp ⟨applications, replayed, run⟩, ?_⟩
    rw [← effect run, ← roster_setProfileSyncRoot rooted]
    exact members
  · rintro ⟨resumes, members⟩
    obtain ⟨applications, replayed, run⟩ := replay.mpr resumes
    have rooted : replayed.setProfileSyncRoot profile rootId published.objectId now =
        .ok ((), _) := if_neg named
    refine ⟨published, next, publishes, log.decodes wellStored readsBack few,
      fun entry membership => log.objects wellStored membership, published.log, applications, _,
      (pull_published_log_iff wellStored readsBack few log named unpulled).mpr
        ⟨rfl, replayed, run, rooted⟩, ?_⟩
    rw [roster_setProfileSyncRoot rooted, effect run]
    exact members

end Publisher

/-- A fresh receiver of a log ends up with the publisher's members if and only if, in the
order of the log, every record is authorized and admitted by what the records before it
leave, and what they leave in the end is what the publisher has. Where the publisher's keys
were only written by applying records, only the authorization can fail. -/
theorem membership_log_propagates_iff (lawful : scheme.Lawful) (readsBack : ReadsBack logCodec)
    {start publisher receiver : SlateProfileDatabase} {store : ObjectStore} {now : Int}
    (life : MembershipLife scheme (fun _ _ => True) start publisher)
    (wellStored : WellStored scheme start) (empty : EmptyProfile profile start)
    (applied : ∀ row ∈ publisher.syncAccountMembershipRecords, row.profile = profile →
      row.appliedAt.isSome)
    (some_record : 1 ≤ publisher.syncAccountMembershipRecordCount profile)
    (few : publisher.syncAccountMembershipRecordCount profile ≤
      profileSyncMembershipLogMaxRecords)
    (named : rootId ≠ "") (fresh : FreshReceiver scheme profile rootId receiver) :
    (Propagates scheme logCodec profile rootId publisher store receiver now ↔
      Roster.Resumes scheme [] (decodedLog scheme profile publisher) Roster.unknown ∧
        (Roster.unknown.afterAll (decodedLog scheme profile publisher)).members =
          (publisher.roster profile).members) ∧
    (MembershipLife scheme (KeepsRoster profile) start publisher →
      (Propagates scheme logCodec profile rootId publisher store receiver now ↔
        Roster.AuthorizesAll scheme (decodedLog scheme profile publisher) Roster.unknown)) := by
  have replays := @pull_fresh_iff _ logCodec profile rootId publisher receiver store now lawful
    readsBack (life.wellStored wellStored) some_record few named fresh
  refine ⟨replays, fun byRecords => ?_⟩
  obtain ⟨admitted, left⟩ := decodedLog_leaves_roster byRecords wellStored empty applied
  rw [replays, Roster.resumes_nil_iff, left]
  exact ⟨fun holds => holds.1.1, fun authorized => ⟨⟨authorized, admitted⟩, rfl⟩⟩

end Fresh

section Sample

/-- The log as a list of numbers. -/
def plainLog : Serial ProfileSyncMembershipLog :=
  let entry : Serial ProfileSyncMembershipLogEntry :=
    (Serial.text.pair (Serial.text.pair (Serial.text.pair (Serial.int.pair (Serial.text.pair
      (Serial.text.pair Serial.text)))))).via
      (fun entry => (entry.recordId, entry.rootId, entry.objectId, entry.membershipEpoch,
        entry.recordKind, entry.deviceId, entry.signerDeviceId))
      (fun fields => ⟨fields.1, fields.2.1, fields.2.2.1, fields.2.2.2.1, fields.2.2.2.2.1,
        fields.2.2.2.2.2.1, fields.2.2.2.2.2.2⟩)
      (fun _ => rfl)
  (Serial.text.pair (Serial.nat.pair entry.list)).via
    (fun log => (log.profile, log.schemaVersion, log.records))
    (fun fields => ⟨fields.1, fields.2.1, fields.2.2⟩) (fun _ => rfl)

def plainLogCodec : ObjectCodec ProfileSyncMembershipLog :=
  PlainScheme.codec plainLog

theorem plainLogCodec_readsBack : ReadsBack plainLogCodec :=
  PlainScheme.codec_fromBytes_toBytes plainLog

def laptopKey : ProfileSyncDeviceSigner := ⟨"laptop", [1], isValidSyncIdentifier_laptop⟩
def phoneKey : ProfileSyncDeviceSigner := ⟨"phone", [2], isValidSyncIdentifier_phone⟩
def deskKey : ProfileSyncDeviceSigner := ⟨"desk", [3], isValidSyncIdentifier_desk⟩

/-- The enrollment of a device at the first epoch. -/
def enrollmentOf (device : ProfileSyncDeviceSigner) : ProfileSyncMembershipRecord :=
  { profile := "default", recordId := "epoch-1-enroll-" ++ device.deviceId, schemaVersion := 1
    membershipEpoch := 1, recordKind := recordKindEnrollDevice, deviceId := device.deviceId
    devicePublicKey := some (device.publicKey plainScheme), createdAt := 1 }

def signedRecordBy (signer : ProfileSyncDeviceSigner) (record : ProfileSyncMembershipRecord) :
    List Nat :=
  plainScheme.signed.toBytes (signer.sign plainScheme (plainScheme.membershipRecord.toBytes
    record))

def decodedRecordBy (signer : ProfileSyncDeviceSigner) (record : ProfileSyncMembershipRecord) :
    DecodedMembershipRecord where
  signedRecord := signedRecordBy signer record
  signedObject := signer.sign plainScheme (plainScheme.membershipRecord.toBytes record)
  record

def freshLaptop : SlateProfileDatabase := { localSyncDeviceId := "laptop" }

def freshPhone : SlateProfileDatabase := { localSyncDeviceId := "phone" }

theorem wellStored_of_no_records {db : SlateProfileDatabase}
    (none : db.syncAccountMembershipRecords = []) : WellStored scheme db where
  unique := by
    rw [none]
    exact List.nodup_nil
  rows := by simp [none]

theorem freshReceiver_freshPhone :
    FreshReceiver plainScheme "default" profileSyncMembershipLogRootId freshPhone where
  empty := by constructor <;> simp [freshPhone]
  wellStored := wellStored_of_no_records rfl
  unpulled := rfl

set_option maxRecDepth 20000 in
/-- The laptop enrolls itself and then the desk, whose record id comes first in the log: a
fresh receiver meets the desk's enrollment before it knows the laptop. -/
theorem log_order_rejected :
    ∃ publisher,
      MembershipLife plainScheme (KeepsRoster "default") freshLaptop publisher ∧
      (∀ row ∈ publisher.syncAccountMembershipRecords, row.appliedAt.isSome) ∧
      publisher.syncAccountMembershipRecordCount "default" = 2 ∧
      FreshReceiver plainScheme "default" profileSyncMembershipLogRootId freshPhone ∧
      ¬Propagates plainScheme plainLogCodec "default" profileSyncMembershipLogRootId publisher {}
        freshPhone 20 := by
  have run : ∃ applications publisher published store,
      applySignedSyncAccountMembershipRecords plainScheme
        [signedRecordBy laptopKey (enrollmentOf laptopKey),
          signedRecordBy laptopKey (enrollmentOf deskKey)] 10 freshLaptop =
            .ok (applications, publisher) ∧
      publisher.syncAccountMembershipRecords.all (·.appliedAt.isSome) = true ∧
      publisher.syncAccountMembershipRecordCount "default" = 2 ∧
      publishLocalSyncAccountMembershipLog plainScheme plainLogCodec "default"
        profileSyncMembershipLogRootId publisher {} = .ok (some published, store) ∧
      pullAndApplySyncAccountMembershipLogIfChanged plainScheme plainLogCodec "default"
        profileSyncMembershipLogRootId store 20 freshPhone =
          .error (.storage (.untrustedSyncMembershipSigner "default" "laptop")) :=
    ⟨_, _, _, _, rfl, rfl, rfl, rfl, rfl⟩
  obtain ⟨applications, publisher, published, store, applied, all, count, publishes, fails⟩ := run
  refine ⟨publisher, .applied .start applied,
    fun row membership => List.all_eq_true.mp all row membership, count,
    freshReceiver_freshPhone, ?_⟩
  rintro ⟨other, next, otherPublishes, -, -, log, pulledApplications, received, pulls, -⟩
  obtain ⟨-, rfl⟩ := ok_pair_inj (publishes.symm.trans otherPublishes)
  rw [fails] at pulls
  cases pulls

set_option maxRecDepth 20000 in
/-- The laptop enrolls itself and then the phone; the log lists the two in this order. -/
theorem log_of_phone_propagates :
    ∃ publisher,
      MembershipLife plainScheme (KeepsRoster "default") freshLaptop publisher ∧
      publisher.syncAccountMembershipRecordCount "default" = 2 ∧
      Propagates plainScheme plainLogCodec "default" profileSyncMembershipLogRootId publisher {}
        freshPhone 20 := by
  have run : ∃ applications publisher,
      applySignedSyncAccountMembershipRecords plainScheme
        [signedRecordBy laptopKey (enrollmentOf laptopKey),
          signedRecordBy laptopKey (enrollmentOf phoneKey)] 10 freshLaptop =
            .ok (applications, publisher) ∧
      publisher.syncAccountMembershipRecords.all (·.appliedAt.isSome) = true ∧
      publisher.syncAccountMembershipRecordCount "default" = 2 ∧
      decodedLog plainScheme "default" publisher =
        [decodedRecordBy laptopKey (enrollmentOf laptopKey),
          decodedRecordBy laptopKey (enrollmentOf phoneKey)] :=
    ⟨_, _, rfl, rfl, rfl, rfl⟩
  obtain ⟨applications, publisher, applied, all, count, logged⟩ := run
  have life : MembershipLife plainScheme (KeepsRoster "default") freshLaptop publisher :=
    .applied .start applied
  have anyLife : MembershipLife plainScheme (fun _ _ => True) freshLaptop publisher :=
    .applied .start applied
  have empty : EmptyProfile "default" freshLaptop := by constructor <;> simp [freshLaptop]
  refine ⟨publisher, life, count, ((membership_log_propagates_iff plainScheme_lawful
    plainLogCodec_readsBack anyLife (wellStored_of_no_records rfl) empty
    (fun row membership _ => List.all_eq_true.mp all row membership) (by omega)
    (by rw [count]; decide) (by decide) freshReceiver_freshPhone).2 life).mpr ?_⟩
  rw [logged]
  refine ⟨.inl ⟨fun _ => rfl, rfl, rfl, rfl⟩, .inr ⟨rfl, _, rfl, rfl, le_rfl, _, rfl⟩, trivial⟩

end Sample

section Later

/-- A receiver that pulled a log and meets a later one takes exactly the further records of
it if and only if every record of the later log, the known ones included, is authorized by
the roster it meets, and the further ones are admitted and free on the receiver. -/
theorem later_log_resumes_iff (lawful : scheme.Lawful) (readsBack : ReadsBack logCodec)
    {start earlier later : SlateProfileDatabase}
    (life : MembershipLife scheme (fun _ _ => True) start earlier)
    (wellStored : WellStored scheme start)
    (laterLife : MembershipLife scheme (fun _ _ => True) earlier later)
    {store laterStore next laterNext : ObjectStore}
    {published laterPublished : PublishedProfileSyncMembershipLog}
    (publishes : publishLocalSyncAccountMembershipLog scheme logCodec profile rootId earlier
      store = .ok (some published, next))
    (publishesLater : publishLocalSyncAccountMembershipLog scheme logCodec profile rootId later
      laterStore = .ok (some laterPublished, laterNext))
    {before pulled receiver : SlateProfileDatabase} {now pulledAt : Int}
    {pulledLog : ProfileSyncMembershipLog}
    {pulledApplications : List SyncAccountMembershipRecordApplication}
    (stored : WellStored scheme before)
    (pulls : pullAndApplySyncAccountMembershipLogIfChanged scheme logCodec profile rootId next
      pulledAt before = .ok (.applied pulledLog pulledApplications, pulled))
    (receiverLife : MembershipLife scheme (fun _ _ => True) pulled receiver)
    (unpulled : receiver.storedRoot profile rootId ≠ some laterPublished.objectId) :
    (∃ log applications received,
      pullAndApplySyncAccountMembershipLogIfChanged scheme logCodec profile rootId laterNext now
        receiver = .ok (.applied log applications, received) ∧
      applications.map (·.applied) = (decodedLog scheme profile later).map fun decoded =>
        decide (decoded ∉ decodedLog scheme profile earlier)) ↔
    Roster.Resumes scheme (decodedLog scheme profile earlier) (decodedLog scheme profile later)
        (receiver.roster profile) ∧
      ∀ decoded ∈ decodedLog scheme profile later,
        decoded ∉ decodedLog scheme profile earlier → Untaken decoded receiver := by
  have earlierStored := life.wellStored wellStored
  have laterStored := laterLife.wellStored earlierStored
  have log := LogPublished.of_publish lawful publishes
  have laterLog := LogPublished.of_publish lawful publishesLater
  have batch := @recordBatch_decodedLog _ profile _ laterStored
  -- What the first pull took stays taken.
  obtain ⟨named, pulledUnpulled⟩ := unpulled_of_applied log pulls
  obtain ⟨-, replayed, replay, rooted⟩ := (pull_published_log_iff earlierStored readsBack
    (count_of_published publishes).2 log named pulledUnpulled).mp pulls
  obtain ⟨replayedStored, took, -⟩ := taken_of_replay stored
    (recordBatch_decodedLog earlierStored).decodes replay
  have sameRecords : pulled.syncAccountMembershipRecords =
      replayed.syncAccountMembershipRecords := by
    unfold setProfileSyncRoot at rooted
    rw [if_neg named] at rooted
    cases rooted
    rfl
  have pulledLife : MembershipLife scheme (fun _ _ => True) replayed pulled :=
    .other .start sameRecords trivial
  have pulledStored := pulledLife.wellStored replayedStored
  have receiverStored := receiverLife.wellStored pulledStored
  have taken : ∀ decoded ∈ decodedLog scheme profile later,
      decoded ∈ decodedLog scheme profile earlier → Taken decoded receiver := by
    intro decoded _ isKnown
    exact receiverLife.taken pulledStored
      (pulledLife.taken replayedStored (took decoded isKnown))
  constructor
  · rintro ⟨foundLog, applications, received, pullsLater, flags⟩
    obtain ⟨-, final, run, -⟩ := (pull_published_log_iff laterStored readsBack
      (count_of_published publishesLater).2 laterLog named unpulled).mp pullsLater
    have untaken := untaken_of_applied receiverStored batch run flags
    exact ⟨(forEach_applyDecoded_iff receiverStored batch taken untaken).mp
      ⟨applications, final, run⟩, untaken⟩
  · rintro ⟨resumes, untaken⟩
    obtain ⟨applications, final, run⟩ :=
      (forEach_applyDecoded_iff receiverStored batch taken untaken).mpr resumes
    obtain ⟨flags, -⟩ := forEach_applyDecoded_effect receiverStored batch taken untaken run
    have rootedLater : final.setProfileSyncRoot profile rootId laterPublished.objectId now =
        .ok ((), _) := if_neg named
    exact ⟨laterPublished.log, applications, _, (pull_published_log_iff laterStored readsBack
      (count_of_published publishesLater).2 laterLog named unpulled).mpr
        ⟨rfl, final, run, rootedLater⟩, flags⟩

/-- The desk is enrolled at the second epoch. -/
def deskEnrollment : ProfileSyncMembershipRecord :=
  { enrollmentOf deskKey with recordId := "epoch-2-enroll-desk", membershipEpoch := 2 }

/-- The phone is revoked at the third epoch. -/
def phoneRevocation : ProfileSyncMembershipRecord :=
  { profile := "default", recordId := "epoch-3-revoke-phone", schemaVersion := 1
    membershipEpoch := 3, recordKind := recordKindRevokeDevice, deviceId := "phone"
    devicePublicKey := none, createdAt := 3 }

def tabletKey : ProfileSyncDeviceSigner := ⟨"tablet", [4], isValidSyncIdentifier_tablet⟩

/-- The tablet is enrolled at the fourth epoch. -/
def tabletEnrollment : ProfileSyncMembershipRecord :=
  { enrollmentOf tabletKey with recordId := "epoch-4-enroll-tablet", membershipEpoch := 4 }

def freshDesk : SlateProfileDatabase := { localSyncDeviceId := "desk" }

set_option maxRecDepth 20000 in
/-- The phone enrolled the desk and was then revoked by the laptop; the receiver pulled that
log. Once the laptop has enrolled a tablet, the later log fails at the record that the phone
signed, although the receiver applied it before. -/
theorem revoked_signer_blocks_later_log :
    ∃ earlier later next laterNext published laterPublished pulledLog pulledApplications pulled,
      MembershipLife plainScheme (KeepsRoster "default") freshLaptop earlier ∧
      MembershipLife plainScheme (KeepsRoster "default") earlier later ∧
      (∀ row ∈ later.syncAccountMembershipRecords, row.appliedAt.isSome) ∧
      publishLocalSyncAccountMembershipLog plainScheme plainLogCodec "default"
        profileSyncMembershipLogRootId earlier {} = .ok (some published, next) ∧
      pullAndApplySyncAccountMembershipLogIfChanged plainScheme plainLogCodec "default"
        profileSyncMembershipLogRootId next 20 freshDesk =
          .ok (.applied pulledLog pulledApplications, pulled) ∧
      publishLocalSyncAccountMembershipLog plainScheme plainLogCodec "default"
        profileSyncMembershipLogRootId later next = .ok (some laterPublished, laterNext) ∧
      pullAndApplySyncAccountMembershipLogIfChanged plainScheme plainLogCodec "default"
        profileSyncMembershipLogRootId laterNext 40 pulled =
          .error (.storage (.untrustedSyncMembershipSigner "default" "phone")) := by
  have run : ∃ first earlier second later next laterNext published laterPublished pulledLog
      pulledApplications pulled,
      applySignedSyncAccountMembershipRecords plainScheme
        [signedRecordBy laptopKey (enrollmentOf laptopKey),
          signedRecordBy laptopKey (enrollmentOf phoneKey),
          signedRecordBy phoneKey deskEnrollment, signedRecordBy laptopKey phoneRevocation] 10
            freshLaptop = .ok (first, earlier) ∧
      applySignedSyncAccountMembershipRecords plainScheme
        [signedRecordBy laptopKey tabletEnrollment] 30 earlier = .ok (second, later) ∧
      later.syncAccountMembershipRecords.all (·.appliedAt.isSome) = true ∧
      publishLocalSyncAccountMembershipLog plainScheme plainLogCodec "default"
        profileSyncMembershipLogRootId earlier {} = .ok (some published, next) ∧
      pullAndApplySyncAccountMembershipLogIfChanged plainScheme plainLogCodec "default"
        profileSyncMembershipLogRootId next 20 freshDesk =
          .ok (.applied pulledLog pulledApplications, pulled) ∧
      publishLocalSyncAccountMembershipLog plainScheme plainLogCodec "default"
        profileSyncMembershipLogRootId later next = .ok (some laterPublished, laterNext) ∧
      pullAndApplySyncAccountMembershipLogIfChanged plainScheme plainLogCodec "default"
        profileSyncMembershipLogRootId laterNext 40 pulled =
          .error (.storage (.untrustedSyncMembershipSigner "default" "phone")) :=
    ⟨_, _, _, _, _, _, _, _, _, _, _, rfl, rfl, rfl, rfl, rfl, rfl, rfl⟩
  obtain ⟨first, earlier, second, later, next, laterNext, published, laterPublished, pulledLog,
    pulledApplications, pulled, applied, appliedLater, all, publishes, pulls, publishesLater,
    fails⟩ := run
  exact ⟨earlier, later, next, laterNext, published, laterPublished, pulledLog,
    pulledApplications, pulled, .applied .start applied, .applied .start appliedLater,
    fun row membership => List.all_eq_true.mp all row membership, publishes, pulls,
    publishesLater, fails⟩

set_option maxRecDepth 20000 in
/-- A receiver that pulled the log of the laptop alone takes the phone's enrollment from the
later log and nothing else. -/
theorem later_log_of_phone_resumes :
    ∃ earlier later laterNext receiver log applications received,
      decodedLog plainScheme "default" earlier ≠ decodedLog plainScheme "default" later ∧
      pullAndApplySyncAccountMembershipLogIfChanged plainScheme plainLogCodec "default"
        profileSyncMembershipLogRootId laterNext 40 receiver =
          .ok (.applied log applications, received) ∧
      applications.map (·.applied) = (decodedLog plainScheme "default" later).map fun decoded =>
        decide (decoded ∉ decodedLog plainScheme "default" earlier) := by
  have run : ∃ first earlier second later next laterNext published laterPublished pulledLog
      pulledApplications pulled,
      applySignedSyncAccountMembershipRecords plainScheme
        [signedRecordBy laptopKey (enrollmentOf laptopKey)] 10 freshLaptop =
          .ok (first, earlier) ∧
      applySignedSyncAccountMembershipRecords plainScheme
        [signedRecordBy laptopKey (enrollmentOf phoneKey)] 30 earlier = .ok (second, later) ∧
      publishLocalSyncAccountMembershipLog plainScheme plainLogCodec "default"
        profileSyncMembershipLogRootId earlier {} = .ok (some published, next) ∧
      pullAndApplySyncAccountMembershipLogIfChanged plainScheme plainLogCodec "default"
        profileSyncMembershipLogRootId next 20 freshDesk =
          .ok (.applied pulledLog pulledApplications, pulled) ∧
      publishLocalSyncAccountMembershipLog plainScheme plainLogCodec "default"
        profileSyncMembershipLogRootId later next = .ok (some laterPublished, laterNext) ∧
      (pulled.storedRoot "default" profileSyncMembershipLogRootId ==
        some laterPublished.objectId) = false ∧
      decodedLog plainScheme "default" earlier =
        [decodedRecordBy laptopKey (enrollmentOf laptopKey)] ∧
      decodedLog plainScheme "default" later =
        [decodedRecordBy laptopKey (enrollmentOf laptopKey),
          decodedRecordBy laptopKey (enrollmentOf phoneKey)] ∧
      (pulled.roster "default" "laptop").key = some ⟨⟨"laptop", [1]⟩, 1, true⟩ ∧
      (pulled.roster "default" "laptop").provider = false ∧
      (pulled.roster "default" "phone").key = none ∧
      pulled.syncAccountMembershipRecords.all (·.deviceId == "laptop") = true ∧
      pulled.storedRecord "default" "epoch-1-enroll-phone" = none :=
    ⟨_, _, _, _, _, _, _, _, _, _, _, rfl, rfl, rfl, rfl, rfl, rfl, rfl, rfl, rfl, rfl, rfl, rfl,
      rfl⟩
  obtain ⟨first, earlier, second, later, next, laterNext, published, laterPublished, pulledLog,
    pulledApplications, pulled, applied, appliedLater, publishes, pulls, publishesLater, unpulled,
    logged, loggedLater, laptopKnown, notProvider, phoneUnknown, ofLaptop, free⟩ := run
  have receiverStored : WellStored plainScheme freshDesk := wellStored_of_no_records rfl
  have admitted : (pulled.roster "default" "phone").Admits (enrollmentOf phoneKey) := by
    refine ⟨?_, ?_, fun kind => absurd kind (by decide)⟩
    · rintro epoch ⟨recordId, row, found, ofPhone, -⟩
      have isLaptop := List.all_eq_true.mp ofLaptop row (Rows.mem_of_lookup found).1
      rw [ofPhone] at isLaptop
      exact absurd isLaptop (by decide)
    · rintro - ⟨key, known, -⟩
      rw [phoneUnknown] at known
      cases known
  have resumes : Roster.Resumes plainScheme (decodedLog plainScheme "default" earlier)
      (decodedLog plainScheme "default" later) (pulled.roster "default") := by
    rw [logged, loggedLater, Roster.Resumes, if_pos (List.mem_singleton_self _), Roster.Resumes,
      if_neg (by decide)]
    exact ⟨.inr ⟨notProvider, _, laptopKnown, rfl, le_rfl, _, rfl⟩,
      .inr ⟨notProvider, _, laptopKnown, rfl, le_rfl, _, rfl⟩, admitted, trivial⟩
  have untaken : ∀ decoded ∈ decodedLog plainScheme "default" later,
      decoded ∉ decodedLog plainScheme "default" earlier → Untaken decoded pulled := by
    rw [logged, loggedLater]
    intro decoded membership isNew row stored
    obtain rfl | isPhone := List.mem_cons.mp membership
    · exact absurd (List.mem_singleton_self _) isNew
    · obtain rfl := List.mem_singleton.mp isPhone
      cases free.symm.trans stored
  obtain ⟨log, applications, received, pullsLater, flags⟩ :=
    (later_log_resumes_iff plainScheme_lawful plainLogCodec_readsBack (.applied .start applied)
      (wellStored_of_no_records rfl) (.applied .start appliedLater) publishes publishesLater
      receiverStored pulls .start (by simpa using unpulled)).mpr ⟨resumes, untaken⟩
  refine ⟨earlier, later, laterNext, pulled, log, applications, received, ?_, pullsLater, flags⟩
  rw [logged, loggedLater]
  exact fun same => absurd (congrArg List.length same) (by decide)

end Later

end Slate.ProfileSync
