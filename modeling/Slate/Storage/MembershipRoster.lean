import Slate.Foundation.SlotFold
import Slate.Storage.MembershipEpochs

/-!
# The roster of a profile

What a profile knows of its devices: for each the key it is known by, whether it is a
provider, and the epochs of the records that were applied to it. A membership record
changes the standing of one device. The roster says what a record needs to be authorized
and admitted, and what it leaves; the database's tables are read as a roster.
-/

namespace Slate.Storage

open Slate.Foundation

/-- The key a device is known by. -/
structure KnownKey where
  publicKey : ProfileSyncDevicePublicKey
  membershipEpoch : Int
  trusted : Bool
deriving DecidableEq, Repr

/-- What a profile knows of a device. -/
@[ext]
structure Standing where
  key : Option KnownKey
  provider : Bool
  epochs : Set Int

namespace Standing

/-- Nothing is known of the device. -/
def unknown : Standing where
  key := none
  provider := false
  epochs := ∅

def HasTrustedKey (standing : Standing) : Prop :=
  ∃ key, standing.key = some key ∧ key.trusted = true

/-- The standing of a record's device after the record. -/
def after (record : ProfileSyncMembershipRecord) (standing : Standing) : Standing where
  key :=
    if installsKey record.recordKind then
      record.devicePublicKey.map fun publicKey =>
        { publicKey, membershipEpoch := record.membershipEpoch, trusted := true }
    else standing.key.map fun key => { key with trusted := false }
  provider :=
    if record.recordKind = recordKindEnrollDevice then false
    else if record.recordKind = recordKindEnrollProvider then true
    else standing.provider
  epochs := insert record.membershipEpoch standing.epochs

/-- The record is newer than every applied one of its device; it enrolls only a device
without a trusted key, and rotates only a trusted key. -/
structure Admits (standing : Standing) (record : ProfileSyncMembershipRecord) : Prop where
  newer : ∀ epoch ∈ standing.epochs, epoch < record.membershipEpoch
  enrolls : record.recordKind = recordKindEnrollDevice ∨
    record.recordKind = recordKindEnrollProvider → ¬standing.HasTrustedKey
  rotates : record.recordKind = recordKindRotateDeviceKey → standing.HasTrustedKey

end Standing

open SlateProfileDatabase (DecodedMembershipRecord)

/-- The standing of every device. -/
abbrev Roster := String → Standing

namespace Roster

def unknown : Roster := fun _ => Standing.unknown

/-- The device a record is about. -/
def deviceOf (decoded : DecodedMembershipRecord) : String :=
  decoded.record.deviceId

/-- The roster after a list of records. -/
def afterAll (records : List DecodedMembershipRecord) (roster : Roster) : Roster :=
  foldSlots deviceOf (fun decoded => Standing.after decoded.record) records roster

/-- The roster after one record. -/
def after (decoded : DecodedMembershipRecord) (roster : Roster) : Roster :=
  stepSlot deviceOf (fun decoded => Standing.after decoded.record) decoded roster

/-- Each record is admitted by the standing that the records before it leave its device. -/
def AdmitsAll (records : List DecodedMembershipRecord) (roster : Roster) : Prop :=
  AllAdmitted deviceOf (fun decoded => Standing.after decoded.record)
    (fun standing decoded => standing.Admits decoded.record) records roster

/-- The first record of a profile enrolls the device that signed it. -/
structure Bootstraps (roster : Roster) (decoded : DecodedMembershipRecord) : Prop where
  unkeyed : ∀ deviceId, (roster deviceId).key = none
  kind : decoded.record.recordKind = recordKindEnrollDevice
  device : decoded.record.deviceId = decoded.signedObject.deviceId
  key : decoded.record.devicePublicKey = some
    { deviceId := decoded.signedObject.deviceId, bytes := decoded.signedObject.publicKey }

/-- The signer's key is trusted, verifies the record and is not newer than it, and the
signer is not a provider. -/
structure Signs (scheme : SyncObjectScheme) (roster : Roster)
    (decoded : DecodedMembershipRecord) : Prop where
  notProvider : (roster decoded.signedObject.deviceId).provider = false
  key : ∃ key, (roster decoded.signedObject.deviceId).key = some key ∧ key.trusted = true ∧
    key.membershipEpoch ≤ decoded.record.membershipEpoch ∧
    ∃ payload, decoded.signedObject.verifyWith scheme key.publicKey = .ok payload

def Authorizes (scheme : SyncObjectScheme) (roster : Roster)
    (decoded : DecodedMembershipRecord) : Prop :=
  roster.Bootstraps decoded ∨ roster.Signs scheme decoded

/-- Each record is authorized by the roster that the records before it leave. -/
def AuthorizesAll (scheme : SyncObjectScheme) : List DecodedMembershipRecord → Roster → Prop
  | [], _ => True
  | decoded :: rest, roster =>
      roster.Authorizes scheme decoded ∧ AuthorizesAll scheme rest (roster.after decoded)

theorem after_self (decoded : DecodedMembershipRecord) (roster : Roster) :
    roster.after decoded decoded.record.deviceId =
      (roster decoded.record.deviceId).after decoded.record :=
  @stepSlot_self _ _ _ _ deviceOf _ decoded roster

theorem after_of_ne {decoded : DecodedMembershipRecord} {roster : Roster} {deviceId : String}
    (different : decoded.record.deviceId ≠ deviceId) :
    roster.after decoded deviceId = roster deviceId :=
  @stepSlot_of_ne _ _ _ _ deviceOf _ decoded roster deviceId different

/-- The known devices: device id, public key, epoch of the key, trust, provider authority. -/
def members (roster : Roster) : Set (String × List Nat × Int × Bool × Bool) :=
  {member | ∃ key, (roster member.1).key = some key ∧
    member.2 = (key.publicKey.bytes, key.membershipEpoch, key.trusted,
      (roster member.1).provider)}

end Roster

namespace SlateProfileDatabase

/-- The row of a membership record. -/
def storedRecord (profile recordId : String) (db : SlateProfileDatabase) :
    Option SyncAccountMembershipRecord :=
  Rows.lookup membershipRecordKey (profile, recordId) db.syncAccountMembershipRecords

/-- What the tables say of a device. -/
def standing (profile deviceId : String) (db : SlateProfileDatabase) : Standing where
  key := (Rows.lookup publicKeyKey (profile, deviceId) db.syncDevicePublicKeys).map
    fun record =>
      { publicKey := record.publicKey, membershipEpoch := record.membershipEpoch
        trusted := record.trusted }
  provider := (Rows.lookup deviceKey (profile, deviceId) db.syncDevices).any
    (·.providerAuthority)
  epochs := {epoch | ∃ recordId row, db.storedRecord profile recordId = some row ∧
    row.deviceId = deviceId ∧ row.appliedAt.isSome ∧ row.membershipEpoch = epoch}

def roster (profile : String) (db : SlateProfileDatabase) : Roster :=
  fun deviceId => db.standing profile deviceId

/-- The row a record is stored as. -/
def DecodedMembershipRecord.row (decoded : DecodedMembershipRecord) (createdAt : Int)
    (appliedAt : Option Int) : SyncAccountMembershipRecord where
  profile := decoded.record.profile
  recordId := decoded.record.recordId
  membershipEpoch := decoded.record.membershipEpoch
  recordKind := decoded.record.recordKind
  deviceId := decoded.record.deviceId
  signerDeviceId := decoded.signedObject.deviceId
  signedRecord := decoded.signedRecord
  createdAt
  appliedAt

/-- The table of membership records as the code writes it: record ids are unique in their
profile, and every row stores a record that its bytes decode to. -/
structure WellStored (scheme : SyncObjectScheme) (db : SlateProfileDatabase) : Prop where
  unique : Rows.UniqueKeys membershipRecordKey db.syncAccountMembershipRecords
  rows : ∀ row ∈ db.syncAccountMembershipRecords, ∃ (decoded : DecodedMembershipRecord) (createdAt : Int)
    (appliedAt : Option Int), decoded.Decodes scheme ∧ decoded.signedRecord ≠ [] ∧
      row = decoded.row createdAt appliedAt

variable {scheme : SyncObjectScheme} {db next : SlateProfileDatabase}
  {decoded : DecodedMembershipRecord} {profile : String} {now : Int}

section Authorization

theorem syncDevicePublicKey_eq {deviceId : String} (valid : isValidSyncIdentifier deviceId) :
    db.syncDevicePublicKey profile deviceId =
      .ok (Rows.lookup publicKeyKey (profile, deviceId) db.syncDevicePublicKeys) := by
  rw [syncDevicePublicKey, if_pos valid]

theorem syncDeviceProviderAuthority_eq {deviceId : String}
    (valid : isValidSyncIdentifier deviceId) :
    db.syncDeviceProviderAuthority profile deviceId =
      .ok (db.roster profile deviceId).provider := by
  rw [syncDeviceProviderAuthority, if_pos valid]
  rfl

theorem unkeyed_roster_iff :
    (∀ deviceId, (db.roster profile deviceId).key = none) ↔
      ∀ key ∈ db.syncDevicePublicKeys, key.profile ≠ profile := by
  simp only [roster, standing, Option.map_eq_none_iff, Rows.lookup_eq_none_iff]
  constructor
  · intro unkeyed key membership ofProfile
    exact unkeyed key.publicKey.deviceId key membership (Prod.ext ofProfile rfl)
  · intro unkeyed deviceId key membership sameKey
    exact unkeyed key membership (congrArg Prod.fst sameKey)

theorem bootstraps_roster_iff :
    db.bootstraps decoded.signedObject decoded.record ↔
      (db.roster decoded.record.profile).Bootstraps decoded := by
  rw [bootstraps_iff, ← unkeyed_roster_iff]
  constructor
  · rintro ⟨unkeyed, kind, device, key⟩
    exact ⟨unkeyed, kind, device, key⟩
  · rintro ⟨unkeyed, kind, device, key⟩
    exact ⟨unkeyed, kind, device, key⟩

/-- A record is authorized by the roster that the tables are read as. -/
theorem authorizeSyncAccountMembershipRecord_iff (checked : decoded.Checked scheme) :
    (∃ bootstrapped, db.authorizeSyncAccountMembershipRecord scheme decoded.signedObject
      decoded.record = .ok bootstrapped) ↔
      (db.roster decoded.record.profile).Authorizes scheme decoded := by
  unfold authorizeSyncAccountMembershipRecord
  by_cases bootstraps : db.bootstraps decoded.signedObject decoded.record
  · rw [if_pos bootstraps]
    exact ⟨fun _ => .inl (bootstraps_roster_iff.mp bootstraps), fun _ => ⟨true, rfl⟩⟩
  · rw [if_neg bootstraps, syncDevicePublicKey_eq checked.signer, ok_bind,
      syncDeviceProviderAuthority_eq checked.signer]
    constructor
    · rintro ⟨bootstrapped, h⟩
      split at h
      · cases h
      next signer filtered =>
        obtain ⟨found, trusted⟩ := Option.filter_eq_some_iff.mp filtered
        simp only [ok_bind, check_then_eq_ok_iff] at h
        obtain ⟨notProvider, epoch, h⟩ := h
        obtain ⟨payload, verified, -⟩ := bind_eq_ok_iff.mp h
        refine .inr ⟨by simpa using notProvider, ⟨signer.publicKey, signer.membershipEpoch,
          signer.trusted⟩, ?_, trusted, not_lt.mp epoch, payload,
          mapError_eq_ok_iff.mp verified⟩
        rw [roster, standing, found]
        rfl
    · rintro (boots | ⟨notProvider, key, known, trusted, epoch, payload, verified⟩)
      · exact absurd (bootstraps_roster_iff.mpr boots) bootstraps
      · obtain ⟨signer, found, rfl⟩ := Option.map_eq_some_iff.mp known
        refine ⟨false, ?_⟩
        have kept : (some signer).filter (·.trusted) = some signer :=
          Option.filter_eq_some_iff.mpr ⟨rfl, trusted⟩
        rw [found, kept]
        simp only [ok_bind]
        rw [notProvider, if_neg Bool.false_ne_true, if_neg (not_lt.mpr epoch), verified]
        rfl

end Authorization

section Admission

theorem storedRecord_eq_some_iff (wellStored : WellStored scheme db) {recordId : String}
    {row : SyncAccountMembershipRecord} :
    db.storedRecord profile recordId = some row ↔
      row ∈ db.syncAccountMembershipRecords ∧ row.profile = profile ∧
        row.recordId = recordId := by
  rw [storedRecord, Rows.lookup_eq_some_iff wellStored.unique]
  simp [membershipRecordKey]

theorem mem_epochs_iff (wellStored : WellStored scheme db) {deviceId : String} {epoch : Int} :
    epoch ∈ (db.roster profile deviceId).epochs ↔
      ∃ row ∈ db.appliedMembershipRecords profile deviceId, row.membershipEpoch = epoch := by
  simp only [roster, standing, Set.mem_ofPred_eq, storedRecord_eq_some_iff wellStored,
    appliedMembershipRecords, List.mem_filter, Bool.and_eq_true, beq_iff_eq]
  constructor
  · rintro ⟨recordId, row, ⟨membership, ofProfile, -⟩, ofDevice, isApplied, sameEpoch⟩
    exact ⟨row, ⟨membership, ⟨ofProfile, ofDevice⟩, isApplied⟩, sameEpoch⟩
  · rintro ⟨row, ⟨membership, ⟨ofProfile, ofDevice⟩, isApplied⟩, sameEpoch⟩
    exact ⟨row.recordId, row, ⟨membership, ofProfile, rfl⟩, ofDevice, isApplied, sameEpoch⟩

/-- A record is not stale if it is newer than every applied one of its device. -/
theorem rejectStaleSyncAccountMembershipRecord_iff {record : ProfileSyncMembershipRecord}
    (valid : isValidSyncIdentifier record.deviceId) :
    db.rejectStaleSyncAccountMembershipRecord record = .ok () ↔
      ∀ row ∈ db.appliedMembershipRecords record.profile record.deviceId,
        row.membershipEpoch < record.membershipEpoch := by
  constructor
  · intro notStale row membership
    exact epoch_lt_of_not_stale notStale membership
  · intro newer
    unfold rejectStaleSyncAccountMembershipRecord latestAppliedSyncAccountMembershipEpoch
    rw [if_pos valid, ok_bind]
    split
    · rfl
    next latestEpoch found =>
      obtain ⟨latestMem, -⟩ := List.max?_eq_some_iff.mp found
      obtain ⟨row, membership, rfl⟩ := List.mem_map.mp latestMem
      have older := newer row membership
      rw [if_neg (not_lt.mpr older.le), if_neg older.ne']
      rfl

theorem rejectInvalidSyncAccountMembershipTransition_iff
    {record : ProfileSyncMembershipRecord} (valid : isValidSyncIdentifier record.deviceId) :
    db.rejectInvalidSyncAccountMembershipTransition record = .ok () ↔
      (record.recordKind = recordKindEnrollDevice ∨
        record.recordKind = recordKindEnrollProvider →
          ¬(db.roster record.profile record.deviceId).HasTrustedKey) ∧
      (record.recordKind = recordKindRotateDeviceKey →
        (db.roster record.profile record.deviceId).HasTrustedKey) := by
  have trusted_iff : (db.roster record.profile record.deviceId).HasTrustedKey ↔
      (Rows.lookup publicKeyKey (record.profile, record.deviceId)
        db.syncDevicePublicKeys).any (·.trusted) = true := by
    unfold Standing.HasTrustedKey roster standing
    cases Rows.lookup publicKeyKey (record.profile, record.deviceId) db.syncDevicePublicKeys with
    | none => simp
    | some key => simp
  have disjoint : record.recordKind = recordKindRotateDeviceKey →
      ¬(record.recordKind = recordKindEnrollDevice ∨
        record.recordKind = recordKindEnrollProvider) := by
    intro kind
    rw [kind]
    decide
  unfold rejectInvalidSyncAccountMembershipTransition
  rw [syncDevicePublicKey_eq valid, trusted_iff]
  simp only [ok_bind]
  by_cases enrolls : record.recordKind = recordKindEnrollDevice ∨
      record.recordKind = recordKindEnrollProvider
  · rw [if_pos enrolls, check_eq_ok_iff]
    constructor
    · exact fun untrusted => ⟨fun _ => untrusted, fun kind => absurd enrolls (disjoint kind)⟩
    · exact fun admitted => admitted.1 enrolls
  · rw [if_neg enrolls]
    by_cases rotates : record.recordKind = recordKindRotateDeviceKey
    · rw [if_pos rotates]
      cases Rows.lookup publicKeyKey (record.profile, record.deviceId)
          db.syncDevicePublicKeys with
      | none => simp [throw, throwThe, MonadExceptOf.throw, rotates]
      | some key =>
          simp only [check_eq_ok_iff, Option.any_some]
          constructor
          · exact fun trusted => ⟨fun kind => absurd kind enrolls, fun _ => by simpa using trusted⟩
          · exact fun admitted => by simpa using admitted.2 rotates
    · rw [if_neg rotates]
      exact ⟨fun _ => ⟨fun kind => absurd kind enrolls, fun kind => absurd kind rotates⟩,
        fun _ => rfl⟩

end Admission

section Effects

variable {deviceId other otherDevice : String} {membershipEpoch : Int}

/-- What a valid record carries. -/
structure ValidRecord (record : ProfileSyncMembershipRecord) : Prop where
  epoch : 1 ≤ record.membershipEpoch
  recordId : isValidSyncIdentifier record.recordId
  deviceId : isValidSyncIdentifier record.deviceId
  kind : isValidProfileSyncMembershipRecordKind record.recordKind
  installed : installsKey record.recordKind → ∃ publicKey,
    record.devicePublicKey = some publicKey ∧ publicKey.deviceId = record.deviceId
  revokes : ¬installsKey record.recordKind → record.recordKind = recordKindRevokeDevice

theorem validRecord_of_validate {record : ProfileSyncMembershipRecord}
    (valid : validateProfileSyncMembershipRecord record = .ok ()) : ValidRecord record := by
  have carried := fun installs publicKey => @deviceId_of_valid record valid installs publicKey
  unfold validateProfileSyncMembershipRecord at valid
  simp only [check_then_eq_ok_iff] at valid
  obtain ⟨-, epoch, recordId, deviceId, kind, valid⟩ := valid
  refine ⟨by omega, by simpa using recordId, by simpa using deviceId, by simpa using kind, ?_, ?_⟩
  · intro installs
    rw [if_pos installs] at valid
    cases found : record.devicePublicKey with
    | none =>
        rw [found] at valid
        cases valid
    | some publicKey => exact ⟨publicKey, rfl, carried installs publicKey found⟩
  · intro revokes
    rw [if_neg revokes] at valid
    by_cases kind : record.recordKind = recordKindRevokeDevice
    · exact kind
    · rw [if_neg kind] at valid
      cases valid

/-- Seeing a device does not change its standing. -/
theorem standing_recordSyncDeviceRosterEntry :
    (db.recordSyncDeviceRosterEntry profile deviceId membershipEpoch now).standing other
      otherDevice = db.standing other otherDevice := by
  have looked : Rows.lookup deviceKey (other, otherDevice)
      (db.recordSyncDeviceRosterEntry profile deviceId membershipEpoch now).syncDevices =
        if (profile, deviceId) = (other, otherDevice) then _
        else Rows.lookup deviceKey (other, otherDevice) db.syncDevices :=
    Rows.lookup_upsert (fun _ same => same) db.syncDevices
  refine Standing.ext rfl ?_ rfl
  simp only [standing, looked]
  split
  · cases Rows.lookup deviceKey (other, otherDevice) db.syncDevices <;> rfl
  · rfl

/-- Enrolling a device says whether it is a provider. -/
theorem standing_recordSyncDeviceRosterEntryWithProviderAuthority {providerAuthority : Bool} :
    (db.recordSyncDeviceRosterEntryWithProviderAuthority profile deviceId membershipEpoch
      providerAuthority now).standing other otherDevice =
      if (profile, deviceId) = (other, otherDevice) then
        { db.standing other otherDevice with provider := providerAuthority }
      else db.standing other otherDevice := by
  have looked : Rows.lookup deviceKey (other, otherDevice)
      (db.recordSyncDeviceRosterEntryWithProviderAuthority profile deviceId membershipEpoch
        providerAuthority now).syncDevices =
        if (profile, deviceId) = (other, otherDevice) then _
        else Rows.lookup deviceKey (other, otherDevice) db.syncDevices :=
    Rows.lookup_upsert (fun _ same => same) db.syncDevices
  by_cases same : (profile, deviceId) = (other, otherDevice)
  · rw [if_pos same]
    refine Standing.ext rfl ?_ rfl
    simp only [standing, looked]
    rw [if_pos same]
    cases Rows.lookup deviceKey (other, otherDevice) db.syncDevices <;> rfl
  · rw [if_neg same]
    refine Standing.ext rfl ?_ rfl
    simp only [standing, looked]
    rw [if_neg same]

/-- A registered key is the one the device is known by. -/
theorem standing_putSyncDevicePublicKey {registration : SyncDevicePublicKeyRegistration} :
    (db.putSyncDevicePublicKey registration now).standing other otherDevice =
      if (registration.profile, registration.publicKey.deviceId) = (other, otherDevice) then
        { db.standing other otherDevice with
          key := some { publicKey := registration.publicKey
                        membershipEpoch := registration.membershipEpoch, trusted := true } }
      else db.standing other otherDevice := by
  have keepsKey : ∀ existing : SyncDevicePublicKeyRecord,
      publicKeyKey existing = (registration.profile, registration.publicKey.deviceId) →
      (existing.profile, registration.publicKey.deviceId) =
        (registration.profile, registration.publicKey.deviceId) := by
    intro existing same
    have ofProfile : existing.profile = registration.profile := congrArg Prod.fst same
    rw [ofProfile]
  have looked : Rows.lookup publicKeyKey (other, otherDevice)
      (db.putSyncDevicePublicKey registration now).syncDevicePublicKeys =
        if (registration.profile, registration.publicKey.deviceId) = (other, otherDevice) then _
        else Rows.lookup publicKeyKey (other, otherDevice) db.syncDevicePublicKeys :=
    Rows.lookup_upsert keepsKey db.syncDevicePublicKeys
  by_cases same : (registration.profile, registration.publicKey.deviceId) = (other, otherDevice)
  · rw [if_pos same]
    refine Standing.ext ?_ rfl rfl
    simp only [standing, looked]
    rw [if_pos same]
    cases Rows.lookup publicKeyKey (other, otherDevice) db.syncDevicePublicKeys <;> rfl
  · rw [if_neg same]
    refine Standing.ext ?_ rfl rfl
    simp only [standing, looked]
    rw [if_neg same]

/-- Distrusting a device keeps the key it is known by. -/
theorem standing_putSyncDevicePublicKeyTrusted :
    (db.putSyncDevicePublicKeyTrusted profile deviceId false now).standing other otherDevice =
      if (profile, deviceId) = (other, otherDevice) then
        { db.standing other otherDevice with
          key := (db.standing other otherDevice).key.map fun key => { key with trusted := false } }
      else db.standing other otherDevice := by
  have looked : Rows.lookup publicKeyKey (other, otherDevice)
      (db.putSyncDevicePublicKeyTrusted profile deviceId false now).syncDevicePublicKeys = _ :=
    Rows.lookup_map (fun row => by split <;> rfl) db.syncDevicePublicKeys
  cases found : Rows.lookup publicKeyKey (other, otherDevice) db.syncDevicePublicKeys with
  | none =>
      rw [found] at looked
      have unknown : (db.standing other otherDevice).key = none := by
        rw [standing, found]
        rfl
      refine Standing.ext ?_ (by split <;> rfl) (by split <;> rfl)
      rw [standing, looked]
      split
      · rw [unknown]
        rfl
      · rw [unknown]
        rfl
  | some record =>
      have own : publicKeyKey record = (other, otherDevice) := (Rows.mem_of_lookup found).2
      rw [found, Option.map_some, own] at looked
      refine Standing.ext ?_ (by split <;> rfl) (by split <;> rfl)
      simp only [standing, looked]
      by_cases same : (other, otherDevice) = (profile, deviceId)
      · rw [if_pos same, if_pos same.symm]
        simp only [found]
        rfl
      · rw [if_neg same, if_neg (fun h => same h.symm)]
        simp only [found]

theorem registerSyncDevicePublicKey_of_valid {registration : SyncDevicePublicKeyRegistration}
    (valid : isValidSyncIdentifier registration.publicKey.deviceId) :
    ∃ key, db.registerSyncDevicePublicKey registration now =
      .ok (key, (db.putSyncDevicePublicKey registration now).recordSyncDeviceRosterEntry
        registration.profile registration.publicKey.deviceId registration.membershipEpoch
          now) := by
  have known : (((db.putSyncDevicePublicKey registration now).recordSyncDeviceRosterEntry
      registration.profile registration.publicKey.deviceId registration.membershipEpoch
        now).standing registration.profile registration.publicKey.deviceId).key =
          some ⟨registration.publicKey, registration.membershipEpoch, true⟩ := by
    rw [standing_recordSyncDeviceRosterEntry, standing_putSyncDevicePublicKey, if_pos rfl]
  obtain ⟨key, found, -⟩ := Option.map_eq_some_iff.mp known
  refine ⟨key, ?_⟩
  unfold registerSyncDevicePublicKey
  simp only [valid, Bool.not_true, Bool.false_eq_true, if_false]
  rw [syncDevicePublicKey_eq valid, found]
  rfl

/-- A valid record installs its key, or distrusts the key of its device. -/
theorem applyMembershipKey_of_valid {record : ProfileSyncMembershipRecord}
    (valid : ValidRecord record) :
    ∃ deviceKey keyed, db.applyMembershipKey record now = .ok (deviceKey, keyed) ∧
      ∀ other otherDevice, keyed.standing other otherDevice =
        if (record.profile, record.deviceId) = (other, otherDevice) then
          { db.standing other otherDevice with
            key := ((db.standing other otherDevice).after record).key }
        else db.standing other otherDevice := by
  unfold applyMembershipKey
  by_cases installs : installsKey record.recordKind
  · obtain ⟨publicKey, carried, ofDevice⟩ := valid.installed installs
    obtain ⟨key, registered⟩ := @registerSyncDevicePublicKey_of_valid db now
      ⟨record.profile, publicKey, record.membershipEpoch⟩ (by rw [ofDevice]; exact valid.deviceId)
    rw [if_pos installs, carried]
    simp only [registered, ok_bind]
    refine ⟨_, _, rfl, fun other otherDevice => ?_⟩
    rw [standing_recordSyncDeviceRosterEntry, standing_putSyncDevicePublicKey]
    simp only [ofDevice, Standing.after, if_pos installs, carried, Option.map_some]
  · rw [if_neg installs, if_pos (valid.revokes installs)]
    unfold setSyncDevicePublicKeyTrusted
    simp only [valid.deviceId, Bool.not_true, Bool.false_eq_true, if_false]
    rw [syncDevicePublicKey_eq valid.deviceId]
    refine ⟨_, _, rfl, fun other otherDevice => ?_⟩
    rw [standing_putSyncDevicePublicKeyTrusted]
    simp only [Standing.after, if_neg installs]

theorem standing_recordSyncMembershipDevice {record : ProfileSyncMembershipRecord} :
    (db.recordSyncMembershipDevice record now).standing other otherDevice =
      if (record.profile, record.deviceId) = (other, otherDevice) then
        { db.standing other otherDevice with
          provider := ((db.standing other otherDevice).after record).provider }
      else db.standing other otherDevice := by
  unfold recordSyncMembershipDevice
  by_cases enrolls : record.recordKind = recordKindEnrollDevice
  · rw [if_pos enrolls, standing_recordSyncDeviceRosterEntryWithProviderAuthority]
    simp only [Standing.after, if_pos enrolls]
  · rw [if_neg enrolls]
    by_cases provider : record.recordKind = recordKindEnrollProvider
    · rw [if_pos provider, standing_recordSyncDeviceRosterEntryWithProviderAuthority]
      simp only [Standing.after, if_neg enrolls, if_pos provider]
    · rw [if_neg provider, standing_recordSyncDeviceRosterEntry]
      simp only [Standing.after, if_neg enrolls, if_neg provider, ite_self]

theorem storedRecord_insert {registration : SyncAccountMembershipRecordRegistration}
    {recordId : String} :
    (db.insertSyncAccountMembershipRecord registration now).storedRecord other recordId =
      if (registration.profile, registration.recordId) = (other, recordId) then
        some ((db.storedRecord other recordId).getD
          { profile := registration.profile, recordId := registration.recordId
            membershipEpoch := registration.membershipEpoch
            recordKind := registration.recordKind, deviceId := registration.deviceId
            signerDeviceId := registration.signerDeviceId
            signedRecord := registration.signedRecord, createdAt := now, appliedAt := none })
      else db.storedRecord other recordId := by
  have looked : (db.insertSyncAccountMembershipRecord registration now).storedRecord other
      recordId =
        if (registration.profile, registration.recordId) = (other, recordId) then _
        else db.storedRecord other recordId :=
    Rows.lookup_upsert (fun _ same => same) db.syncAccountMembershipRecords
  rw [looked]
  split
  · cases found : db.storedRecord other recordId with
    | none =>
        rw [storedRecord] at found
        rw [found]
        rfl
    | some row =>
        rw [storedRecord] at found
        rw [found]
        rfl
  · rfl

theorem storedRecord_putApplied {recordId otherId : String} :
    (db.putSyncAccountMembershipRecordApplied profile recordId now).storedRecord other otherId =
      if (profile, recordId) = (other, otherId) then
        (db.storedRecord other otherId).map fun row =>
          { row with appliedAt := some (row.appliedAt.getD now) }
      else db.storedRecord other otherId := by
  have looked : (db.putSyncAccountMembershipRecordApplied profile recordId now).storedRecord
      other otherId = _ :=
    Rows.lookup_map (fun row => by split <;> rfl) db.syncAccountMembershipRecords
  rw [looked]
  cases found : Rows.lookup membershipRecordKey (other, otherId)
      db.syncAccountMembershipRecords with
  | none => simp [storedRecord, found]
  | some row =>
      have own : membershipRecordKey row = (other, otherId) := (Rows.mem_of_lookup found).2
      rw [Option.map_some, own, storedRecord, found]
      by_cases same : (profile, recordId) = (other, otherId)
      · rw [if_pos same, if_pos same.symm]
        rfl
      · rw [if_neg same, if_neg (fun h => same h.symm)]

end Effects

section Application

/-- The record was never applied and its id is not taken by other bytes. -/
def Untaken (decoded : DecodedMembershipRecord) (db : SlateProfileDatabase) : Prop :=
  ∀ row, db.storedRecord decoded.record.profile decoded.record.recordId = some row →
    row.signedRecord = decoded.signedRecord ∧ row.appliedAt = none

/-- The record was applied before. -/
def Taken (decoded : DecodedMembershipRecord) (db : SlateProfileDatabase) : Prop :=
  ∃ row, db.storedRecord decoded.record.profile decoded.record.recordId = some row ∧
    row.signedRecord = decoded.signedRecord ∧ row.appliedAt.isSome

/-- What applying a record leaves. -/
structure RecordApplied (scheme : SyncObjectScheme) (decoded : DecodedMembershipRecord)
    (db next : SlateProfileDatabase) : Prop where
  roster : next.roster decoded.record.profile = (db.roster decoded.record.profile).after decoded
  otherRosters : ∀ other, other ≠ decoded.record.profile → next.roster other = db.roster other
  wellStored : WellStored scheme next
  row : ∃ createdAt appliedAt,
    next.storedRecord decoded.record.profile decoded.record.recordId =
      some (decoded.row createdAt (some appliedAt))
  otherRows : ∀ other recordId,
    (decoded.record.profile, decoded.record.recordId) ≠ (other, recordId) →
    next.storedRecord other recordId = db.storedRecord other recordId

/-- A row is the row of the record that its bytes decode to. -/
theorem exists_row_of_bytes (wellStored : WellStored scheme db)
    (decodes : decoded.Decodes scheme) {row : SyncAccountMembershipRecord}
    (membership : row ∈ db.syncAccountMembershipRecords)
    (sameBytes : row.signedRecord = decoded.signedRecord) :
    ∃ createdAt appliedAt, row = decoded.row createdAt appliedAt := by
  obtain ⟨stored, createdAt, appliedAt, storedDecodes, -, rfl⟩ := wellStored.rows row membership
  obtain ⟨signedRecord, signedObject, record⟩ := stored
  obtain ⟨signedRecord', signedObject', record'⟩ := decoded
  obtain rfl : signedRecord = signedRecord' := sameBytes
  obtain ⟨rfl, rfl⟩ := Prod.mk.inj (Except.ok.inj (storedDecodes.symm.trans decodes))
  exact ⟨createdAt, appliedAt, rfl⟩

/-- The epochs of a device after one of its records was marked as applied. -/
theorem epochs_of_rows (untaken : Untaken decoded db)
    (row : ∃ createdAt appliedAt,
      next.storedRecord decoded.record.profile decoded.record.recordId =
        some (decoded.row createdAt (some appliedAt)))
    (otherRows : ∀ other recordId,
      (decoded.record.profile, decoded.record.recordId) ≠ (other, recordId) →
      next.storedRecord other recordId = db.storedRecord other recordId)
    (other otherDevice : String) :
    (next.standing other otherDevice).epochs =
      if (decoded.record.profile, decoded.record.deviceId) = (other, otherDevice) then
        insert decoded.record.membershipEpoch (db.standing other otherDevice).epochs
      else (db.standing other otherDevice).epochs := by
  obtain ⟨createdAt, appliedAt, own⟩ := row
  have mem_iff : ∀ epoch, epoch ∈ (next.standing other otherDevice).epochs ↔
      ((decoded.record.profile, decoded.record.deviceId) = (other, otherDevice) ∧
        epoch = decoded.record.membershipEpoch) ∨
      epoch ∈ (db.standing other otherDevice).epochs := by
    intro epoch
    simp only [standing, Set.mem_ofPred_eq]
    constructor
    · rintro ⟨recordId, found, stored, ofDevice, isApplied, sameEpoch⟩
      by_cases same : (decoded.record.profile, decoded.record.recordId) = (other, recordId)
      · obtain ⟨rfl, rfl⟩ := Prod.mk.inj same
        rw [own] at stored
        cases stored
        exact .inl ⟨congrArg _ ofDevice, sameEpoch.symm⟩
      · rw [otherRows other recordId same] at stored
        exact .inr ⟨recordId, found, stored, ofDevice, isApplied, sameEpoch⟩
    · rintro (⟨same, rfl⟩ | ⟨recordId, found, stored, ofDevice, isApplied, sameEpoch⟩)
      · obtain ⟨rfl, rfl⟩ := Prod.mk.inj same
        exact ⟨_, _, own, rfl, rfl, rfl⟩
      · have different : (decoded.record.profile, decoded.record.recordId) ≠
            (other, recordId) := by
          intro same
          obtain ⟨rfl, rfl⟩ := Prod.mk.inj same
          rw [(untaken found stored).2] at isApplied
          cases isApplied
        rw [← otherRows other recordId different] at stored
        exact ⟨recordId, found, stored, ofDevice, isApplied, sameEpoch⟩
  ext epoch
  rw [mem_iff]
  split
  next same => simp [same]
  next different => simp [different]

theorem wellStored_of_storedRecord
    (unique : Rows.UniqueKeys membershipRecordKey db.syncAccountMembershipRecords)
    (rows : ∀ profile recordId row, db.storedRecord profile recordId = some row →
      ∃ (decoded : DecodedMembershipRecord) (createdAt : Int) (appliedAt : Option Int),
        decoded.Decodes scheme ∧ decoded.signedRecord ≠ [] ∧
          row = decoded.row createdAt appliedAt) : WellStored scheme db where
  unique := unique
  rows row membership :=
    rows row.profile row.recordId row
      ((Rows.lookup_eq_some_iff unique).mpr ⟨membership, rfl⟩)

theorem storedRecord_inserted (wellStored : WellStored scheme db)
    (decodes : decoded.Decodes scheme)
    (sameBytes : ∀ row, db.storedRecord decoded.record.profile decoded.record.recordId =
      some row → row.signedRecord = decoded.signedRecord) :
    ∃ createdAt appliedAt,
      (db.insertSyncAccountMembershipRecord decoded.registration now).storedRecord
        decoded.record.profile decoded.record.recordId =
          some (decoded.row createdAt appliedAt) := by
  have looked : (db.insertSyncAccountMembershipRecord decoded.registration now).storedRecord
      decoded.record.profile decoded.record.recordId =
        some ((db.storedRecord decoded.record.profile decoded.record.recordId).getD
          (decoded.row now none)) :=
    storedRecord_insert.trans (if_pos rfl)
  rw [looked]
  cases found : db.storedRecord decoded.record.profile decoded.record.recordId with
  | none => exact ⟨now, none, rfl⟩
  | some row =>
      obtain ⟨createdAt, appliedAt, rfl⟩ := exists_row_of_bytes wellStored decodes
        ((storedRecord_eq_some_iff wellStored).mp found).1 (sameBytes row found)
      exact ⟨createdAt, appliedAt, rfl⟩

/-- The standing of every device after a record was applied. -/
theorem standing_applyNew {bootstrapped : Bool}
    {application : SyncAccountMembershipRecordApplication}
    (valid : ValidRecord decoded.record)
    (h : db.applyNewSyncAccountMembershipRecord decoded bootstrapped now =
      .ok (application, next)) (other otherDevice : String) :
    (next.standing other otherDevice).key =
        (if (decoded.record.profile, decoded.record.deviceId) = (other, otherDevice) then
          ((db.standing other otherDevice).after decoded.record).key
        else (db.standing other otherDevice).key) ∧
      (next.standing other otherDevice).provider =
        if (decoded.record.profile, decoded.record.deviceId) = (other, otherDevice) then
          ((db.standing other otherDevice).after decoded.record).provider
        else (db.standing other otherDevice).provider := by
  obtain ⟨-, -, -, -, row, deviceKey, keyed, -, -, keyApplied, rfl⟩ :=
    applyNewSyncAccountMembershipRecord_stages h
  obtain ⟨expectedKey, expected, applied, standings⟩ := @applyMembershipKey_of_valid
    (db.insertSyncAccountMembershipRecord decoded.registration now) now decoded.record valid
  obtain ⟨-, rfl⟩ := ok_pair_inj (applied.symm.trans keyApplied)
  -- Storing and marking the row touches neither the keys nor the roster entries.
  have keyOf : ∀ (start : SlateProfileDatabase) profile recordId,
      ((start.putSyncAccountMembershipRecordApplied profile recordId now).standing other
        otherDevice).key = (start.standing other otherDevice).key := fun _ _ _ => rfl
  have providerOf : ∀ (start : SlateProfileDatabase) profile recordId,
      ((start.putSyncAccountMembershipRecordApplied profile recordId now).standing other
        otherDevice).provider = (start.standing other otherDevice).provider :=
    fun _ _ _ => rfl
  rw [keyOf, providerOf, standing_recordSyncMembershipDevice, standings]
  by_cases same : (decoded.record.profile, decoded.record.deviceId) = (other, otherDevice)
  · simp only [if_pos same]
    exact ⟨rfl, rfl⟩
  · simp only [if_neg same]
    exact ⟨rfl, rfl⟩

theorem nonempty_of_applyNew {bootstrapped : Bool}
    {application : SyncAccountMembershipRecordApplication}
    (h : db.applyNewSyncAccountMembershipRecord decoded bootstrapped now =
      .ok (application, next)) : decoded.signedRecord ≠ [] := by
  obtain ⟨_, -, h⟩ := bind_eq_ok_iff.mp h
  obtain ⟨_, -, h⟩ := bind_eq_ok_iff.mp h
  obtain ⟨_, recorded, -⟩ := bind_eq_ok_iff.mp h
  obtain ⟨_, valid, -⟩ := bind_eq_ok_iff.mp recorded
  unfold validateSyncAccountMembershipRegistration at valid
  simp only [check_then_eq_ok_iff, check_eq_ok_iff] at valid
  exact valid.2.2.2.2.2

/-- The rows after a record was applied. -/
theorem rows_applyNew {bootstrapped : Bool}
    {application : SyncAccountMembershipRecordApplication} (wellStored : WellStored scheme db)
    (decodes : decoded.Decodes scheme) (untaken : Untaken decoded db)
    (h : db.applyNewSyncAccountMembershipRecord decoded bootstrapped now =
      .ok (application, next)) :
    (∃ createdAt appliedAt,
      next.storedRecord decoded.record.profile decoded.record.recordId =
        some (decoded.row createdAt (some appliedAt))) ∧
      (∀ other recordId,
        (decoded.record.profile, decoded.record.recordId) ≠ (other, recordId) →
        next.storedRecord other recordId = db.storedRecord other recordId) ∧
      Rows.UniqueKeys membershipRecordKey next.syncAccountMembershipRecords := by
  obtain ⟨-, -, -, -, row, deviceKey, keyed, lookup, -, keyApplied, nextEq⟩ :=
    applyNewSyncAccountMembershipRecord_stages h
  obtain ⟨rowProfile, rowId⟩ := Prod.mk.inj (Rows.mem_of_lookup lookup).2
  have sameRecords : next.syncAccountMembershipRecords =
      ((db.insertSyncAccountMembershipRecord decoded.registration now
        ).putSyncAccountMembershipRecordApplied decoded.record.profile decoded.record.recordId
          now).syncAccountMembershipRecords := by
    rw [nextEq, ← rowProfile, ← rowId]
    exact syncAccountMembershipRecords_of_stages keyApplied
  have stored : ∀ other recordId, next.storedRecord other recordId =
      if (decoded.record.profile, decoded.record.recordId) = (other, recordId) then
        ((db.insertSyncAccountMembershipRecord decoded.registration now).storedRecord other
          recordId).map fun row => { row with appliedAt := some (row.appliedAt.getD now) }
      else (db.insertSyncAccountMembershipRecord decoded.registration now).storedRecord other
        recordId := by
    intro other recordId
    rw [storedRecord, sameRecords]
    exact storedRecord_putApplied
  refine ⟨?_, ?_, ?_⟩
  · obtain ⟨createdAt, appliedAt, inserted⟩ := @storedRecord_inserted _ db decoded now wellStored
      decodes (fun row found => (untaken row found).1)
    rw [stored, if_pos rfl, inserted]
    exact ⟨createdAt, appliedAt.getD now, rfl⟩
  · intro other recordId different
    rw [stored, if_neg different]
    exact storedRecord_insert.trans (if_neg different)
  · rw [sameRecords]
    apply Rows.uniqueKeys_map (fun row => by split <;> rfl)
    exact Rows.uniqueKeys_upsert (fun _ same => same) wellStored.unique

theorem recordApplied_of_applyNew {bootstrapped : Bool}
    {application : SyncAccountMembershipRecordApplication} (wellStored : WellStored scheme db)
    (decodes : decoded.Decodes scheme) (untaken : Untaken decoded db)
    (h : db.applyNewSyncAccountMembershipRecord decoded bootstrapped now =
      .ok (application, next)) :
    RecordApplied scheme decoded db next := by
  have parts := standing_applyNew (validRecord_of_validate decodes.checked.valid) h
  obtain ⟨own, others, unique⟩ := rows_applyNew wellStored decodes untaken h
  have epochs := epochs_of_rows untaken own others
  -- A device that the record is not about keeps its standing.
  have kept : ∀ other deviceId,
      (decoded.record.profile, decoded.record.deviceId) ≠ (other, deviceId) →
      next.standing other deviceId = db.standing other deviceId := by
    intro other deviceId different
    obtain ⟨key, provider⟩ := parts other deviceId
    have epochsOf := epochs other deviceId
    rw [if_neg different] at key provider epochsOf
    exact Standing.ext key provider epochsOf
  have changed : next.standing decoded.record.profile decoded.record.deviceId =
      (db.standing decoded.record.profile decoded.record.deviceId).after decoded.record := by
    obtain ⟨key, provider⟩ := parts decoded.record.profile decoded.record.deviceId
    have epochsOf := epochs decoded.record.profile decoded.record.deviceId
    rw [if_pos rfl] at key provider epochsOf
    exact Standing.ext key provider epochsOf
  refine ⟨?_, ?_, ?_, own, others⟩
  · funext deviceId
    by_cases same : decoded.record.deviceId = deviceId
    · rw [← same]
      rw [Roster.after_self]
      exact changed
    · have different : (decoded.record.profile, decoded.record.deviceId) ≠
          (decoded.record.profile, deviceId) := fun h => same (Prod.mk.inj h).2
      rw [Roster.after_of_ne same]
      exact kept _ _ different
  · intro other otherProfile
    funext deviceId
    exact kept other deviceId fun h => otherProfile (Prod.mk.inj h).1.symm
  · refine wellStored_of_storedRecord unique fun other recordId row stored => ?_
    by_cases same : (decoded.record.profile, decoded.record.recordId) = (other, recordId)
    · obtain ⟨rfl, rfl⟩ := Prod.mk.inj same
      obtain ⟨createdAt, appliedAt, found⟩ := own
      obtain rfl := Option.some.inj (found.symm.trans stored)
      exact ⟨decoded, createdAt, some appliedAt, decodes, nonempty_of_applyNew h, rfl⟩
    · rw [others other recordId same] at stored
      exact wellStored.rows row ((storedRecord_eq_some_iff wellStored).mp stored).1

/-- A record that is admitted and whose id is free can be applied. -/
theorem exists_applyNew {bootstrapped : Bool} (wellStored : WellStored scheme db)
    (decodes : decoded.Decodes scheme) (nonempty : decoded.signedRecord ≠ [])
    (sameBytes : ∀ row, db.storedRecord decoded.record.profile decoded.record.recordId =
      some row → row.signedRecord = decoded.signedRecord)
    (admits : (db.roster decoded.record.profile decoded.record.deviceId).Admits
      decoded.record) :
    ∃ application next, db.applyNewSyncAccountMembershipRecord decoded bootstrapped now =
      .ok (application, next) := by
  have checked := decodes.checked
  have valid := validRecord_of_validate checked.valid
  have notStale : db.rejectStaleSyncAccountMembershipRecord decoded.record = .ok () := by
    rw [rejectStaleSyncAccountMembershipRecord_iff valid.deviceId]
    intro row membership
    exact admits.newer _ ((mem_epochs_iff wellStored).mpr ⟨row, membership, rfl⟩)
  have transition : db.rejectInvalidSyncAccountMembershipTransition decoded.record = .ok () :=
    (rejectInvalidSyncAccountMembershipTransition_iff valid.deviceId).mpr
      ⟨admits.enrolls, admits.rotates⟩
  have registered : validateSyncAccountMembershipRegistration decoded.registration = .ok () := by
    unfold validateSyncAccountMembershipRegistration
    rw [check_then_eq_ok_iff, check_then_eq_ok_iff, check_then_eq_ok_iff, check_then_eq_ok_iff,
      check_then_eq_ok_iff, check_eq_ok_iff]
    simpa [DecodedMembershipRecord.registration, valid.recordId, valid.kind, valid.deviceId,
      checked.signer, nonempty] using valid.epoch
  obtain ⟨createdAt, appliedAt, inserted⟩ := @storedRecord_inserted _ db decoded now wellStored
    decodes sameBytes
  have recorded : db.recordSyncAccountMembershipRecord decoded.registration now =
      .ok (decoded.row createdAt appliedAt,
        db.insertSyncAccountMembershipRecord decoded.registration now) := by
    have looked : (db.insertSyncAccountMembershipRecord decoded.registration now
        ).syncAccountMembershipRecord decoded.record.profile decoded.record.recordId =
          .ok (some (decoded.row createdAt appliedAt)) := by
      rw [syncAccountMembershipRecord, if_pos valid.recordId]
      exact congrArg Except.ok inserted
    unfold recordSyncAccountMembershipRecord
    rw [registered, ok_bind]
    simp only [DecodedMembershipRecord.registration] at looked ⊢
    rw [looked]
    simp [DecodedMembershipRecord.row]
    rfl
  obtain ⟨deviceKey, keyed, keyApplied, -⟩ := @applyMembershipKey_of_valid
    (db.insertSyncAccountMembershipRecord decoded.registration now) now decoded.record valid
  have sameRecords : (keyed.recordSyncMembershipDevice decoded.record now
      ).syncAccountMembershipRecords = (db.insertSyncAccountMembershipRecord
        decoded.registration now).syncAccountMembershipRecords :=
    tables_recordSyncMembershipDevice.2.trans (applyMembershipKey_eq_ok keyApplied).2.1
  have marked : ((keyed.recordSyncMembershipDevice decoded.record now
      ).putSyncAccountMembershipRecordApplied decoded.record.profile decoded.record.recordId
        now).storedRecord decoded.record.profile decoded.record.recordId =
          some (decoded.row createdAt (some (appliedAt.getD now))) := by
    rw [storedRecord_putApplied, if_pos rfl, storedRecord, sameRecords]
    exact congrArg (Option.map _) inserted
  unfold applyNewSyncAccountMembershipRecord markSyncAccountMembershipRecordApplied
  simp only [notStale, transition, recorded, ok_bind, keyApplied, DecodedMembershipRecord.row]
  rw [syncAccountMembershipRecord, if_pos valid.recordId]
  rw [storedRecord] at marked
  rw [marked]
  exact ⟨_, _, rfl⟩

theorem admits_of_applyNew {bootstrapped : Bool}
    {application : SyncAccountMembershipRecordApplication} (wellStored : WellStored scheme db)
    (decodes : decoded.Decodes scheme)
    (h : db.applyNewSyncAccountMembershipRecord decoded bootstrapped now =
      .ok (application, next)) :
    (db.roster decoded.record.profile decoded.record.deviceId).Admits decoded.record := by
  have valid := validRecord_of_validate decodes.checked.valid
  obtain ⟨-, -, notStale, transition, -⟩ := applyNewSyncAccountMembershipRecord_stages h
  obtain ⟨enrolls, rotates⟩ :=
    (rejectInvalidSyncAccountMembershipTransition_iff valid.deviceId).mp transition
  refine ⟨fun epoch applied => ?_, enrolls, rotates⟩
  obtain ⟨row, membership, rfl⟩ := (mem_epochs_iff wellStored).mp applied
  exact epoch_lt_of_not_stale notStale membership

/-- A handled record was authorized; it had been applied before and changes nothing, or it
is admitted and applied now. -/
theorem applyDecoded_outcome {application : SyncAccountMembershipRecordApplication}
    (wellStored : WellStored scheme db) (decodes : decoded.Decodes scheme)
    (h : db.applyDecodedSyncAccountMembershipRecord scheme decoded now =
      .ok (application, next)) :
    (db.roster decoded.record.profile).Authorizes scheme decoded ∧
      ((application.applied = false ∧ next = db ∧ Taken decoded db) ∨
        (application.applied = true ∧ Untaken decoded db ∧
          (db.roster decoded.record.profile decoded.record.deviceId).Admits decoded.record ∧
          RecordApplied scheme decoded db next)) := by
  have valid := validRecord_of_validate decodes.checked.valid
  obtain ⟨bootstrapped, authorized, h⟩ := bind_eq_ok_iff.mp h
  refine ⟨(authorizeSyncAccountMembershipRecord_iff decodes.checked).mp ⟨_, authorized⟩, ?_⟩
  rw [syncAccountMembershipRecord, if_pos valid.recordId, ok_bind] at h
  cases found : db.storedRecord decoded.record.profile decoded.record.recordId with
  | none =>
      rw [storedRecord] at found
      rw [found] at h
      have untaken : Untaken decoded db := by
        intro row stored
        rw [storedRecord, found] at stored
        cases stored
      exact .inr ⟨(applyNewSyncAccountMembershipRecord_eq_ok h).2.1, untaken,
        admits_of_applyNew wellStored decodes h,
        recordApplied_of_applyNew wellStored decodes untaken h⟩
  | some existing =>
      have stored := found
      rw [storedRecord] at found
      rw [found] at h
      simp only at h
      split at h
      · cases h
      next sameBytes =>
        split at h
        next isApplied =>
          obtain ⟨deviceKey, -, h⟩ := bind_eq_ok_iff.mp h
          obtain ⟨rfl, rfl⟩ := ok_pair_inj h
          exact .inl ⟨rfl, rfl, existing, stored, not_not.mp sameBytes, isApplied⟩
        next unapplied =>
          have untaken : Untaken decoded db := by
            intro row rowStored
            obtain rfl := Option.some.inj (stored.symm.trans rowStored)
            exact ⟨not_not.mp sameBytes, by simpa using unapplied⟩
          exact .inr ⟨(applyNewSyncAccountMembershipRecord_eq_ok h).2.1, untaken,
            admits_of_applyNew wellStored decodes h,
            recordApplied_of_applyNew wellStored decodes untaken h⟩

/-- An authorized record that was applied before is handled without a change. -/
theorem exists_applyDecoded_of_taken (wellStored : WellStored scheme db)
    (decodes : decoded.Decodes scheme)
    (authorized : (db.roster decoded.record.profile).Authorizes scheme decoded)
    (taken : Taken decoded db) :
    ∃ application, db.applyDecodedSyncAccountMembershipRecord scheme decoded now =
      .ok (application, db) ∧ application.applied = false := by
  have valid := validRecord_of_validate decodes.checked.valid
  obtain ⟨bootstrapped, authorized⟩ :=
    (authorizeSyncAccountMembershipRecord_iff decodes.checked).mpr authorized
  obtain ⟨row, stored, sameBytes, isApplied⟩ := taken
  have validDevice : isValidSyncIdentifier row.deviceId := by
    obtain ⟨createdAt, appliedAt, rfl⟩ := exists_row_of_bytes wellStored decodes
      ((storedRecord_eq_some_iff wellStored).mp stored).1 sameBytes
    exact valid.deviceId
  unfold applyDecodedSyncAccountMembershipRecord
  rw [authorized, ok_bind, syncAccountMembershipRecord, if_pos valid.recordId, ok_bind]
  rw [storedRecord] at stored
  rw [stored]
  simp only
  rw [if_neg (not_not.mpr sameBytes), if_pos isApplied, syncDevicePublicKey_eq validDevice]
  exact ⟨_, rfl, rfl⟩

/-- An authorized and admitted record that was never applied is applied. -/
theorem exists_applyDecoded_of_untaken (wellStored : WellStored scheme db)
    (decodes : decoded.Decodes scheme) (nonempty : decoded.signedRecord ≠ [])
    (authorized : (db.roster decoded.record.profile).Authorizes scheme decoded)
    (admits : (db.roster decoded.record.profile decoded.record.deviceId).Admits decoded.record)
    (untaken : Untaken decoded db) :
    ∃ application next, db.applyDecodedSyncAccountMembershipRecord scheme decoded now =
      .ok (application, next) := by
  have valid := validRecord_of_validate decodes.checked.valid
  obtain ⟨bootstrapped, authorized⟩ :=
    (authorizeSyncAccountMembershipRecord_iff decodes.checked).mpr authorized
  obtain ⟨application, next, applied⟩ := @exists_applyNew _ db decoded now bootstrapped
    wellStored decodes nonempty (fun row stored => (untaken row stored).1) admits
  refine ⟨application, next, ?_⟩
  unfold applyDecodedSyncAccountMembershipRecord
  rw [authorized, ok_bind, syncAccountMembershipRecord, if_pos valid.recordId, ok_bind]
  cases found : Rows.lookup membershipRecordKey
      (decoded.record.profile, decoded.record.recordId) db.syncAccountMembershipRecords with
  | none => exact applied
  | some existing =>
      obtain ⟨sameBytes, unapplied⟩ := untaken existing found
      simp only
      rw [if_neg (not_not.mpr sameBytes), unapplied]
      exact applied

end Application

end SlateProfileDatabase

end Slate.Storage
