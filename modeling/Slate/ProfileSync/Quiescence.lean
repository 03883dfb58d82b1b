import Slate.ProfileSync.Ledger
import Slate.Storage.LastWriterWins

/-!
# Receiving twice

A reception goes over the heads of the trusted devices. Each head that is not stale stores
two roots: the head root of its device and the settings root its manifest names. The second
is shared, so a later head takes it over, and the next reception finds the earlier head
changed and applies it again.
-/

namespace Slate.ProfileSync

open Slate.Foundation Slate.Storage
open Slate.Storage.SlateProfileDatabase

variable {codec : SyncPayloadCodec} {scheme : SyncObjectScheme} {profile : String}
  {contentKey : List Nat} {keyId : String} {store : ObjectStore} {now : Int}
  {db next : SlateProfileDatabase}

/-- A device that reports this was left alone. -/
def BroadwebdTrustedDeviceHeadSyncStatus.Quiet : BroadwebdTrustedDeviceHeadSyncStatus → Prop
  | .noPublishedRoot .. => True
  | .unchanged .. => True
  | .stale .. => True
  | .applied .. => False

section Step

/-- A device left alone comes with no write. -/
theorem eq_of_quiet {rootId : String} {status : BroadwebdTrustedDeviceHeadSyncStatus}
    (h : pullRecordAndApplyTrustedSettingsFromDeviceHead codec scheme profile rootId contentKey
      keyId store now db = .ok (status, next)) (quiet : status.Quiet) : next = db := by
  rcases pullRecordAndApply_cases h with ⟨same, -⟩ | ⟨head, localHead, -, -, rest⟩
  · exact same
  · rcases rest with ⟨same, -⟩ | ⟨-, objects, settingsRoot, -, -, rest⟩
    · exact same
    · rcases rest with ⟨same, -⟩ | ⟨application, rfl, -⟩
      · exact same
      · exact quiet.elim

/-- A head is left alone if it is missing, stale, or stored with its manifest. -/
theorem pullRecordAndApply_quiet_iff {rootId : String} (nonempty : rootId ≠ "") :
    (∃ status, pullRecordAndApplyTrustedSettingsFromDeviceHead codec scheme profile rootId
        contentKey keyId store now db = .ok (status, db) ∧ status.Quiet) ↔
      ∃ found, db.pullTrustedSignedProfileSyncDeviceHead scheme (store.source scheme) profile
          rootId contentKey keyId = .ok found ∧
        ∀ head, found = some head →
          (ledger profile db).Stale rootId head ∨
          ∃ objects, db.pullTrustedSignedProfileSyncSettingsManifestObjectsFromDeviceHead scheme
              (store.source scheme) profile head contentKey keyId = .ok objects ∧
            (ledger profile db).Holds rootId head objects := by
  have stored : db.profileSyncRoot profile rootId = .ok (db.storedRoot profile rootId) :=
    profileSyncRoot_eq_ok_iff.mpr ⟨nonempty, rfl⟩
  constructor
  · rintro ⟨status, h, quiet⟩
    rcases pullRecordAndApply_cases h with ⟨-, -, pulled⟩ | ⟨head, localHead, pulled, isLocal, rest⟩
    · exact ⟨none, pulled, by simp⟩
    · refine ⟨some head, pulled, ?_⟩
      rintro _ ⟨⟩
      obtain ⟨-, rfl⟩ := profileSyncRoot_eq_ok_iff.mp isLocal
      rcases rest with ⟨-, current, stale, -⟩ | ⟨-, objects, settingsRoot, opened, isRoot, rest⟩
      · exact .inl (stale_ledger_iff.mpr ⟨current, stale⟩)
      · rcases rest with ⟨-, -, sameHead, sameRoot⟩ | ⟨application, rfl, -⟩
        · obtain ⟨-, rfl⟩ := profileSyncRoot_eq_ok_iff.mp isRoot
          exact .inr ⟨objects, opened, sameHead, sameRoot⟩
        · exact quiet.elim
  · rintro ⟨found, pulled, settled⟩
    unfold pullRecordAndApplyTrustedSettingsFromDeviceHead
    rw [pulled, mapError_ok, ok_bind]
    cases found with
    | none => exact ⟨_, rfl, trivial⟩
    | some head =>
        simp only [stored, mapError_ok, ok_bind]
        cases stale : staleDeviceSequence profile (db.storedRoot profile rootId) head db with
        | some current => exact ⟨_, rfl, trivial⟩
        | none =>
            have notStale : ¬ (ledger profile db).Stale rootId head := by
              rw [stale_ledger_iff, stale]
              simp
            obtain ⟨objects, opened, sameHead, sameRoot⟩ :=
              (settled head rfl).resolve_left notStale
            have settingsStored : db.profileSyncRoot profile objects.manifest.rootId =
                .ok (some objects.manifestObjectId) :=
              profileSyncRoot_eq_ok_iff.mpr ⟨nonempty_of_storedRoot sameRoot, sameRoot⟩
            have sameHead : db.storedRoot profile rootId = some head.objectId := sameHead
            simp only [opened, settingsStored, mapError_ok, ok_bind, sameHead, and_self, if_true]
            exact ⟨_, rfl, trivial⟩

end Step

section Pass

/-- The head the store has for a device, as the receiver opens it. -/
def offeredHead (scheme : SyncObjectScheme) (profile : String) (contentKey : List Nat)
    (keyId : String) (store : ObjectStore) (db : SlateProfileDatabase)
    (device : SyncDevicePublicKeyRecord) :
    Except (ProfileSyncTrustedPullError BroadwebdError) (Option VerifiedProfileSyncDeviceHead) :=
  db.pullTrustedSignedProfileSyncDeviceHead scheme (store.source scheme) profile
    (settingsDeviceHeadRootId device.publicKey.deviceId) contentKey keyId

/-- The manifest a head names, as the receiver opens it. -/
def offeredObjects (scheme : SyncObjectScheme) (profile : String) (contentKey : List Nat)
    (keyId : String) (store : ObjectStore) (db : SlateProfileDatabase)
    (head : VerifiedProfileSyncDeviceHead) :
    Except (ProfileSyncTrustedPullError BroadwebdError)
      VerifiedProfileSyncSettingsManifestObjects :=
  db.pullTrustedSignedProfileSyncSettingsManifestObjectsFromDeviceHead scheme
    (store.source scheme) profile head contentKey keyId

open Classical in
/-- The ledger after one more device. A head that is stale, or stored with its manifest,
writes nothing; any other one writes its two roots. -/
noncomputable def ledgerAfter (scheme : SyncObjectScheme) (profile : String)
    (contentKey : List Nat) (keyId : String) (store : ObjectStore) (db : SlateProfileDatabase)
    (ledger : Ledger) (device : SyncDevicePublicKeyRecord) : Ledger :=
  let rootId := settingsDeviceHeadRootId device.publicKey.deviceId
  match offeredHead scheme profile contentKey keyId store db device with
  | .ok (some head) =>
      match offeredObjects scheme profile contentKey keyId store db head with
      | .ok objects =>
          if ledger.Stale rootId head ∨ ledger.Holds rootId head objects then ledger
          else ledger.record profile rootId head objects
      | .error _ => ledger
  | _ => ledger

/-- No head loses a root to a later one: once the heads have written their roots in turn,
each of them is stale or still finds both of its roots as it wrote them. -/
def RootsKept (scheme : SyncObjectScheme) (profile : String) (contentKey : List Nat)
    (keyId : String) (maxDevices : Nat) (store : ObjectStore) (db : SlateProfileDatabase) :
    Prop :=
  ∀ devices, trustedRemoteDevicePublicKeys profile maxDevices db = .ok devices →
    ∀ device ∈ devices, ∀ head,
      offeredHead scheme profile contentKey keyId store db device = .ok (some head) →
      let final := devices.foldl (ledgerAfter scheme profile contentKey keyId store db)
        (ledger profile db)
      let rootId := settingsDeviceHeadRootId device.publicKey.deviceId
      final.Stale rootId head ∨
        ∃ objects, offeredObjects scheme profile contentKey keyId store db head = .ok objects ∧
          final.Holds rootId head objects

theorem settingsDeviceHeadRootId_nonempty (deviceId : String) :
    settingsDeviceHeadRootId deviceId ≠ "" := by
  intro empty
  unfold settingsDeviceHeadRootId at empty
  have start := (String.append_eq_empty_iff.mp (String.append_eq_empty_iff.mp empty).1).1
  exact absurd start (by decide)

theorem offeredHead_of_sameTrust (same : SameTrust db next) (device : SyncDevicePublicKeyRecord) :
    offeredHead scheme profile contentKey keyId store next device =
      offeredHead scheme profile contentKey keyId store db device :=
  same.pullTrustedSignedProfileSyncDeviceHead (store.source scheme) _

theorem offeredObjects_of_sameTrust (same : SameTrust db next)
    (head : VerifiedProfileSyncDeviceHead) :
    offeredObjects scheme profile contentKey keyId store next head =
      offeredObjects scheme profile contentKey keyId store db head :=
  same.pullTrustedSignedProfileSyncSettingsManifestObjectsFromDeviceHead (store.source scheme) _

/-- Receiving from a device takes the ledger one step. -/
theorem ledger_receiveFromTrustedDevice {before after : SlateProfileDatabase}
    {device : SyncDevicePublicKeyRecord} {result : TrustedSettingsDeviceSyncResult}
    (same : SameTrust db before)
    (h : receiveFromTrustedDevice codec scheme profile contentKey keyId store now device before =
      .ok (result, after)) :
    SameTrust db after ∧
      ledger profile after = ledgerAfter scheme profile contentKey keyId store db
        (ledger profile before) device ∧
      ∃ found, offeredHead scheme profile contentKey keyId store db device = .ok found := by
  obtain ⟨⟨status, final⟩, pulled, h⟩ := bind_eq_ok_iff.mp h
  obtain ⟨-, rfl⟩ := ok_pair_inj h
  rcases pullRecordAndApply_cases (mapError_eq_ok_iff.mp pulled) with
    ⟨rfl, -, missing⟩ | ⟨head, localHead, found, isLocal, rest⟩
  · have offered := (offeredHead_of_sameTrust same device).symm.trans missing
    refine ⟨same, ?_, none, offered⟩
    rw [ledgerAfter, offered]
  · have offered := (offeredHead_of_sameTrust same device).symm.trans found
    obtain ⟨-, rfl⟩ := profileSyncRoot_eq_ok_iff.mp isLocal
    rcases rest with ⟨rfl, current, stale, -⟩ | ⟨fresh, objects, settingsRoot, opened, isRoot, rest⟩
    · have stale := stale_ledger_iff.mpr ⟨current, stale⟩
      refine ⟨same, ?_, some head, offered⟩
      simp only [ledgerAfter, offered]
      split
      · rw [if_pos (.inl stale)]
      · rfl
    · have objectsOffered := (offeredObjects_of_sameTrust same head).symm.trans opened
      obtain ⟨-, rfl⟩ := profileSyncRoot_eq_ok_iff.mp isRoot
      have notStale : ¬ (ledger profile before).Stale
          (settingsDeviceHeadRootId device.publicKey.deviceId) head := by
        rw [stale_ledger_iff, fresh]
        simp
      rcases rest with ⟨rfl, -, holds⟩ | ⟨application, -, changed, applied⟩
      · have holds : (ledger profile final).Holds
            (settingsDeviceHeadRootId device.publicKey.deviceId) head objects := holds
        refine ⟨same, ?_, some head, offered⟩
        simp only [ledgerAfter, offered, objectsOffered]
        rw [if_pos (.inr holds)]
      · obtain ⟨grown, trusted⟩ :=
          ledger_applyVerifiedSettingsManifestAndSetProfileSyncRoot applied
        have changed : ¬ (ledger profile before).Holds
            (settingsDeviceHeadRootId device.publicKey.deviceId) head objects := changed
        refine ⟨same.trans trusted, ?_, some head, offered⟩
        simp only [ledgerAfter, offered, objectsOffered]
        rw [if_neg (not_or.mpr ⟨notStale, changed⟩), grown]

/-- A reception takes the ledger along the devices. -/
theorem ledger_receiveAll {before after : SlateProfileDatabase}
    {devices : List SyncDevicePublicKeyRecord} {results : List TrustedSettingsDeviceSyncResult}
    (same : SameTrust db before)
    (h : forEach (receiveFromTrustedDevice codec scheme profile contentKey keyId store now) devices
      before = .ok (results, after)) :
    SameTrust db after ∧
      ledger profile after = devices.foldl
        (ledgerAfter scheme profile contentKey keyId store db) (ledger profile before) ∧
      ∀ device ∈ devices, ∃ found,
        offeredHead scheme profile contentKey keyId store db device = .ok found := by
  induction devices generalizing before results with
  | nil =>
      obtain ⟨-, rfl⟩ := ok_pair_inj h
      exact ⟨same, rfl, by simp⟩
  | cons device rest inductionHypothesis =>
      obtain ⟨result, middle, others, received, receivedRest, -⟩ := forEach_cons_eq_ok_iff.mp h
      obtain ⟨sameMiddle, ledgerMiddle, offered⟩ := ledger_receiveFromTrustedDevice same received
      obtain ⟨sameAfter, ledgerFinal, offeredRest⟩ := inductionHypothesis sameMiddle receivedRest
      refine ⟨sameAfter, ?_, List.forall_mem_cons.mpr ⟨offered, offeredRest⟩⟩
      rw [List.foldl_cons, ← ledgerMiddle, ledgerFinal]

/-- A second reception from the same store leaves everything as it is exactly if no head has
lost a root to a later one. -/
theorem second_reception_quiet_iff {maxDevices : Nat}
    {results : List TrustedSettingsDeviceSyncResult} (later : Int)
    (received : pullAndApplyTrustedSettingsFromRegisteredDevices codec scheme profile contentKey
      keyId maxDevices store now db = .ok (results, next)) :
    (∃ again, pullAndApplyTrustedSettingsFromRegisteredDevices codec scheme profile contentKey
        keyId maxDevices store later next = .ok (again, next) ∧
      ∀ result ∈ again, result.status.Quiet) ↔
      RootsKept scheme profile contentKey keyId maxDevices store db := by
  obtain ⟨devices, isDevices, run⟩ := bind_eq_ok_iff.mp received
  obtain ⟨same, ledgerNext, offered⟩ := ledger_receiveAll (.refl db) run
  have devicesAgain : trustedRemoteDevicePublicKeys profile maxDevices next = .ok devices :=
    (same.trustedRemoteDevicePublicKeys maxDevices).trans isDevices
  have asRun : ∀ again, pullAndApplyTrustedSettingsFromRegisteredDevices codec scheme profile
      contentKey keyId maxDevices store later next = .ok (again, next) ↔
      forEach (receiveFromTrustedDevice codec scheme profile contentKey keyId store later) devices
        next = .ok (again, next) := by
    intro again
    rw [pullAndApplyTrustedSettingsFromRegisteredDevices, devicesAgain, ok_bind]
  have asSteps : ∀ device, (∃ result, receiveFromTrustedDevice codec scheme profile contentKey keyId
        store later device next = .ok (result, next) ∧ result.status.Quiet) ↔
      ∃ status, pullRecordAndApplyTrustedSettingsFromDeviceHead codec scheme profile
        (settingsDeviceHeadRootId device.publicKey.deviceId) contentKey keyId store later next =
          .ok (status, next) ∧ status.Quiet := by
    intro device
    constructor
    · rintro ⟨result, h, quiet⟩
      obtain ⟨⟨status, final⟩, pulled, h⟩ := bind_eq_ok_iff.mp h
      obtain ⟨rfl, rfl⟩ := ok_pair_inj h
      exact ⟨status, mapError_eq_ok_iff.mp pulled, quiet⟩
    · rintro ⟨status, pulled, quiet⟩
      exact ⟨_, bind_eq_ok_iff.mpr ⟨_, mapError_eq_ok_iff.mpr pulled, rfl⟩, quiet⟩
  have still : ∀ device ∈ devices, ∀ state result final,
      receiveFromTrustedDevice codec scheme profile contentKey keyId store later device state =
        .ok (result, final) → result.status.Quiet → final = state := by
    intro device _ state result final h quiet
    obtain ⟨⟨status, reached⟩, pulled, h⟩ := bind_eq_ok_iff.mp h
    obtain ⟨rfl, rfl⟩ := ok_pair_inj h
    exact eq_of_quiet (mapError_eq_ok_iff.mp pulled) quiet
  simp only [asRun]
  refine (forEach_still_iff
    (fun result : TrustedSettingsDeviceSyncResult => result.status.Quiet) still).trans ?_
  constructor
  · intro quiet others isOthers device membership head isHead
    rw [isDevices] at isOthers
    obtain rfl := Except.ok.inj isOthers
    obtain ⟨found, isFound, settled⟩ := (pullRecordAndApply_quiet_iff
      (settingsDeviceHeadRootId_nonempty _)).mp ((asSteps device).mp (quiet device membership))
    have isFound := (offeredHead_of_sameTrust same device).symm.trans isFound
    rw [isHead] at isFound
    have settled := settled head (Except.ok.inj isFound).symm
    rw [ledgerNext] at settled
    refine settled.imp_right fun ⟨objects, opened, holds⟩ => ?_
    exact ⟨objects, (offeredObjects_of_sameTrust same head).symm.trans opened, holds⟩
  · intro kept device membership
    refine (asSteps device).mpr ((pullRecordAndApply_quiet_iff
      (settingsDeviceHeadRootId_nonempty _)).mpr ?_)
    obtain ⟨found, isFound⟩ := offered device membership
    refine ⟨found, (offeredHead_of_sameTrust same device).trans isFound, ?_⟩
    rintro head rfl
    have settled := kept devices isDevices device membership head isFound
    rw [ledgerNext]
    refine settled.imp_right fun ⟨objects, opened, holds⟩ => ?_
    exact ⟨objects, (offeredObjects_of_sameTrust same head).trans opened, holds⟩

end Pass

section Sample

set_option maxRecDepth 20000 in
/-- The laptop and the tablet publish under one settings root. The phone receives both, and
receiving again it applies both again. -/
theorem shared_root_applied_again :
    ∃ record laptop laptopHead afterLaptop tabletRecord tablet tabletHead afterTablet results next
        again final,
      (householdDevice "laptop").setSyncSettingText "default" "settings" "theme" "dark" 2 =
        .ok (record, laptop) ∧
      publishFullLocalSettingsSnapshotHead plainScheme "default" "settings/latest"
        laptopCredentials {} 3 { database := laptop, store := {} } =
          .ok (some laptopHead, afterLaptop) ∧
      (householdDevice "tablet").setSyncSettingText "default" "settings" "font" "large" 2 =
        .ok (tabletRecord, tablet) ∧
      publishFullLocalSettingsSnapshotHead plainScheme "default" "settings/latest"
        tabletCredentials {} 3 { database := tablet, store := afterLaptop.store } =
          .ok (some tabletHead, afterTablet) ∧
      pullAndApplyTrustedSettingsFromRegisteredDevices plainTextCodec plainScheme "default" [42]
        "key-1" 5 afterTablet.store 4 (householdDevice "phone") = .ok (results, next) ∧
      pullAndApplyTrustedSettingsFromRegisteredDevices plainTextCodec plainScheme "default" [42]
        "key-1" 5 afterTablet.store 5 next = .ok (again, final) ∧
      ¬ ∀ result ∈ again, result.status.Quiet := by
  refine ⟨_, _, _, _, _, _, _, _, _, _, _, _, rfl, rfl, rfl, rfl, rfl, rfl, ?_⟩
  intro quiet
  exact quiet _ (List.mem_cons_self ..)

set_option maxRecDepth 20000 in
/-- The laptop is the only one to publish, and its roots are kept. -/
theorem roots_kept_laptop :
    ∃ record laptop laptopHead afterLaptop results next,
      (householdDevice "laptop").setSyncSettingText "default" "settings" "theme" "dark" 2 =
        .ok (record, laptop) ∧
      publishFullLocalSettingsSnapshotHead plainScheme "default" "settings/latest"
        laptopCredentials {} 3 { database := laptop, store := {} } =
          .ok (some laptopHead, afterLaptop) ∧
      pullAndApplyTrustedSettingsFromRegisteredDevices plainTextCodec plainScheme "default" [42]
        "key-1" 5 afterLaptop.store 4 (householdDevice "phone") = .ok (results, next) ∧
      RootsKept plainScheme "default" [42] "key-1" 5 afterLaptop.store
        (householdDevice "phone") := by
  have steps : ∃ record laptop laptopHead afterLaptop results next again,
      (householdDevice "laptop").setSyncSettingText "default" "settings" "theme" "dark" 2 =
        .ok (record, laptop) ∧
      publishFullLocalSettingsSnapshotHead plainScheme "default" "settings/latest"
        laptopCredentials {} 3 { database := laptop, store := {} } =
          .ok (some laptopHead, afterLaptop) ∧
      pullAndApplyTrustedSettingsFromRegisteredDevices plainTextCodec plainScheme "default" [42]
        "key-1" 5 afterLaptop.store 4 (householdDevice "phone") = .ok (results, next) ∧
      pullAndApplyTrustedSettingsFromRegisteredDevices plainTextCodec plainScheme "default" [42]
        "key-1" 5 afterLaptop.store 5 next = .ok (again, next) ∧
      ∀ result ∈ again, result.status.Quiet := by
    refine ⟨_, _, _, _, _, _, _, rfl, rfl, rfl, rfl, ?_⟩
    intro result membership
    rcases List.mem_cons.mp membership with rfl | membership
    · trivial
    · rw [List.mem_singleton.mp membership]
      trivial
  obtain ⟨record, laptop, laptopHead, afterLaptop, results, next, again, isWritten, isPublished,
    received, receivedAgain, quiet⟩ := steps
  exact ⟨record, laptop, laptopHead, afterLaptop, results, next, isWritten, isPublished, received,
    (second_reception_quiet_iff 5 received).mp ⟨again, receivedAgain, quiet⟩⟩

end Sample

end Slate.ProfileSync
