import Slate.ProfileSync.Reception
import Slate.Storage.LastWriterWins
import Slate.Storage.PlainScheme

/-!
# Whose head is applied

The receiver looks for a device's head under the root named after the device. A head must
be signed by the device it names and must name the root it was found under. That the root
belongs to the device that signed is not checked.
-/

namespace Slate.ProfileSync

open Slate.Foundation Slate.Storage
open Slate.Storage.SlateProfileDatabase

variable {codec : SyncPayloadCodec} {scheme : SyncObjectScheme} {profile : String}
  {contentKey : List Nat} {keyId : String} {store : ObjectStore} {now : Int}
  {db next : SlateProfileDatabase}

section Ownership

/-- A head of the device itself: it names the device, and the key the receiver trusts for
the device verifies the object it was read from. -/
def OwnHead (scheme : SyncObjectScheme) (profile deviceId : String)
    (head : VerifiedProfileSyncDeviceHead) (store : ObjectStore) (db : SlateProfileDatabase) :
    Prop :=
  head.deviceHead.deviceId = deviceId ∧
    ∃ bytes signed record payload, store.find scheme profile head.objectId = some bytes ∧
      SignedSyncObject.fromBytes scheme bytes = .ok signed ∧
      trustedKey profile deviceId db = some record ∧
      signed.verifyWith scheme record.publicKey = .ok payload

/-- The store's head root of a device points to an object whose envelope names that device
as its signer. -/
def HeadRootOwned (scheme : SyncObjectScheme) (profile deviceId : String)
    (store : ObjectStore) : Prop :=
  ∃ objectId bytes signed,
    store.resolveProfileSyncRoot profile (settingsDeviceHeadRootId deviceId) = some objectId ∧
    store.find scheme profile objectId = some bytes ∧
    SignedSyncObject.fromBytes scheme bytes = .ok signed ∧ signed.deviceId = deviceId

theorem trustedKey_of_sameControl {before : SlateProfileDatabase} (same : SameControl db before)
    (deviceId : String) : trustedKey profile deviceId before = trustedKey profile deviceId db := by
  rw [trustedKey, same.syncDevicePublicKeys, trustedKey]

theorem sameControl_receiveFromTrustedDevice {trustedDevice : SyncDevicePublicKeyRecord}
    {result : TrustedSettingsDeviceSyncResult}
    (h : receiveFromTrustedDevice codec scheme profile contentKey keyId store now trustedDevice db =
      .ok (result, next)) : SameControl db next := by
  obtain ⟨⟨status, final⟩, pulled, h⟩ := bind_eq_ok_iff.mp h
  obtain ⟨-, rfl⟩ := ok_pair_inj h
  exact sameControl_pullRecordAndApply (mapError_eq_ok_iff.mp pulled)

/-- A device reported as applied was pulled from its own head root by a database with the
same trusted keys. -/
theorem exists_pull_of_applied {maxDevices : Nat}
    {results : List TrustedSettingsDeviceSyncResult} {result : TrustedSettingsDeviceSyncResult}
    {head : VerifiedProfileSyncDeviceHead}
    {application : ProfileSyncSettingsManifestApplication}
    (received : pullAndApplyTrustedSettingsFromRegisteredDevices codec scheme profile contentKey
      keyId maxDevices store now db = .ok (results, next))
    (reported : result ∈ results) (applied : result.status = .applied head application) :
    ∃ before, SameControl db before ∧
      before.pullTrustedSignedProfileSyncDeviceHead scheme (store.source scheme) profile
        (settingsDeviceHeadRootId result.deviceId) contentKey keyId = .ok (some head) := by
  obtain ⟨trustedDevices, -, run⟩ := bind_eq_ok_iff.mp received
  obtain ⟨trustedDevice, -, before, after, same, stepped⟩ := forEach_mem
    (fun state : SlateProfileDatabase => SameControl db state)
    (fun _ _ _ _ _ stepped reached => reached.trans (sameControl_receiveFromTrustedDevice stepped))
    run (.refl db) reported
  obtain ⟨⟨status, final⟩, pulled, h⟩ := bind_eq_ok_iff.mp stepped
  obtain ⟨rfl, -⟩ := ok_pair_inj h
  obtain rfl : status = .applied head application := applied
  refine ⟨before, same, ?_⟩
  rcases pullRecordAndApply_cases (mapError_eq_ok_iff.mp pulled) with
    ⟨-, absurdStatus, -⟩ | ⟨found, localHead, isPulled, -, rest⟩
  · cases absurdStatus
  · rcases rest with ⟨-, _, -, absurdStatus⟩ | ⟨-, objects, _, -, -, rest⟩
    · cases absurdStatus
    · rcases rest with ⟨-, absurdStatus, -⟩ | ⟨_, sameStatus, -⟩
      · cases absurdStatus
      · obtain ⟨rfl, -⟩ := BroadwebdTrustedDeviceHeadSyncStatus.applied.inj sameStatus
        exact isPulled

/-- A head reported as applied for a device is the device's own exactly if no other device
has signed what the device's head root points to. -/
theorem applied_head_is_own_iff {maxDevices : Nat}
    {results : List TrustedSettingsDeviceSyncResult} {result : TrustedSettingsDeviceSyncResult}
    {head : VerifiedProfileSyncDeviceHead}
    {application : ProfileSyncSettingsManifestApplication}
    (received : pullAndApplyTrustedSettingsFromRegisteredDevices codec scheme profile contentKey
      keyId maxDevices store now db = .ok (results, next))
    (reported : result ∈ results) (applied : result.status = .applied head application) :
    OwnHead scheme profile result.deviceId head store db ↔
      HeadRootOwned scheme profile result.deviceId store := by
  obtain ⟨before, same, pulled⟩ := exists_pull_of_applied received reported applied
  obtain ⟨resolved, -, bytes, stored, opened⟩ :=
    pullTrustedSignedProfileSyncDeviceHead_eq_ok pulled
  obtain ⟨-, signed, record, payload, isSigned, signer, trusted, verified⟩ :=
    openTrustedSignedProfileSyncDeviceHead_eq_ok opened
  rw [trustedKey_of_sameControl same] at trusted
  constructor
  · rintro ⟨named, -⟩
    exact ⟨head.objectId, bytes, signed, resolved, stored, isSigned, signer.trans named⟩
  · rintro ⟨objectId, found, foundSigned, isRoot, isFound, isFoundSigned, owner⟩
    rw [resolved] at isRoot
    obtain rfl := Option.some.inj isRoot
    rw [stored] at isFound
    obtain rfl := Option.some.inj isFound
    rw [isSigned] at isFoundSigned
    obtain rfl := Except.ok.inj isFoundSigned
    refine ⟨signer.symm.trans owner, bytes, signed, record, payload, stored, isSigned, ?_, verified⟩
    rw [← owner]
    exact trusted

set_option maxRecDepth 20000 in
/-- The tablet publishes a head of its own under the laptop's head root, and the phone
applies it as the laptop's. -/
theorem tablet_head_applied_as_laptop :
    ∃ record written published state moved store results next head application,
      (householdDevice "tablet").setSyncSettingText "default" "settings" "theme" "dark" 2 =
        .ok (record, written) ∧
      publishFullLocalSettingsSnapshotHead plainScheme "default" "settings/latest"
        tabletCredentials {} 3 { database := written, store := {} } =
          .ok (some published, state) ∧
      publishSignedProfileSyncDeviceHead plainScheme "default" (settingsDeviceHeadRootId "laptop")
        { published.deviceHead.deviceHead with rootId := settingsDeviceHeadRootId "laptop" }
        tabletCredentials state.store = .ok (moved, store) ∧
      pullAndApplyTrustedSettingsFromRegisteredDevices plainTextCodec plainScheme "default" [42]
        "key-1" 5 store 4 (householdDevice "phone") = .ok (results, next) ∧
      { deviceId := "laptop", rootId := settingsDeviceHeadRootId "laptop"
        status := .applied head application } ∈ results ∧
      head.deviceHead.deviceId = "tablet" ∧
      ¬ OwnHead plainScheme "default" "laptop" head store (householdDevice "phone") := by
  refine ⟨_, _, _, _, _, _, _, _, _, _, rfl, rfl, rfl, rfl, List.mem_cons_self .., rfl, ?_⟩
  rintro ⟨named, -⟩
  exact absurd named (by decide +kernel)

set_option maxRecDepth 20000 in
/-- The laptop's own head is applied as the laptop's. -/
theorem applied_head_is_own_laptop :
    ∃ record written published state results next head application,
      (householdDevice "laptop").setSyncSettingText "default" "settings" "theme" "dark" 2 =
        .ok (record, written) ∧
      publishFullLocalSettingsSnapshotHead plainScheme "default" "settings/latest"
        laptopCredentials {} 3 { database := written, store := {} } =
          .ok (some published, state) ∧
      pullAndApplyTrustedSettingsFromRegisteredDevices plainTextCodec plainScheme "default" [42]
        "key-1" 5 state.store 4 (householdDevice "phone") = .ok (results, next) ∧
      { deviceId := "laptop", rootId := settingsDeviceHeadRootId "laptop"
        status := .applied head application } ∈ results ∧
      OwnHead plainScheme "default" "laptop" head state.store (householdDevice "phone") := by
  have steps : ∃ record written published state results next head application,
      (householdDevice "laptop").setSyncSettingText "default" "settings" "theme" "dark" 2 =
        .ok (record, written) ∧
      publishFullLocalSettingsSnapshotHead plainScheme "default" "settings/latest"
        laptopCredentials {} 3 { database := written, store := {} } =
          .ok (some published, state) ∧
      pullAndApplyTrustedSettingsFromRegisteredDevices plainTextCodec plainScheme "default" [42]
        "key-1" 5 state.store 4 (householdDevice "phone") = .ok (results, next) ∧
      ({ deviceId := "laptop", rootId := settingsDeviceHeadRootId "laptop"
         status := .applied head application } : TrustedSettingsDeviceSyncResult) ∈ results ∧
      HeadRootOwned plainScheme "default" "laptop" state.store :=
    ⟨_, _, _, _, _, _, _, _, rfl, rfl, rfl, List.mem_cons_self .., _, _, _, rfl, rfl, rfl, rfl⟩
  obtain ⟨record, written, published, state, results, next, head, application, isWritten,
    isPublished, received, reported, owned⟩ := steps
  exact ⟨record, written, published, state, results, next, head, application, isWritten,
    isPublished, received, reported, (applied_head_is_own_iff received reported rfl).mpr owned⟩

end Ownership

end Slate.ProfileSync
