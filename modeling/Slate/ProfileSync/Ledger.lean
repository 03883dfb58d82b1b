import Slate.ProfileSync.Reception
import Slate.Storage.Recorded

/-!
# The ledger of a receiver

Of all its tables a receiver consults three when it meets a head: the keys it trusts, the
roots it stored and the sequences it recorded. Receiving never changes the first, so what a
store has to offer stays the same from one reception to the next.
-/

namespace Slate.ProfileSync

open Slate.Foundation Slate.Storage
open Slate.Storage.SlateProfileDatabase

variable {codec : SyncPayloadCodec} {scheme : SyncObjectScheme} {profile : String}
  {contentKey : List Nat} {keyId : String} {store : ObjectStore} {now : Int}
  {db next : SlateProfileDatabase}

section Trust

/-- The keys of the providers among the devices. -/
def providerKeys (db : SlateProfileDatabase) : List (String × String) :=
  (db.syncDevices.filter (·.providerAuthority)).map deviceKey

/-- A database that opens the same objects and receives from the same devices. -/
structure SameTrust (db next : SlateProfileDatabase) : Prop where
  control : SameControl db next
  providers : providerKeys next = providerKeys db
  isProvider : ∀ profile deviceId,
    isProvider profile deviceId next = isProvider profile deviceId db

theorem SameTrust.refl (db : SlateProfileDatabase) : SameTrust db db :=
  ⟨.refl db, rfl, fun _ _ => rfl⟩

theorem SameTrust.trans {first second third : SlateProfileDatabase}
    (before : SameTrust first second) (after : SameTrust second third) :
    SameTrust first third where
  control := before.control.trans after.control
  providers := after.providers.trans before.providers
  isProvider profile deviceId :=
    (after.isProvider profile deviceId).trans (before.isProvider profile deviceId)

theorem sameTrust_of_syncDevices (control : SameControl db next)
    (same : next.syncDevices = db.syncDevices) : SameTrust db next := by
  refine ⟨control, ?_, fun _ _ => ?_⟩
  · rw [providerKeys, same, providerKeys]
  · rw [isProvider, same, isProvider]

/-- A device that is seen for the first time is no provider, and one that is known stays
what it was. -/
theorem sameTrust_recordSyncDeviceSeen (profile deviceId : String) :
    SameTrust db (db.recordSyncDeviceSeen profile deviceId now) := by
  let seen : SyncDeviceRecord := ⟨profile, deviceId, none, 1, false, now, now⟩
  let merge (existing excluded : SyncDeviceRecord) : SyncDeviceRecord :=
    { existing with lastSeenAt := excluded.lastSeenAt }
  have keepsKey : ∀ existing, deviceKey existing = deviceKey seen →
      deviceKey (merge existing seen) = deviceKey seen := fun _ same => same
  refine ⟨⟨rfl, rfl, rfl, rfl, rfl⟩, ?_, fun otherProfile otherDevice => ?_⟩
  · show ((Rows.upsert deviceKey merge seen db.syncDevices).filter
      (·.providerAuthority)).map deviceKey = (db.syncDevices.filter (·.providerAuthority)).map
        deviceKey
    induction db.syncDevices with
    | nil => rfl
    | cons head rest inductionHypothesis =>
        by_cases same : deviceKey head = deviceKey seen
        · rw [Rows.upsert, if_pos same, List.filter_cons, List.filter_cons]
          show (if head.providerAuthority then _ else _ : List SyncDeviceRecord).map deviceKey = _
          split <;> rfl
        · rw [Rows.upsert, if_neg same, List.filter_cons, List.filter_cons]
          split
          · rw [List.map_cons, List.map_cons, inductionHypothesis]
          · exact inductionHypothesis
  · by_cases same : deviceKey seen = (otherProfile, otherDevice)
    · have found := Rows.lookup_upsert_self keepsKey db.syncDevices
      rw [same] at found
      refine (congrArg (Option.any (·.providerAuthority)) found).trans ?_
      rw [isProvider]
      cases Rows.lookup deviceKey (otherProfile, otherDevice) db.syncDevices <;> rfl
    · exact congrArg (Option.any (·.providerAuthority))
        (Rows.lookup_upsert_of_ne keepsKey same db.syncDevices)

theorem sameTrust_applySyncSettingText {change : IncomingSyncSettingText}
    {record : SyncChangeRecord}
    (h : db.applySyncSettingText codec change now = .ok (record, next)) : SameTrust db next := by
  have control := (confined_applySyncSettingText h).control
  rw [applySyncSettingText, databaseError_eq_ok_iff] at h
  have seen : SameTrust db (db.recordSyncDeviceSeen change.profile change.deviceId now) :=
    sameTrust_recordSyncDeviceSeen change.profile change.deviceId
  have sameDevices : next.syncDevices =
      (db.recordSyncDeviceSeen change.profile change.deviceId now).syncDevices := by
    rcases applySyncSettingTextInTransaction_cases h with
      ⟨-, -, rfl⟩ | ⟨-, -, viewed, view, inserted⟩ | ⟨-, -, inserted⟩
    · rfl
    · rw [show next = _ from congrArg Prod.snd inserted]
      exact (sameButViews_applySyncSettingMaterializedView view).syncDevices
    · rw [show next = _ from congrArg Prod.snd inserted]
      rfl
  refine ⟨control, ?_, fun profile deviceId => ?_⟩
  · rw [providerKeys, sameDevices]
    exact seen.providers
  · rw [isProvider, sameDevices]
    exact seen.isProvider profile deviceId

theorem sameTrust_applyChanges {changes : List IncomingSyncSettingText}
    {records : List SyncChangeRecord}
    (h : forEach (fun change => applySyncSettingText codec change now) changes db =
      .ok (records, next)) : SameTrust db next :=
  forEach_invariant (fun state => SameTrust db state)
    (fun _ _ _ _ _ stepped reached => reached.trans (sameTrust_applySyncSettingText stepped))
    h (.refl db)

theorem sameTrust_setProfileSyncRoot {rootId objectId : String}
    (h : db.setProfileSyncRoot profile rootId objectId now = .ok ((), next)) :
    SameTrust db next :=
  sameTrust_of_syncDevices (sameControl_setProfileSyncRoot h)
    (by rw [(setProfileSyncRoot_eq_ok h).2])

theorem sameTrust_applyVerifiedSettingsManifest
    {objects : VerifiedProfileSyncSettingsManifestObjects}
    {application : ProfileSyncSettingsManifestApplication}
    (h : db.applyVerifiedSettingsManifest codec objects now = .ok (application, next)) :
    SameTrust db next := by
  obtain ⟨-, _, afterSnapshot, _, afterTail, snapshotApplied, tailApplied, rootSet⟩ :=
    applyVerifiedSettingsManifest_eq_ok h
  have fromSnapshot : SameTrust db afterSnapshot := by
    cases found : objects.snapshot with
    | none =>
        rw [found] at snapshotApplied
        obtain ⟨-, rfl⟩ := ok_pair_inj snapshotApplied
        exact .refl db
    | some verified =>
        rw [found] at snapshotApplied
        obtain ⟨⟨changes, applied⟩, isApplied, recorded⟩ := bind_eq_ok_iff.mp snapshotApplied
        obtain ⟨rfl, rfl⟩ := ok_pair_inj recorded
        unfold applySettingsSnapshot at isApplied
        split at isApplied
        · cases isApplied
        · exact (sameTrust_applyChanges isApplied).trans
            (sameTrust_of_syncDevices ⟨rfl, rfl, rfl, rfl, rfl⟩ rfl)
  exact fromSnapshot.trans ((sameTrust_applyChanges tailApplied).trans
    (sameTrust_setProfileSyncRoot rootSet))

end Trust

section Pulls

namespace SameTrust

variable (same : SameTrust db next)
include same

theorem trustedPublicKeyRecordForSignedObject (object : SignedSyncObject) :
    next.trustedPublicKeyRecordForSignedObject profile object =
      db.trustedPublicKeyRecordForSignedObject profile object := by
  simp only [SlateProfileDatabase.trustedPublicKeyRecordForSignedObject, syncDevicePublicKey,
    same.control.syncDevicePublicKeys]

theorem syncDeviceProviderAuthority (deviceId : String) :
    next.syncDeviceProviderAuthority profile deviceId =
      db.syncDeviceProviderAuthority profile deviceId := by
  have isProvider := same.isProvider profile deviceId
  unfold ProfileSync.isProvider at isProvider
  rw [SlateProfileDatabase.syncDeviceProviderAuthority, isProvider,
    SlateProfileDatabase.syncDeviceProviderAuthority]

theorem trustedProfileStatePublicKeyForSignedObject (object : SignedSyncObject) :
    next.trustedProfileStatePublicKeyForSignedObject profile object =
      db.trustedProfileStatePublicKeyForSignedObject profile object := by
  simp only [SlateProfileDatabase.trustedProfileStatePublicKeyForSignedObject,
    same.trustedPublicKeyRecordForSignedObject, same.syncDeviceProviderAuthority]

theorem validateSignedObjectMembershipEpoch (bytes : List Nat) (membershipEpoch : Int) :
    next.validateSignedObjectMembershipEpoch scheme bytes profile membershipEpoch =
      db.validateSignedObjectMembershipEpoch scheme bytes profile membershipEpoch := by
  simp only [SlateProfileDatabase.validateSignedObjectMembershipEpoch,
    same.trustedPublicKeyRecordForSignedObject]

theorem openTrustedSignedEncryptedSyncPayload (bytes : List Nat) (domain objectKind : String) :
    next.openTrustedSignedEncryptedSyncPayload scheme bytes contentKey profile domain objectKind
        keyId =
      db.openTrustedSignedEncryptedSyncPayload scheme bytes contentKey profile domain objectKind
        keyId := by
  simp only [SlateProfileDatabase.openTrustedSignedEncryptedSyncPayload,
    same.trustedProfileStatePublicKeyForSignedObject]

theorem openTrustedSignedProfileSyncManifest (bytes : List Nat) :
    next.openTrustedSignedProfileSyncManifest scheme bytes contentKey profile keyId =
      db.openTrustedSignedProfileSyncManifest scheme bytes contentKey profile keyId := by
  simp only [SlateProfileDatabase.openTrustedSignedProfileSyncManifest,
    same.openTrustedSignedEncryptedSyncPayload]

theorem openTrustedSignedProfileSyncDeviceHead (bytes : List Nat) :
    next.openTrustedSignedProfileSyncDeviceHead scheme bytes contentKey profile keyId =
      db.openTrustedSignedProfileSyncDeviceHead scheme bytes contentKey profile keyId := by
  simp only [SlateProfileDatabase.openTrustedSignedProfileSyncDeviceHead,
    same.trustedProfileStatePublicKeyForSignedObject, same.validateSignedObjectMembershipEpoch]

theorem openManifestSnapshot (membershipEpoch : Int) :
    next.openManifestSnapshot scheme contentKey profile keyId membershipEpoch =
      db.openManifestSnapshot scheme contentKey profile keyId membershipEpoch := by
  funext object
  simp only [SlateProfileDatabase.openManifestSnapshot,
    SlateProfileDatabase.openTrustedSignedProfileSyncSettingsSnapshot,
    same.validateSignedObjectMembershipEpoch, same.openTrustedSignedEncryptedSyncPayload]

theorem openManifestTailChange (membershipEpoch : Int) :
    next.openManifestTailChange scheme contentKey profile keyId membershipEpoch =
      db.openManifestTailChange scheme contentKey profile keyId membershipEpoch := by
  funext object
  simp only [SlateProfileDatabase.openManifestTailChange,
    SlateProfileDatabase.openTrustedSignedSyncSettingTextForProfile,
    same.validateSignedObjectMembershipEpoch, same.trustedProfileStatePublicKeyForSignedObject]

theorem openTrustedSignedProfileSyncSettingsManifestObjects
    (manifestObject : ProfileSyncObjectBytes) (snapshotObject : Option ProfileSyncObjectBytes)
    (tailChangeObjects : List ProfileSyncObjectBytes) :
    next.openTrustedSignedProfileSyncSettingsManifestObjects scheme manifestObject snapshotObject
        tailChangeObjects contentKey profile keyId =
      db.openTrustedSignedProfileSyncSettingsManifestObjects scheme manifestObject snapshotObject
        tailChangeObjects contentKey profile keyId := by
  simp only [SlateProfileDatabase.openTrustedSignedProfileSyncSettingsManifestObjects,
    same.openTrustedSignedProfileSyncManifest, same.validateSignedObjectMembershipEpoch,
    same.openManifestSnapshot, same.openManifestTailChange]

theorem pullTrustedSignedProfileSyncDeviceHead {SourceError : Type}
    (source : ProfileSyncObjectSource SourceError) (rootId : String) :
    next.pullTrustedSignedProfileSyncDeviceHead scheme source profile rootId contentKey keyId =
      db.pullTrustedSignedProfileSyncDeviceHead scheme source profile rootId contentKey keyId := by
  simp only [SlateProfileDatabase.pullTrustedSignedProfileSyncDeviceHead,
    same.openTrustedSignedProfileSyncDeviceHead]

theorem pullTrustedSignedProfileSyncSettingsManifestObjectsFromDeviceHead {SourceError : Type}
    (source : ProfileSyncObjectSource SourceError) (head : VerifiedProfileSyncDeviceHead) :
    next.pullTrustedSignedProfileSyncSettingsManifestObjectsFromDeviceHead scheme source profile
        head contentKey keyId =
      db.pullTrustedSignedProfileSyncSettingsManifestObjectsFromDeviceHead scheme source profile
        head contentKey keyId := by
  simp only [SlateProfileDatabase.pullTrustedSignedProfileSyncSettingsManifestObjectsFromDeviceHead,
    same.openTrustedSignedProfileSyncManifest,
    same.openTrustedSignedProfileSyncSettingsManifestObjects]

theorem trustedRemoteDevicePublicKeys (maxDevices : Nat) :
    ProfileSync.trustedRemoteDevicePublicKeys profile maxDevices next =
      ProfileSync.trustedRemoteDevicePublicKeys profile maxDevices db := by
  have providerIds : ∀ state : SlateProfileDatabase,
      (state.syncDevices.filter fun device =>
        device.profile == profile && device.providerAuthority).map (·.deviceId) =
      ((providerKeys state).filter fun key => key.1 == profile).map Prod.snd := by
    intro state
    rw [providerKeys, List.filter_map, List.map_map, List.filter_filter]
    rfl
  simp only [ProfileSync.trustedRemoteDevicePublicKeys, syncDevicePublicKeysOf, providerIds,
    same.providers, same.control.syncDevicePublicKeys, same.control.localSyncDeviceId]

end SameTrust

end Pulls

section Ledger

/-- The object stored for each root of a profile, and the recorded sequences of each
device. -/
structure Ledger where
  root : String → Option String
  recorded : String → Int → Prop

def ledger (profile : String) (db : SlateProfileDatabase) : Ledger where
  root rootId := db.storedRoot profile rootId
  recorded deviceId sequence := Recorded profile deviceId sequence db

namespace Ledger

/-- Another head is stored for the root, or none, and a later change of the head's device is
recorded, or its last one while a head is stored. -/
def Stale (rootId : String) (head : VerifiedProfileSyncDeviceHead) (ledger : Ledger) : Prop :=
  ledger.root rootId ≠ some head.objectId ∧
    ∃ sequence, ledger.recorded head.deviceHead.deviceId sequence ∧
      (head.deviceHead.deviceSequence < sequence ∨
        head.deviceHead.deviceSequence = sequence ∧ (ledger.root rootId).isSome)

/-- Both roots of a publication are stored as it has them. -/
def Holds (rootId : String) (head : VerifiedProfileSyncDeviceHead)
    (objects : VerifiedProfileSyncSettingsManifestObjects) (ledger : Ledger) : Prop :=
  ledger.root rootId = some head.objectId ∧
    ledger.root objects.manifest.rootId = some objects.manifestObjectId

/-- The ledger once a publication is applied: its changes are recorded, then the settings
root is written and then the head root. -/
def record (profile rootId : String) (head : VerifiedProfileSyncDeviceHead)
    (objects : VerifiedProfileSyncSettingsManifestObjects) (ledger : Ledger) : Ledger where
  root other :=
    if other = rootId then some head.objectId
    else if profile = objects.manifest.profile ∧ other = objects.manifest.rootId then
      some objects.manifestObjectId
    else ledger.root other
  recorded deviceId sequence :=
    ledger.recorded deviceId sequence ∨
      ∃ change ∈ manifestChanges objects, change.sequenceKey = (profile, deviceId, sequence)

end Ledger

theorem stale_ledger_iff {rootId : String} {head : VerifiedProfileSyncDeviceHead} :
    (ledger profile db).Stale rootId head ↔
      ∃ current, staleDeviceSequence profile (db.storedRoot profile rootId) head db =
        some current := by
  by_cases stored : db.storedRoot profile rootId = some head.objectId
  · simp [Ledger.Stale, ledger, staleDeviceSequence, stored]
  · simp only [staleDeviceSequence, if_neg stored, Option.filter_eq_some_iff, Bool.or_eq_true,
      Bool.and_eq_true, decide_eq_true_eq, beq_iff_eq]
    constructor
    · rintro ⟨-, sequence, recorded, later⟩
      have reached : head.deviceHead.deviceSequence ≤ sequence := by omega
      obtain ⟨latest, isLatest, le⟩ := exists_latest_ge_iff.mpr ⟨sequence, recorded, le_refl _⟩
      refine ⟨latest, isLatest, ?_⟩
      rcases later with later | ⟨same, isSome⟩
      · exact .inl (by omega)
      · by_cases last : latest = head.deviceHead.deviceSequence
        · exact .inr ⟨last, isSome⟩
        · exact .inl (by omega)
    · rintro ⟨latest, isLatest, later⟩
      refine ⟨stored, latest, (latestSyncDeviceSequence_eq_some_iff.mp isLatest).1, ?_⟩
      exact later.imp_right fun ⟨same, isSome⟩ => ⟨same.symm, isSome⟩

/-- An application with the head's root is recorded in the ledger. -/
theorem ledger_applyVerifiedSettingsManifestAndSetProfileSyncRoot {rootId : String}
    {head : VerifiedProfileSyncDeviceHead}
    {objects : VerifiedProfileSyncSettingsManifestObjects}
    {application : ProfileSyncSettingsManifestApplication}
    (h : db.applyVerifiedSettingsManifestAndSetProfileSyncRoot codec objects profile rootId
      head.objectId now = .ok (application, next)) :
    ledger profile next = (ledger profile db).record profile rootId head objects ∧
      SameTrust db next := by
  obtain ⟨⟨_, middle⟩, applied, h⟩ := bind_eq_ok_iff.mp h
  obtain ⟨⟨_, final⟩, rootSet, h⟩ := bind_eq_ok_iff.mp h
  obtain ⟨-, rfl⟩ := ok_pair_inj h
  refine ⟨?_, (sameTrust_applyVerifiedSettingsManifest applied).trans
    (sameTrust_setProfileSyncRoot rootSet)⟩
  have sameLog : final.log = middle.log := by
    rw [(setProfileSyncRoot_eq_ok rootSet).2]
    rfl
  unfold ledger Ledger.record
  congr 1
  · funext other
    rw [storedRoot_setProfileSyncRoot rootSet, storedRoot_applyVerifiedSettingsManifest applied]
    simp only [true_and]
  · funext deviceId sequence
    rw [Recorded, sameLog]
    exact propext (recorded_applyVerifiedSettingsManifest applied)

end Ledger

end Slate.ProfileSync
