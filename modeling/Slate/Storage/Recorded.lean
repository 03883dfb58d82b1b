import Slate.Storage.LastWriterWins
import Slate.Storage.ProfileFrame
import Slate.Storage.SettingsPulls

/-!
# What a receiver has recorded

A receiver decides from two things whether a publication is new: the object ids it stored
for roots, and the device sequences of the changes it recorded. An application adds the
sequences of the changes it was given, whether they win or not, and one root.
-/

namespace Slate.Storage

open Slate.Foundation

namespace SlateProfileDatabase

variable {codec : SyncPayloadCodec} {db next : SlateProfileDatabase} {profile : String} {now : Int}

section Sequences

/-- A change with this device sequence is in the log. -/
def Recorded (profile deviceId : String) (sequence : Int) (db : SlateProfileDatabase) : Prop :=
  ∃ change ∈ db.log.contents, change.sequenceKey = (profile, deviceId, sequence)

theorem recorded_iff {deviceId : String} {sequence : Int} :
    Recorded profile deviceId sequence db ↔
      ∃ change ∈ db.settingsChanges, change.profile = profile ∧ change.deviceId = deviceId ∧
        change.deviceSequence = sequence := by
  constructor
  · rintro ⟨_, membership, sameKey⟩
    obtain ⟨change, recorded, rfl⟩ := List.mem_map.mp membership
    obtain ⟨sameProfile, rest⟩ := Prod.mk.inj sameKey
    obtain ⟨sameDevice, sameSequence⟩ := Prod.mk.inj rest
    exact ⟨change, recorded, sameProfile, sameDevice, sameSequence⟩
  · rintro ⟨change, recorded, rfl, rfl, rfl⟩
    exact ⟨change.content, List.mem_map_of_mem recorded, rfl⟩

/-- The latest sequence of a device is the largest recorded one. -/
theorem latestSyncDeviceSequence_eq_some_iff {deviceId : String} {sequence : Int} :
    db.latestSyncDeviceSequence profile deviceId = some sequence ↔
      Recorded profile deviceId sequence db ∧
        ∀ other, Recorded profile deviceId other db → other ≤ sequence := by
  rw [latestSyncDeviceSequence, List.max?_eq_some_iff]
  simp only [List.mem_map, List.mem_filter, Bool.and_eq_true, beq_iff_eq, recorded_iff, and_assoc]

theorem latestSyncDeviceSequence_eq_none_iff {deviceId : String} :
    db.latestSyncDeviceSequence profile deviceId = none ↔
      ∀ sequence, ¬ Recorded profile deviceId sequence db := by
  rw [latestSyncDeviceSequence, List.max?_eq_none_iff, List.map_eq_nil_iff,
    List.filter_eq_nil_iff]
  constructor
  · intro unseen sequence recorded
    obtain ⟨change, membership, sameProfile, sameDevice, -⟩ := recorded_iff.mp recorded
    exact unseen change membership (by simp [sameProfile, sameDevice])
  · intro unseen change membership matching
    have same : change.profile = profile ∧ change.deviceId = deviceId := by simpa using matching
    exact unseen change.deviceSequence
      (recorded_iff.mpr ⟨change, membership, same.1, same.2, rfl⟩)

/-- A bound that the latest sequence reaches is one that some recorded sequence reaches. -/
theorem exists_latest_ge_iff {deviceId : String} {bound : Int} :
    (∃ latest, db.latestSyncDeviceSequence profile deviceId = some latest ∧ bound ≤ latest) ↔
      ∃ sequence, Recorded profile deviceId sequence db ∧ bound ≤ sequence := by
  constructor
  · rintro ⟨latest, isLatest, reached⟩
    exact ⟨latest, (latestSyncDeviceSequence_eq_some_iff.mp isLatest).1, reached⟩
  · rintro ⟨sequence, recorded, reached⟩
    cases found : db.latestSyncDeviceSequence profile deviceId with
    | none => exact absurd recorded (latestSyncDeviceSequence_eq_none_iff.mp found sequence)
    | some latest =>
        have largest := (latestSyncDeviceSequence_eq_some_iff.mp found).2 sequence recorded
        exact ⟨latest, rfl, by omega⟩

theorem recorded_applySyncSettingText {change : IncomingSyncSettingText}
    {record : SyncChangeRecord}
    (h : db.applySyncSettingText codec change now = .ok (record, next)) {deviceId : String}
    {sequence : Int} :
    Recorded profile deviceId sequence next ↔
      Recorded profile deviceId sequence db ∨
        change.sequenceKey = (profile, deviceId, sequence) := by
  rcases contents_applySyncSettingText h with ⟨stale, kept⟩ | ⟨-, grown⟩
  · have known : change.sequenceKey = (profile, deviceId, sequence) →
        Recorded profile deviceId sequence db := by
      intro sameKey
      rw [SettingsLog.fresh_iff_contents] at stale
      push Not at stale
      obtain ⟨recorded, membership, same⟩ := stale
      exact ⟨recorded, membership, same.trans sameKey⟩
    rw [Recorded, kept]
    exact ⟨.inl, fun found => found.elim id known⟩
  · simp only [Recorded, grown, List.mem_append, List.mem_singleton, or_and_right, exists_or,
      exists_eq_left]

theorem recorded_applyChanges {changes : List IncomingSyncSettingText}
    {records : List SyncChangeRecord}
    (h : forEach (fun change => applySyncSettingText codec change now) changes db =
      .ok (records, next)) {deviceId : String} {sequence : Int} :
    Recorded profile deviceId sequence next ↔
      Recorded profile deviceId sequence db ∨
        ∃ change ∈ changes, change.sequenceKey = (profile, deviceId, sequence) := by
  induction changes generalizing db records with
  | nil =>
      obtain ⟨-, rfl⟩ := ok_pair_inj h
      simp
  | cons change rest inductionHypothesis =>
      obtain ⟨record, middle, others, applied, appliedRest, -⟩ := forEach_cons_eq_ok_iff.mp h
      rw [inductionHypothesis appliedRest, recorded_applySyncSettingText applied,
        List.exists_mem_cons_iff, or_assoc]

/-- The changes a manifest is applied as. -/
def manifestChanges (objects : VerifiedProfileSyncSettingsManifestObjects) :
    List IncomingSyncSettingText :=
  objects.snapshot.toList.flatMap (fun verified => snapshotChanges verified.snapshot) ++
    objects.tailChanges.map (·.change)

theorem recorded_applyVerifiedSettingsManifest
    {objects : VerifiedProfileSyncSettingsManifestObjects}
    {application : ProfileSyncSettingsManifestApplication}
    (h : db.applyVerifiedSettingsManifest codec objects now = .ok (application, next))
    {deviceId : String} {sequence : Int} :
    Recorded profile deviceId sequence next ↔
      Recorded profile deviceId sequence db ∨
        ∃ change ∈ manifestChanges objects,
          change.sequenceKey = (profile, deviceId, sequence) := by
  obtain ⟨-, _, afterSnapshot, _, afterTail, snapshotApplied, tailApplied, rootSet⟩ :=
    applyVerifiedSettingsManifest_eq_ok h
  have fromSnapshot : Recorded profile deviceId sequence afterSnapshot ↔
      Recorded profile deviceId sequence db ∨
        ∃ change ∈ objects.snapshot.toList.flatMap fun verified =>
            snapshotChanges verified.snapshot,
          change.sequenceKey = (profile, deviceId, sequence) := by
    cases found : objects.snapshot with
    | none =>
        rw [found] at snapshotApplied
        obtain ⟨-, rfl⟩ := ok_pair_inj snapshotApplied
        simp
    | some verified =>
        rw [found] at snapshotApplied
        obtain ⟨⟨changes, applied⟩, isApplied, recorded⟩ := bind_eq_ok_iff.mp snapshotApplied
        obtain ⟨rfl, rfl⟩ := ok_pair_inj recorded
        unfold applySettingsSnapshot at isApplied
        split at isApplied
        · cases isApplied
        · have delivered : Recorded profile deviceId sequence applied ↔ _ :=
            recorded_applyChanges isApplied
          rw [Option.toList_some, List.flatMap_singleton, ← delivered]
          exact Iff.rfl
  have fromRoot : Recorded profile deviceId sequence next ↔
      Recorded profile deviceId sequence afterTail := by
    rw [(setProfileSyncRoot_eq_ok rootSet).2]
    exact Iff.rfl
  rw [fromRoot, recorded_applyChanges tailApplied, fromSnapshot, or_assoc]
  simp only [manifestChanges, List.mem_append, or_and_right, exists_or]

end Sequences

section Roots

/-- The object id stored for a root, if any. -/
def storedRoot (profile rootId : String) (db : SlateProfileDatabase) : Option String :=
  match db.profileSyncRoot profile rootId with
  | .ok stored => stored
  | .error _ => none

theorem storedRoot_eq (profile rootId : String) :
    db.storedRoot profile rootId =
      if rootId = "" then none
      else (Rows.lookup stateKey (profile, profileSyncRootKey rootId) db.syncState).map
        (·.value) := by
  rw [storedRoot, profileSyncRoot]
  by_cases empty : rootId = ""
  · rw [if_pos empty, if_pos empty]
  · rw [if_neg empty, if_neg empty]

theorem profileSyncRoot_eq_ok_iff {rootId : String} {stored : Option String} :
    db.profileSyncRoot profile rootId = .ok stored ↔
      rootId ≠ "" ∧ db.storedRoot profile rootId = stored := by
  rw [storedRoot_eq, profileSyncRoot]
  by_cases empty : rootId = ""
  · simp [empty]
  · simp [empty]

theorem nonempty_of_storedRoot {rootId objectId : String}
    (stored : db.storedRoot profile rootId = some objectId) : rootId ≠ "" := by
  rintro rfl
  rw [storedRoot_eq, if_pos rfl] at stored
  cases stored

theorem profileSyncRootKey_injective : Function.Injective profileSyncRootKey := by
  intro first second same
  have texts := congrArg String.toList same
  simp only [profileSyncRootKey, String.toList_append, List.append_cancel_left_eq] at texts
  exact String.toList_inj.mp texts

theorem storedRoot_setProfileSyncRoot {rootId objectId other otherRoot : String}
    (h : db.setProfileSyncRoot other rootId objectId now = .ok ((), next)) :
    next.storedRoot profile otherRoot =
      if profile = other ∧ otherRoot = rootId then some objectId
      else db.storedRoot profile otherRoot := by
  obtain ⟨nonempty, rfl⟩ := setProfileSyncRoot_eq_ok h
  let row : SyncStateRow := ⟨other, profileSyncRootKey rootId, objectId, now⟩
  let merge (existing excluded : SyncStateRow) : SyncStateRow :=
    { existing with value := excluded.value, updatedAt := excluded.updatedAt }
  have keepsKey : ∀ existing, stateKey existing = stateKey row →
      stateKey (merge existing row) = stateKey row := fun _ same => same
  by_cases same : profile = other ∧ otherRoot = rootId
  · obtain ⟨rfl, rfl⟩ := same
    have written := Rows.lookup_upsert_self keepsKey db.syncState
    rw [if_pos ⟨rfl, rfl⟩, storedRoot_eq, if_neg nonempty]
    refine (congrArg (Option.map (·.value)) written).trans ?_
    cases Rows.lookup stateKey (stateKey row) db.syncState <;> rfl
  · have different : stateKey row ≠ (profile, profileSyncRootKey otherRoot) := by
      intro sameKey
      obtain ⟨sameProfile, sameRoot⟩ := Prod.mk.inj sameKey
      exact same ⟨sameProfile.symm, (profileSyncRootKey_injective sameRoot).symm⟩
    have kept := Rows.lookup_upsert_of_ne keepsKey different db.syncState
    rw [if_neg same, storedRoot_eq, storedRoot_eq]
    exact congrArg (fun found => if otherRoot = "" then none else Option.map (·.value) found) kept

/-- The roots after a manifest was applied. -/
theorem storedRoot_applyVerifiedSettingsManifest
    {objects : VerifiedProfileSyncSettingsManifestObjects}
    {application : ProfileSyncSettingsManifestApplication}
    (h : db.applyVerifiedSettingsManifest codec objects now = .ok (application, next))
    {rootId : String} :
    next.storedRoot profile rootId =
      if profile = objects.manifest.profile ∧ rootId = objects.manifest.rootId then
        some objects.manifestObjectId
      else db.storedRoot profile rootId := by
  obtain ⟨applied, confined, rootSet⟩ := applyVerifiedSettingsManifest_confined h
  rw [storedRoot_setProfileSyncRoot rootSet]
  have kept : applied.storedRoot profile rootId = db.storedRoot profile rootId := by
    rw [storedRoot_eq, confined.syncState, storedRoot_eq]
  rw [kept]

end Roots

end SlateProfileDatabase

end Slate.Storage
