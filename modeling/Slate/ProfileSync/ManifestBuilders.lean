import Mathlib.Order.Bounds.Basic
import Slate.Foundation.LatestRows
import Slate.ProfileSync.Publications
import Slate.Storage.SnapshotMerge

/-!
# What a built manifest says

A manifest is built from a list of published tail changes, alone or behind a snapshot. Its
frontiers are the latest published change of every device, its domains the published ones;
neither depends on the order of what was published. The receiver of a manifest checks it
again, against conditions that are not quite those of the builders.
-/

namespace Slate.ProfileSync

open Slate.Foundation Slate.Storage
open Slate.Storage.SlateProfileDatabase

section Frontiers

/-- No id comes before every id. -/
def objectIdRank : Option String → WithBot String
  | none => ⊥
  | some objectId => objectId

/-- Frontiers of a device are ordered by their sequence, then by their object id. -/
def frontierRank (frontier : ProfileSyncDeviceFrontier) : Int ×ₗ WithBot String :=
  toLex (frontier.latestSequence, objectIdRank frontier.latestChangeObjectId)

theorem objectIdLe_iff {left right : Option String} :
    objectIdLe left right = true ↔ objectIdRank left ≤ objectIdRank right := by
  cases left with
  | none => simp [objectIdLe, objectIdRank]
  | some left =>
      cases right with
      | none => simp [objectIdLe, objectIdRank]
      | some right => simp [objectIdLe, objectIdRank]

theorem objectIdRank_injective : Function.Injective objectIdRank := by
  intro left right same
  cases left with
  | none =>
      cases right with
      | none => rfl
      | some right => cases same
  | some left =>
      cases right with
      | none => cases same
      | some right => rw [WithBot.coe_injective same]

theorem frontierReaches_iff {existing next : ProfileSyncDeviceFrontier} :
    frontierReaches existing next = true ↔ frontierRank next ≤ frontierRank existing := by
  rw [frontierReaches, frontierRank, frontierRank, Prod.Lex.toLex_le_toLex]
  simp only [Bool.or_eq_true, Bool.and_eq_true, decide_eq_true_eq, beq_iff_eq, objectIdLe_iff]

theorem frontierRank_determined :
    LatestRows.Determined ProfileSyncDeviceFrontier.deviceId frontierRank := by
  intro first second sameDevice sameRank
  have fields := Prod.mk.inj (toLex.injective sameRank)
  have sameObjectId := objectIdRank_injective fields.2
  cases first
  cases second
  simp_all only

theorem latestSequence_le_of_frontierRank_le {frontier other : ProfileSyncDeviceFrontier}
    (le : frontierRank frontier ≤ frontierRank other) :
    frontier.latestSequence ≤ other.latestSequence := by
  rw [frontierRank, frontierRank, Prod.Lex.toLex_le_toLex] at le
  rcases le with less | ⟨same, -⟩
  · exact le_of_lt less
  · exact le_of_eq same

theorem upsertDeviceFrontier_eq_put :
    upsertDeviceFrontier = LatestRows.put ProfileSyncDeviceFrontier.deviceId frontierRank := by
  funext frontiers next
  simp only [upsertDeviceFrontier, frontierReaches_iff]
  rfl

/-- Everything that a frontier is taken from, in the order it is read. -/
def publishedFrontiers (coveredChanges : List SyncChangeRecord)
    (tailChanges : List ProfileSyncSettingsTailChangePublication) :
    List ProfileSyncDeviceFrontier :=
  coveredChanges.map coveredFrontier ++ tailChanges.map tailFrontier

theorem manifestFrontiers_eq (coveredChanges : List SyncChangeRecord)
    (tailChanges : List ProfileSyncSettingsTailChangePublication) :
    manifestFrontiers coveredChanges tailChanges =
      LatestRows.putAll (·.deviceId) frontierRank
        (publishedFrontiers coveredChanges tailChanges) := by
  rw [manifestFrontiers, upsertDeviceFrontier_eq_put, LatestRows.putAll, publishedFrontiers,
    List.foldl_append]

variable {coveredChanges otherCovered : List SyncChangeRecord}
  {tailChanges otherTail : List ProfileSyncSettingsTailChangePublication}

/-- The changes a device published, covered by the snapshot or in the tail. -/
def publishedChanges (coveredChanges : List SyncChangeRecord)
    (tailChanges : List ProfileSyncSettingsTailChangePublication) : List SyncChangeRecord :=
  coveredChanges ++ tailChanges.map (·.change)

/-- A change is published exactly if a frontier is taken from it. -/
theorem mem_publishedFrontiers_iff {deviceId : String} {sequence : Int} :
    (∃ frontier ∈ publishedFrontiers coveredChanges tailChanges,
        frontier.deviceId = deviceId ∧ frontier.latestSequence = sequence) ↔
      ∃ change ∈ publishedChanges coveredChanges tailChanges,
        change.deviceId = deviceId ∧ change.deviceSequence = sequence := by
  simp only [publishedFrontiers, publishedChanges, List.mem_append, List.mem_map, or_and_right,
    exists_or, exists_exists_and_eq_and, coveredFrontier, tailFrontier]

/-- The frontier of a device has the largest of its published sequences. -/
theorem isGreatest_iff_mem_manifestFrontiers {deviceId : String} {sequence : Int} :
    (∃ frontier ∈ manifestFrontiers coveredChanges tailChanges,
        frontier.deviceId = deviceId ∧ frontier.latestSequence = sequence) ↔
      IsGreatest {published | ∃ change ∈ publishedChanges coveredChanges tailChanges,
        change.deviceId = deviceId ∧ change.deviceSequence = published} sequence := by
  rw [manifestFrontiers_eq]
  constructor
  · rintro ⟨frontier, isKept, rfl, rfl⟩
    obtain ⟨isOfDevice, latest⟩ := LatestRows.isLast_of_mem_putAll isKept
    have isPublished := (LatestRows.mem_ofKey_iff.mp isOfDevice).1
    constructor
    · exact mem_publishedFrontiers_iff.mp ⟨frontier, isPublished, rfl, rfl⟩
    · intro sequence published
      obtain ⟨other, isOther, sameDevice, rfl⟩ := mem_publishedFrontiers_iff.mpr published
      exact latestSequence_le_of_frontierRank_le
        (latest other (LatestRows.mem_ofKey_iff.mpr ⟨isOther, sameDevice⟩))
  · rintro ⟨published, greatest⟩
    obtain ⟨frontier, isPublished, rfl, rfl⟩ := mem_publishedFrontiers_iff.mpr published
    obtain ⟨kept, isKept, sameDevice⟩ := @LatestRows.exists_mem_putAll _ _ _ _ _ (·.deviceId)
      frontierRank _ _ isPublished
    obtain ⟨isOfDevice, latest⟩ := LatestRows.isLast_of_mem_putAll isKept
    have isKeptPublished := (LatestRows.mem_ofKey_iff.mp isOfDevice).1
    have atMost : kept.latestSequence ≤ frontier.latestSequence :=
      greatest (mem_publishedFrontiers_iff.mp ⟨kept, isKeptPublished, sameDevice, rfl⟩)
    have atLeast := latestSequence_le_of_frontierRank_le
      (latest frontier (LatestRows.mem_ofKey_iff.mpr ⟨isPublished, sameDevice.symm⟩))
    exact ⟨kept, isKept, sameDevice, le_antisymm atMost atLeast⟩

theorem sorted_manifestFrontiers_eq (covered : coveredChanges.Perm otherCovered)
    (tail : tailChanges.Perm otherTail) :
    (manifestFrontiers coveredChanges tailChanges).insertionSort
        (fun left right => left.deviceId ≤ right.deviceId) =
      (manifestFrontiers otherCovered otherTail).insertionSort
        fun left right => left.deviceId ≤ right.deviceId := by
  rw [manifestFrontiers_eq, manifestFrontiers_eq]
  apply LatestRows.insertionSort_putAll_eq frontierRank_determined
  intro frontier
  exact ((covered.map _).append (tail.map _)).mem_iff

end Frontiers

section Builders

/-- The builder for a tail alone, or for a snapshot and its tail. -/
def buildSettingsManifest (profile rootId : String) :
    Option ProfileSyncSettingsSnapshotPublication →
    List ProfileSyncSettingsTailChangePublication → ProfileSyncRetentionPolicy →
    Except StorageError ProfileSyncManifest
  | none => settingsSyncManifestForTailChanges profile rootId
  | some snapshot => settingsSyncManifestForSnapshotAndTailChanges profile rootId snapshot

def coveredChangesOf (snapshot : Option ProfileSyncSettingsSnapshotPublication) :
    List SyncChangeRecord :=
  (snapshot.map (·.coveredChanges)).getD []

def snapshotDomainsOf (snapshot : Option ProfileSyncSettingsSnapshotPublication) : List String :=
  (snapshot.map (·.snapshot.includedDomains)).getD []

/-- What a builder asks of its inputs. -/
structure Buildable (profile rootId : String)
    (snapshot : Option ProfileSyncSettingsSnapshotPublication)
    (tailChanges : List ProfileSyncSettingsTailChangePublication) : Prop where
  hasRootId : rootId ≠ ""
  hasTail : snapshot = none → tailChanges ≠ []
  snapshotValid : ∀ publication ∈ snapshot, publication.objectId ≠ "" ∧
    publication.snapshot.profile = profile ∧
      publication.snapshot.schemaVersion = profileSyncSettingsSnapshotSchemaVersion
  coveredValid : ∀ change ∈ coveredChangesOf snapshot, change.profile = profile ∧
    change.operation = "set_text" ∧
      change.domain ∈ normalizedSnapshotDomains (snapshotDomainsOf snapshot)
  tailValid : ∀ tail ∈ tailChanges, tail.objectId ≠ "" ∧ tail.change.profile = profile ∧
    tail.change.operation = "set_text"

/-- The manifest that is built. -/
def builtManifest (profile rootId : String)
    (snapshot : Option ProfileSyncSettingsSnapshotPublication)
    (tailChanges : List ProfileSyncSettingsTailChangePublication)
    (retentionPolicy : ProfileSyncRetentionPolicy) : ProfileSyncManifest where
  profile
  rootId
  schemaVersion := profileSyncManifestSchemaVersion
  membershipEpoch := defaultProfileSyncMembershipEpoch
  currentSnapshotObjectId := snapshot.map (·.objectId)
  tailChangeObjectIds := tailChanges.map (·.objectId)
  includedDomains :=
    (normalizedSnapshotDomains (snapshotDomainsOf snapshot) ++
      tailChanges.map (·.change.domain)).dedup.insertionSort (· ≤ ·)
  deviceFrontiers :=
    (manifestFrontiers (coveredChangesOf snapshot) tailChanges).insertionSort
      fun left right => left.deviceId ≤ right.deviceId
  retentionPolicy
  createdAt := (tailChanges.map (·.change.createdAt)).foldl laterOf
    ((snapshot.map (·.snapshot.createdAt)).getD 0)

variable {profile rootId : String} {snapshot : Option ProfileSyncSettingsSnapshotPublication}
  {tailChanges : List ProfileSyncSettingsTailChangePublication}
  {retentionPolicy : ProfileSyncRetentionPolicy} {manifest : ProfileSyncManifest}

theorem settingsSyncManifestForTailChanges_eq_ok_iff :
    settingsSyncManifestForTailChanges profile rootId tailChanges retentionPolicy =
        .ok manifest ↔
      rootId ≠ "" ∧ tailChanges ≠ [] ∧
        (∀ tail ∈ tailChanges, tail.objectId ≠ "" ∧ tail.change.profile = profile ∧
          tail.change.operation = "set_text") ∧
        manifest = builtManifest profile rootId none tailChanges retentionPolicy := by
  unfold settingsSyncManifestForTailChanges
  simp only [check_then_eq_ok_iff, ne_eq, bind_eq_ok_iff, forM_eq_ok_iff,
    validateTailPublication_eq_ok_iff]
  constructor
  · rintro ⟨root, nonempty, _, tails, built⟩
    exact ⟨root, nonempty, tails, (Except.ok.inj built).symm⟩
  · rintro ⟨root, nonempty, tails, rfl⟩
    exact ⟨root, nonempty, (), tails, rfl⟩

/-- A builder fails on other inputs, and builds one manifest from these. -/
theorem buildSettingsManifest_eq_ok_iff :
    buildSettingsManifest profile rootId snapshot tailChanges retentionPolicy = .ok manifest ↔
      Buildable profile rootId snapshot tailChanges ∧
        manifest = builtManifest profile rootId snapshot tailChanges retentionPolicy := by
  cases snapshot with
  | none =>
      rw [buildSettingsManifest, settingsSyncManifestForTailChanges_eq_ok_iff]
      constructor
      · rintro ⟨root, nonempty, tails, rfl⟩
        exact ⟨⟨root, fun _ => nonempty, by simp, by simp [coveredChangesOf], tails⟩, rfl⟩
      · rintro ⟨buildable, rfl⟩
        exact ⟨buildable.hasRootId, buildable.hasTail rfl, buildable.tailValid, rfl⟩
  | some publication =>
      rw [buildSettingsManifest, settingsSyncManifest_eq_ok_iff]
      constructor
      · rintro ⟨⟨root, objectId, ofProfile, schema⟩, covered, tails, rfl⟩
        refine ⟨⟨root, by simp, ?_, covered, tails⟩, rfl⟩
        rintro _ ⟨⟩
        exact ⟨objectId, ofProfile, schema⟩
      · rintro ⟨buildable, rfl⟩
        obtain ⟨objectId, ofProfile, schema⟩ := buildable.snapshotValid publication rfl
        exact ⟨⟨buildable.hasRootId, objectId, ofProfile, schema⟩, buildable.coveredValid,
          buildable.tailValid, rfl⟩

end Builders

section Order

/-- The same snapshot, its domains and covered changes in another order. -/
structure Reordered (first second : ProfileSyncSettingsSnapshotPublication) : Prop where
  objectId : second.objectId = first.objectId
  snapshot : second.snapshot =
    { first.snapshot with includedDomains := second.snapshot.includedDomains }
  domains : first.snapshot.includedDomains.Perm second.snapshot.includedDomains
  covered : first.coveredChanges.Perm second.coveredChanges

variable {profile rootId : String}
  {snapshot otherSnapshot : Option ProfileSyncSettingsSnapshotPublication}
  {tailChanges otherTail : List ProfileSyncSettingsTailChangePublication}
  {retentionPolicy : ProfileSyncRetentionPolicy}

theorem coveredChangesOf_perm (reordered : Option.Rel Reordered snapshot otherSnapshot) :
    (coveredChangesOf snapshot).Perm (coveredChangesOf otherSnapshot) := by
  cases reordered with
  | some publication => exact publication.covered
  | none => exact .refl _

theorem snapshotDomainsOf_perm (reordered : Option.Rel Reordered snapshot otherSnapshot) :
    (snapshotDomainsOf snapshot).Perm (snapshotDomainsOf otherSnapshot) := by
  cases reordered with
  | some publication => exact publication.domains
  | none => exact .refl _

theorem mem_normalizedSnapshotDomains_congr
    (reordered : Option.Rel Reordered snapshot otherSnapshot) (domain : String) :
    domain ∈ normalizedSnapshotDomains (snapshotDomainsOf otherSnapshot) ↔
      domain ∈ normalizedSnapshotDomains (snapshotDomainsOf snapshot) := by
  simp only [mem_normalizedSnapshotDomains, (snapshotDomainsOf_perm reordered).mem_iff]

theorem Buildable.reorder (buildable : Buildable profile rootId snapshot tailChanges)
    (reordered : Option.Rel Reordered snapshot otherSnapshot)
    (tail : tailChanges.Perm otherTail) : Buildable profile rootId otherSnapshot otherTail where
  hasRootId := buildable.hasRootId
  hasTail := by
    rintro rfl
    cases reordered
    intro isEmpty
    rw [isEmpty] at tail
    exact buildable.hasTail rfl tail.eq_nil
  snapshotValid := by
    rintro publication ⟨⟩
    cases reordered with
    | some same =>
        obtain ⟨objectId, ofProfile, schema⟩ := buildable.snapshotValid _ rfl
        rw [same.objectId, same.snapshot]
        exact ⟨objectId, ofProfile, schema⟩
  coveredValid := by
    intro change isCovered
    rw [mem_normalizedSnapshotDomains_congr reordered]
    exact buildable.coveredValid change ((coveredChangesOf_perm reordered).mem_iff.mpr isCovered)
  tailValid := by
    intro publication isPublished
    exact buildable.tailValid publication (tail.mem_iff.mpr isPublished)

/-- Sorted and without repetition, texts are determined by which ones there are. -/
theorem sorted_dedup_eq {first second : List String}
    (same : ∀ text, text ∈ first ↔ text ∈ second) :
    first.dedup.insertionSort (· ≤ ·) = second.dedup.insertionSort (· ≤ ·) := by
  have kept : first.dedup.Perm second.dedup := by
    rw [List.perm_ext_iff_of_nodup (List.nodup_dedup _) (List.nodup_dedup _)]
    simpa only [List.mem_dedup] using same
  exact (List.perm_insertionSort _ _ |>.trans kept |>.trans
    (List.perm_insertionSort _ _).symm).eq_of_pairwise' (List.pairwise_insertionSort _ _)
      (List.pairwise_insertionSort _ _)

theorem laterOf_rightComm (time first second : Int) :
    laterOf (laterOf time first) second = laterOf (laterOf time second) first := by
  unfold laterOf
  grind

/-- What does not depend on the order of the inputs. -/
def OrderIndependentPart (first second : ProfileSyncManifest) : Prop :=
  first.deviceFrontiers = second.deviceFrontiers ∧
    first.includedDomains = second.includedDomains ∧ first.createdAt = second.createdAt

theorem builtManifest_reorder (reordered : Option.Rel Reordered snapshot otherSnapshot)
    (tail : tailChanges.Perm otherTail) :
    OrderIndependentPart (builtManifest profile rootId snapshot tailChanges retentionPolicy)
      (builtManifest profile rootId otherSnapshot otherTail retentionPolicy) := by
  refine ⟨sorted_manifestFrontiers_eq (coveredChangesOf_perm reordered) tail, ?_, ?_⟩
  · apply sorted_dedup_eq
    intro domain
    simp only [List.mem_append, mem_normalizedSnapshotDomains_congr reordered,
      (tail.map _).mem_iff]
  · have sameStart : (otherSnapshot.map (·.snapshot.createdAt)).getD 0 =
        (snapshot.map (·.snapshot.createdAt)).getD 0 := by
      cases reordered with
      | some same =>
          simp only [Option.map_some, Option.getD_some]
          rw [same.snapshot]
      | none => rfl
    simp only [builtManifest, sameStart]
    exact List.Perm.foldl_eq' (tail.map _) (fun first _ second _ time =>
      laterOf_rightComm time first second) _

end Order

section Receiver

/-- The published snapshot as a receiver opens it. -/
def verifiedSnapshot (publication : ProfileSyncSettingsSnapshotPublication) :
    VerifiedProfileSyncSettingsSnapshot :=
  { objectId := publication.objectId, snapshot := publication.snapshot }

def verifiedTailChange (publication : ProfileSyncSettingsTailChangePublication) :
    VerifiedProfileSyncSettingsTailChange :=
  { objectId := publication.objectId, change := publication.change.content }

theorem validateManifestSnapshot_eq_ok_iff {manifest : ProfileSyncManifest}
    {snapshot : VerifiedProfileSyncSettingsSnapshot} :
    validateManifestSnapshot manifest snapshot = .ok () ↔
      snapshot.snapshot.profile = manifest.profile ∧
        ∀ domain ∈ snapshot.snapshot.includedDomains, domain ∈ manifest.includedDomains := by
  unfold validateManifestSnapshot
  by_cases ofProfile : snapshot.snapshot.profile = manifest.profile
  · rw [if_neg (not_not.mpr ofProfile)]
    cases found : snapshot.snapshot.includedDomains.find?
        fun domain => !manifest.includedDomains.contains domain with
    | none => simpa [ofProfile] using found
    | some domain =>
        have missing := List.find?_some found
        have isIncluded := List.mem_of_find?_eq_some found
        constructor
        · intro h
          cases h
        · rintro ⟨-, included⟩
          simp [included domain isIncluded] at missing
  · rw [if_pos ofProfile]
    constructor
    · intro h
      cases h
    · rintro ⟨same, -⟩
      exact absurd same ofProfile

theorem validateManifestTailChange_eq_ok_iff {manifest : ProfileSyncManifest}
    {tail : VerifiedProfileSyncSettingsTailChange} :
    validateManifestTailChange manifest tail = .ok () ↔
      tail.change.profile = manifest.profile ∧ tail.change.domain ∈ manifest.includedDomains := by
  unfold validateManifestTailChange
  by_cases ofProfile : tail.change.profile = manifest.profile
  · by_cases included : tail.change.domain ∈ manifest.includedDomains
    · simp [ofProfile, included]
    · simp [ofProfile, included]
  · simp [ofProfile]

theorem validateSettingsManifestApplication_eq_ok_iff {manifest : ProfileSyncManifest}
    {snapshot : Option VerifiedProfileSyncSettingsSnapshot}
    {tailChanges : List VerifiedProfileSyncSettingsTailChange} :
    validateSettingsManifestApplication manifest snapshot tailChanges = .ok () ↔
      manifest.schemaVersion = profileSyncManifestSchemaVersion ∧ manifest.profile ≠ "" ∧
        manifest.rootId ≠ "" ∧ validateCurrentSnapshot manifest snapshot = .ok () ∧
        tailChanges.map (·.objectId) = manifest.tailChangeObjectIds ∧
        ∀ tail ∈ tailChanges, tail.change.profile = manifest.profile ∧
          tail.change.domain ∈ manifest.includedDomains := by
  unfold validateSettingsManifestApplication
  simp only [check_then_eq_ok_iff, unit_bind_eq_ok_iff, forM_eq_ok_iff, not_not, ne_eq,
    validateManifestTailChange_eq_ok_iff]

variable {profile rootId : String} {snapshot : Option ProfileSyncSettingsSnapshotPublication}
  {tailChanges : List ProfileSyncSettingsTailChangePublication}
  {retentionPolicy : ProfileSyncRetentionPolicy}

theorem mem_builtManifest_includedDomains {domain : String} :
    domain ∈ (builtManifest profile rootId snapshot tailChanges
        retentionPolicy).includedDomains ↔
      (domain ∈ snapshotDomainsOf snapshot ∧ domain ≠ "") ∨
        ∃ tail ∈ tailChanges, tail.change.domain = domain := by
  simp only [builtManifest, List.mem_insertionSort, List.mem_dedup, List.mem_append,
    mem_normalizedSnapshotDomains, List.mem_map]

/-- An empty domain of the snapshot is left out of the manifest, unless the tail has it. -/
def EmptyDomainKept (snapshot : Option ProfileSyncSettingsSnapshotPublication)
    (tailChanges : List ProfileSyncSettingsTailChangePublication) : Prop :=
  "" ∈ snapshotDomainsOf snapshot → ∃ tail ∈ tailChanges, tail.change.domain = ""

theorem includedDomains_eq_union_iff :
    (∀ domain, domain ∈ (builtManifest profile rootId snapshot tailChanges
        retentionPolicy).includedDomains ↔
      domain ∈ snapshotDomainsOf snapshot ∨ ∃ tail ∈ tailChanges, tail.change.domain = domain) ↔
      EmptyDomainKept snapshot tailChanges := by
  simp only [mem_builtManifest_includedDomains]
  constructor
  · intro union isIncluded
    rcases (union "").mpr (.inl isIncluded) with ⟨-, notEmpty⟩ | isTail
    · exact absurd rfl notEmpty
    · exact isTail
  · intro kept domain
    by_cases isEmpty : domain = ""
    · subst isEmpty
      simpa [EmptyDomainKept] using kept
    · simp [isEmpty]

theorem validateCurrentSnapshot_builtManifest_iff
    (buildable : Buildable profile rootId snapshot tailChanges) :
    validateCurrentSnapshot (builtManifest profile rootId snapshot tailChanges retentionPolicy)
        (snapshot.map verifiedSnapshot) = .ok () ↔
      EmptyDomainKept snapshot tailChanges := by
  cases snapshot with
  | none =>
      have noDomain : EmptyDomainKept none tailChanges := by
        intro isIncluded
        cases isIncluded
      exact iff_of_true rfl noDomain
  | some publication =>
      obtain ⟨-, ofProfile, -⟩ := buildable.snapshotValid publication rfl
      have named : validateCurrentSnapshot
          (builtManifest profile rootId (some publication) tailChanges retentionPolicy)
          (some (verifiedSnapshot publication)) =
        validateManifestSnapshot
          (builtManifest profile rootId (some publication) tailChanges retentionPolicy)
          (verifiedSnapshot publication) := if_pos rfl
      rw [Option.map_some, named, validateManifestSnapshot_eq_ok_iff]
      constructor
      · rintro ⟨-, included⟩ isIncluded
        rcases mem_builtManifest_includedDomains.mp (included "" isIncluded) with
          ⟨-, notEmpty⟩ | isTail
        · exact absurd rfl notEmpty
        · exact isTail
      · intro kept
        refine ⟨ofProfile, fun domain isIncluded => ?_⟩
        exact (includedDomains_eq_union_iff.mpr kept domain).mpr (.inl isIncluded)

/-- The receiver accepts a built manifest unless the profile is empty or an empty domain of
the snapshot was left out. -/
theorem validate_builtManifest_iff (buildable : Buildable profile rootId snapshot tailChanges) :
    validateSettingsManifestApplication
        (builtManifest profile rootId snapshot tailChanges retentionPolicy)
        (snapshot.map verifiedSnapshot) (tailChanges.map verifiedTailChange) = .ok () ↔
      profile ≠ "" ∧ EmptyDomainKept snapshot tailChanges := by
  rw [validateSettingsManifestApplication_eq_ok_iff,
    validateCurrentSnapshot_builtManifest_iff buildable]
  have tails : ∀ tail ∈ tailChanges.map verifiedTailChange,
      tail.change.profile = profile ∧ tail.change.domain ∈
        (builtManifest profile rootId snapshot tailChanges retentionPolicy).includedDomains := by
    intro tail isVerified
    obtain ⟨publication, isPublished, rfl⟩ := List.mem_map.mp isVerified
    exact ⟨(buildable.tailValid publication isPublished).2.1,
      mem_builtManifest_includedDomains.mpr (.inr ⟨publication, isPublished, rfl⟩)⟩
  have ids : (tailChanges.map verifiedTailChange).map (·.objectId) =
      tailChanges.map (·.objectId) := by
    rw [List.map_map]
    rfl
  constructor
  · rintro ⟨-, hasProfile, -, kept, -⟩
    exact ⟨hasProfile, kept⟩
  · rintro ⟨hasProfile, kept⟩
    exact ⟨rfl, hasProfile, buildable.hasRootId, kept, ids, tails⟩

/-- What a built manifest is meant to be: accepted by its receiver, with the latest sequence
of every device, with the domains of what it names, whatever the order of that was. -/
structure DescribesPublication (profile rootId : String)
    (snapshot : Option ProfileSyncSettingsSnapshotPublication)
    (tailChanges : List ProfileSyncSettingsTailChangePublication)
    (retentionPolicy : ProfileSyncRetentionPolicy) (manifest : ProfileSyncManifest) : Prop where
  accepted : validateSettingsManifestApplication manifest (snapshot.map verifiedSnapshot)
    (tailChanges.map verifiedTailChange) = .ok ()
  deviceOnce : (manifest.deviceFrontiers.map (·.deviceId)).Nodup
  frontier : ∀ deviceId sequence,
    (∃ frontier ∈ manifest.deviceFrontiers,
        frontier.deviceId = deviceId ∧ frontier.latestSequence = sequence) ↔
      IsGreatest {published |
        ∃ change ∈ publishedChanges (coveredChangesOf snapshot) tailChanges,
          change.deviceId = deviceId ∧ change.deviceSequence = published} sequence
  domainsSorted : manifest.includedDomains.Pairwise (· < ·)
  domains : ∀ domain, domain ∈ manifest.includedDomains ↔
    domain ∈ snapshotDomainsOf snapshot ∨ ∃ tail ∈ tailChanges, tail.change.domain = domain
  orderIndependent : ∀ otherSnapshot otherTail, Option.Rel Reordered snapshot otherSnapshot →
    tailChanges.Perm otherTail →
    ∃ other, buildSettingsManifest profile rootId otherSnapshot otherTail retentionPolicy =
      .ok other ∧ OrderIndependentPart manifest other

theorem includedDomains_pairwise_lt :
    (builtManifest profile rootId snapshot tailChanges
      retentionPolicy).includedDomains.Pairwise (· < ·) := by
  have sorted := List.pairwise_insertionSort (· ≤ ·)
    (normalizedSnapshotDomains (snapshotDomainsOf snapshot) ++
      tailChanges.map (·.change.domain)).dedup
  have distinct := (List.perm_insertionSort (· ≤ ·) _).nodup_iff.mpr
    (List.nodup_dedup (normalizedSnapshotDomains (snapshotDomainsOf snapshot) ++
      tailChanges.map (·.change.domain)))
  exact (sorted.and distinct).imp fun both => lt_of_le_of_ne both.1 both.2

theorem deviceFrontiers_deviceId_nodup :
    ((builtManifest profile rootId snapshot tailChanges
      retentionPolicy).deviceFrontiers.map (·.deviceId)).Nodup := by
  have unique := @LatestRows.uniqueKeys_putAll _ _ _ _ _ (·.deviceId) frontierRank
    (publishedFrontiers (coveredChangesOf snapshot) tailChanges)
  rw [← manifestFrontiers_eq] at unique
  exact ((List.perm_insertionSort _ _).map _).nodup_iff.mpr unique

/-- A manifest that was built is what it is meant to be exactly if the profile is not empty
and no empty domain of the snapshot was left out. -/
theorem describesPublication_iff {manifest : ProfileSyncManifest}
    (built : buildSettingsManifest profile rootId snapshot tailChanges retentionPolicy =
      .ok manifest) :
    DescribesPublication profile rootId snapshot tailChanges retentionPolicy manifest ↔
      profile ≠ "" ∧ EmptyDomainKept snapshot tailChanges := by
  obtain ⟨buildable, rfl⟩ := buildSettingsManifest_eq_ok_iff.mp built
  constructor
  · intro describes
    exact (validate_builtManifest_iff buildable).mp describes.accepted
  · intro condition
    constructor
    · exact (validate_builtManifest_iff buildable).mpr condition
    · exact deviceFrontiers_deviceId_nodup
    · intro deviceId sequence
      simp only [builtManifest, List.mem_insertionSort]
      exact isGreatest_iff_mem_manifestFrontiers
    · exact includedDomains_pairwise_lt
    · exact includedDomains_eq_union_iff.mpr condition.2
    · intro otherSnapshot otherTail reordered tail
      refine ⟨_, buildSettingsManifest_eq_ok_iff.mpr ⟨buildable.reorder reordered tail, rfl⟩, ?_⟩
      exact builtManifest_reorder reordered tail

end Receiver

section Examples

def themeTail (profile : String) : ProfileSyncSettingsTailChangePublication where
  objectId := "change-object"
  change :=
    { id := 1, profile, domain := "settings", entityKey := "theme", operation := "set_text"
      payload := "{}", deviceId := "laptop", deviceSequence := 1, logicalClock := 1
      createdAt := 5, appliedAt := some 5 }

def emptySnapshot (includedDomains : List String) : ProfileSyncSettingsSnapshotPublication where
  objectId := "snapshot-object"
  snapshot :=
    { profile := "default", schemaVersion := profileSyncSettingsSnapshotSchemaVersion
      coversRevision := 0, includedDomains, values := [], createdAt := 3 }
  coveredChanges := []

/-- A manifest of the empty profile is built and never accepted; neither is one of a snapshot
with an empty domain. -/
theorem built_manifest_rejected :
    (∃ manifest,
      buildSettingsManifest "" "settings-root" none [themeTail ""] {} = .ok manifest ∧
        validateSettingsManifestApplication manifest none [verifiedTailChange (themeTail "")] =
          .error (.invalidProfileSyncManifest "manifest profile is empty")) ∧
      ∃ manifest,
        buildSettingsManifest "default" "settings-root" (some (emptySnapshot ["", "settings"]))
          [themeTail "default"] {} = .ok manifest ∧
        validateSettingsManifestApplication manifest
            (some (verifiedSnapshot (emptySnapshot ["", "settings"])))
            [verifiedTailChange (themeTail "default")] =
          .error (.invalidProfileSyncManifest
            "snapshot object snapshot-object domain  is not included in manifest") := by
  refine ⟨⟨builtManifest "" "settings-root" none [themeTail ""] {}, ?_, ?_⟩,
    builtManifest "default" "settings-root" (some (emptySnapshot ["", "settings"]))
      [themeTail "default"] {}, ?_, ?_⟩
  · decide +kernel
  · decide +kernel
  · decide +kernel
  · decide +kernel

theorem settings_manifest_describes_publication :
    DescribesPublication "default" "settings-root" (some (emptySnapshot ["settings"]))
        [themeTail "default"] {}
        (builtManifest "default" "settings-root" (some (emptySnapshot ["settings"]))
          [themeTail "default"] {}) ↔
      "default" ≠ "" ∧ EmptyDomainKept (some (emptySnapshot ["settings"]))
        [themeTail "default"] :=
  describesPublication_iff (by decide +kernel)

end Examples

end Slate.ProfileSync
