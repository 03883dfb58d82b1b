import Slate.ProfileSync.PublisherSteps
import Slate.ProfileSync.Rollback
import Slate.Storage.History
import Slate.Storage.PullScope

/-!
# Tails that are skipped

A manifest is left out when the recorded changes reach its frontiers, a head when they reach
its sequence. Each time one number per device is compared. What is left out was recorded
before if no change of a device is missing below its last recorded one, and that is so if
every operation of the receiver records the changes of a device in order.
-/

namespace Slate.ProfileSync

open Slate.Foundation Slate.Storage
open Slate.Storage.SlateProfileDatabase

section Frontiers

/-- The frontier of the mark's device is at least as far. -/
def HasFrontier (frontiers : List ProfileSyncDeviceFrontier) (mark : String × Int) : Prop :=
  ∃ frontier, Rows.lookup (·.deviceId) mark.1 frontiers = some frontier ∧
    mark.2 ≤ frontier.latestSequence

variable {frontiers : List ProfileSyncDeviceFrontier} {next : ProfileSyncDeviceFrontier}
  {mark : String × Int}

/-- The frontier that is kept of two for one device. -/
def laterFrontier (existing next : ProfileSyncDeviceFrontier) : ProfileSyncDeviceFrontier :=
  if frontierReaches existing next then existing else next

theorem latestSequence_le_laterFrontier (existing next : ProfileSyncDeviceFrontier) :
    existing.latestSequence ≤ (laterFrontier existing next).latestSequence ∧
      next.latestSequence ≤ (laterFrontier existing next).latestSequence := by
  unfold laterFrontier
  by_cases reaches : frontierReaches existing next = true
  · rw [if_pos reaches]
    simp only [frontierReaches, Bool.or_eq_true, Bool.and_eq_true, decide_eq_true_eq,
      beq_iff_eq] at reaches
    omega
  · rw [if_neg reaches]
    simp only [frontierReaches, Bool.or_eq_true, decide_eq_true_eq, not_or] at reaches
    omega

theorem deviceId_laterFrontier (next existing : ProfileSyncDeviceFrontier)
    (same : existing.deviceId = next.deviceId) :
    (laterFrontier existing next).deviceId = next.deviceId := by
  unfold laterFrontier
  split
  · exact same
  · rfl

theorem upsertDeviceFrontier_eq :
    upsertDeviceFrontier frontiers next =
      Rows.upsert (·.deviceId) laterFrontier next frontiers := rfl

theorem lookup_upsertDeviceFrontier (deviceId : String) :
    Rows.lookup (·.deviceId) deviceId (upsertDeviceFrontier frontiers next) =
      if next.deviceId = deviceId then
        some (((Rows.lookup (·.deviceId) deviceId frontiers).map (laterFrontier · next)).getD next)
      else Rows.lookup (·.deviceId) deviceId frontiers := by
  rw [upsertDeviceFrontier_eq, Rows.lookup_upsert (deviceId_laterFrontier next)]

theorem HasFrontier.upsert (reached : HasFrontier frontiers mark) :
    HasFrontier (upsertDeviceFrontier frontiers next) mark := by
  obtain ⟨frontier, found, le⟩ := reached
  unfold HasFrontier
  rw [lookup_upsertDeviceFrontier, found]
  by_cases same : next.deviceId = mark.1
  · rw [if_pos same]
    exact ⟨_, rfl, le.trans (latestSequence_le_laterFrontier frontier next).1⟩
  · rw [if_neg same]
    exact ⟨frontier, rfl, le⟩

theorem hasFrontier_upsert_self :
    HasFrontier (upsertDeviceFrontier frontiers next) (next.deviceId, next.latestSequence) := by
  unfold HasFrontier
  rw [lookup_upsertDeviceFrontier, if_pos rfl]
  cases Rows.lookup (·.deviceId) next.deviceId frontiers with
  | none => exact ⟨next, rfl, le_rfl⟩
  | some existing => exact ⟨_, rfl, (latestSequence_le_laterFrontier existing next).2⟩

theorem HasFrontier.foldl (added : List ProfileSyncDeviceFrontier)
    (reached : HasFrontier frontiers mark) :
    HasFrontier (added.foldl upsertDeviceFrontier frontiers) mark := by
  induction added generalizing frontiers with
  | nil => exact reached
  | cons next rest inductionHypothesis => exact inductionHypothesis reached.upsert

theorem hasFrontier_foldl {added : List ProfileSyncDeviceFrontier} (membership : next ∈ added) :
    HasFrontier (added.foldl upsertDeviceFrontier frontiers)
      (next.deviceId, next.latestSequence) := by
  induction added generalizing frontiers with
  | nil => cases membership
  | cons first rest inductionHypothesis =>
      rcases List.mem_cons.mp membership with rfl | later
      · exact hasFrontier_upsert_self.foldl rest
      · exact inductionHypothesis later

theorem uniqueKeys_foldl_upsertDeviceFrontier (added : List ProfileSyncDeviceFrontier)
    (unique : Rows.UniqueKeys (·.deviceId) frontiers) :
    Rows.UniqueKeys (·.deviceId) (added.foldl upsertDeviceFrontier frontiers) := by
  induction added generalizing frontiers with
  | nil => exact unique
  | cons next rest inductionHypothesis =>
      apply inductionHypothesis
      rw [upsertDeviceFrontier_eq]
      exact Rows.uniqueKeys_upsert (deviceId_laterFrontier next) unique

/-- A manifest was built for these tail changes. -/
def BuiltFor (profile : String) (tailChanges : List IncomingSyncSettingText)
    (manifest : ProfileSyncManifest) : Prop :=
  ∃ rootId snapshot publications retentionPolicy,
    settingsSyncManifestForSnapshotAndTailChanges profile rootId snapshot publications
      retentionPolicy = .ok manifest ∧
    tailChanges = publications.map (·.change.content)

/-- Every frontier of a change's device is at least as far as the change, and there is one. -/
theorem BuiltFor.frontier {profile : String} {tailChanges : List IncomingSyncSettingText}
    {manifest : ProfileSyncManifest} (built : BuiltFor profile tailChanges manifest)
    {change : IncomingSyncSettingText} (membership : change ∈ tailChanges) :
    (∃ mark ∈ frontierMarks manifest, mark.1 = change.deviceId) ∧
      ∀ mark ∈ frontierMarks manifest, mark.1 = change.deviceId →
        change.deviceSequence ≤ mark.2 := by
  obtain ⟨rootId, snapshot, publications, retentionPolicy, isBuilt, rfl⟩ := built
  obtain ⟨publication, isPublication, rfl⟩ := List.mem_map.mp membership
  have manifestIs := (settingsSyncManifest_eq_ok_iff.mp isBuilt).2.2.2
  have frontiers : ∀ mark, mark ∈ frontierMarks manifest ↔
      ∃ frontier ∈ manifestFrontiers snapshot.coveredChanges publications,
        (frontier.deviceId, frontier.latestSequence) = mark := by
    intro mark
    rw [manifestIs]
    simp only [frontierMarks, List.mem_map, List.mem_insertionSort]
  have unique : Rows.UniqueKeys (·.deviceId)
      (manifestFrontiers snapshot.coveredChanges publications) :=
    uniqueKeys_foldl_upsertDeviceFrontier _
      (uniqueKeys_foldl_upsertDeviceFrontier _ List.nodup_nil)
  obtain ⟨frontier, found, le⟩ : HasFrontier
      (manifestFrontiers snapshot.coveredChanges publications)
      (publication.change.deviceId, publication.change.deviceSequence) :=
    hasFrontier_foldl (List.mem_map_of_mem isPublication)
  obtain ⟨isFrontier, sameDevice⟩ := (Rows.lookup_eq_some_iff unique).mp found
  constructor
  · exact ⟨_, (frontiers _).mpr ⟨frontier, isFrontier, rfl⟩, sameDevice⟩
  · intro mark isMark ofDevice
    obtain ⟨other, isOther, rfl⟩ := (frontiers mark).mp isMark
    have same : Rows.lookup (·.deviceId) publication.change.deviceId
        (manifestFrontiers snapshot.coveredChanges publications) = some other :=
      (Rows.lookup_eq_some_iff unique).mpr ⟨isOther, ofDevice⟩
    rw [found] at same
    rw [← Option.some.inj same]
    exact le

end Frontiers

section Runs

variable {codec : SyncPayloadCodec} {profile : String} {known : String → Int → Prop}
  {db next : SlateProfileDatabase}

/-- The sequences that an operation records. -/
def newlyRecorded (profile : String) (db next : SlateProfileDatabase) : String → Int → Prop :=
  fun deviceId sequence =>
    Recorded profile deviceId sequence next ∧ ¬ Recorded profile deviceId sequence db

/-- With each change the known earlier changes of its device are recorded. -/
def RecordsInOrder (profile : String) (known : String → Int → Prop)
    (db next : SlateProfileDatabase) : Prop :=
  InOrder known (ledger profile db).recorded (newlyRecorded profile db next)

/-- The databases that operations lead to which record in order. -/
def ReachableInOrder (codec : SyncPayloadCodec) (profile : String) (known : String → Int → Prop)
    (db : SlateProfileDatabase) : Prop :=
  ∃ localSyncDeviceId,
    Relation.ReflTransGen (fun db next => Operation codec db next ∧
      RecordsInOrder profile known db next) { localSyncDeviceId } db

theorem recorded_of_operation (operation : Operation codec db next) {deviceId : String}
    {sequence : Int} (recorded : Recorded profile deviceId sequence db) :
    Recorded profile deviceId sequence next := by
  obtain ⟨change, membership, sameKey⟩ := recorded
  exact ⟨change, operation.run.mem_contents membership, sameKey⟩

theorem recorded_step (operation : Operation codec db next) :
    (ledger profile next).recorded = fun deviceId sequence =>
      (ledger profile db).recorded deviceId sequence ∨
        newlyRecorded profile db next deviceId sequence := by
  funext deviceId sequence
  apply propext
  constructor
  · intro recorded
    by_cases before : Recorded profile deviceId sequence db
    · exact .inl before
    · exact .inr ⟨recorded, before⟩
  · rintro (recorded | recorded)
    · exact recorded_of_operation operation recorded
    · exact recorded.1

/-- A manifest whose changes come in order is recorded in order. -/
theorem recordsInOrder_of_brought {objects : VerifiedProfileSyncSettingsManifestObjects}
    {application : ProfileSyncSettingsManifestApplication} {now : Int}
    (applied : db.applyVerifiedSettingsManifest codec objects now = .ok (application, next))
    (inOrder : InOrder known (ledger profile db).recorded (brought profile objects)) :
    RecordsInOrder profile known db next := by
  have recorded : ∀ deviceId sequence, Recorded profile deviceId sequence next ↔
      Recorded profile deviceId sequence db ∨ brought profile objects deviceId sequence :=
    fun deviceId sequence => recorded_applyVerifiedSettingsManifest applied
  intro deviceId sequence later isKnown isNew le
  have isBrought := ((recorded deviceId later).mp isNew.1).resolve_left isNew.2
  by_cases before : Recorded profile deviceId sequence db
  · exact .inl before
  · rcases inOrder deviceId sequence later isKnown isBrought le with seen | isBrought
    · exact .inl seen
    · exact .inr ⟨(recorded deviceId sequence).mpr (.inr isBrought), before⟩

theorem ReachableInOrder.otherTables (reached : ReachableInOrder codec profile known db)
    (same : next.log = db.log) : ReachableInOrder codec profile known next := by
  obtain ⟨localSyncDeviceId, path⟩ := reached
  refine ⟨localSyncDeviceId, path.tail ⟨.otherTables same, ?_⟩⟩
  rintro deviceId sequence later - ⟨recorded, unrecorded⟩ -
  rw [Recorded, same] at recorded
  exact absurd recorded unrecorded

theorem ReachableInOrder.applyManifest (reached : ReachableInOrder codec profile known db)
    {objects : VerifiedProfileSyncSettingsManifestObjects}
    {application : ProfileSyncSettingsManifestApplication} {now : Int}
    (applied : db.applyVerifiedSettingsManifest codec objects now = .ok (application, next))
    (inOrder : InOrder known (ledger profile db).recorded (brought profile objects)) :
    ReachableInOrder codec profile known next := by
  obtain ⟨localSyncDeviceId, path⟩ := reached
  exact ⟨localSyncDeviceId,
    path.tail ⟨.applyVerifiedSettingsManifest applied, recordsInOrder_of_brought applied inOrder⟩⟩

/-- A head is pulled in order if its manifest brings its changes in order. -/
theorem ReachableInOrder.pullHead (reached : ReachableInOrder codec profile known db)
    {scheme : SyncObjectScheme} {rootId keyId : String} {contentKey : List Nat}
    {store : ObjectStore} {now : Int} {status : BroadwebdTrustedDeviceHeadSyncStatus}
    (pulled : pullRecordAndApplyTrustedSettingsFromDeviceHead codec scheme profile rootId contentKey
      keyId store now db = .ok (status, next))
    (inOrder : ∀ head objects,
      db.pullTrustedSignedProfileSyncDeviceHead scheme (store.source scheme) profile rootId
        contentKey keyId = .ok (some head) →
      db.pullTrustedSignedProfileSyncSettingsManifestObjectsFromDeviceHead scheme
        (store.source scheme) profile head contentKey keyId = .ok objects →
      InOrder known (ledger profile db).recorded (brought profile objects)) :
    ReachableInOrder codec profile known next := by
  rcases pullRecordAndApply_cases pulled with
    ⟨rfl, -⟩ | ⟨head, localHead, found, -, ⟨rfl, -⟩ |
      ⟨-, objects, _, opened, -, ⟨rfl, -⟩ | ⟨application, -, -, applied⟩⟩⟩
  · exact reached
  · exact reached
  · exact reached
  · obtain ⟨⟨_, middle⟩, manifestApplied, applied⟩ := bind_eq_ok_iff.mp applied
    obtain ⟨⟨_, final⟩, rootSet, applied⟩ := bind_eq_ok_iff.mp applied
    obtain ⟨-, rfl⟩ := ok_pair_inj applied
    apply (reached.applyManifest manifestApplied (inOrder head objects found opened)).otherTables
    rw [(setProfileSyncRoot_eq_ok rootSet).2]
    rfl

/-- Recording in order leaves no gap. -/
theorem ReachableInOrder.gapFree (reached : ReachableInOrder codec profile known db) :
    GapFree known (ledger profile db).recorded := by
  obtain ⟨localSyncDeviceId, path⟩ := reached
  induction path with
  | refl =>
      rintro deviceId sequence later - ⟨change, membership, -⟩ -
      cases membership
  | tail _ step inductionHypothesis =>
      rw [recorded_step step.1]
      exact inductionHypothesis.bring step.2

end Runs

section Skips

variable {codec : SyncPayloadCodec} {scheme : SyncObjectScheme} {profile : String}
  {known : String → Int → Prop} {db : SlateProfileDatabase}
  {objects : VerifiedProfileSyncSettingsManifestObjects}

/-- The changes of a manifest's tail. -/
def tailChanges (objects : VerifiedProfileSyncSettingsManifestObjects) :
    List IncomingSyncSettingText :=
  objects.tailChanges.map (·.change)

/-- A pulled manifest is left out: as a candidate that is covered, or with a head that is
answered stale. Both were built by their publisher, and the tail of a head has changes of
its device only. -/
inductive Skipped (codec : SyncPayloadCodec) (scheme : SyncObjectScheme) (profile : String)
    (db : SlateProfileDatabase) : VerifiedProfileSyncSettingsManifestObjects → Prop where
  | covered {SourceError : Type} {source : ProfileSyncObjectSource SourceError}
      {contentKey : List Nat} {key : SyncContentKeyEpochRecord}
      {rootCandidate : ProfileSyncRootCandidate}
      {candidate : VerifiedProfileSyncSettingsManifestCandidate}
      (pulled : db.pullActiveCandidate scheme source profile contentKey key rootCandidate =
        .ok candidate)
      (built : BuiltFor profile (tailChanges candidate.objects) candidate.objects.manifest)
      (isCovered : db.settingsManifestFrontiersLocallyCovered profile
        candidate.objects.manifest = true) :
      Skipped codec scheme profile db candidate.objects
  | stale {rootId keyId objectId deviceId : String} {contentKey : List Nat} {store : ObjectStore}
      {now current incoming : Int} {next : SlateProfileDatabase}
      {head : VerifiedProfileSyncDeviceHead}
      {objects : VerifiedProfileSyncSettingsManifestObjects}
      (answered : pullRecordAndApplyTrustedSettingsFromDeviceHead codec scheme profile rootId
        contentKey keyId store now db =
          .ok (.stale profile rootId objectId deviceId current incoming, next))
      (pulled : db.pullTrustedSignedProfileSyncDeviceHead scheme (store.source scheme) profile
        rootId contentKey keyId = .ok (some head))
      (opened : db.pullTrustedSignedProfileSyncSettingsManifestObjectsFromDeviceHead scheme
        (store.source scheme) profile head contentKey keyId = .ok objects)
      (built : BuiltFor profile (tailChanges objects) objects.manifest)
      (own : ∀ change ∈ tailChanges objects, change.deviceId = head.deviceHead.deviceId) :
      Skipped codec scheme profile db objects

/-- What is left out lists no change that the recorded ones do not reach. -/
theorem Skipped.reaches (skipped : Skipped codec scheme profile db objects)
    {change : IncomingSyncSettingText} (membership : change ∈ tailChanges objects) :
    Reaches (ledger profile db).recorded (change.deviceId, change.deviceSequence) := by
  cases skipped with
  | covered pulled built isCovered =>
      obtain ⟨-, reached⟩ := settingsManifestFrontiersLocallyCovered_iff.mp isCovered
      obtain ⟨⟨mark, isMark, ofDevice⟩, within⟩ := built.frontier membership
      obtain ⟨number, seen, le⟩ := reached mark isMark
      rw [ofDevice] at seen
      exact ⟨number, seen, (within mark isMark ofDevice).trans le⟩
  | stale answered pulled opened built own =>
      rcases pullRecordAndApply_cases answered with
        ⟨-, status, -⟩ | ⟨head, localHead, found, isLocal, ⟨-, current, isStale, -⟩ |
          ⟨-, _, _, -, -, ⟨-, status, -⟩ | ⟨_, status, -⟩⟩⟩
      · cases status
      · obtain rfl := Option.some.inj (Except.ok.inj (pulled.symm.trans found))
        obtain ⟨-, rfl⟩ := profileSyncRoot_eq_ok_iff.mp isLocal
        obtain ⟨-, sequence, seen, later⟩ := stale_ledger_iff.mpr ⟨current, isStale⟩
        have within := (built.frontier membership).2 _ (headMark_mem_frontierMarks opened)
          (own _ membership).symm
        rw [← own _ membership] at seen
        refine ⟨sequence, seen, within.trans ?_⟩
        rcases later with less | ⟨same, -⟩
        · exact less.le
        · exact same.le
      · cases status
      · cases status

/-- A tail that is left out was recorded before, in every database whose changes were
recorded in order. -/
theorem skipped_tail_recorded (reached : ReachableInOrder codec profile known db)
    (skipped : Skipped codec scheme profile db objects)
    (listed : ∀ change ∈ tailChanges objects, known change.deviceId change.deviceSequence) :
    ∀ change ∈ tailChanges objects,
      Recorded profile change.deviceId change.deviceSequence db := by
  intro change membership
  have isRecorded : (ledger profile db).recorded change.deviceId change.deviceSequence :=
    reached.gapFree.seen_of_reaches (listed change membership) (skipped.reaches membership)
  exact isRecorded

end Skips

section Publishers

variable {scheme : SyncObjectScheme} {profile rootId : String} {credentials : SyncCredentials}
  {retentionPolicy : ProfileSyncRetentionPolicy} {now : Int} {state final : SyncState}

/-- A published manifest was built for the tail it was published with. -/
theorem ManifestPublished.builtFor {snapshot : ProfileSyncSettingsSnapshot}
    {coveredChanges tail : List SyncChangeRecord} {published : PublishedSettingsSnapshotManifest}
    {store next : ObjectStore}
    (isPublished : ManifestPublished scheme profile rootId snapshot coveredChanges tail credentials
      retentionPolicy published store next) :
    BuiltFor profile (tail.map (·.content)) published.manifest := by
  obtain ⟨publications, rfl, -, built⟩ := isPublished.tail
  exact ⟨rootId, _, publications, retentionPolicy, built, by rw [List.map_map]; rfl⟩

/-- A compaction's manifest was built for the changes it leaves in the tail, of any device. -/
theorem builtFor_of_compactAndPublishSettings (lawful : scheme.Lawful)
    {compaction : PublishedSettingsCompaction}
    (h : compactAndPublishSettings scheme profile rootId credentials retentionPolicy now state =
      .ok (some compaction, final)) :
    BuiltFor profile
      (((compactionEvents profile compaction.target now state.database).drop
        compaction.target.coveredChangeCount).map (·.change.content))
      compaction.publication.manifest := by
  rcases compactAndPublishSettings_cases h with
    ⟨none, -⟩ | ⟨target, published, covered, tail, snapshot, units, found, -, rfl, -, isPublished, -⟩
  · cases none
  · obtain rfl := Option.some.inj found
    have built := (publishSignedSettingsSnapshotManifest_spec lawful isPublished).2.builtFor
    rw [List.map_map] at built
    exact built

end Publishers

section Sample

/-- The household's content key. -/
def householdKey : SyncContentKeyEpochRecord :=
  ⟨"default", "key-1", 1, "chacha20-poly1305", true, 1, 1⟩

/-- A phone of the household that has the content key. -/
def keyedPhone : SlateProfileDatabase :=
  { householdDevice "phone" with syncContentKeyEpochs := [householdKey] }

theorem reachable_keyedPhone (codec : SyncPayloadCodec) : Reachable codec keyedPhone :=
  ⟨"phone", .single (.otherTables rfl)⟩

/-- What a compaction of the laptop publishes, as the receiver opens it. -/
def openCompaction (receiver : SlateProfileDatabase) (state : SyncState)
    (compaction : PublishedSettingsCompaction) :
    Except (ProfileSyncTrustedPullApplyError BroadwebdError)
      VerifiedProfileSyncSettingsManifestCandidate :=
  receiver.pullActiveCandidate plainScheme (state.store.source plainScheme) "default" [42]
    householdKey (.resolvedRoot compaction.publication.manifestObjectId)

/-- All but two changes are compacted at once. -/
def twoChangeTail : ProfileSyncRetentionPolicy :=
  { minTailChangeCount := 2, changeRetentionSeconds := 0 }

def compactLaptop (now : Int) (state : SyncState) :
    Except ProfileSyncPublishError (Option PublishedSettingsCompaction × SyncState) :=
  compactAndPublishSettings plainScheme "default" "settings/latest" laptopCredentials
    twoChangeTail now state

/-- The laptop writes a bookmark between settings while bookmarks are off; a compaction leaves
the settings in its tail, and the phone applies it. With bookmarks switched on, the next
compaction has the bookmark in its tail. The phone takes its manifest as covered and leaves it
out, although it never recorded the bookmark. -/
theorem disabled_bookmark_skipped :
    ∃ font first size second home third theme written compaction state candidate application phone
        later afterLater laterCandidate,
      ((householdDevice "laptop").registerAppSyncDomain
        ⟨"default", "bookmarks", 1, false, "low-risk", false⟩ 1).setSyncSettingText "default"
          "settings" "font" "mono" 2 = .ok (font, first) ∧
      first.setSyncSettingText "default" "settings" "size" "large" 3 = .ok (size, second) ∧
      second.setSyncSettingText "default" "bookmarks" "home" "slate" 4 = .ok (home, third) ∧
      third.setSyncSettingText "default" "settings" "theme" "dark" 5 = .ok (theme, written) ∧
      compactLaptop 6 { database := written, store := {} } = .ok (some compaction, state) ∧
      openCompaction keyedPhone state compaction = .ok candidate ∧
      keyedPhone.applyVerifiedSettingsManifest plainTextCodec candidate.objects 7 =
        .ok (application, phone) ∧
      compactLaptop 9
        { state with
          database := state.database.registerAppSyncDomain
            ⟨"default", "bookmarks", 1, true, "low-risk", false⟩ 8 } =
          .ok (some later, afterLater) ∧
      openCompaction phone afterLater later = .ok laterCandidate ∧
      (phone.pullAndApplyActiveTrustedSignedSettingsManifestCandidatesIfChanged plainTextCodec
        plainScheme (afterLater.store.source plainScheme) "default" "settings/latest" [42] 10).1 =
          .ok (.unchanged "default" "settings/latest" compaction.publication.manifestObjectId) ∧
      Reachable plainTextCodec phone ∧
      Skipped plainTextCodec plainScheme "default" phone laterCandidate.objects ∧
      ∃ change ∈ tailChanges laterCandidate.objects, change.domain = "bookmarks" ∧
        ¬ Recorded "default" change.deviceId change.deviceSequence phone := by
  have run : (do
      let registered := (householdDevice "laptop").registerAppSyncDomain
        ⟨"default", "bookmarks", 1, false, "low-risk", false⟩ 1
      let first ← succeeded (registered.setSyncSettingText "default" "settings" "font" "mono" 2)
      let second ← succeeded (first.2.setSyncSettingText "default" "settings" "size" "large" 3)
      let third ← succeeded (second.2.setSyncSettingText "default" "bookmarks" "home" "slate" 4)
      let written ← succeeded (third.2.setSyncSettingText "default" "settings" "theme" "dark" 5)
      let published ← succeeded (compactLaptop 6 { database := written.2, store := {} })
      let compaction ← published.1
      let candidate ← succeeded (openCompaction keyedPhone published.2 compaction)
      let applied ← succeeded
        (keyedPhone.applyVerifiedSettingsManifest plainTextCodec candidate.objects 7)
      let switched := published.2.database.registerAppSyncDomain
        ⟨"default", "bookmarks", 1, true, "low-risk", false⟩ 8
      let again ← succeeded (compactLaptop 9 { published.2 with database := switched })
      let later ← again.1
      let laterCandidate ← succeeded (openCompaction applied.2 again.2 later)
      guard ((applied.2.pullAndApplyActiveTrustedSignedSettingsManifestCandidatesIfChanged
        plainTextCodec plainScheme (again.2.store.source plainScheme) "default" "settings/latest"
        [42] 10).1 = .ok (.unchanged "default" "settings/latest"
          compaction.publication.manifestObjectId))
      guard (applied.2.settingsManifestFrontiersLocallyCovered "default"
        laterCandidate.objects.manifest)
      guard (laterCandidate.objects.manifest = later.publication.manifest)
      guard (tailChanges laterCandidate.objects =
        ((compactionEvents "default" later.target 9 switched).drop
          later.target.coveredChangeCount).map (·.change.content))
      guard ((tailChanges laterCandidate.objects).any fun change => change.domain == "bookmarks" &&
        applied.2.settingsChanges.all fun recorded =>
          (recorded.deviceId, recorded.deviceSequence) !=
            (change.deviceId, change.deviceSequence)) : Option Unit).isSome = true := by
    decide +kernel
  simp only [Option.isSome_iff_exists, Option.bind_eq_bind, Option.bind_eq_some_iff,
    succeeded_eq_some_iff, Option.guard_eq_some', exists_const] at run
  obtain ⟨⟨font, first⟩, isFont, ⟨size, second⟩, isSize, ⟨home, third⟩, isHome,
    ⟨theme, written⟩, isTheme, ⟨found, state⟩, isPublished, compaction, isCompaction, candidate,
    isOpened, ⟨application, phone⟩, isApplied, ⟨foundLater, afterLater⟩, isPublishedLater, later,
    isLater, laterCandidate, isOpenedLater, unchanged, isCovered, sameManifest, sameTail,
    unrecorded⟩ := run
  obtain rfl : found = some compaction := isCompaction
  obtain rfl : foundLater = some later := isLater
  have built := builtFor_of_compactAndPublishSettings plainScheme_lawful isPublishedLater
  rw [← sameManifest, ← sameTail] at built
  obtain ⟨change, listed, isBookmark⟩ := List.any_eq_true.mp unrecorded
  obtain ⟨inBookmarks, missing⟩ := Bool.and_eq_true_iff.mp isBookmark
  refine ⟨font, first, size, second, home, third, theme, written, compaction, state, candidate,
    application, phone, later, afterLater, laterCandidate, isFont, isSize, isHome, isTheme,
    isPublished, isOpened, isApplied, isPublishedLater, isOpenedLater, unchanged, ?_,
    .covered isOpenedLater built isCovered, change, listed, beq_iff_eq.mp inBookmarks, ?_⟩
  · obtain ⟨localSyncDeviceId, path⟩ := reachable_keyedPhone plainTextCodec
    exact ⟨localSyncDeviceId, path.tail (.applyVerifiedSettingsManifest isApplied)⟩
  · intro recorded
    obtain ⟨found, membership, sameProfile, sameDevice, sameSequence⟩ := recorded_iff.mp recorded
    have different := List.all_eq_true.mp missing found membership
    rw [sameDevice, sameSequence, bne_self_eq_false] at different
    cases different

/-- The phone applies the compaction of two settings and meets its manifest again: it is
covered, and the tail was recorded. -/
theorem compaction_met_again :
    ∃ phone objects, Skipped plainTextCodec plainScheme "default" phone objects ∧
      (tailChanges objects).length = 2 ∧
      ∀ change ∈ tailChanges objects,
        Recorded "default" change.deviceId change.deviceSequence phone := by
  have run : (do
      let first ← succeeded
        ((householdDevice "laptop").setSyncSettingText "default" "settings" "font" "mono" 2)
      let second ← succeeded (first.2.setSyncSettingText "default" "settings" "size" "large" 3)
      let written ← succeeded (second.2.setSyncSettingText "default" "settings" "theme" "dark" 5)
      let published ← succeeded (compactLaptop 6 { database := written.2, store := {} })
      let compaction ← published.1
      let candidate ← succeeded (openCompaction keyedPhone published.2 compaction)
      let applied ← succeeded
        (keyedPhone.applyVerifiedSettingsManifest plainTextCodec candidate.objects 7)
      let again ← succeeded (openCompaction applied.2 published.2 compaction)
      guard (applied.2.settingsManifestFrontiersLocallyCovered "default" again.objects.manifest)
      guard (again.objects.manifest = compaction.publication.manifest)
      guard (tailChanges again.objects =
        ((compactionEvents "default" compaction.target 6 written.2).drop
          compaction.target.coveredChangeCount).map (·.change.content))
      guard ((tailChanges again.objects).length = 2)
      guard ((tailChanges again.objects).map (·.sequenceKey) =
        [("default", "laptop", 2), ("default", "laptop", 3)])
      guard ((manifestChanges candidate.objects).map (·.sequenceKey) =
        [("default", "snapshot", 1), ("default", "laptop", 2), ("default", "laptop", 3)]) :
          Option Unit).isSome = true := by
    decide +kernel
  simp only [Option.isSome_iff_exists, Option.bind_eq_bind, Option.bind_eq_some_iff,
    succeeded_eq_some_iff, Option.guard_eq_some', exists_const] at run
  obtain ⟨⟨font, first⟩, isFont, ⟨size, second⟩, isSize, ⟨theme, written⟩, isTheme,
    ⟨found, state⟩, isPublished, compaction, isCompaction, candidate, isOpened,
    ⟨application, phone⟩, isApplied, again, isOpenedAgain, isCovered, sameManifest, sameTail, two,
    tailKeys, broughtKeys⟩ := run
  obtain rfl : found = some compaction := isCompaction
  have built := builtFor_of_compactAndPublishSettings plainScheme_lawful isPublished
  rw [← sameManifest, ← sameTail] at built
  have skipped : Skipped plainTextCodec plainScheme "default" phone again.objects :=
    .covered isOpenedAgain built isCovered
  let known : String → Int → Prop := fun deviceId sequence =>
    deviceId = "laptop" ∧ (sequence = 2 ∨ sequence = 3)
  have reached : ReachableInOrder plainTextCodec "default" known phone := by
    have start : ReachableInOrder plainTextCodec "default" known { localSyncDeviceId := "phone" } :=
      ⟨"phone", .refl⟩
    have keyed : ReachableInOrder plainTextCodec "default" known keyedPhone := start.otherTables rfl
    refine keyed.applyManifest isApplied ?_
    rintro deviceId sequence later ⟨rfl, isListed⟩ - -
    right
    have isBrought : ("default", "laptop", sequence) ∈
        (manifestChanges candidate.objects).map (·.sequenceKey) := by
      rw [broughtKeys]
      rcases isListed with rfl | rfl <;> simp
    exact List.mem_map.mp isBrought
  have listed : ∀ change ∈ tailChanges again.objects,
      known change.deviceId change.deviceSequence := by
    intro change membership
    have isKey := List.mem_map_of_mem (f := (·.sequenceKey)) membership
    rw [tailKeys] at isKey
    simp only [IncomingSyncSettingText.sequenceKey, List.mem_cons, Prod.mk.injEq,
      List.not_mem_nil, or_false] at isKey
    rcases isKey with ⟨-, isLaptop, isSecond⟩ | ⟨-, isLaptop, isThird⟩
    · exact ⟨isLaptop, .inl isSecond⟩
    · exact ⟨isLaptop, .inr isThird⟩
  exact ⟨phone, again.objects, skipped, two, skipped_tail_recorded reached skipped listed⟩

end Sample

end Slate.ProfileSync
