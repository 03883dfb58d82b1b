import Mathlib.Data.List.Chain
import Slate.Foundation.Watermark
import Slate.ProfileSync.Ledger

/-!
# Roots that move back

A receiver takes a publication for old if the changes it recorded reach as far. What it
recorded are the changes of manifest tails; the changes that a snapshot covers are never
recorded. So a root cannot be moved back to an older publication as long as every applied
manifest brings its frontiers with its tail, and the two places where a manifest is applied
without that comparison are not met.
-/

namespace Slate.ProfileSync

open Slate.Foundation Slate.Storage
open Slate.Storage.SlateProfileDatabase

section Held

/-- A publication that a root holds. -/
inductive HeldPublication where
  | head (head : VerifiedProfileSyncDeviceHead)
  | manifest (objects : VerifiedProfileSyncSettingsManifestObjects)

/-- The frontiers of a manifest as marks. -/
def frontierMarks (manifest : ProfileSyncManifest) : List (String × Int) :=
  manifest.deviceFrontiers.map fun frontier => (frontier.deviceId, frontier.latestSequence)

/-- How far the device of a head has come. -/
def headMark (head : VerifiedProfileSyncDeviceHead) : String × Int :=
  (head.deviceHead.deviceId, head.deviceHead.deviceSequence)

namespace HeldPublication

def objectId : HeldPublication → String
  | head published => published.objectId
  | manifest objects => objects.manifestObjectId

def marks : HeldPublication → List (String × Int)
  | head published => [headMark published]
  | manifest objects => frontierMarks objects.manifest

/-- Another head of the same device with a smaller sequence, or another manifest whose
frontiers are no larger for every device and smaller for some. -/
def Older : HeldPublication → HeldPublication → Prop
  | head next, head held =>
      next.objectId ≠ held.objectId ∧
        next.deviceHead.deviceId = held.deviceHead.deviceId ∧
        next.deviceHead.deviceSequence < held.deviceHead.deviceSequence
  | manifest next, manifest held =>
      next.manifestObjectId ≠ held.manifestObjectId ∧
        Behind (frontierMarks next.manifest) (frontierMarks held.manifest)
  | _, _ => False

variable {next held : HeldPublication}

theorem Older.behind (older : next.Older held) : Behind next.marks held.marks := by
  cases next with
  | head next =>
      cases held with
      | head held =>
          obtain ⟨-, sameDevice, smaller⟩ := older
          exact behind_singleton sameDevice smaller
      | manifest => exact older.elim
  | manifest next =>
      cases held with
      | head => exact older.elim
      | manifest held => exact older.2

theorem Older.other_object (older : next.Older held) : next.objectId ≠ held.objectId := by
  cases next <;> cases held
  · exact older.1
  · exact older.elim
  · exact older.elim
  · exact older.1

/-- What is reached beyond everything that was recorded is not older. -/
theorem not_older_of_reachesAll {seen : String → Int → Prop}
    (reached : ReachesAll seen held.marks) {mark : String × Int} (membership : mark ∈ next.marks)
    (beyond : ¬ Reaches seen mark) : ¬ next.Older held :=
  fun older => beyond (reached.of_behind older.behind mark membership)

end HeldPublication

/-- A receiver, and the publications its roots were set to. -/
structure Receiver where
  database : SlateProfileDatabase
  held : String → Option HeldPublication

/-- The settings root that a manifest names is set to it. -/
def holdManifest (profile : String) (objects : VerifiedProfileSyncSettingsManifestObjects)
    (held : String → Option HeldPublication) : String → Option HeldPublication :=
  fun rootId =>
    if profile = objects.manifest.profile ∧ rootId = objects.manifest.rootId then
      some (.manifest objects)
    else held rootId

/-- The head's root is set in the same transaction as that of its manifest. -/
def holdHead (profile rootId : String) (head : VerifiedProfileSyncDeviceHead)
    (objects : VerifiedProfileSyncSettingsManifestObjects)
    (held : String → Option HeldPublication) : String → Option HeldPublication :=
  fun other =>
    if other = rootId then some (.head head) else holdManifest profile objects held other

end Held

section Calls

/-- A pull of a device head from a store, or of the candidates for a settings root from a
source. The store and the source answer as they like. -/
inductive PullCall where
  | head (rootId : String) (contentKey : List Nat) (keyId : String) (store : ObjectStore)
      (now : Int)
  | candidates (rootId : String) (contentKey : List Nat)
      (source : ProfileSyncObjectSource BroadwebdError) (now : Int)

variable (codec : SyncPayloadCodec) (scheme : SyncObjectScheme) (profile : String)

/-- The receivers that the candidates leave, one for each transaction. -/
def candidateCommits (now : Int) :
    List VerifiedProfileSyncSettingsManifestCandidate → Receiver → List Receiver
  | [], _ => []
  | candidate :: rest, receiver =>
      match receiver.database.applyVerifiedSettingsManifest codec candidate.objects now with
      | .error _ => []
      | .ok (_, database) =>
          let next : Receiver :=
            { database, held := holdManifest profile candidate.objects receiver.held }
          next :: candidateCommits now rest next

namespace PullCall

/-- The database a call leaves. -/
def run (db : SlateProfileDatabase) : PullCall → SlateProfileDatabase
  | head rootId contentKey keyId store now =>
      commit (fun db => pullRecordAndApplyTrustedSettingsFromDeviceHead codec scheme profile rootId
        contentKey keyId store now db) db
  | candidates rootId contentKey source now =>
      (db.pullAndApplyActiveTrustedSignedSettingsManifestCandidatesIfChanged codec scheme source
        profile rootId contentKey now).2

/-- The receivers a call leaves on the way, one for each transaction that sets a root. -/
def commits (receiver : Receiver) : PullCall → List Receiver
  | head rootId contentKey keyId store now =>
      match pullRecordAndApplyTrustedSettingsFromDeviceHead codec scheme profile rootId contentKey
          keyId store now receiver.database with
      | .ok (.applied published _, database) =>
          match receiver.database.pullTrustedSignedProfileSyncSettingsManifestObjectsFromDeviceHead
              scheme (store.source scheme) profile published contentKey keyId with
          | .ok objects =>
              [{ database, held := holdHead profile rootId published objects receiver.held }]
          | .error _ => []
      | _ => []
  | candidates rootId contentKey source now =>
      match receiver.database.planActiveCandidates scheme source profile rootId contentKey with
      | .ok (.inr toApply) =>
          candidateCommits codec profile now (orderedCandidates toApply) receiver
      | _ => []

end PullCall

end Calls

section Condition

/-- The sequences of the changes a manifest is applied as. -/
def brought (profile : String) (objects : VerifiedProfileSyncSettingsManifestObjects) :
    String → Int → Prop :=
  fun deviceId sequence =>
    ∃ change ∈ manifestChanges objects, change.sequenceKey = (profile, deviceId, sequence)

/-- What is recorded once a manifest is applied. -/
def recordedWith (profile : String) (objects : VerifiedProfileSyncSettingsManifestObjects)
    (seen : String → Int → Prop) : String → Int → Prop :=
  fun deviceId sequence => seen deviceId sequence ∨ brought profile objects deviceId sequence

/-- A manifest brings a change as far as each of its frontiers, unless one is recorded. -/
def BringsFrontiers (profile : String) (objects : VerifiedProfileSyncSettingsManifestObjects)
    (seen : String → Int → Prop) : Prop :=
  ReachesAll (recordedWith profile objects seen) (frontierMarks objects.manifest)

/-- Candidates that are applied behind another one: each brings its frontiers, and has one
that is not recorded when its turn comes. -/
def SoundLaterCandidates (profile : String) :
    List VerifiedProfileSyncSettingsManifestCandidate → (String → Int → Prop) → Prop
  | [], _ => True
  | candidate :: rest, seen =>
      BringsFrontiers profile candidate.objects seen ∧
        ¬ ReachesAll seen (frontierMarks candidate.objects.manifest) ∧
        SoundLaterCandidates profile rest (recordedWith profile candidate.objects seen)

/-- The first candidate is compared with what is recorded if it has frontiers and names the
root that is pulled. -/
def SoundCandidates (profile rootId : String) :
    List VerifiedProfileSyncSettingsManifestCandidate → (String → Int → Prop) → Prop
  | [], _ => True
  | candidate :: rest, seen =>
      BringsFrontiers profile candidate.objects seen ∧
        (candidate.objects.manifest.deviceFrontiers ≠ [] ∧
            candidate.objects.manifest.rootId = rootId ∨
          ¬ ReachesAll seen (frontierMarks candidate.objects.manifest)) ∧
        SoundLaterCandidates profile rest (recordedWith profile candidate.objects seen)

/-- What a receiver meets in a call that cannot move its roots back. A head that is not stale
brings the frontiers of its manifest, and where its own sequence is recorded already, its
manifest is not older than the one its settings root holds. -/
def PullCall.Sound (scheme : SyncObjectScheme) (profile : String) (receiver : Receiver) :
    PullCall → Prop
  | head rootId contentKey keyId store _ =>
      ∀ published objects,
        receiver.database.pullTrustedSignedProfileSyncDeviceHead scheme (store.source scheme)
          profile rootId contentKey keyId = .ok (some published) →
        receiver.database.pullTrustedSignedProfileSyncSettingsManifestObjectsFromDeviceHead scheme
          (store.source scheme) profile published contentKey keyId = .ok objects →
        ¬ (ledger profile receiver.database).Stale rootId published →
        BringsFrontiers profile objects (ledger profile receiver.database).recorded ∧
          (Reaches (ledger profile receiver.database).recorded (headMark published) →
            ∀ held, receiver.held objects.manifest.rootId = some held →
              ¬ (HeldPublication.manifest objects).Older held)
  | candidates rootId contentKey source _ =>
      ∀ toApply, receiver.database.planActiveCandidates scheme source profile rootId contentKey =
        .ok (.inr toApply) →
        SoundCandidates profile rootId (orderedCandidates toApply)
          (ledger profile receiver.database).recorded

/-- The receivers that sound pulls lead to, with anything in between that leaves the roots
alone and forgets no change. -/
inductive PullRun (codec : SyncPayloadCodec) (scheme : SyncObjectScheme) (profile : String)
    (start : SlateProfileDatabase) : Receiver → Prop where
  | start : PullRun codec scheme profile start { database := start, held := fun _ => none }
  | pulled {receiver next : Receiver} (run : PullRun codec scheme profile start receiver)
      (call : PullCall) (sound : call.Sound scheme profile receiver)
      (committed : next ∈ call.commits codec scheme profile receiver) :
      PullRun codec scheme profile start next
  | other {receiver : Receiver} {database : SlateProfileDatabase}
      (run : PullRun codec scheme profile start receiver)
      (roots : ∀ rootId, database.storedRoot profile rootId =
        receiver.database.storedRoot profile rootId)
      (recorded : ∀ deviceId sequence, Recorded profile deviceId sequence receiver.database →
        Recorded profile deviceId sequence database) :
      PullRun codec scheme profile start { receiver with database }

end Condition

section Invariant

variable {codec : SyncPayloadCodec} {scheme : SyncObjectScheme} {profile : String}
  {start database : SlateProfileDatabase} {receiver : Receiver} {now : Int}
  {objects : VerifiedProfileSyncSettingsManifestObjects}
  {application : ProfileSyncSettingsManifestApplication}

/-- The roots hold what they were set to, and the changes that were recorded reach every
publication that a root holds. -/
structure Accounted (profile : String) (start : SlateProfileDatabase) (receiver : Receiver) :
    Prop where
  stored : ∀ rootId, receiver.database.storedRoot profile rootId =
    ((receiver.held rootId).map (·.objectId)).or (start.storedRoot profile rootId)
  reached : ∀ rootId publication, receiver.held rootId = some publication →
    ReachesAll (ledger profile receiver.database).recorded publication.marks

/-- No root moves to an older publication. -/
def Forward (before after : Receiver) : Prop :=
  ∀ rootId held next, before.held rootId = some held → after.held rootId = some next →
    ¬ next.Older held

theorem recorded_ledger_applyVerifiedSettingsManifest
    (applied : receiver.database.applyVerifiedSettingsManifest codec objects now =
      .ok (application, database)) :
    (ledger profile database).recorded =
      recordedWith profile objects (ledger profile receiver.database).recorded := by
  funext deviceId sequence
  exact propext (recorded_applyVerifiedSettingsManifest applied)

/-- An applied manifest leaves an accounted receiver. -/
theorem Accounted.holdManifest (accounted : Accounted profile start receiver)
    (brings : BringsFrontiers profile objects (ledger profile receiver.database).recorded)
    (applied : receiver.database.applyVerifiedSettingsManifest codec objects now =
      .ok (application, database)) :
    Accounted profile start
      { database, held := ProfileSync.holdManifest profile objects receiver.held } := by
  have recorded : (ledger profile database).recorded = _ :=
    recorded_ledger_applyVerifiedSettingsManifest applied
  constructor
  · intro rootId
    rw [storedRoot_applyVerifiedSettingsManifest applied]
    unfold ProfileSync.holdManifest
    by_cases written : profile = objects.manifest.profile ∧ rootId = objects.manifest.rootId
    · simp only [if_pos written, Option.map_some, Option.some_or]
      rfl
    · simp only [if_neg written]
      exact accounted.stored rootId
  · intro rootId publication isHeld
    rw [recorded]
    unfold ProfileSync.holdManifest at isHeld
    by_cases written : profile = objects.manifest.profile ∧ rootId = objects.manifest.rootId
    · simp only [if_pos written, Option.some.injEq] at isHeld
      rw [← isHeld]
      exact brings
    · simp only [if_neg written] at isHeld
      exact (accounted.reached rootId publication isHeld).mono fun _ _ => .inl

/-- So does an applied head, whose own mark is a frontier of its manifest. -/
theorem Accounted.holdHead (accounted : Accounted profile start receiver) {rootId : String}
    {head : VerifiedProfileSyncDeviceHead} (frontier : headMark head ∈ frontierMarks objects.manifest)
    (brings : BringsFrontiers profile objects (ledger profile receiver.database).recorded)
    (applied : receiver.database.applyVerifiedSettingsManifestAndSetProfileSyncRoot codec objects
      profile rootId head.objectId now = .ok (application, database)) :
    Accounted profile start
      { database, held := ProfileSync.holdHead profile rootId head objects receiver.held } := by
  obtain ⟨⟨_, middle⟩, manifestApplied, applied⟩ := bind_eq_ok_iff.mp applied
  obtain ⟨⟨_, final⟩, rootSet, applied⟩ := bind_eq_ok_iff.mp applied
  obtain ⟨-, rfl⟩ := ok_pair_inj applied
  have ofManifest := accounted.holdManifest brings manifestApplied
  have sameRecorded : (ledger profile final).recorded = (ledger profile middle).recorded := by
    rw [(setProfileSyncRoot_eq_ok rootSet).2]
    rfl
  constructor
  · intro other
    rw [storedRoot_setProfileSyncRoot rootSet]
    unfold ProfileSync.holdHead
    by_cases same : other = rootId
    · simp only [same, and_self, if_true, Option.map_some, Option.some_or]
      rfl
    · simp only [same, and_false, if_false]
      exact ofManifest.stored other
  · intro other publication isHeld
    rw [sameRecorded]
    unfold ProfileSync.holdHead at isHeld
    by_cases same : other = rootId
    · simp only [same, if_true, Option.some.injEq] at isHeld
      rw [← isHeld]
      intro mark membership
      rw [List.mem_singleton.mp membership]
      have reached : ReachesAll (ledger profile middle).recorded (frontierMarks objects.manifest) := by
        rw [recorded_ledger_applyVerifiedSettingsManifest manifestApplied]
        exact brings
      exact reached _ frontier
    · simp only [same, if_false] at isHeld
      exact ofManifest.reached other publication isHeld

theorem HeldPublication.not_older_self (publication : HeldPublication) :
    ¬ publication.Older publication :=
  fun older => older.other_object rfl

theorem forward_holdManifest
    (forward : ∀ held, receiver.held objects.manifest.rootId = some held →
      ¬ (HeldPublication.manifest objects).Older held) :
    Forward receiver { database, held := ProfileSync.holdManifest profile objects receiver.held } := by
  intro rootId held next isHeld isNext
  unfold ProfileSync.holdManifest at isNext
  by_cases written : profile = objects.manifest.profile ∧ rootId = objects.manifest.rootId
  · simp only [if_pos written, Option.some.injEq] at isNext
    rw [written.2] at isHeld
    rw [← isNext]
    exact forward held isHeld
  · simp only [if_neg written] at isNext
    obtain rfl := Option.some.inj (isHeld.symm.trans isNext)
    exact held.not_older_self

theorem forward_holdHead {rootId : String} {head : VerifiedProfileSyncDeviceHead}
    (forward : ∀ held, receiver.held objects.manifest.rootId = some held →
      ¬ (HeldPublication.manifest objects).Older held)
    (forwardHead : ∀ held, receiver.held rootId = some held →
      ¬ (HeldPublication.head head).Older held) :
    Forward receiver
      { database, held := ProfileSync.holdHead profile rootId head objects receiver.held } := by
  intro other held next isHeld isNext
  unfold ProfileSync.holdHead at isNext
  by_cases same : other = rootId
  · simp only [same, if_true, Option.some.injEq] at isNext
    rw [same] at isHeld
    rw [← isNext]
    exact forwardHead held isHeld
  · simp only [same, if_false] at isNext
    have forwardManifest : Forward receiver
        { database, held := ProfileSync.holdManifest profile objects receiver.held } :=
      forward_holdManifest forward
    exact forwardManifest other held next isHeld isNext

end Invariant

section Heads

variable {codec : SyncPayloadCodec} {scheme : SyncObjectScheme} {profile : String}
  {start database : SlateProfileDatabase} {receiver : Receiver}

/-- The receiver checks that a head's own mark is a frontier of its manifest. -/
theorem headMark_mem_frontierMarks {SourceError : Type} {source : ProfileSyncObjectSource SourceError}
    {head : VerifiedProfileSyncDeviceHead} {contentKey : List Nat} {keyId : String}
    {objects : VerifiedProfileSyncSettingsManifestObjects}
    (opened : database.pullTrustedSignedProfileSyncSettingsManifestObjectsFromDeviceHead scheme
      source profile head contentKey keyId = .ok objects) :
    headMark head ∈ frontierMarks objects.manifest := by
  unfold pullTrustedSignedProfileSyncSettingsManifestObjectsFromDeviceHead at opened
  obtain ⟨-, opened⟩ := check_then_eq_ok_iff.mp opened
  obtain ⟨_, -, opened⟩ := bind_eq_ok_iff.mp opened
  obtain ⟨_, -, opened⟩ := bind_eq_ok_iff.mp opened
  obtain ⟨_, -, opened⟩ := bind_eq_ok_iff.mp opened
  obtain ⟨_, -, opened⟩ := bind_eq_ok_iff.mp opened
  obtain ⟨_, -, opened⟩ := bind_eq_ok_iff.mp opened
  obtain ⟨_, valid, opened⟩ := bind_eq_ok_iff.mp opened
  obtain rfl := Except.ok.inj opened
  have valid := mapError_eq_ok_iff.mp valid
  unfold validateProfileSyncDeviceHeadManifest at valid
  obtain ⟨-, valid⟩ := check_then_eq_ok_iff.mp valid
  split at valid
  · cases valid
  next frontier found =>
    have same := check_eq_ok_iff.mp valid
    push Not at same
    have ofDevice := List.find?_some found
    refine List.mem_map.mpr ⟨frontier, List.mem_of_find?_eq_some found, ?_⟩
    exact Prod.ext (beq_iff_eq.mp ofDevice) same.1

/-- A head that is applied although its sequence is recorded is the one its root holds, or
the root holds none. -/
theorem root_of_reaches {rootId : String} {head : VerifiedProfileSyncDeviceHead}
    (fresh : ¬ (ledger profile database).Stale rootId head)
    (reaches : Reaches (ledger profile database).recorded (headMark head)) {objectId : String}
    (stored : database.storedRoot profile rootId = some objectId) : objectId = head.objectId := by
  by_contra different
  obtain ⟨sequence, recorded, le⟩ := reaches
  apply fresh
  refine ⟨?_, sequence, recorded, ?_⟩
  · intro same
    exact different (Option.some.inj (stored.symm.trans same))
  · rcases lt_or_eq_of_le le with less | same
    · exact .inl less
    · refine .inr ⟨same, ?_⟩
      show (database.storedRoot profile rootId).isSome
      rw [stored]
      rfl

variable {rootId : String} {contentKey : List Nat} {keyId : String} {store : ObjectStore} {now : Int}

/-- A head that is applied moves an accounted receiver forward. -/
theorem forward_appliedHead {published : VerifiedProfileSyncDeviceHead}
    {objects : VerifiedProfileSyncSettingsManifestObjects}
    {application : ProfileSyncSettingsManifestApplication}
    (accounted : Accounted profile start receiver)
    (sound : (PullCall.head rootId contentKey keyId store now).Sound scheme profile receiver)
    (opened : receiver.database.pullTrustedSignedProfileSyncSettingsManifestObjectsFromDeviceHead
      scheme (store.source scheme) profile published contentKey keyId = .ok objects)
    (applied : pullRecordAndApplyTrustedSettingsFromDeviceHead codec scheme profile rootId contentKey
      keyId store now receiver.database = .ok (.applied published application, database)) :
    Forward receiver { database, held := holdHead profile rootId published objects receiver.held } ∧
      Accounted profile start
        { database, held := holdHead profile rootId published objects receiver.held } := by
  rcases pullRecordAndApply_cases applied with
    ⟨-, status, -⟩ | ⟨head, localHead, found, isLocal, ⟨-, current, -, status⟩ |
      ⟨fresh, others, _, openedOthers, -, ⟨-, status, -⟩ | ⟨_, status, -, applied⟩⟩⟩
  · cases status
  · cases status
  · cases status
  · obtain ⟨rfl, -⟩ := BroadwebdTrustedDeviceHeadSyncStatus.applied.inj status
    obtain rfl := Except.ok.inj (opened.symm.trans openedOthers)
    obtain ⟨-, rfl⟩ := profileSyncRoot_eq_ok_iff.mp isLocal
    have notStale : ¬ (ledger profile receiver.database).Stale rootId published := by
      rw [stale_ledger_iff, fresh]
      simp
    obtain ⟨brings, forwardManifest⟩ := sound published objects found opened notStale
    have frontier := headMark_mem_frontierMarks opened
    refine ⟨forward_holdHead ?_ ?_, accounted.holdHead frontier brings applied⟩
    · intro held isHeld
      by_cases reaches : Reaches (ledger profile receiver.database).recorded (headMark published)
      · exact forwardManifest reaches held isHeld
      · exact HeldPublication.not_older_of_reachesAll (accounted.reached _ held isHeld) frontier
          reaches
    · intro held isHeld older
      by_cases reaches : Reaches (ledger profile receiver.database).recorded (headMark published)
      · have stored := accounted.stored rootId
        rw [isHeld] at stored
        exact older.other_object (root_of_reaches notStale reaches stored).symm
      · exact HeldPublication.not_older_of_reachesAll (accounted.reached _ held isHeld)
          (List.mem_singleton_self _) reaches older

/-- What the transactions of a head pull do to an accounted receiver. -/
theorem head_commits (accounted : Accounted profile start receiver)
    (sound : (PullCall.head rootId contentKey keyId store now).Sound scheme profile receiver) :
    List.IsChain Forward (receiver ::
        (PullCall.head rootId contentKey keyId store now).commits codec scheme profile receiver) ∧
      ∀ next ∈ (PullCall.head rootId contentKey keyId store now).commits codec scheme profile
        receiver, Accounted profile start next := by
  simp only [PullCall.commits]
  split
  next published application database applied =>
    split
    next objects opened =>
      obtain ⟨forward, next⟩ := forward_appliedHead accounted sound opened applied
      exact ⟨List.isChain_cons_cons.mpr ⟨forward, .singleton _⟩,
        List.forall_mem_cons.mpr ⟨next, by simp⟩⟩
    · exact ⟨.singleton _, by simp⟩
  · exact ⟨.singleton _, by simp⟩

end Heads

section Candidates

variable {codec : SyncPayloadCodec} {scheme : SyncObjectScheme} {profile rootId : String}
  {start database : SlateProfileDatabase} {receiver : Receiver} {now : Int}
  {contentKey : List Nat} {source : ProfileSyncObjectSource BroadwebdError}

/-- A manifest is covered if it has frontiers and the recorded changes reach all of them. -/
theorem settingsManifestFrontiersLocallyCovered_iff {manifest : ProfileSyncManifest} :
    database.settingsManifestFrontiersLocallyCovered profile manifest = true ↔
      manifest.deviceFrontiers ≠ [] ∧
        ReachesAll (ledger profile database).recorded (frontierMarks manifest) := by
  rw [settingsManifestFrontiersLocallyCovered, Bool.and_eq_true, Bool.not_eq_true',
    List.isEmpty_eq_false_iff, List.all_eq_true]
  refine and_congr_right fun _ => ?_
  simp only [ReachesAll, frontierMarks, List.forall_mem_map]
  refine forall₂_congr fun frontier _ => ?_
  refine Iff.trans ?_ exists_latest_ge_iff
  cases database.latestSyncDeviceSequence profile frontier.deviceId with
  | none => simp
  | some latest => simp

/-- Where a settings root is stored, only candidates that are not covered are applied. -/
theorem uncovered_of_planActiveCandidates
    {toApply : List VerifiedProfileSyncSettingsManifestCandidate}
    (planned : database.planActiveCandidates scheme source profile rootId contentKey =
      .ok (.inr toApply)) {objectId : String}
    (stored : database.storedRoot profile rootId = some objectId) :
    ∀ candidate ∈ toApply,
      database.settingsManifestFrontiersLocallyCovered profile candidate.objects.manifest =
        false := by
  intro candidate membership
  obtain ⟨key, -, planned⟩ := bind_eq_ok_iff.mp planned
  obtain ⟨candidates, -, planned⟩ := bind_eq_ok_iff.mp planned
  cases newest : newestProfileSyncRootCandidate candidates with
  | none =>
      rw [newest] at planned
      cases planned
  | some newestCandidate =>
      rw [newest] at planned
      obtain ⟨localRoot, isLocal, planned⟩ := bind_eq_ok_iff.mp planned
      obtain ⟨-, rfl⟩ := profileSyncRoot_eq_ok_iff.mp (mapError_eq_ok_iff.mp isLocal)
      rw [stored] at planned
      split at planned
      · cases planned
      · obtain ⟨verified, -, planned⟩ := bind_eq_ok_iff.mp planned
        simp only at planned
        split at planned
        · cases planned
        · obtain rfl := Sum.inr.inj (Except.ok.inj planned)
          obtain ⟨-, kept⟩ := List.mem_filter.mp membership
          simpa using kept

/-- A candidate behind another one moves its root forward. -/
theorem laterCandidate_commits
    {candidates : List VerifiedProfileSyncSettingsManifestCandidate}
    (accounted : Accounted profile start receiver)
    (sound : SoundLaterCandidates profile candidates
      (ledger profile receiver.database).recorded) :
    List.IsChain Forward (receiver :: candidateCommits codec profile now candidates receiver) ∧
      ∀ next ∈ candidateCommits codec profile now candidates receiver,
        Accounted profile start next := by
  induction candidates generalizing receiver with
  | nil => exact ⟨.singleton _, by simp [candidateCommits]⟩
  | cons candidate rest inductionHypothesis =>
      obtain ⟨brings, beyond, soundRest⟩ := sound
      rw [candidateCommits]
      split
      · exact ⟨.singleton _, by simp⟩
      next application database applied =>
        have recorded : (ledger profile database).recorded = _ :=
          recorded_ledger_applyVerifiedSettingsManifest applied
        rw [← recorded] at soundRest
        have next := accounted.holdManifest brings applied
        obtain ⟨chain, all⟩ := inductionHypothesis next soundRest
        refine ⟨List.isChain_cons_cons.mpr ⟨forward_holdManifest ?_, chain⟩,
          List.forall_mem_cons.mpr ⟨next, all⟩⟩
        intro held isHeld older
        exact beyond ((accounted.reached _ held isHeld).of_behind older.behind)

/-- What the transactions of a candidate pull do to an accounted receiver. -/
theorem candidate_commits (accounted : Accounted profile start receiver)
    (sound : (PullCall.candidates rootId contentKey source now).Sound scheme profile receiver) :
    List.IsChain Forward (receiver ::
        (PullCall.candidates rootId contentKey source now).commits codec scheme profile receiver) ∧
      ∀ next ∈ (PullCall.candidates rootId contentKey source now).commits codec scheme profile
        receiver, Accounted profile start next := by
  simp only [PullCall.commits]
  split
  next toApply planned =>
    have fits := sound toApply planned
    have uncovered : ∀ objectId, receiver.database.storedRoot profile rootId = some objectId →
        ∀ candidate ∈ orderedCandidates toApply,
          receiver.database.settingsManifestFrontiersLocallyCovered profile
            candidate.objects.manifest = false := by
      intro objectId stored candidate membership
      exact uncovered_of_planActiveCandidates planned stored candidate
        ((List.mem_insertionSort _).mp membership)
    generalize orderedCandidates toApply = ordered at fits uncovered
    cases ordered with
    | nil => exact ⟨.singleton _, by simp [candidateCommits]⟩
    | cons candidate rest =>
        obtain ⟨brings, compared, soundRest⟩ := fits
        rw [candidateCommits]
        split
        · exact ⟨.singleton _, by simp⟩
        next application database applied =>
          have recorded : (ledger profile database).recorded = _ :=
            recorded_ledger_applyVerifiedSettingsManifest applied
          rw [← recorded] at soundRest
          have next := accounted.holdManifest brings applied
          obtain ⟨chain, all⟩ := laterCandidate_commits next soundRest
          refine ⟨List.isChain_cons_cons.mpr ⟨forward_holdManifest ?_, chain⟩,
            List.forall_mem_cons.mpr ⟨next, all⟩⟩
          intro held isHeld older
          have reached := (accounted.reached _ held isHeld).of_behind older.behind
          rcases compared with ⟨frontiers, named⟩ | beyond
          · have stored := accounted.stored candidate.objects.manifest.rootId
            rw [isHeld, named] at stored
            have covered := settingsManifestFrontiersLocallyCovered_iff.mpr ⟨frontiers, reached⟩
            rw [uncovered _ stored candidate (List.mem_cons_self ..)] at covered
            cases covered
          · exact beyond reached
  · exact ⟨.singleton _, by simp⟩

end Candidates

section Runs

variable {codec : SyncPayloadCodec} {scheme : SyncObjectScheme} {profile : String}
  {start : SlateProfileDatabase} {receiver : Receiver}

/-- A sound call moves an accounted receiver forward, transaction by transaction. -/
theorem PullCall.commits_forward (call : PullCall) (accounted : Accounted profile start receiver)
    (sound : call.Sound scheme profile receiver) :
    List.IsChain Forward (receiver :: call.commits codec scheme profile receiver) ∧
      ∀ next ∈ call.commits codec scheme profile receiver, Accounted profile start next := by
  cases call with
  | head rootId contentKey keyId store now => exact head_commits accounted sound
  | candidates rootId contentKey source now => exact candidate_commits accounted sound

theorem PullRun.accounted (run : PullRun codec scheme profile start receiver) :
    Accounted profile start receiver := by
  induction run with
  | start =>
      constructor
      · intro rootId
        rfl
      · intro rootId publication isHeld
        cases isHeld
  | pulled run call sound committed accounted =>
      exact (call.commits_forward accounted sound).2 _ committed
  | other run roots recorded accounted =>
      constructor
      · intro rootId
        exact (roots rootId).trans (accounted.stored rootId)
      · intro rootId publication isHeld
        exact (accounted.reached rootId publication isHeld).mono recorded

/-- The candidates leave the database of the last transaction. -/
theorem getLastD_candidateCommits {now : Int}
    {candidates : List VerifiedProfileSyncSettingsManifestCandidate} :
    ((candidateCommits codec profile now candidates receiver).getLastD receiver).database =
      (applyCandidates codec now candidates receiver.database).2 := by
  induction candidates generalizing receiver with
  | nil => rfl
  | cons candidate rest inductionHypothesis =>
      simp only [candidateCommits, applyCandidates]
      cases receiver.database.applyVerifiedSettingsManifest codec candidate.objects now with
      | error error => rfl
      | ok applied =>
          obtain ⟨application, database⟩ := applied
          simp only
          rw [List.getLastD_cons, inductionHypothesis]
          split <;> rename_i result _ found <;> rw [found]

/-- A call leaves the database of its last transaction. -/
theorem PullCall.getLastD_commits (call : PullCall) :
    ((call.commits codec scheme profile receiver).getLastD receiver).database =
      call.run codec scheme profile receiver.database := by
  cases call with
  | head rootId contentKey keyId store now =>
      simp only [PullCall.commits, PullCall.run, commit]
      cases pulled : pullRecordAndApplyTrustedSettingsFromDeviceHead codec scheme profile rootId
          contentKey keyId store now receiver.database with
      | error error => rfl
      | ok result =>
          obtain ⟨status, database⟩ := result
          rcases pullRecordAndApply_cases pulled with
            ⟨rfl, rfl, -⟩ | ⟨head, localHead, -, -, ⟨rfl, current, -, rfl⟩ |
              ⟨-, objects, _, opened, -, ⟨rfl, rfl, -⟩ | ⟨_, rfl, -⟩⟩⟩
          · rfl
          · rfl
          · rfl
          · simp only [opened]
            rfl
  | candidates rootId contentKey source now =>
      simp only [PullCall.commits, PullCall.run,
        pullAndApplyActiveTrustedSignedSettingsManifestCandidatesIfChanged]
      cases receiver.database.planActiveCandidates scheme source profile rootId contentKey with
      | error error => rfl
      | ok plan =>
          cases plan with
          | inl status => rfl
          | inr toApply =>
              simp only
              rw [getLastD_candidateCommits, applyVerifiedSettingsManifestCandidates]
              split <;> rename_i result _ found <;> rw [found]

/-- In every run of sound pulls, whatever the stores and the sources answer, a sound call
moves no root back: no transaction of it replaces a head or a manifest by an older one. -/
theorem sound_pulls_move_forward (run : PullRun codec scheme profile start receiver)
    (call : PullCall) (sound : call.Sound scheme profile receiver) :
    (∀ rootId, receiver.database.storedRoot profile rootId =
      ((receiver.held rootId).map (·.objectId)).or (start.storedRoot profile rootId)) ∧
    List.IsChain Forward (receiver :: call.commits codec scheme profile receiver) ∧
    ((call.commits codec scheme profile receiver).getLastD receiver).database =
      call.run codec scheme profile receiver.database :=
  ⟨run.accounted.stored, (call.commits_forward run.accounted sound).1, call.getLastD_commits⟩

end Runs

section Sample

set_option maxRecDepth 20000 in
/-- The laptop publishes two full snapshots. The phone applies the second, of which it records
no change of the laptop, and when the store answers with the first again, both roots of the
phone move back to it. -/
theorem full_snapshot_rolled_back :
    ∃ record laptop first afterFirst laterRecord laterLaptop second afterSecond status next
        laterStatus final,
      (householdDevice "laptop").setSyncSettingText "default" "settings" "theme" "dark" 2 =
        .ok (record, laptop) ∧
      publishFullLocalSettingsSnapshotHead plainScheme "default" "settings/latest"
        laptopCredentials {} 3 { database := laptop, store := {} } =
          .ok (some first, afterFirst) ∧
      afterFirst.database.setSyncSettingText "default" "settings" "theme" "light" 4 =
        .ok (laterRecord, laterLaptop) ∧
      publishFullLocalSettingsSnapshotHead plainScheme "default" "settings/latest"
        laptopCredentials {} 5 { afterFirst with database := laterLaptop } =
          .ok (some second, afterSecond) ∧
      pullRecordAndApplyTrustedSettingsFromDeviceHead plainTextCodec plainScheme "default"
        second.deviceHead.rootId [42] "key-1" afterSecond.store 6 (householdDevice "phone") =
          .ok (status, next) ∧
      next.storedRoot "default" second.deviceHead.rootId = some second.deviceHead.objectId ∧
      next.storedRoot "default" "settings/latest" = some second.publication.manifestObjectId ∧
      pullRecordAndApplyTrustedSettingsFromDeviceHead plainTextCodec plainScheme "default"
        second.deviceHead.rootId [42] "key-1" afterFirst.store 7 next = .ok (laterStatus, final) ∧
      final.storedRoot "default" second.deviceHead.rootId = some first.deviceHead.objectId ∧
      final.storedRoot "default" "settings/latest" = some first.publication.manifestObjectId ∧
      first.deviceHead.objectId ≠ second.deviceHead.objectId ∧
      first.deviceHead.deviceHead.deviceSequence < second.deviceHead.deviceHead.deviceSequence ∧
      Behind (frontierMarks first.publication.manifest)
        (frontierMarks second.publication.manifest) := by
  refine ⟨_, _, _, _, _, _, _, _, _, _, _, _, rfl, rfl, rfl, rfl, rfl, rfl, rfl, rfl, rfl, rfl, ?_,
    ?_, ?_⟩
  · decide +kernel
  · decide +kernel
  · show Behind [("laptop", 1)] [("laptop", 2)]
    exact behind_singleton rfl (by decide)

set_option maxRecDepth 20000 in
/-- The laptop publishes a full snapshot and then a tail. The phone's pull of the tail is
sound, for the tail brings the frontier of its manifest. -/
theorem tail_pulled_forward :
    ∃ record laptop first afterFirst laterRecord laterLaptop second afterSecond,
      (householdDevice "laptop").setSyncSettingText "default" "settings" "theme" "dark" 2 =
        .ok (record, laptop) ∧
      publishFullLocalSettingsSnapshotHead plainScheme "default" "settings/latest"
        laptopCredentials {} 3 { database := laptop, store := {} } =
          .ok (some first, afterFirst) ∧
      afterFirst.database.setSyncSettingText "default" "settings" "theme" "light" 4 =
        .ok (laterRecord, laterLaptop) ∧
      publishPendingLocalSettingsHead plainScheme "default" "settings/latest" laptopCredentials {} 5
        { afterFirst with database := laterLaptop } =
          .ok (.publishedIncrementalTail second, afterSecond) ∧
      let phone : Receiver := { database := householdDevice "phone", held := fun _ => none }
      let call : PullCall := .head second.deviceHead.rootId [42] "key-1" afterSecond.store 6
      (call.commits plainTextCodec plainScheme "default" phone).length = 1 ∧
        List.IsChain Forward (phone :: call.commits plainTextCodec plainScheme "default" phone) := by
  have steps : ∃ record laptop first afterFirst laterRecord laterLaptop second afterSecond head
      objects,
      (householdDevice "laptop").setSyncSettingText "default" "settings" "theme" "dark" 2 =
        .ok (record, laptop) ∧
      publishFullLocalSettingsSnapshotHead plainScheme "default" "settings/latest"
        laptopCredentials {} 3 { database := laptop, store := {} } =
          .ok (some first, afterFirst) ∧
      afterFirst.database.setSyncSettingText "default" "settings" "theme" "light" 4 =
        .ok (laterRecord, laterLaptop) ∧
      publishPendingLocalSettingsHead plainScheme "default" "settings/latest" laptopCredentials {} 5
        { afterFirst with database := laterLaptop } =
          .ok (.publishedIncrementalTail second, afterSecond) ∧
      (householdDevice "phone").pullTrustedSignedProfileSyncDeviceHead plainScheme
        (afterSecond.store.source plainScheme) "default" second.deviceHead.rootId [42] "key-1" =
          .ok (some head) ∧
      (householdDevice "phone").pullTrustedSignedProfileSyncSettingsManifestObjectsFromDeviceHead
        plainScheme (afterSecond.store.source plainScheme) "default" head [42] "key-1" =
          .ok objects ∧
      frontierMarks objects.manifest = [("laptop", 2)] ∧
      (manifestChanges objects).map (·.sequenceKey) =
        [("default", "snapshot", 1), ("default", "laptop", 2)] ∧
      ((PullCall.head second.deviceHead.rootId [42] "key-1" afterSecond.store 6).commits
        plainTextCodec plainScheme "default"
          { database := householdDevice "phone", held := fun _ => none }).length = 1 :=
    ⟨_, _, _, _, _, _, _, _, _, _, rfl, rfl, rfl, rfl, rfl, rfl, rfl, rfl, rfl⟩
  obtain ⟨record, laptop, first, afterFirst, laterRecord, laterLaptop, second, afterSecond, head,
    objects, isWritten, isPublished, isWrittenLater, isPublishedLater, found, opened, marks, changes,
    one⟩ := steps
  have sound : (PullCall.head second.deviceHead.rootId [42] "key-1" afterSecond.store 6).Sound
      plainScheme "default" { database := householdDevice "phone", held := fun _ => none } := by
    intro published manifest isFound isOpened _
    obtain rfl := Option.some.inj (Except.ok.inj (found.symm.trans isFound))
    obtain rfl := Except.ok.inj (opened.symm.trans isOpened)
    refine ⟨?_, fun _ _ isHeld => nomatch isHeld⟩
    intro mark membership
    rw [marks, List.mem_singleton] at membership
    have brings : ("default", "laptop", (2 : Int)) ∈
        (manifestChanges objects).map (·.sequenceKey) := by
      rw [changes]
      simp
    obtain ⟨change, isChange, sameKey⟩ := List.mem_map.mp brings
    rw [membership]
    exact ⟨2, .inr ⟨change, isChange, sameKey⟩, le_rfl⟩
  exact ⟨record, laptop, first, afterFirst, laterRecord, laterLaptop, second, afterSecond, isWritten,
    isPublished, isWrittenLater, isPublishedLater, one,
    (sound_pulls_move_forward .start _ sound).2.1⟩

end Sample

end Slate.ProfileSync
