import Slate.Broadwebd.RootHealth
import Slate.Broadwebd.ServiceFrame
import Slate.ProfileSync.CycleRetention
import Slate.ProfileSync.PublisherSteps
import Slate.ProfileSync.Reception

/-!
# The heads that stay retained

A cycle asks its providers for the objects it published itself. A head is therefore retained by
the providers of the cycle that published it, whole and for good, and by nobody else: a provider
that joins later is asked for nothing until the next publication.
-/

namespace Slate.ProfileSync

open Slate.Foundation Slate.Storage
open Slate.Storage.SlateProfileDatabase

section ObjectIds

variable {objectId : String}

theorem mem_extendUniqueObjectIds {objectIds : SeenList String} {incoming : List String} :
    objectId ∈ (extendUniqueObjectIds objectIds incoming).items ↔
      objectId ∈ objectIds.items ∨ objectId ∈ incoming := by
  induction incoming generalizing objectIds with
  | nil => simp [extendUniqueObjectIds]
  | cons first rest inductionHypothesis =>
      rw [extendUniqueObjectIds, List.foldl_cons]
      apply inductionHypothesis.trans
      rw [SeenList.mem_pushNew, List.mem_cons, or_assoc]

theorem mem_foldl_extendUniqueObjectIds {Item : Type} {idsOf : Item → List String}
    {items : List Item} {objectIds : SeenList String} :
    objectId ∈ (items.foldl (fun objectIds item =>
      extendUniqueObjectIds objectIds (idsOf item)) objectIds).items ↔
        objectId ∈ objectIds.items ∨ ∃ item ∈ items, objectId ∈ idsOf item := by
  induction items generalizing objectIds with
  | nil => simp
  | cons first rest inductionHypothesis =>
      rw [List.foldl_cons]
      apply inductionHypothesis.trans
      rw [mem_extendUniqueObjectIds, or_assoc, List.exists_mem_cons_iff]

end ObjectIds

section Heads

/-- The head that a step published. -/
def LocalSettingsHeadPublishStatus.head :
    LocalSettingsHeadPublishStatus → Option PublishedLocalSettingsHead
  | .publishedFullSnapshot published => some published
  | .publishedIncrementalTail published => some published
  | .noLocalSettingsChanges => none
  | .upToDate _ => none

/-- The last head that a run published. -/
def LocalSettingsSyncRun.head (run : LocalSettingsSyncRun) : Option PublishedLocalSettingsHead :=
  (run.steps.filterMap (·.head)).getLast?

/-- The objects that a reader of a head opens: the head, its manifest, and the snapshot and the
tail changes that the manifest names. -/
def PublishedLocalSettingsHead.objectIdsToRead (published : PublishedLocalSettingsHead) :
    List String :=
  published.deviceHead.objectId :: published.deviceHead.deviceHead.latestManifestObjectId ::
    (published.publication.manifest.currentSnapshotObjectId.toList ++
      published.publication.manifest.tailChangeObjectIds)

/-- The object ids of a publication are those that its head and its manifest name. -/
structure NamesItsObjects (published : PublishedLocalSettingsHead) : Prop where
  manifest : published.deviceHead.deviceHead.latestManifestObjectId =
    published.publication.manifestObjectId
  snapshot : published.publication.manifest.currentSnapshotObjectId =
    some published.publication.snapshotObjectId
  tail : published.publication.manifest.tailChangeObjectIds =
    published.publication.tailChangeObjectIds

theorem NamesItsObjects.mem_publishedObjectIds {published : PublishedLocalSettingsHead}
    (names : NamesItsObjects published) {objectId : String}
    (isRead : objectId ∈ published.objectIdsToRead) :
    objectId ∈ published.publishedObjectIds := by
  unfold PublishedLocalSettingsHead.objectIdsToRead at isRead
  rw [names.manifest, names.snapshot, names.tail] at isRead
  simp only [List.mem_cons, Option.toList_some, List.singleton_append] at isRead
  simp only [PublishedLocalSettingsHead.publishedObjectIds,
    PublishedSettingsSnapshotManifest.publishedObjectIds, SeenList.mem_pushNew,
    mem_extendUniqueObjectIds]
  rcases isRead with rfl | rfl | rfl | inTail
  · exact .inr rfl
  · exact .inl (.inr rfl)
  · exact .inl (.inl (.inl (.inr (.inl (.inl (.inr rfl))))))
  · exact .inl (.inl (.inl (.inr (.inl (.inr inTail)))))

variable {scheme : SyncObjectScheme} {profile settingsRootId : String}
  {credentials : SyncCredentials} {retentionPolicy : ProfileSyncRetentionPolicy} {now : Int}
  {state final : SyncState}

theorem objectIds_of_publishManifestOfSnapshot {snapshotObjectId : String}
    {snapshot : ProfileSyncSettingsSnapshot} {coveredChanges tailChanges : List SyncChangeRecord}
    {published : PublishedSettingsSnapshotManifest} {store next : ObjectStore}
    (h : publishManifestOfSnapshot scheme profile settingsRootId snapshotObjectId snapshot
      coveredChanges tailChanges credentials retentionPolicy store = .ok (published, next)) :
    published.manifest.currentSnapshotObjectId = some published.snapshotObjectId ∧
      published.manifest.tailChangeObjectIds = published.tailChangeObjectIds := by
  obtain ⟨_, -, h⟩ := bind_eq_ok_iff.mp h
  obtain ⟨manifest, built, h⟩ := bind_eq_ok_iff.mp h
  obtain ⟨_, -, h⟩ := bind_eq_ok_iff.mp h
  obtain ⟨rfl, -⟩ := ok_pair_inj h
  obtain ⟨-, -, -, isManifest⟩ := settingsSyncManifest_eq_ok_iff.mp (mapError_eq_ok_iff.mp built)
  refine ⟨?_, rfl⟩
  rw [isManifest]

theorem deviceHead_of_publishSignedProfileSyncDeviceHead {rootId : String}
    {deviceHead : ProfileSyncDeviceHead} {published : PublishedProfileSyncDeviceHead}
    {store next : ObjectStore}
    (h : publishSignedProfileSyncDeviceHead scheme profile rootId deviceHead credentials store =
      .ok (published, next)) : published.deviceHead = deviceHead := by
  obtain ⟨_, -, h⟩ := bind_eq_ok_iff.mp h
  obtain ⟨_, -, h⟩ := bind_eq_ok_iff.mp h
  obtain ⟨rfl, -⟩ := ok_pair_inj h
  rfl

theorem namesItsObjects_of_full {published : PublishedLocalSettingsHead}
    (h : publishFullLocalSettingsSnapshotHead scheme profile settingsRootId credentials
      retentionPolicy now state = .ok (some published, final)) : NamesItsObjects published := by
  rcases publishFullLocalSettingsSnapshotHead_cases h with
    ⟨absurdNone, -⟩ | ⟨_, _, _, _, _, _, _, found, -, -, -, isPublished, headPublished, -⟩
  · cases absurdNone
  · obtain rfl := Option.some.inj found
    obtain ⟨_, -, isPublished⟩ := bind_eq_ok_iff.mp isPublished
    obtain ⟨_, -, isPublished⟩ := bind_eq_ok_iff.mp isPublished
    obtain ⟨_, -, isPublished⟩ := bind_eq_ok_iff.mp isPublished
    obtain ⟨_, -, isPublished⟩ := bind_eq_ok_iff.mp isPublished
    obtain ⟨snapshot, tail⟩ := objectIds_of_publishManifestOfSnapshot isPublished
    refine ⟨?_, snapshot, tail⟩
    rw [deviceHead_of_publishSignedProfileSyncDeviceHead headPublished]

theorem namesItsObjects_of_tail {published : PublishedLocalSettingsHead}
    (h : publishLocalSettingsTailHead scheme profile settingsRootId credentials retentionPolicy
      now state = .ok (some published, final)) : NamesItsObjects published := by
  rcases publishLocalSettingsTailHead_cases h with
    ⟨absurdNone, -⟩ | ⟨_, _, _, _, _, _, _, _, found, -, -, -, isPublished, -, headPublished, -⟩
  · cases absurdNone
  · obtain rfl := Option.some.inj found
    unfold publishSignedExistingSettingsSnapshotManifest at isPublished
    obtain ⟨-, isPublished⟩ := check_then_eq_ok_iff.mp isPublished
    obtain ⟨_, -, isPublished⟩ := bind_eq_ok_iff.mp isPublished
    obtain ⟨_, -, isPublished⟩ := bind_eq_ok_iff.mp isPublished
    obtain ⟨_, -, isPublished⟩ := bind_eq_ok_iff.mp isPublished
    obtain ⟨_, -, isPublished⟩ := bind_eq_ok_iff.mp isPublished
    obtain ⟨snapshot, tail⟩ := objectIds_of_publishManifestOfSnapshot isPublished
    refine ⟨?_, snapshot, tail⟩
    rw [deviceHead_of_publishSignedProfileSyncDeviceHead headPublished]

theorem namesItsObjects_of_publishPending {status : LocalSettingsHeadPublishStatus}
    {published : PublishedLocalSettingsHead}
    (h : publishPendingLocalSettingsHead scheme profile settingsRootId credentials retentionPolicy
      now state = .ok (status, final))
    (isHead : status.head = some published) : NamesItsObjects published := by
  rcases publishPendingLocalSettingsHead_cases h with
    ⟨other, rfl, isPublished⟩ | ⟨other, rfl, isPublished⟩ | ⟨idle, -⟩
  · obtain rfl := Option.some.inj isHead
    exact namesItsObjects_of_full isPublished
  · obtain rfl := Option.some.inj isHead
    exact namesItsObjects_of_tail isPublished
  · cases status <;> cases isHead <;> cases idle

/-- Every head of a run is made of ids that the run returns. -/
theorem namesItsObjects_of_publishUntilIdle {maxSteps remaining : Nat}
    {steps : List LocalSettingsHeadPublishStatus} {run : LocalSettingsSyncRun}
    (named : ∀ step ∈ steps, ∀ published, step.head = some published → NamesItsObjects published)
    (h : publishUntilIdle scheme profile settingsRootId credentials retentionPolicy maxSteps now
      remaining steps state = .ok (run, final)) :
    ∀ step ∈ run.steps, ∀ published, step.head = some published → NamesItsObjects published := by
  induction remaining generalizing steps state with
  | zero => cases h
  | succ remaining inductionHypothesis =>
      obtain ⟨⟨step, next⟩, isStep, h⟩ := bind_eq_ok_iff.mp h
      have namedNext : ∀ other ∈ steps ++ [step], ∀ published, other.head = some published →
          NamesItsObjects published := by
        intro other membership published isHead
        rcases List.mem_append.mp membership with earlier | last
        · exact named other earlier published isHead
        · rw [List.mem_singleton.mp last] at isHead
          exact namesItsObjects_of_publishPending isStep isHead
      simp only at h
      split at h
      · obtain ⟨rfl, -⟩ := ok_pair_inj h
        exact namedNext
      · exact inductionHypothesis namedNext h

theorem mem_publishedObjectIds_of_head {maxSteps : Nat} {run : LocalSettingsSyncRun}
    {published : PublishedLocalSettingsHead} {objectId : String}
    (h : runPendingLocalSettingsSync scheme profile settingsRootId credentials retentionPolicy
      maxSteps now state = .ok (run, final))
    (isHead : run.head = some published) (isRead : objectId ∈ published.objectIdsToRead) :
    objectId ∈ run.publishedObjectIds := by
  obtain ⟨step, inSteps, isHead⟩ := List.mem_filterMap.mp (List.mem_of_getLast? isHead)
  have names := namesItsObjects_of_publishUntilIdle (fun _ absurd => by cases absurd) h step
    inSteps published isHead
  unfold LocalSettingsSyncRun.publishedObjectIds
  rw [mem_foldl_extendUniqueObjectIds]
  refine .inr ⟨step, inSteps, ?_⟩
  have ofStep : step.publishedObjectIds = published.publishedObjectIds := by
    cases step with
    | publishedFullSnapshot other => rw [← Option.some.inj isHead]; rfl
    | publishedIncrementalTail other => rw [← Option.some.inj isHead]; rfl
    | noLocalSettingsChanges => cases isHead
    | upToDate snapshotRecord => cases isHead
  rw [ofStep]
  exact names.mem_publishedObjectIds isRead

end Heads

section Retention

variable {Provider Network : Type} {daemons : RetentionDaemons Provider Network}
  {profile : String} {objectIds : List String} {network next : Network}

theorem kept_retainProfileSyncObjects (lawful : daemons.Lawful) {provider : Provider}
    {statuses : List BroadwebdProfileSyncRetentionStatus} {other : Provider}
    {otherProfile otherId : String}
    (h : retainProfileSyncObjects daemons provider profile objectIds network =
      .ok (statuses, next))
    (retains : daemons.Retains other otherProfile otherId network) :
    daemons.Retains other otherProfile otherId next := by
  refine forEach_invariant (fun network => daemons.Retains other otherProfile otherId network)
    ?_ h retains
  intro objectId _ before status after asked retains
  obtain ⟨⟨_, middle⟩, answered, asked⟩ := bind_eq_ok_iff.mp asked
  obtain ⟨_, -, asked⟩ := bind_eq_ok_iff.mp asked
  obtain ⟨-, rfl⟩ := ok_pair_inj asked
  exact lawful.kept answered retains

theorem retains_of_retainProfileSyncObjects (lawful : daemons.Lawful) {provider : Provider}
    {statuses : List BroadwebdProfileSyncRetentionStatus}
    (h : retainProfileSyncObjects daemons provider profile objectIds network =
      .ok (statuses, next)) :
    ∀ objectId ∈ objectIds, daemons.Retains provider profile objectId next := by
  induction objectIds generalizing network statuses with
  | nil => simp
  | cons first rest inductionHypothesis =>
      obtain ⟨_, middle, _, asked, askedRest, -⟩ := forEach_cons_eq_ok_iff.mp h
      obtain ⟨⟨_, answeredNetwork⟩, answered, asked⟩ := bind_eq_ok_iff.mp asked
      obtain ⟨_, -, asked⟩ := bind_eq_ok_iff.mp asked
      obtain ⟨-, rfl⟩ := ok_pair_inj asked
      refine List.forall_mem_cons.mpr ⟨?_, inductionHypothesis askedRest⟩
      exact kept_retainProfileSyncObjects lawful askedRest (lawful.retained answered)

theorem kept_retainAtProviders (lawful : daemons.Lawful) {indexed : List (Provider × Nat)}
    {runs : List SettingsSyncCycleProviderRetentionRun} {other : Provider}
    {otherProfile otherId : String}
    (h : forEach (retainAtProvider daemons profile objectIds) indexed network = .ok (runs, next))
    (retains : daemons.Retains other otherProfile otherId network) :
    daemons.Retains other otherProfile otherId next := by
  refine forEach_invariant (fun network => daemons.Retains other otherProfile otherId network)
    ?_ h retains
  intro provider _ before run after asked retains
  obtain ⟨⟨_, middle⟩, answered, asked⟩ := bind_eq_ok_iff.mp asked
  obtain ⟨-, rfl⟩ := ok_pair_inj asked
  exact kept_retainProfileSyncObjects lawful (mapError_eq_ok_iff.mp answered) retains

theorem retains_of_indexed (lawful : daemons.Lawful) {indexed : List (Provider × Nat)}
    {runs : List SettingsSyncCycleProviderRetentionRun}
    (h : forEach (retainAtProvider daemons profile objectIds) indexed network = .ok (runs, next)) :
    ∀ provider ∈ indexed, ∀ objectId ∈ objectIds,
      daemons.Retains provider.1 profile objectId next := by
  induction indexed generalizing network runs with
  | nil => simp
  | cons first rest inductionHypothesis =>
      obtain ⟨_, middle, _, asked, askedRest, -⟩ := forEach_cons_eq_ok_iff.mp h
      obtain ⟨⟨_, answeredNetwork⟩, answered, asked⟩ := bind_eq_ok_iff.mp asked
      obtain ⟨-, rfl⟩ := ok_pair_inj asked
      refine List.forall_mem_cons.mpr ⟨fun objectId isAsked => ?_, inductionHypothesis askedRest⟩
      exact kept_retainAtProviders lawful askedRest (retains_of_retainProfileSyncObjects lawful
        (mapError_eq_ok_iff.mp answered) objectId isAsked)

/-- Once the loop is through, each provider retains every object it was asked for. -/
theorem retains_of_retainAtProviders (lawful : daemons.Lawful) {providers : List Provider}
    {runs : List SettingsSyncCycleProviderRetentionRun}
    (h : retainAtProviders daemons profile objectIds providers network = .ok (runs, next)) :
    ∀ provider ∈ providers, ∀ objectId ∈ objectIds,
      daemons.Retains provider profile objectId next := by
  intro provider isGiven objectId isAsked
  obtain ⟨index, inRange, rfl⟩ := List.mem_iff_getElem.mp isGiven
  exact retains_of_indexed lawful h (providers[index], index)
    (List.mem_zipIdx_iff_getElem?.mpr (List.getElem?_eq_getElem inRange)) objectId isAsked

/-- A fixture service as a provider among the daemons of its network. -/
def localRetentionDaemons :
    RetentionDaemons Broadwebd.Local.ProfileSyncService Broadwebd.Local.ProfileSyncStore where
  retainObject service profile objectId store :=
    match service.retainObject store profile objectId with
    | .ok (.retainObject _ retained, next) => .ok (retained, next)
    | .ok _ => .error (.unsupportedRequest
        "profile-sync retain object returned a non-retain response")
    | .error error => .error (.unsupportedRequest error.text)
  verifyRetainedObject service profile objectId store :=
    match service.verifyRetainedObject store profile objectId with
    | .ok (.retainedObjectStatus objectId retained available) =>
        .ok { objectId, retained, available }
    | .ok _ => .error (.unsupportedRequest
        "profile-sync verify retained object returned a non-status response")
    | .error error => .error (.unsupportedRequest error.text)
  Retains service profile objectId store :=
    (service.providerId, profile, objectId) ∈ store.retained

/-- The services of the local fixture are lawful providers. -/
theorem localRetentionDaemons_lawful : localRetentionDaemons.Lawful := by
  have inserts : ∀ {service : Broadwebd.Local.ProfileSyncService} {profile objectId : String}
      {store next : Broadwebd.Local.ProfileSyncStore} {answer : Bool},
      localRetentionDaemons.retainObject service profile objectId store = .ok (answer, next) →
        next.retained = store.retained.insert (service.providerId, profile, objectId) := by
    intro service profile objectId store next answer answered
    unfold localRetentionDaemons at answered
    simp only at answered
    split at answered
    next retains =>
      obtain ⟨-, rfl⟩ := ok_pair_inj answered
      obtain ⟨-, -, -, -, -, _, -, -, -, rfl⟩ :=
        Broadwebd.Local.retainObject_eq_ok_iff.mp retains
      rfl
    · cases answered
    · cases answered
  constructor
  · intro provider profile objectId network answer next answered
    show _ ∈ next.retained
    rw [inserts answered]
    exact Std.TreeSet.mem_insert_self
  · intro provider profile objectId network answer next other otherProfile otherId answered retains
    show _ ∈ next.retained
    rw [inserts answered]
    exact Std.TreeSet.mem_insert.mpr (.inr retains)

end Retention

section Runs

variable (codec : SyncPayloadCodec) (scheme : SyncObjectScheme) {Provider Network : Type}
  (daemons : RetentionDaemons Provider Network) (profile : String)

/-- A device with its store and the network of its providers, and the head it published last. -/
structure RetentionState (Network : Type) where
  sync : SyncState
  network : Network
  head : Option PublishedLocalSettingsHead

/-- A cycle that returned: its providers, the head it published itself, and what the device and
the network had once it was over. -/
structure CompletedCycle (Provider Network : Type) where
  providers : List Provider
  published : Option PublishedLocalSettingsHead
  after : RetentionState Network

/-- What is kept of a cycle that returned: its head is the current one if it published any. -/
def completedCycle (call : CycleCall Provider) (cycle : SettingsSyncCycleRun) (sync : SyncState)
    (network : Network) (before : RetentionState Network) : CompletedCycle Provider Network where
  providers := call.providers
  published := cycle.publish.head
  after := { sync, network, head := cycle.publish.head.or before.head }

/-- Either cycle, called in a state, returns and ends in another one. -/
inductive Cycles (call : CycleCall Provider) (before : RetentionState Network) :
    CompletedCycle Provider Network → Prop where
  | plain {run : SettingsSyncCycleWithRetentionRun} {sync : SyncState} {network : Network}
      (returned : runSettingsSyncCycleWithActiveKeyPolicyAndRetentionProviders codec scheme
        daemons profile call before.sync before.network = .ok (run, sync, network)) :
      Cycles call before (completedCycle call run.cycle sync network before)
  | sharedRoot {source : ProfileSyncObjectSource BroadwebdError}
      {run : SettingsSyncCycleWithSharedRootRetentionRun} {sync : SyncState} {network : Network}
      (returned : runSettingsSyncCycleWithActiveKeyPolicySharedRootCandidatesAndRetentionProviders
        codec scheme daemons profile call source before.sync before.network =
          .ok (run, sync, network)) :
      Cycles call before (completedCycle call run.cycle sync network before)

/-- A history of a device, with the cycles that returned. Between them anything may happen to the
device, its store and its head: writes, publications without providers, compactions, receptions,
cycles that fail. Providers only do not give up what they retain. -/
inductive RetentionRun (start : RetentionState Network) :
    List (CompletedCycle Provider Network) → RetentionState Network → Prop where
  | start : RetentionRun start [] start
  | cycle {cycles : List (CompletedCycle Provider Network)} {before : RetentionState Network}
      {call : CycleCall Provider} {completed : CompletedCycle Provider Network}
      (run : RetentionRun start cycles before)
      (returned : Cycles codec scheme daemons profile call before completed) :
      RetentionRun start (cycles ++ [completed]) completed.after
  | elsewhere {cycles : List (CompletedCycle Provider Network)}
      {before after : RetentionState Network} (run : RetentionRun start cycles before)
      (kept : ∀ provider objectId, daemons.Retains provider profile objectId before.network →
        daemons.Retains provider profile objectId after.network) :
      RetentionRun start cycles after

/-- The provider retains everything that a reader of the head opens. -/
def RetainsHead (provider : Provider) (head : PublishedLocalSettingsHead) (network : Network) :
    Prop :=
  ∀ objectId ∈ head.objectIdsToRead, daemons.Retains provider profile objectId network

variable {codec scheme daemons profile}

theorem publish_of_runSettingsSyncCycle {settingsRootId : String}
    {credentials : SyncCredentials} {retentionPolicy : ProfileSyncRetentionPolicy}
    {maxPublishSteps maxTrustedDevices : Nat} {now : Int} {state final : SyncState}
    {run : SettingsSyncCycleRun}
    (h : runSettingsSyncCycle codec scheme profile settingsRootId credentials retentionPolicy
      maxPublishSteps maxTrustedDevices now state = .ok (run, final)) :
    run.profile = profile ∧ ∃ published,
      runPendingLocalSettingsSync scheme profile settingsRootId credentials retentionPolicy
        maxPublishSteps now state = .ok (run.publish, published) := by
  obtain ⟨_, -, h⟩ := bind_eq_ok_iff.mp h
  obtain ⟨_, -, h⟩ := bind_eq_ok_iff.mp h
  obtain ⟨⟨publish, published⟩, isPublished, h⟩ := bind_eq_ok_iff.mp h
  obtain ⟨_, -, h⟩ := bind_eq_ok_iff.mp h
  obtain ⟨rfl, -⟩ := ok_pair_inj h
  exact ⟨rfl, published, mapError_eq_ok_iff.mp isPublished⟩

theorem profile_of_preflight {daemon : DaemonHealth} {settingsRootId : String}
    {signer : ProfileSyncDeviceSigner} {policy : SettingsSyncCyclePolicy}
    {db : SlateProfileDatabase} {preflight : SettingsSyncActiveKeyPreflight}
    (h : settingsSyncCyclePreflightWithActiveKeyPolicy scheme daemon profile settingsRootId signer
      policy db = .ok preflight) : preflight.profile = profile := by
  obtain ⟨_, -, h⟩ := bind_eq_ok_iff.mp h
  obtain ⟨_, -, h⟩ := bind_eq_ok_iff.mp h
  obtain ⟨_, -, h⟩ := bind_eq_ok_iff.mp h
  obtain ⟨_, -, h⟩ := bind_eq_ok_iff.mp h
  obtain ⟨_, -, h⟩ := bind_eq_ok_iff.mp h
  obtain ⟨_, -, h⟩ := bind_eq_ok_iff.mp h
  rw [← Except.ok.inj h]

/-- The published objects are among those that a cycle asks its providers for. -/
theorem Cycles.asks {call : CycleCall Provider} {before : RetentionState Network}
    {completed : CompletedCycle Provider Network}
    (returned : Cycles codec scheme daemons profile call before completed) :
    ∃ objectIds runs, retainAtProviders daemons profile objectIds completed.providers
        before.network = .ok (runs, completed.after.network) ∧
      ∀ head, completed.published = some head →
        ∀ objectId ∈ head.objectIdsToRead, objectId ∈ objectIds := by
  cases returned with
  | plain returned =>
      obtain ⟨preflight, isPreflight, h⟩ := bind_eq_ok_iff.mp returned
      obtain ⟨⟨cycle, cycled⟩, isCycle, h⟩ := bind_eq_ok_iff.mp h
      obtain ⟨⟨retention, network⟩, isRetained, h⟩ := bind_eq_ok_iff.mp h
      obtain ⟨_, -, h⟩ := bind_eq_ok_iff.mp h
      obtain ⟨rfl, ends⟩ := ok_pair_inj h
      obtain ⟨-, rfl⟩ := Prod.mk.inj ends
      obtain ⟨sameProfile, _, isPublished⟩ :=
        publish_of_runSettingsSyncCycle (mapError_eq_ok_iff.mp isCycle)
      rw [sameProfile, profile_of_preflight isPreflight] at isRetained
      exact ⟨_, _, isRetained, fun head isHead objectId isRead =>
        mem_publishedObjectIds_of_head isPublished isHead isRead⟩
  | sharedRoot returned =>
      obtain ⟨preflight, isPreflight, h⟩ := bind_eq_ok_iff.mp returned
      obtain ⟨⟨cycle, cycled⟩, isCycle, h⟩ := bind_eq_ok_iff.mp h
      obtain ⟨⟨candidates, pulled⟩, -, h⟩ := bind_eq_ok_iff.mp h
      obtain ⟨⟨retention, network⟩, isRetained, h⟩ := bind_eq_ok_iff.mp h
      obtain ⟨_, -, h⟩ := bind_eq_ok_iff.mp h
      obtain ⟨rfl, ends⟩ := ok_pair_inj h
      obtain ⟨-, rfl⟩ := Prod.mk.inj ends
      obtain ⟨-, _, isPublished⟩ :=
        publish_of_runSettingsSyncCycle (mapError_eq_ok_iff.mp isCycle)
      rw [profile_of_preflight isPreflight] at isRetained
      refine ⟨_, _, isRetained, fun head isHead objectId isRead => ?_⟩
      rw [mem_extendUniqueObjectIds, mem_extendUniqueObjectIds]
      exact .inl (.inr (mem_publishedObjectIds_of_head isPublished isHead isRead))

/-- A provider of the cycle that published a head retains it from then on. -/
theorem RetentionRun.retainsHead (lawful : daemons.Lawful) {start final : RetentionState Network}
    {cycles : List (CompletedCycle Provider Network)}
    (run : RetentionRun codec scheme daemons profile start cycles final)
    {publishing : CompletedCycle Provider Network} (isCycle : publishing ∈ cycles)
    {head : PublishedLocalSettingsHead} (isPublished : publishing.published = some head)
    {provider : Provider} (isGiven : provider ∈ publishing.providers) :
    RetainsHead daemons profile provider head final.network := by
  induction run with
  | start => cases isCycle
  | @cycle cycles before call completed run returned inductionHypothesis =>
      obtain ⟨objectIds, runs, isRetained, published⟩ := returned.asks
      intro objectId isRead
      rcases List.mem_append.mp isCycle with earlier | last
      · exact kept_retainAtProviders lawful isRetained (inductionHypothesis earlier objectId isRead)
      · rw [List.mem_singleton.mp last] at isPublished isGiven
        exact retains_of_retainAtProviders lawful isRetained provider isGiven objectId
          (published head isPublished objectId isRead)
  | elsewhere run kept inductionHypothesis =>
      intro objectId isRead
      exact kept provider objectId (inductionHypothesis isCycle objectId isRead)

/-- The history up to a cycle that returned. -/
theorem RetentionRun.upTo {start final : RetentionState Network}
    {cycles earlier later : List (CompletedCycle Provider Network)}
    {completed : CompletedCycle Provider Network}
    (run : RetentionRun codec scheme daemons profile start cycles final)
    (isSplit : cycles = earlier ++ completed :: later) :
    RetentionRun codec scheme daemons profile start (earlier ++ [completed]) completed.after := by
  induction run generalizing later with
  | start => simp at isSplit
  | @cycle cycles before call last run returned inductionHypothesis =>
      rcases List.eq_nil_or_concat later with rfl | ⟨front, lastLater, rfl⟩
      · obtain ⟨rfl, same⟩ := List.append_inj' isSplit rfl
        obtain rfl := (List.cons.inj same).1
        exact .cycle run returned
      · rw [List.concat_eq_append, ← List.cons_append, ← List.append_assoc] at isSplit
        exact inductionHypothesis (List.append_inj' isSplit rfl).1
  | elsewhere run _ inductionHypothesis => exact inductionHypothesis isSplit

/-- When a cycle returns, each of its providers retains the current head of the device, if it was
also given to the cycle that published that head, this one or an earlier one. -/
theorem retention_complete_for_providers_of_publication (lawful : daemons.Lawful)
    {start final : RetentionState Network} {cycles : List (CompletedCycle Provider Network)}
    (run : RetentionRun codec scheme daemons profile start cycles final)
    {earlier later : List (CompletedCycle Provider Network)}
    {completed : CompletedCycle Provider Network}
    (isSplit : cycles = earlier ++ completed :: later) :
    ∀ provider ∈ completed.providers, ∀ head, completed.after.head = some head →
      (∃ publishing ∈ earlier ++ [completed],
        publishing.published = some head ∧ provider ∈ publishing.providers) →
      RetainsHead daemons profile provider head completed.after.network := by
  rintro provider - head - ⟨publishing, isCycle, isPublished, isGiven⟩
  exact (run.upTo isSplit).retainsHead lawful isCycle isPublished isGiven

end Runs

section Sample

/-- Providers that retain whatever they are asked to. -/
def willingDaemons : RetentionDaemons String (List (String × String × String)) where
  retainObject provider profile objectId network :=
    .ok (true, (provider, profile, objectId) :: network)
  verifyRetainedObject provider profile objectId network :=
    .ok { objectId, retained := network.contains (provider, profile, objectId), available := true }
  Retains provider profile objectId network := (provider, profile, objectId) ∈ network

theorem willingDaemons_lawful : willingDaemons.Lawful where
  retained answered := by
    cases answered
    exact List.mem_cons_self ..
  kept answered retains := by
    cases answered
    exact List.mem_cons_of_mem _ retains

/-- A daemon that has one fresh provider of every role, and healthy roots. -/
def healthyDaemon : DaemonHealth where
  providerHealth profile := .ok
    { profile, knownProviders := 1, onlineProviders := 1, offlineProviders := 0
      freshOnlineProviders := 1, staleOnlineProviders := 0, freshOnlineProviderIds := ["laptop"]
      staleOnlineProviderIds := [], offlineProviderIds := [], minimumProviderSeenSequence := 0
      objectTransferProviders := 1, availabilityProviders := 1, mutableRootProviders := 1
      retainedObjects := 0, degraded := false, message := "ready" }
  rootHealth profile rootId minimum := .ok
    { profile, rootId, visibleCandidates := 1, delayedCandidates := 0
      delayedPublisherProviderIds := [], latestObjectId := none, latestObjectAvailable := true
      latestObjectAvailableProviderIds := ["laptop"], latestObjectStaleProviderIds := []
      latestObjectOfflineProviderIds := [], delayedObjectProviderIds := []
      unavailableRetainingProviderIds := [], onlineRetainingProviders := 1
      minimumOnlineRetainingProviders := minimum, degraded := false, message := "available" }
  profileSyncProviders _ := .ok []

def laptopCall (providers : List String) (now : Int) : CycleCall String where
  settingsRootId := "settings/latest"
  contentKey := laptopCredentials.contentKey
  signer := laptopCredentials.signer
  policy := { retentionPolicy := {}, maxPublishSteps := 4, maxTrustedDevices := 4
              minimumOnlineRetainingProviders := 1 }
  providers
  now
  before := healthyDaemon
  after := healthyDaemon

/-- A device that published nothing, with providers that retain nothing. -/
def startOf (db : SlateProfileDatabase) : RetentionState (List (String × String × String)) where
  sync := { database := db, store := {} }
  network := []
  head := none

def keyedLaptop : SlateProfileDatabase :=
  { householdDevice "laptop" with
    syncContentKeyEpochs := [⟨"default", "key-1", 1, "chacha20-poly1305", true, 1, 1⟩] }

theorem run_startOf (written : SlateProfileDatabase) :
    RetentionRun plainTextCodec plainScheme willingDaemons "default" (startOf keyedLaptop) []
      (startOf written) :=
  RetentionRun.start.elsewhere fun _ _ retains => retains

set_option maxRecDepth 20000 in
/-- The laptop publishes a theme in a cycle without providers. The next cycle has nothing left to
publish, and returns although the provider it is given retains nothing. -/
theorem provider_joins_published_head :
    ∃ cycles final,
      RetentionRun plainTextCodec plainScheme willingDaemons "default" (startOf keyedLaptop) cycles
        final ∧
      ∃ completed ∈ cycles, ∃ provider ∈ completed.providers, ∃ head,
        completed.after.head = some head ∧
          ¬RetainsHead willingDaemons "default" provider head completed.after.network := by
  have steps : ∃ theme written first published second final head,
      keyedLaptop.setSyncSettingText "default" "settings" "theme" "dark" 2 = .ok (theme, written) ∧
      runSettingsSyncCycleWithActiveKeyPolicyAndRetentionProviders plainTextCodec plainScheme
        willingDaemons "default" (laptopCall [] 3) { database := written, store := {} } [] =
          .ok (first, published, []) ∧
      runSettingsSyncCycleWithActiveKeyPolicyAndRetentionProviders plainTextCodec plainScheme
        willingDaemons "default" (laptopCall ["pinner"] 4) published [] = .ok (second, final, []) ∧
      first.cycle.publish.head = some head ∧ second.cycle.publish.head = none :=
    ⟨_, _, _, _, _, _, _, rfl, rfl, rfl, rfl, rfl⟩
  obtain ⟨theme, written, first, published, second, final, head, -, isFirst, isSecond, isHead,
    isIdle⟩ := steps
  have run := ((run_startOf written).cycle (.plain isFirst)).cycle (.plain isSecond)
  refine ⟨_, _, run, _, List.mem_append_right _ (List.mem_singleton_self _), "pinner",
    List.mem_singleton_self _, head, ?_, ?_⟩
  · simp [completedCycle, isHead, isIdle]
  · intro retains
    exact List.not_mem_nil (retains head.deviceHead.objectId (List.mem_cons_self ..))

set_option maxRecDepth 20000 in
/-- The provider of both cycles retains the head that the first one published. -/
theorem provider_of_both_cycles_retains_head :
    ∃ head network, RetainsHead willingDaemons "default" "pinner" head network ∧
      network.length = 3 := by
  have steps : ∃ theme written first published between second final after head,
      keyedLaptop.setSyncSettingText "default" "settings" "theme" "dark" 2 = .ok (theme, written) ∧
      runSettingsSyncCycleWithActiveKeyPolicyAndRetentionProviders plainTextCodec plainScheme
        willingDaemons "default" (laptopCall ["pinner"] 3) { database := written, store := {} } [] =
          .ok (first, published, between) ∧
      runSettingsSyncCycleWithActiveKeyPolicyAndRetentionProviders plainTextCodec plainScheme
        willingDaemons "default" (laptopCall ["pinner"] 4) published between =
          .ok (second, final, after) ∧
      first.cycle.publish.head = some head ∧ second.cycle.publish.head = none ∧
      after.length = 3 :=
    ⟨_, _, _, _, _, _, _, _, _, rfl, rfl, rfl, rfl, rfl, rfl⟩
  obtain ⟨theme, written, first, published, between, second, final, after, head, -, isFirst,
    isSecond, isHead, isIdle, isLength⟩ := steps
  have run := ((run_startOf written).cycle (.plain isFirst)).cycle (.plain isSecond)
  refine ⟨head, after, ?_, isLength⟩
  refine retention_complete_for_providers_of_publication willingDaemons_lawful run rfl "pinner"
    (List.mem_singleton_self _) head ?_ ⟨_, List.mem_append_left _ (List.mem_singleton_self _),
      isHead, List.mem_singleton_self _⟩
  simp [completedCycle, isHead, isIdle]

end Sample

end Slate.ProfileSync
