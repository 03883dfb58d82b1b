import Slate.Broadwebd.KuboProfileSync

/-!
# What one profile sees of another behind the same Kubo node

Profiles share the node's pins and names. A profile finds what it retained and published as it
left it exactly as long as no other profile releases the same object or publishes something
else under the same root.
-/

namespace Slate.Broadwebd

open Foundation

section Spec

variable {behaviour : KuboBehaviour} {service : ProfileSyncService} {providerId : String}
  {maxBytes : Nat} {backed : KuboBacked} {profile rootId objectId : String}

/-- What a request to retain an object needs of the request and of the state. -/
structure RetainPasses (service : ProfileSyncService) (backed : KuboBacked)
    (profile objectId : String) : Prop where
  validProfile : validateProfile profile = .ok ()
  validObjectId : validateProfileSyncObjectId objectId = .ok ()
  capacity :
    checkObjectCapacity backed.store (service.providerId, profile, objectId) = .ok ()
  nodeObjectId : validateKuboProfileSyncObjectId objectId = .ok ()
  available : (backed.node.objects objectId).isSome

structure ReleasePasses (behaviour : KuboBehaviour) (backed : KuboBacked)
    (profile objectId : String) : Prop where
  validProfile : validateProfile profile = .ok ()
  validObjectId : validateProfileSyncObjectId objectId = .ok ()
  nodeObjectId : validateKuboProfileSyncObjectId objectId = .ok ()
  pinned : behaviour.refusesUnpinned → backed.node.pins objectId

structure PublishPasses (service : ProfileSyncService) (backed : KuboBacked)
    (profile rootId objectId : String) : Prop where
  validProfile : validateProfile profile = .ok ()
  validRootId : validateProfileSyncRootId rootId = .ok ()
  validObjectId : validateProfileSyncObjectId objectId = .ok ()
  capacity : checkRootCapacity backed.store (profile, rootId, service.providerId) = .ok ()
  nodeKeyId : validateKuboProfileSyncNameToken "IPNS key id" rootId = .ok ()
  nodeObjectId : validateKuboProfileSyncObjectId objectId = .ok ()
  available : (backed.node.objects objectId).isSome

/-- Bytes that are put change neither pins nor names. -/
theorem putEncryptedObject_frame {bytes : Bytes} :
    (putEncryptedObject behaviour service backed profile bytes).2.node.pins = backed.node.pins ∧
      (putEncryptedObject behaviour service backed profile bytes).2.node.names =
        backed.node.names := by
  have frame := @kuboPutEncryptedObject_frame behaviour backed.node
    service.maxProfileSyncObjectBytes bytes
  unfold putEncryptedObject
  simp only
  split
  · exact ⟨rfl, rfl⟩
  · split
    · exact frame
    · split <;> exact frame

theorem verifyRetainedObject_frame {response : ProfileSyncResponse} {next : KuboBacked}
    (verified : verifyRetainedObject behaviour service backed profile objectId =
      .ok (response, next)) : next.node = backed.node := by
  unfold verifyRetainedObject at verified
  simp only [unit_bind_eq_ok_iff, @bind_eq_ok_iff BroadwebdError Bool] at verified
  obtain ⟨-, -, -, retained, -, isNext⟩ := verified
  obtain ⟨-, rfl⟩ := Prod.mk.inj (Except.ok.inj isNext)
  rfl

theorem requireRole_true (role : String) : requireRole service true role = .ok () := rfl

theorem retainObject_eq_ok_iff {response : ProfileSyncResponse} {next : KuboBacked} :
    retainObject behaviour (kuboService providerId maxBytes) backed profile objectId =
        .ok (response, next) ↔
      RetainPasses (kuboService providerId maxBytes) backed profile objectId ∧
        response = .retainObject objectId true ∧
        next = {
          store := { backed.store with
            retained := backed.store.retained.insert (providerId, profile, objectId) }
          node := { backed.node with
            pins := Function.update backed.node.pins objectId true } } := by
  unfold retainObject requireAvailability requireObjectTransfer
  simp only [kuboService, ProfileSyncProviderRoles.loggedInDevice, requireRole_true, ok_bind,
    unit_bind_eq_ok_iff, @bind_eq_ok_iff BroadwebdError KuboNode, kuboRetainObject_eq_ok_iff]
  constructor
  · rintro ⟨validProfile, validObject, capacity, node, ⟨validNode, available, rfl⟩, -, isNext⟩
    obtain ⟨rfl, rfl⟩ := Prod.mk.inj (Except.ok.inj isNext)
    exact ⟨⟨validProfile, validObject, capacity, validNode, available⟩, rfl, rfl⟩
  · rintro ⟨passes, rfl, rfl⟩
    exact ⟨passes.validProfile, passes.validObjectId, passes.capacity, _,
      ⟨passes.nodeObjectId, passes.available, rfl⟩, passes.capacity, rfl⟩

theorem releaseObject_eq_ok_iff {response : ProfileSyncResponse} {next : KuboBacked} :
    releaseObject behaviour (kuboService providerId maxBytes) backed profile objectId =
        .ok (response, next) ↔
      ReleasePasses behaviour backed profile objectId ∧
        response = .releaseObject objectId false ∧
        next = {
          store := { backed.store with
            retained := backed.store.retained.erase (providerId, profile, objectId) }
          node := { backed.node with
            pins := Function.update backed.node.pins objectId false } } := by
  unfold releaseObject requireAvailability
  simp only [kuboService, ProfileSyncProviderRoles.loggedInDevice, requireRole_true, ok_bind,
    unit_bind_eq_ok_iff, @bind_eq_ok_iff BroadwebdError KuboNode, kuboReleaseObject_eq_ok_iff]
  constructor
  · rintro ⟨validProfile, validObject, node, ⟨validNode, pinned, rfl⟩, isNext⟩
    obtain ⟨rfl, rfl⟩ := Prod.mk.inj (Except.ok.inj isNext)
    exact ⟨⟨validProfile, validObject, validNode, pinned⟩, rfl, rfl⟩
  · rintro ⟨passes, rfl, rfl⟩
    exact ⟨passes.validProfile, passes.validObjectId, _, ⟨passes.nodeObjectId, passes.pinned, rfl⟩, rfl⟩

/-- A root that is published changes the names and the service's own roots. -/
theorem publishRoot_eq_ok_iff {response : ProfileSyncResponse} {next : KuboBacked} :
    publishRoot behaviour (kuboService providerId maxBytes) backed profile rootId objectId =
        .ok (response, next) ↔
      PublishPasses (kuboService providerId maxBytes) backed profile rootId objectId ∧
        response = .root rootId (some objectId) ∧
        next = {
          store := { backed.store with
            roots := Rows.upsert ProfileSyncRootState.key (fun _ new => new)
              { profile, rootId, objectId, publisherProviderId := providerId,
                publishSequence := min (backed.store.nextRootSequence + 1) u64Max }
              backed.store.roots
            nextRootSequence := min (backed.store.nextRootSequence + 1) u64Max }
          node := { backed.node with
            names := Function.update backed.node.names rootId (some objectId) } } := by
  unfold publishRoot requireMutableRoots
  simp only [kuboService, ProfileSyncProviderRoles.loggedInDevice, requireRole_true, ok_bind,
    unit_bind_eq_ok_iff, @bind_eq_ok_iff BroadwebdError KuboNode, kuboPublishRoot_eq_ok_iff]
  constructor
  · rintro ⟨validProfile, validRoot, validObject, capacity, node,
      ⟨validKey, validNode, available, rfl⟩, -, isNext⟩
    obtain ⟨rfl, rfl⟩ := Prod.mk.inj (Except.ok.inj isNext)
    exact ⟨⟨validProfile, validRoot, validObject, capacity, validKey, validNode, available⟩,
      rfl, rfl⟩
  · rintro ⟨passes, rfl, rfl⟩
    exact ⟨passes.validProfile, passes.validRootId, passes.validObjectId, passes.capacity, _,
      ⟨passes.nodeKeyId, passes.nodeObjectId, passes.available, rfl⟩, passes.capacity, rfl⟩

/-- An object verifies as retained where the node has it pinned, for whomever. -/
theorem verifyRetainedObject_eq_retained_iff :
    (kuboProfileSyncViaExecutor behaviour (kuboService providerId maxBytes) backed
        (.verifyRetainedObject profile objectId)).1 =
        .ok (.retainedObjectStatus objectId true true) ↔
      validateProfile profile = .ok () ∧ validateProfileSyncObjectId objectId = .ok () ∧
        validateKuboProfileSyncObjectId objectId = .ok () ∧ backed.node.pins objectId := by
  have isAnswer {result : Except BroadwebdError (ProfileSyncResponse × KuboBacked)}
      {response : ProfileSyncResponse} :
      (answered backed result).1 = .ok response ↔ ∃ next, result = .ok (response, next) := by
    rcases result with error | ⟨found, next⟩ <;> simp [answered]
  unfold kuboProfileSyncViaExecutor
  simp only [isAnswer]
  unfold verifyRetainedObject requireAvailability
  simp only [kuboService, ProfileSyncProviderRoles.loggedInDevice, requireRole_true, ok_bind,
    unit_bind_eq_ok_iff, @bind_eq_ok_iff BroadwebdError Bool]
  constructor
  · rintro ⟨next, validProfile, validObject, retained, verified, isNext⟩
    obtain ⟨-, rfl, -⟩ := ProfileSyncResponse.retainedObjectStatus.inj
      (Prod.mk.inj (Except.ok.inj isNext)).1
    exact ⟨validProfile, validObject, kuboVerifyRetainedObject_eq_ok_true_iff.mp verified⟩
  · rintro ⟨validProfile, validObject, verified⟩
    exact ⟨_, validProfile, validObject, true,
      kuboVerifyRetainedObject_eq_ok_true_iff.mpr verified, rfl⟩

/-- A root resolves to what its name stands for on the node, whoever gave it. -/
theorem resolveRoot_eq_root_iff :
    (kuboProfileSyncViaExecutor behaviour (kuboService providerId maxBytes) backed
        (.resolveRoot profile rootId)).1 = .ok (.root rootId (some objectId)) ↔
      validateProfile profile = .ok () ∧ validateProfileSyncRootId rootId = .ok () ∧
        validateKuboProfileSyncNameToken "IPNS name" rootId = .ok () ∧
        backed.node.names rootId = some objectId ∧
        validateKuboProfileSyncObjectId objectId = .ok () := by
  unfold kuboProfileSyncViaExecutor resolveRoot requireDiscovery
  simp only [kuboService, ProfileSyncProviderRoles.loggedInDevice, requireRole_true, ok_bind,
    unit_bind_eq_ok_iff, @bind_eq_ok_iff BroadwebdError String]
  constructor
  · rintro ⟨validProfile, validRoot, found, resolved, isFound⟩
    have same : found = objectId := by simpa using isFound
    subst same
    exact ⟨validProfile, validRoot, kuboResolveRoot_eq_ok_iff.mp resolved⟩
  · rintro ⟨validProfile, validRoot, resolved⟩
    exact ⟨validProfile, validRoot, objectId, kuboResolveRoot_eq_ok_iff.mpr resolved, rfl⟩

end Spec

/-- A service in use, the objects that one profile retained and did not release, and what it last
published under each root. -/
structure Observed where
  backed : KuboBacked
  held : String → Bool
  published : String → Option String

section Observation

variable (behaviour : KuboBehaviour) (providerId : String) (maxBytes : Nat) (observer : String)

def Observed.start (backed : KuboBacked) : Observed where
  backed := backed
  held _ := false
  published _ := none

/-- A request of any profile, and what the observer has to expect after the answer. -/
def Observed.next (observed : Observed) (request : ProfileSyncRequest) : Observed :=
  let (answer, backed) := kuboProfileSyncViaExecutor behaviour (kuboService providerId maxBytes)
    observed.backed request
  match request, answer with
  | .retainObject profile objectId, .ok _ =>
    if profile = observer then
      { observed with backed, held := Function.update observed.held objectId true }
    else { observed with backed }
  | .releaseObject profile objectId, .ok _ =>
    if profile = observer then
      { observed with backed, held := Function.update observed.held objectId false }
    else { observed with backed }
  | .publishRoot profile rootId objectId, .ok _ =>
    if profile = observer then
      { observed with
        backed, published := Function.update observed.published rootId (some objectId) }
    else { observed with backed }
  | _, _ => { observed with backed }

/-- The observer's retained objects verify as retained, and its roots resolve to what it
published. -/
structure Undisturbed (observed : Observed) : Prop where
  retained : ∀ objectId, observed.held objectId →
    (kuboProfileSyncViaExecutor behaviour (kuboService providerId maxBytes) observed.backed
      (.verifyRetainedObject observer objectId)).1 =
      .ok (.retainedObjectStatus objectId true true)
  resolved : ∀ rootId objectId, observed.published rootId = some objectId →
    (kuboProfileSyncViaExecutor behaviour (kuboService providerId maxBytes) observed.backed
      (.resolveRoot observer rootId)).1 = .ok (.root rootId (some objectId))

/-- A request that leaves the observer's objects and roots alone: another profile neither
releases an object that the observer retains nor publishes something else under a root of the
observer. -/
def LeavesAlone (observed : Observed) : ProfileSyncRequest → Prop
  | .releaseObject profile objectId => profile ≠ observer →
    ReleasePasses behaviour observed.backed profile objectId → observed.held objectId = false
  | .publishRoot profile rootId objectId => profile ≠ observer →
    PublishPasses (kuboService providerId maxBytes) observed.backed profile rootId objectId →
      ∀ expected, observed.published rootId = some expected → objectId = expected
  | _ => True

/-- The node's pins, and those that the observer expects. -/
def Observed.pins (observed : Observed) : Watched String Bool where
  table := observed.backed.node.pins
  expects objectId := if observed.held objectId then some true else none

/-- The node's names, and those that the observer expects. -/
def Observed.names (observed : Observed) : Watched String (Option String) where
  table := observed.backed.node.names
  expects rootId := (observed.published rootId).map some

end Observation

section Steps

variable {behaviour : KuboBehaviour} {providerId : String} {maxBytes : Nat} {observer : String}
  {observed : Observed}

theorem expects_update {held : String → Bool} {objectId : String} {value : Bool} :
    (fun other => if Function.update held objectId value other then some true else none) =
      Function.update (fun other => if held other then some true else none) objectId
        (if value then some true else none) := by
  funext other
  by_cases same : other = objectId
  · subst same
    simp
  · simp [same]

theorem map_update {published : String → Option String} {rootId objectId : String} :
    (fun other => (Function.update published rootId (some objectId) other).map some) =
      Function.update (fun other => (published other).map some) rootId (some (some objectId)) := by
  funext other
  by_cases same : other = rootId
  · subst same
    simp
  · simp [same]

/-- What the observer asked for went through the checks of the service and of the client. -/
structure Checked (observer : String) (observed : Observed) : Prop where
  held : ∀ objectId, observed.held objectId →
    validateProfile observer = .ok () ∧ validateProfileSyncObjectId objectId = .ok () ∧
      validateKuboProfileSyncObjectId objectId = .ok ()
  published : ∀ rootId objectId, observed.published rootId = some objectId →
    validateProfile observer = .ok () ∧ validateProfileSyncRootId rootId = .ok () ∧
      validateKuboProfileSyncNameToken "IPNS name" rootId = .ok () ∧
      validateKuboProfileSyncObjectId objectId = .ok ()

theorem undisturbed_iff (checked : Checked observer observed) :
    Undisturbed behaviour providerId maxBytes observer observed ↔
      observed.pins.Agrees ∧ observed.names.Agrees := by
  constructor
  · intro undisturbed
    constructor
    · intro objectId expected isExpected
      simp only [Observed.pins, Option.ite_none_right_eq_some, Option.some.injEq] at isExpected
      obtain ⟨held, rfl⟩ := isExpected
      exact (verifyRetainedObject_eq_retained_iff.mp (undisturbed.retained objectId held)).2.2.2
    · intro rootId expected isExpected
      obtain ⟨objectId, published, rfl⟩ := Option.map_eq_some_iff.mp isExpected
      exact (resolveRoot_eq_root_iff.mp
        (undisturbed.resolved rootId objectId published)).2.2.2.1
  · rintro ⟨pins, names⟩
    constructor
    · intro objectId held
      obtain ⟨validProfile, validObject, validNode⟩ := checked.held objectId held
      exact verifyRetainedObject_eq_retained_iff.mpr
        ⟨validProfile, validObject, validNode, pins objectId true (by simp [Observed.pins, held])⟩
    · intro rootId objectId published
      obtain ⟨validProfile, validRoot, validName, validObject⟩ :=
        checked.published rootId objectId published
      exact resolveRoot_eq_root_iff.mpr ⟨validProfile, validRoot, validName,
        names rootId (some objectId) (by simp [Observed.names, published]), validObject⟩

/-- The node's pins and names, and what the observer expects of them. -/
structure Shows (observed : Observed) (pins : String → Bool) (names : String → Option String)
    (held : String → Bool) (published : String → Option String) : Prop where
  pins : observed.backed.node.pins = pins
  names : observed.backed.node.names = names
  held : observed.held = held
  published : observed.published = published

/-- What a request does to what all profiles share. -/
inductive Effect (behaviour : KuboBehaviour) (providerId : String) (maxBytes : Nat)
    (observer : String) (observed next : Observed) : ProfileSyncRequest → Prop
  | none {request : ProfileSyncRequest}
      (alone : LeavesAlone behaviour providerId maxBytes observer observed request)
      (shows : Shows next observed.backed.node.pins observed.backed.node.names observed.held
        observed.published) :
      Effect behaviour providerId maxBytes observer observed next request
  | retain {profile objectId : String}
      (passes :
        RetainPasses (kuboService providerId maxBytes) observed.backed profile objectId)
      (shows : Shows next (Function.update observed.backed.node.pins objectId true)
        observed.backed.node.names
        (if profile = observer then Function.update observed.held objectId true
          else observed.held)
        observed.published) :
      Effect behaviour providerId maxBytes observer observed next (.retainObject profile objectId)
  | release {profile objectId : String}
      (passes : ReleasePasses behaviour observed.backed profile objectId)
      (shows : Shows next (Function.update observed.backed.node.pins objectId false)
        observed.backed.node.names
        (if profile = observer then Function.update observed.held objectId false
          else observed.held)
        observed.published) :
      Effect behaviour providerId maxBytes observer observed next (.releaseObject profile objectId)
  | publish {profile rootId objectId : String}
      (passes :
        PublishPasses (kuboService providerId maxBytes) observed.backed profile rootId objectId)
      (shows : Shows next observed.backed.node.pins
        (Function.update observed.backed.node.names rootId (some objectId)) observed.held
        (if profile = observer then Function.update observed.published rootId (some objectId)
          else observed.published)) :
      Effect behaviour providerId maxBytes observer observed next
        (.publishRoot profile rootId objectId)

theorem effect_next (request : ProfileSyncRequest) :
    Effect behaviour providerId maxBytes observer observed
      (observed.next behaviour providerId maxBytes observer request) request := by
  have unchanged : Shows observed observed.backed.node.pins observed.backed.node.names
      observed.held observed.published := ⟨rfl, rfl, rfl, rfl⟩
  cases request with
  | putEncryptedObject profile bytes =>
    obtain ⟨pins, names⟩ := @putEncryptedObject_frame behaviour
      (kuboService providerId maxBytes) observed.backed profile bytes
    exact .none trivial ⟨pins, names, rfl, rfl⟩
  | getEncryptedObject profile objectId => exact .none trivial unchanged
  | listRetainedObjects profile => exact .none trivial unchanged
  | resolveRoot profile rootId => exact .none trivial unchanged
  | report profile report => exact .none trivial unchanged
  | verifyRetainedObject profile objectId =>
    refine .none trivial ?_
    cases result : verifyRetainedObject behaviour (kuboService providerId maxBytes)
      observed.backed profile objectId with
    | error error =>
      simp only [Observed.next, kuboProfileSyncViaExecutor, answered, result]
      exact unchanged
    | ok outcome =>
      obtain ⟨response, next⟩ := outcome
      have sameNode := verifyRetainedObject_frame result
      simp only [Observed.next, kuboProfileSyncViaExecutor, answered, result]
      exact ⟨congrArg KuboNode.pins sameNode, congrArg KuboNode.names sameNode, rfl, rfl⟩
  | retainObject profile objectId =>
    cases result : retainObject behaviour (kuboService providerId maxBytes) observed.backed
      profile objectId with
    | error error =>
      refine .none trivial ?_
      simp only [Observed.next, kuboProfileSyncViaExecutor, answered, result]
      exact unchanged
    | ok outcome =>
      obtain ⟨response, next⟩ := outcome
      obtain ⟨passes, rfl, rfl⟩ := retainObject_eq_ok_iff.mp result
      refine .retain passes ?_
      simp only [Observed.next, kuboProfileSyncViaExecutor, answered, result]
      split <;> exact ⟨rfl, rfl, rfl, rfl⟩
  | releaseObject profile objectId =>
    cases result : releaseObject behaviour (kuboService providerId maxBytes) observed.backed
      profile objectId with
    | error error =>
      refine .none (fun _ passes => ?_) ?_
      · have isOk := result.symm.trans (releaseObject_eq_ok_iff.mpr ⟨passes, rfl, rfl⟩)
        cases isOk
      · simp only [Observed.next, kuboProfileSyncViaExecutor, answered, result]
        exact unchanged
    | ok outcome =>
      obtain ⟨response, next⟩ := outcome
      obtain ⟨passes, rfl, rfl⟩ := releaseObject_eq_ok_iff.mp result
      refine .release passes ?_
      simp only [Observed.next, kuboProfileSyncViaExecutor, answered, result]
      split <;> exact ⟨rfl, rfl, rfl, rfl⟩
  | publishRoot profile rootId objectId =>
    cases result : publishRoot behaviour (kuboService providerId maxBytes) observed.backed
      profile rootId objectId with
    | error error =>
      refine .none (fun _ passes => ?_) ?_
      · have isOk := result.symm.trans (publishRoot_eq_ok_iff.mpr ⟨passes, rfl, rfl⟩)
        cases isOk
      · simp only [Observed.next, kuboProfileSyncViaExecutor, answered, result]
        exact unchanged
    | ok outcome =>
      obtain ⟨response, next⟩ := outcome
      obtain ⟨passes, rfl, rfl⟩ := publishRoot_eq_ok_iff.mp result
      refine .publish passes ?_
      simp only [Observed.next, kuboProfileSyncViaExecutor, answered, result]
      split <;> exact ⟨rfl, rfl, rfl, rfl⟩

variable {next : Observed} {request : ProfileSyncRequest}

theorem Shows.pins_eq {pins : String → Bool} {names : String → Option String}
    {held : String → Bool} {published : String → Option String}
    (shows : Shows next pins names held published) :
    next.pins = ⟨pins, fun objectId => if held objectId then some true else none⟩ := by
  unfold Observed.pins
  rw [shows.pins, shows.held]

theorem Shows.names_eq {pins : String → Bool} {names : String → Option String}
    {held : String → Bool} {published : String → Option String}
    (shows : Shows next pins names held published) :
    next.names = ⟨names, fun rootId => (published rootId).map some⟩ := by
  unfold Observed.names
  rw [shows.names, shows.published]

/-- What the observer comes to expect was checked when it asked for it. -/
theorem Effect.checked (effect : Effect behaviour providerId maxBytes observer observed next request)
    (checked : Checked observer observed) : Checked observer next := by
  cases effect with
  | none alone shows =>
    constructor
    · rw [shows.held]
      exact checked.held
    · rw [shows.published]
      exact checked.published
  | @retain profile objectId passes shows =>
    constructor
    · intro other held
      rw [shows.held] at held
      split at held
      · rename_i own
        by_cases same : other = objectId
        · subst same
          rw [← own]
          exact ⟨passes.validProfile, passes.validObjectId, passes.nodeObjectId⟩
        · exact checked.held other (by simpa [same] using held)
      · exact checked.held other held
    · rw [shows.published]
      exact checked.published
  | @release profile objectId passes shows =>
    constructor
    · intro other held
      rw [shows.held] at held
      split at held
      · by_cases same : other = objectId
        · subst same
          simp at held
        · exact checked.held other (by simpa [same] using held)
      · exact checked.held other held
    · rw [shows.published]
      exact checked.published
  | @publish profile rootId objectId passes shows =>
    constructor
    · rw [shows.held]
      exact checked.held
    · intro other expected published
      rw [shows.published] at published
      split at published
      · rename_i own
        by_cases same : other = rootId
        · subst same
          obtain rfl : objectId = expected := by simpa using published
          rw [← own]
          exact ⟨passes.validProfile, passes.validRootId,
            validateKuboProfileSyncNameToken_ok_iff.mp passes.nodeKeyId, passes.nodeObjectId⟩
        · exact checked.published other expected (by simpa [same] using published)
      · exact checked.published other expected published

/-- A request keeps the pins and the names as the observer expects them where it leaves them
alone. -/
theorem Effect.agrees_iff
    (effect : Effect behaviour providerId maxBytes observer observed next request)
    (pins : observed.pins.Agrees) (names : observed.names.Agrees) :
    next.pins.Agrees ∧ next.names.Agrees ↔
      LeavesAlone behaviour providerId maxBytes observer observed request := by
  cases effect with
  | none alone shows =>
    rw [shows.pins_eq, shows.names_eq]
    exact ⟨fun _ => alone, fun _ => ⟨pins, names⟩⟩
  | @retain profile objectId passes shows =>
    rw [shows.pins_eq, shows.names_eq]
    refine ⟨fun _ => trivial, fun _ => ⟨?_, names⟩⟩
    split
    · rw [expects_update]
      exact pins.writeOwn (by simp)
    · apply (Watched.agrees_writeForeign_iff pins).mpr
      simp [Observed.pins]
  | @release profile objectId passes shows =>
    rw [shows.pins_eq, shows.names_eq]
    by_cases own : profile = observer
    · rw [if_pos own, expects_update]
      refine ⟨fun _ other => absurd own other, fun _ => ⟨pins.writeOwn (by simp), names⟩⟩
    · have foreign := @Watched.agrees_writeForeign_iff _ _ _ observed.pins objectId false pins
      have unheld : (∀ expected, observed.pins.expects objectId = some expected →
          false = expected) ↔ observed.held objectId = false := by
        cases held : observed.held objectId <;> simp [Observed.pins, held]
      rw [if_neg own]
      constructor
      · exact fun agrees _ _ => unheld.mp (foreign.mp agrees.1)
      · exact fun alone => ⟨foreign.mpr (unheld.mpr (alone own passes)), names⟩
  | @publish profile rootId objectId passes shows =>
    rw [shows.pins_eq, shows.names_eq]
    by_cases own : profile = observer
    · rw [if_pos own, map_update]
      refine ⟨fun _ other => absurd own other, fun _ => ⟨pins, names.writeOwn (by simp)⟩⟩
    · have foreign := @Watched.agrees_writeForeign_iff _ _ _ observed.names rootId
        (some objectId) names
      have respects : (∀ expected, observed.names.expects rootId = some expected →
          some objectId = expected) ↔
          ∀ expected, observed.published rootId = some expected → objectId = expected := by
        cases published : observed.published rootId <;> simp [Observed.names, published]
      rw [if_neg own]
      constructor
      · exact fun agrees _ _ => respects.mp (foreign.mp agrees.2)
      · exact fun alone => ⟨pins, foreign.mpr (respects.mpr (alone own passes))⟩

end Steps

/-- Over any run of requests of any profiles, one profile finds what it retained and published
as it left it exactly if no other profile releases or publishes over it. -/
theorem undisturbed_throughout_iff (behaviour : KuboBehaviour) (providerId : String)
    (maxBytes : Nat) (observer : String) (backed : KuboBacked)
    (requests : List ProfileSyncRequest) :
    Throughout (Observed.next behaviour providerId maxBytes observer)
        (Undisturbed behaviour providerId maxBytes observer) requests (.start backed) ↔
      AllTaken (Observed.next behaviour providerId maxBytes observer)
        (LeavesAlone behaviour providerId maxBytes observer) requests (.start backed) := by
  have checkedStart : Checked observer (.start backed) :=
    ⟨by simp [Observed.start], by simp [Observed.start]⟩
  apply throughout_iff_allTaken (fun observed request => (effect_next request).checked) _
    checkedStart
  · exact (undisturbed_iff checkedStart).mpr
      ⟨by simp [Watched.Agrees, Observed.pins, Observed.start],
        by simp [Watched.Agrees, Observed.names, Observed.start]⟩
  · intro observed request checked undisturbed
    have effect := @effect_next behaviour providerId maxBytes observer observed request
    obtain ⟨pins, names⟩ := (undisturbed_iff checked).mp undisturbed
    rw [undisturbed_iff (effect.checked checked)]
    exact effect.agrees_iff pins names

section Sample

def sampleKubo : KuboBehaviour where
  contentId bytes := s!"bafyobject{bytes.length}"
  refusal := 500
  refusesUnpinned := true

def sampleBacked : KuboBacked where
  store := {
    maxObjects := none, maxRoots := none, objects := [], retained := [], roots := []
    nextRootSequence := 0 }
  node := { objects := fun _ => none, pins := fun _ => false, names := fun _ => none }

/-- Two profiles retain one object; one of them releases it and publishes another object under
the root of both. -/
def sampleRequests : List ProfileSyncRequest := [
  .putEncryptedObject "home" [1],
  .putEncryptedObject "work" [1],
  .putEncryptedObject "work" [1, 2],
  .retainObject "home" "bafyobject1",
  .publishRoot "home" "slate/settings" "bafyobject1",
  .retainObject "work" "bafyobject1",
  .releaseObject "work" "bafyobject1",
  .publishRoot "work" "slate/settings" "bafyobject2"]

/-- What the other profile did is what the first one finds. -/
theorem other_profile_unpins_and_republishes :
    let after := runSteps (Observed.next sampleKubo "kubo" 1024 "home") sampleRequests
      (.start sampleBacked)
    after.held "bafyobject1" ∧ after.published "slate/settings" = some "bafyobject1" ∧
      (kuboProfileSyncViaExecutor sampleKubo (kuboService "kubo" 1024) after.backed
        (.verifyRetainedObject "home" "bafyobject1")).1 =
        .error (.request "Kubo profile-sync pin/ls returned HTTP status 500") ∧
      (kuboProfileSyncViaExecutor sampleKubo (kuboService "kubo" 1024) after.backed
        (.resolveRoot "home" "slate/settings")).1 =
        .ok (.root "slate/settings" (some "bafyobject2")) := by
  decide +kernel

theorem profile_disturbed_by_other :
    ¬∀ (behaviour : KuboBehaviour) (providerId : String) (maxBytes : Nat) (observer : String)
      (backed : KuboBacked) (requests : List ProfileSyncRequest),
      Throughout (Observed.next behaviour providerId maxBytes observer)
        (Undisturbed behaviour providerId maxBytes observer) requests (.start backed) := by
  intro isolated
  have undisturbed := isolated sampleKubo "kubo" 1024 "home" sampleBacked sampleRequests
    sampleRequests (List.prefix_refl _)
  obtain ⟨held, -, refused, -⟩ := other_profile_unpins_and_republishes
  have retained := undisturbed.retained "bafyobject1" held
  rw [refused] at retained
  cases retained

end Sample

end Slate.Broadwebd
