import Slate.Broadwebd.LocalCapacity
import Slate.Broadwebd.ProfileIsolation

/-!
# The capacity of a store over a Kubo node

A service over a node keeps its own tables of references and roots. To verify an object writes
it into the table where the node says that it is pinned, and asks for no room.
-/

namespace Slate.Broadwebd

open Foundation

section References

variable (store : ProfileSyncStore)

/-- The objects, and the retained entries without bytes. -/
def objectReferenceCount : Nat :=
  store.objects.length + (store.retained.filter fun key => !store.objects.contains key).length

def references : Finset ObjectKey := store.objects.toFinset ∪ store.retained.toFinset

def rootKeys : Finset ObjectKey := (store.roots.map ProfileSyncRootState.key).toFinset

/-- No entry stands twice in a table. -/
structure EntriesOnce (store : ProfileSyncStore) : Prop where
  objects : store.objects.Nodup
  retained : store.retained.Nodup
  roots : Rows.UniqueKeys ProfileSyncRootState.key store.roots

structure WithinCapacity (store : ProfileSyncStore) : Prop where
  objects : ∀ most, store.maxObjects = some most → objectReferenceCount store ≤ most
  roots : ∀ most, store.maxRoots = some most → store.roots.length ≤ most

variable {store} {key : ObjectKey}

theorem mem_references : key ∈ references store ↔ key ∈ store.objects ∨ key ∈ store.retained := by
  simp [references]

theorem EntriesOnce.objectReferenceCount (once : EntriesOnce store) :
    objectReferenceCount store = (references store).card :=
  length_add_length_filter once.objects once.retained

theorem EntriesOnce.length_roots (once : EntriesOnce store) :
    store.roots.length = (rootKeys store).card := by
  rw [rootKeys, List.toFinset_card_of_nodup once.roots, List.length_map]

theorem EntriesOnce.withinCapacity_iff (once : EntriesOnce store) : WithinCapacity store ↔
    WithinLimit store.maxObjects (references store) ∧
      WithinLimit store.maxRoots (rootKeys store) := by
  unfold WithinLimit
  rw [← once.objectReferenceCount, ← once.length_roots]
  exact ⟨fun within => ⟨within.objects, within.roots⟩, fun within => ⟨within.1, within.2⟩⟩

theorem EntriesOnce.checkObjectCapacity_eq_ok_iff (once : EntriesOnce store) :
    checkObjectCapacity store key = .ok () ↔ HasRoom store.maxObjects (references store) key := by
  unfold checkObjectCapacity HasRoom
  rw [mem_references]
  by_cases isReference : key ∈ store.objects ∨ key ∈ store.retained
  · simp [isReference]
  · rw [if_neg isReference]
    simp only [isReference, false_or, ← once.objectReferenceCount]
    unfold checkNewObjectCapacity
    cases store.maxObjects with
    | none => simp
    | some most => simp [Broadwebd.objectReferenceCount]

theorem EntriesOnce.checkRootCapacity_eq_ok_iff (once : EntriesOnce store) :
    checkRootCapacity store key = .ok () ↔ HasRoom store.maxRoots (rootKeys store) key := by
  unfold checkRootCapacity HasRoom
  have isRootKey : key ∈ rootKeys store ↔ key ∈ store.roots.map ProfileSyncRootState.key :=
    List.mem_toFinset
  rw [isRootKey]
  by_cases isRoot : key ∈ store.roots.map ProfileSyncRootState.key
  · simp only [isRoot, if_true, true_or]
  · rw [if_neg isRoot]
    simp only [isRoot, false_or, ← once.length_roots]
    cases store.maxRoots with
    | none => simp
    | some most => simp

end References

section Runs

inductive KuboEvent where
  | request (request : ProfileSyncRequest) (maxProfileSyncObjectBytes : Nat)
  /-- Others talk to the node as well. -/
  | nodeChanges (node : KuboNode)

/-- Empty tables with a capacity, in front of a node. -/
def KuboBacked.withCapacity (capacity : Local.ProfileSyncFixtureCapacity) (node : KuboNode) :
    KuboBacked where
  store := {
    maxObjects := capacity.maxObjects
    maxRoots := capacity.maxRoots
    objects := []
    retained := []
    roots := []
    nextRootSequence := 0 }
  node := node

variable (behaviour : KuboBehaviour) (providerId : String)

def KuboBacked.next (backed : KuboBacked) : KuboEvent → KuboBacked
  | .request request maxProfileSyncObjectBytes =>
    (kuboProfileSyncViaExecutor behaviour (kuboService providerId maxProfileSyncObjectBytes) backed
      request).2
  | .nodeChanges node => { backed with node }

structure SameTables (store next : ProfileSyncStore) : Prop where
  objects : next.objects = store.objects
  retained : next.retained = store.retained
  roots : next.roots = store.roots

/-- The capacity of the tables is never exceeded, and failures change nothing. No provider has
a quota here. -/
structure KuboCapacityKept (start : KuboBacked) (events : List KuboEvent) : Prop where
  capacity : Throughout (KuboBacked.next behaviour providerId) (fun backed =>
    backed.store.maxObjects = start.store.maxObjects ∧
      backed.store.maxRoots = start.store.maxRoots ∧ WithinCapacity backed.store) events start
  failures : AllTaken (KuboBacked.next behaviour providerId) (fun backed event =>
    ∀ request maxProfileSyncObjectBytes failure,
      event = .request request maxProfileSyncObjectBytes →
        (kuboProfileSyncViaExecutor behaviour (kuboService providerId maxProfileSyncObjectBytes)
          backed request).1 = .error failure →
            SameTables backed.store (backed.next behaviour providerId event).store) events start

/-- An object that the node has pinned is verified only where its key is known or has room. -/
def VerifiesWithRoom (backed : KuboBacked) (event : KuboEvent) : Prop :=
  ∀ profile objectId maxProfileSyncObjectBytes,
    event = .request (.verifyRetainedObject profile objectId) maxProfileSyncObjectBytes →
      validateProfile profile = .ok () → validateProfileSyncObjectId objectId = .ok () →
        validateKuboProfileSyncObjectId objectId = .ok () → backed.node.pins objectId = true →
          checkObjectCapacity backed.store (providerId, profile, objectId) = .ok ()

end Runs

section Steps

variable {behaviour : KuboBehaviour} {providerId profile rootId objectId : String}
  {maxProfileSyncObjectBytes : Nat} {backed next : KuboBacked} {store : ProfileSyncStore}
  {request : ProfileSyncRequest} {response : ProfileSyncResponse} {bytes : Bytes}
  {key : ObjectKey}

/-- What a request writes into the tables, and the room it asked for. -/
inductive TableWrite (providerId : String) (store : ProfileSyncStore) :
    ProfileSyncStore → Prop where
  | nothing : TableWrite providerId store store
  | object (profile objectId : String)
      (hasRoom : checkObjectCapacity store (providerId, profile, objectId) = .ok ()) :
      TableWrite providerId store
        { store with objects := store.objects.insert (providerId, profile, objectId) }
  | retained (profile objectId : String)
      (hasRoom : checkObjectCapacity store (providerId, profile, objectId) = .ok ()) :
      TableWrite providerId store
        { store with retained := store.retained.insert (providerId, profile, objectId) }
  | released (profile objectId : String) :
      TableWrite providerId store
        { store with retained := store.retained.erase (providerId, profile, objectId) }
  | root (profile rootId objectId : String) (publishSequence : Nat)
      (hasRoom : checkRootCapacity store (profile, rootId, providerId) = .ok ()) :
      TableWrite providerId store
        { store with
          roots := Rows.upsert ProfileSyncRootState.key (fun _ new => new)
            { profile, rootId, objectId, publisherProviderId := providerId, publishSequence }
            store.roots
          nextRootSequence := publishSequence }

/-- An object that the node has pinned is written as retained, and any other one is erased. -/
theorem verifyRetainedObject_store
    (verifies : verifyRetainedObject behaviour (kuboService providerId maxProfileSyncObjectBytes)
      backed profile objectId = .ok (response, next)) :
    validateProfile profile = .ok () ∧ validateProfileSyncObjectId objectId = .ok () ∧
      validateKuboProfileSyncObjectId objectId = .ok () ∧
      next.store = { backed.store with
        retained :=
          if backed.node.pins objectId then
            backed.store.retained.insert (providerId, profile, objectId)
          else backed.store.retained.erase (providerId, profile, objectId) } := by
  unfold verifyRetainedObject at verifies
  simp only [unit_bind_eq_ok_iff, @bind_eq_ok_iff BroadwebdError Bool] at verifies
  obtain ⟨validProfile, validObject, -, retained, verified, isNext⟩ := verifies
  obtain ⟨-, rfl⟩ := Prod.mk.inj (Except.ok.inj isNext)
  unfold kuboVerifyRetainedObject at verified
  obtain ⟨validNode, verified⟩ := unit_bind_eq_ok_iff.mp verified
  refine ⟨validProfile, validObject, validNode, ?_⟩
  cases isPinned : backed.node.pins objectId with
  | true =>
    simp only [isPinned, if_true, Except.ok.injEq] at verified
    subst verified
    rfl
  | false =>
    have notRetained : retained = false := by
      cases refuses : behaviour.refusesUnpinned <;> simp_all
    subst notRetained
    rfl

theorem verifyRetainedObject_pinned (validProfile : validateProfile profile = .ok ())
    (validObject : validateProfileSyncObjectId objectId = .ok ())
    (validNode : validateKuboProfileSyncObjectId objectId = .ok ())
    (isPinned : backed.node.pins objectId = true) :
    verifyRetainedObject behaviour (kuboService providerId maxProfileSyncObjectBytes) backed
        profile objectId =
      .ok (.retainedObjectStatus objectId true true,
        { backed with store := { backed.store with
            retained := backed.store.retained.insert (providerId, profile, objectId) } }) := by
  unfold verifyRetainedObject requireAvailability
  simp only [kuboService, ProfileSyncProviderRoles.loggedInDevice, requireRole_true, ok_bind,
    validProfile, validObject, kuboVerifyRetainedObject_eq_ok_true_iff.mpr ⟨validNode, isPinned⟩,
    if_true]

theorem putEncryptedObject_store :
    (putEncryptedObject behaviour (kuboService providerId maxProfileSyncObjectBytes) backed profile
        bytes).2.store = backed.store ∨
      ∃ objectId, checkObjectCapacity backed.store (providerId, profile, objectId) = .ok () ∧
        (putEncryptedObject behaviour (kuboService providerId maxProfileSyncObjectBytes) backed
          profile bytes).1 = .ok (.putEncryptedObject objectId) ∧
        (putEncryptedObject behaviour (kuboService providerId maxProfileSyncObjectBytes) backed
          profile bytes).2.store = { backed.store with
            objects := backed.store.objects.insert (providerId, profile, objectId) } := by
  unfold putEncryptedObject
  simp only
  split
  · exact .inl rfl
  · split
    · exact .inl rfl
    · rename_i objectId _
      split
      · exact .inl rfl
      · rename_i hasRoom
        exact .inr ⟨objectId, hasRoom, rfl, rfl⟩

theorem answered_cases {result : Except BroadwebdError (ProfileSyncResponse × KuboBacked)} :
    (∃ failure, result = .error failure ∧ answered backed result = (.error failure, backed)) ∨
      ∃ response next, result = .ok (response, next) ∧
        answered backed result = (.ok response, next) := by
  cases result with
  | error failure => exact .inl ⟨failure, rfl, rfl⟩
  | ok result => exact .inr ⟨result.1, result.2, rfl, rfl⟩

/-- A request that fails leaves the tables as they were. -/
theorem store_of_failure {failure : BroadwebdError}
    (fails : (kuboProfileSyncViaExecutor behaviour
      (kuboService providerId maxProfileSyncObjectBytes) backed request).1 = .error failure) :
    (kuboProfileSyncViaExecutor behaviour (kuboService providerId maxProfileSyncObjectBytes) backed
      request).2.store = backed.store := by
  have ofAnswered {result : Except BroadwebdError (ProfileSyncResponse × KuboBacked)}
      (fails : (answered backed result).1 = .error failure) :
      (answered backed result).2.store = backed.store := by
    rcases @answered_cases backed result with ⟨_, -, isAnswer⟩ | ⟨_, _, -, isAnswer⟩
    · rw [isAnswer]
    · rw [isAnswer] at fails
      cases fails
  cases request with
  | putEncryptedObject profile bytes =>
    rcases @putEncryptedObject_store behaviour providerId profile maxProfileSyncObjectBytes backed
      bytes with unchanged | ⟨objectId, -, succeeds, -⟩
    · exact unchanged
    · unfold kuboProfileSyncViaExecutor at fails
      simp only [succeeds] at fails
      cases fails
  | retainObject | releaseObject | verifyRetainedObject | publishRoot => exact ofAnswered fails
  | getEncryptedObject | listRetainedObjects | resolveRoot | report => rfl

/-- What a request writes, if an object that it verifies has room. -/
theorem tableWrite_of_verifiesWithRoom
    (hasRoom : VerifiesWithRoom providerId backed (.request request maxProfileSyncObjectBytes)) :
    TableWrite providerId backed.store (kuboProfileSyncViaExecutor behaviour
      (kuboService providerId maxProfileSyncObjectBytes) backed request).2.store := by
  have ofAnswered {result : Except BroadwebdError (ProfileSyncResponse × KuboBacked)}
      (writes : ∀ response next, result = .ok (response, next) →
        TableWrite providerId backed.store next.store) :
      TableWrite providerId backed.store (answered backed result).2.store := by
    rcases @answered_cases backed result with ⟨_, -, isAnswer⟩ | ⟨response, next, isOk, isAnswer⟩
    · rw [isAnswer]
      exact .nothing
    · rw [isAnswer]
      exact writes response next isOk
  cases request with
  | putEncryptedObject profile bytes =>
    rcases @putEncryptedObject_store behaviour providerId profile maxProfileSyncObjectBytes backed
      bytes with unchanged | ⟨objectId, hasRoom, -, writes⟩
    · unfold kuboProfileSyncViaExecutor
      simp only [unchanged]
      exact .nothing
    · unfold kuboProfileSyncViaExecutor
      simp only [writes]
      exact .object profile objectId hasRoom
  | retainObject profile objectId =>
    apply ofAnswered
    intro response next retains
    obtain ⟨passes, -, rfl⟩ := retainObject_eq_ok_iff.mp retains
    exact .retained profile objectId passes.capacity
  | releaseObject profile objectId =>
    apply ofAnswered
    intro response next releases
    obtain ⟨-, -, rfl⟩ := releaseObject_eq_ok_iff.mp releases
    exact .released profile objectId
  | verifyRetainedObject profile objectId =>
    apply ofAnswered
    intro response next verifies
    obtain ⟨validProfile, validObject, validNode, isStore⟩ := verifyRetainedObject_store verifies
    rw [isStore]
    cases isPinned : backed.node.pins objectId with
    | true =>
      apply TableWrite.retained profile objectId
      exact hasRoom profile objectId _ rfl validProfile validObject validNode isPinned
    | false => exact .released profile objectId
  | publishRoot profile rootId objectId =>
    apply ofAnswered
    intro response next publishes
    obtain ⟨passes, -, rfl⟩ := publishRoot_eq_ok_iff.mp publishes
    exact .root profile rootId objectId _ passes.capacity
  | getEncryptedObject | listRetainedObjects | resolveRoot | report => exact .nothing

theorem references_insert_object :
    references { store with objects := store.objects.insert key } =
      insert key (references store) := by
  ext other
  rw [Finset.mem_insert, mem_references, mem_references, List.mem_insert_iff, or_assoc]

theorem references_insert_retained :
    references { store with retained := store.retained.insert key } =
      insert key (references store) := by
  ext other
  rw [Finset.mem_insert, mem_references, mem_references, List.mem_insert_iff]
  exact or_left_comm

theorem rootKeys_upsert {root : ProfileSyncRootState} {nextRootSequence : Nat} :
    rootKeys { store with
      roots := Rows.upsert ProfileSyncRootState.key (fun _ new => new) root store.roots
      nextRootSequence } = insert root.key (rootKeys store) := by
  ext other
  unfold rootKeys
  rw [Finset.mem_insert, List.mem_toFinset, List.mem_toFinset,
    Rows.map_key_upsert fun _ _ => rfl]
  split
  · rename_i isRoot
    constructor
    · exact .inr
    · rintro (rfl | isMember)
      · exact isRoot
      · exact isMember
  · simp [or_comm]

/-- The tables of a service that was started with a capacity. -/
structure CapacityInvariant (maxObjects maxRoots : Option Nat) (store : ProfileSyncStore) :
    Prop where
  sameObjects : store.maxObjects = maxObjects
  sameRoots : store.maxRoots = maxRoots
  once : EntriesOnce store
  within : WithinCapacity store

theorem EntriesOnce.write (once : EntriesOnce store) {next : ProfileSyncStore}
    (writes : TableWrite providerId store next) : EntriesOnce next := by
  obtain ⟨objects, retained, roots⟩ := once
  cases writes with
  | nothing => exact ⟨objects, retained, roots⟩
  | object profile objectId => exact ⟨objects.insert, retained, roots⟩
  | retained profile objectId => exact ⟨objects, retained.insert, roots⟩
  | released profile objectId => exact ⟨objects, retained.erase _, roots⟩
  | root profile rootId objectId publishSequence =>
    exact ⟨objects, retained, Rows.uniqueKeys_upsert (fun _ _ => rfl) roots⟩

theorem CapacityInvariant.write {maxObjects maxRoots : Option Nat} {next : ProfileSyncStore}
    (invariant : CapacityInvariant maxObjects maxRoots store)
    (writes : TableWrite providerId store next) : CapacityInvariant maxObjects maxRoots next := by
  have once := invariant.once.write writes
  obtain ⟨objects, roots⟩ := invariant.once.withinCapacity_iff.mp invariant.within
  cases writes with
  | nothing => exact invariant
  | object profile objectId hasRoom =>
    refine ⟨invariant.sameObjects, invariant.sameRoots, once, once.withinCapacity_iff.mpr ⟨?_, roots⟩⟩
    rw [references_insert_object]
    exact (withinLimit_insert_iff objects).mpr
      (invariant.once.checkObjectCapacity_eq_ok_iff.mp hasRoom)
  | retained profile objectId hasRoom =>
    refine ⟨invariant.sameObjects, invariant.sameRoots, once, once.withinCapacity_iff.mpr ⟨?_, roots⟩⟩
    rw [references_insert_retained]
    exact (withinLimit_insert_iff objects).mpr
      (invariant.once.checkObjectCapacity_eq_ok_iff.mp hasRoom)
  | released profile objectId =>
    refine ⟨invariant.sameObjects, invariant.sameRoots, once, once.withinCapacity_iff.mpr ⟨?_, roots⟩⟩
    apply objects.mono
    intro key isReference
    rw [mem_references] at isReference ⊢
    exact isReference.imp_right List.mem_of_mem_erase
  | root profile rootId objectId publishSequence hasRoom =>
    refine ⟨invariant.sameObjects, invariant.sameRoots, once,
      once.withinCapacity_iff.mpr ⟨objects, ?_⟩⟩
    rw [rootKeys_upsert]
    exact (withinLimit_insert_iff roots).mpr
      (invariant.once.checkRootCapacity_eq_ok_iff.mp hasRoom)

theorem CapacityInvariant.step {maxObjects maxRoots : Option Nat} {event : KuboEvent}
    (invariant : CapacityInvariant maxObjects maxRoots backed.store)
    (hasRoom : VerifiesWithRoom providerId backed event) :
    CapacityInvariant maxObjects maxRoots (backed.next behaviour providerId event).store := by
  cases event with
  | request request maxProfileSyncObjectBytes =>
    exact invariant.write (tableWrite_of_verifiesWithRoom hasRoom)
  | nodeChanges node => exact invariant

/-- A verification that writes without room leads beyond the capacity. -/
theorem verifiesWithRoom_of_within {maxObjects maxRoots : Option Nat} {event : KuboEvent}
    (invariant : CapacityInvariant maxObjects maxRoots backed.store)
    (within : WithinCapacity (backed.next behaviour providerId event).store) :
    VerifiesWithRoom providerId backed event := by
  intro profile objectId maxProfileSyncObjectBytes isEvent validProfile validObject validNode
    isPinned
  subst isEvent
  have writes : (backed.next behaviour providerId (.request (.verifyRetainedObject profile objectId)
      maxProfileSyncObjectBytes)).store = { backed.store with
        retained := backed.store.retained.insert (providerId, profile, objectId) } := by
    unfold KuboBacked.next kuboProfileSyncViaExecutor
    simp only [verifyRetainedObject_pinned validProfile validObject validNode isPinned, answered]
  rw [writes] at within
  have once : EntriesOnce { backed.store with
      retained := backed.store.retained.insert (providerId, profile, objectId) } :=
    ⟨invariant.once.objects, invariant.once.retained.insert, invariant.once.roots⟩
  have objects := (once.withinCapacity_iff.mp within).1
  rw [references_insert_retained] at objects
  exact invariant.once.checkObjectCapacity_eq_ok_iff.mpr ((withinLimit_insert_iff
    (invariant.once.withinCapacity_iff.mp invariant.within).1).mp objects)

theorem capacityInvariant_withCapacity (capacity : Local.ProfileSyncFixtureCapacity)
    (node : KuboNode) : CapacityInvariant capacity.maxObjects capacity.maxRoots
      (KuboBacked.withCapacity capacity node).store where
  sameObjects := rfl
  sameRoots := rfl
  once := ⟨List.nodup_nil, List.nodup_nil, List.nodup_nil⟩
  within := ⟨fun _ _ => Nat.zero_le _, fun _ _ => Nat.zero_le _⟩

end Steps

section Services

/-- A run of requests on one of the backends: the service of a process on its own, the services
of a fixture, or a service over a node. -/
inductive ServiceRun where
  | process (events : List Local.LocalEvent)
  | fixture (capacity : Local.ProfileSyncFixtureCapacity) (events : List Local.LocalEvent)
  | kubo (capacity : Local.ProfileSyncFixtureCapacity) (behaviour : KuboBehaviour)
      (providerId : String) (node : KuboNode) (events : List KuboEvent)

def ServiceRun.CapacityKept : ServiceRun → Prop
  | .process events => Local.LocalCapacityKept .default events
  | .fixture capacity events => Local.LocalCapacityKept (.fixture capacity) events
  | .kubo capacity behaviour providerId node events =>
    KuboCapacityKept behaviour providerId (.withCapacity capacity node) events

/-- Where there is a node, every object that it has pinned is verified with room for it. -/
def ServiceRun.VerifiesWithRoom : ServiceRun → Prop
  | .process _ => True
  | .fixture _ _ => True
  | .kubo capacity behaviour providerId node events =>
    AllTaken (KuboBacked.next behaviour providerId) (Broadwebd.VerifiesWithRoom providerId) events
      (.withCapacity capacity node)

/-- The capacity is kept, by failures as well, in exactly the runs that verify with room. -/
theorem capacityKept_iff (run : ServiceRun) : run.CapacityKept ↔ run.VerifiesWithRoom := by
  cases run with
  | process events =>
    apply iff_of_true _ trivial
    exact Local.LocalCapacityKept.of_within (Local.withinCapacity_withCapacity _)
  | fixture capacity events =>
    apply iff_of_true _ trivial
    exact Local.LocalCapacityKept.of_within (Local.withinCapacity_withCapacity capacity)
  | kubo capacity behaviour providerId node events =>
    have throughout_iff : Throughout (KuboBacked.next behaviour providerId) (fun backed =>
        backed.store.maxObjects = capacity.maxObjects ∧
          backed.store.maxRoots = capacity.maxRoots ∧ WithinCapacity backed.store) events
          (.withCapacity capacity node) ↔
        AllTaken (KuboBacked.next behaviour providerId) (Broadwebd.VerifiesWithRoom providerId)
          events (.withCapacity capacity node) := by
      apply @throughout_iff_of_reveals _ _ _ _ fun backed =>
        CapacityInvariant capacity.maxObjects capacity.maxRoots backed.store
      · exact fun backed event invariant hasRoom => invariant.step hasRoom
      · exact fun backed invariant => ⟨invariant.sameObjects, invariant.sameRoots, invariant.within⟩
      · exact fun backed event invariant within => verifiesWithRoom_of_within invariant within.2.2
      · exact capacityInvariant_withCapacity capacity node
    constructor
    · exact fun kept => throughout_iff.mp kept.capacity
    · intro verifies
      refine ⟨throughout_iff.mpr verifies, ?_⟩
      intro done event _ request maxProfileSyncObjectBytes failure isEvent fails
      subst isEvent
      have unchanged : (KuboBacked.next behaviour providerId _
          (.request request maxProfileSyncObjectBytes)).store = _ := store_of_failure fails
      rw [unchanged]
      exact ⟨rfl, rfl, rfl⟩

/-- What one profile retains is verified for another, beyond the capacity. -/
theorem verified_beyond_capacity : ¬∀ run : ServiceRun, run.CapacityKept := by
  intro kept
  have within := ((kept (.kubo { maxProviders := none, maxObjects := some 1, maxRoots := none }
    sampleKubo "kubo" sampleBacked.node [
      .request (.putEncryptedObject "home" [1]) 1024,
      .request (.retainObject "home" "bafyobject1") 1024,
      .request (.verifyRetainedObject "work" "bafyobject1") 1024])).capacity _
    (List.prefix_refl _)).2.2.objects 1 rfl
  revert within
  decide +kernel

end Services

end Slate.Broadwebd
