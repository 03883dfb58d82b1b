import Slate.Foundation.Limit
import Slate.Foundation.SharedTable
import Slate.Broadwebd.LocalStatements

/-!
# The capacity of a local store

The objects and the retained entries without bytes are counted together, as one set of
references. Every request that adds a reference or a root asks for room first, and a retention
asks for room in the quota of its provider as well.
-/

namespace Slate.Broadwebd.Local

open Slate.Foundation

attribute [local instance] lexOrd

section References

variable (store : ProfileSyncStore)

/-- The objects, and the retained entries without bytes. -/
def objectReferenceCount : Nat :=
  store.objects.size +
    (store.retained.toList.filter fun key => !store.objects.contains key).length

def references : Finset ObjectKey :=
  store.objects.keys.toFinset ∪ store.retained.toList.toFinset

def rootKeys : Finset ObjectKey := store.roots.keys.toFinset

def retainedBy (providerId : String) : Finset ObjectKey :=
  (store.retained.toList.filter fun key => key.1 = providerId).toFinset

variable {store} {key : ObjectKey}

theorem mem_references : key ∈ references store ↔ key ∈ store.objects ∨ key ∈ store.retained := by
  simp [references]

theorem mem_rootKeys : key ∈ rootKeys store ↔ key ∈ store.roots := by
  simp [rootKeys]

theorem mem_retainedBy {providerId : String} :
    key ∈ retainedBy store providerId ↔ key ∈ store.retained ∧ key.1 = providerId := by
  simp [retainedBy]

theorem nodup_retained (retained : Std.TreeSet ObjectKey) : retained.toList.Nodup := by
  apply retained.distinct_toList.imp
  rintro left right differ rfl
  exact differ Std.ReflCmp.compare_self

theorem objectReferenceCount_eq_card : objectReferenceCount store = (references store).card := by
  rw [objectReferenceCount, references, ← length_add_length_filter store.objects.nodup_keys
    (nodup_retained store.retained), Std.TreeMap.length_keys]
  simp only [Std.TreeMap.contains_keys]

theorem size_roots_eq_card : store.roots.size = (rootKeys store).card := by
  rw [rootKeys, List.toFinset_card_of_nodup store.roots.nodup_keys, Std.TreeMap.length_keys]

theorem retainedProviderObjectCount_eq_card {providerId : String} :
    ProfileSyncService.retainedProviderObjectCount store providerId =
      (retainedBy store providerId).card := by
  unfold ProfileSyncService.retainedProviderObjectCount retainedBy
  rw [List.toFinset_card_of_nodup ((nodup_retained _).filter _)]

theorem checkProfileSyncFixtureObjectCapacity_eq_ok_iff :
    checkProfileSyncFixtureObjectCapacity store key = .ok () ↔
      HasRoom store.capacity.maxObjects (references store) key := by
  unfold checkProfileSyncFixtureObjectCapacity HasRoom
  rw [mem_references]
  by_cases isReference : key ∈ store.objects ∨ key ∈ store.retained
  · simp [isReference]
  · rw [if_neg isReference]
    simp only [isReference, false_or, ← objectReferenceCount_eq_card]
    unfold checkProfileSyncFixtureNewObjectCapacity
    cases store.capacity.maxObjects with
    | none => simp
    | some most => simp [objectReferenceCount]

theorem checkProfileSyncFixtureRootCapacity_eq_ok_iff :
    checkProfileSyncFixtureRootCapacity store key = .ok () ↔
      HasRoom store.capacity.maxRoots (rootKeys store) key := by
  unfold checkProfileSyncFixtureRootCapacity HasRoom
  rw [mem_rootKeys]
  by_cases isRoot : key ∈ store.roots
  · simp [isRoot]
  · rw [if_neg isRoot]
    simp only [isRoot, false_or, ← size_roots_eq_card]
    cases store.capacity.maxRoots with
    | none => simp
    | some most => simp

end References

section Steps

variable {store next : ProfileSyncStore} {service : ProfileSyncService} {key : ObjectKey}
  {bytes : Bytes} {response : ProfileSyncResponse} {maxProfileSyncObjectBytes : Nat}

structure WithinCapacity (store : ProfileSyncStore) : Prop where
  objects : ∀ most, store.capacity.maxObjects = some most → objectReferenceCount store ≤ most
  roots : ∀ most, store.capacity.maxRoots = some most → store.roots.size ≤ most

theorem withinCapacity_iff : WithinCapacity store ↔
    WithinLimit store.capacity.maxObjects (references store) ∧
      WithinLimit store.capacity.maxRoots (rootKeys store) := by
  unfold WithinLimit
  rw [← objectReferenceCount_eq_card, ← size_roots_eq_card]
  exact ⟨fun within => ⟨within.objects, within.roots⟩, fun within => ⟨within.1, within.2⟩⟩

/-- A provider with a quota that has gained a retained object is not beyond it. -/
def KeepsQuotas (store next : ProfileSyncStore) : Prop :=
  ∀ (providerId : String) (quota : Nat) (key : ObjectKey),
    store.retentionQuotaByProvider[providerId]? = some quota → key.1 = providerId →
      key ∈ next.retained → key ∉ store.retained →
        ProfileSyncService.retainedProviderObjectCount next providerId ≤ quota

theorem keepsQuotas_of_subset (fewer : ∀ key ∈ next.retained, key ∈ store.retained) :
    KeepsQuotas store next :=
  fun _ _ key _ _ isRetained isNew => absurd (fewer key isRetained) isNew

theorem references_insert_object :
    references { store with objects := store.objects.insert key bytes } =
      insert key (references store) := by
  ext other
  rw [Finset.mem_insert, mem_references, mem_references, Std.TreeMap.mem_insert,
    Std.LawfulEqCmp.compare_eq_iff_eq, eq_comm, or_assoc]

theorem references_retain :
    references { store with
      objects := store.objects.insert key bytes
      retained := store.retained.insert key } = insert key (references store) := by
  ext other
  rw [Finset.mem_insert, mem_references, mem_references, Std.TreeMap.mem_insert,
    Std.TreeSet.mem_insert, Std.LawfulEqCmp.compare_eq_iff_eq]
  grind

theorem rootKeys_insert {root : ProfileSyncRootState} {nextRootSequence : Nat} :
    rootKeys { store with nextRootSequence, roots := store.roots.insert key root } =
      insert key (rootKeys store) := by
  ext other
  rw [Finset.mem_insert, mem_rootKeys, mem_rootKeys, Std.TreeMap.mem_insert,
    Std.LawfulEqCmp.compare_eq_iff_eq, eq_comm]

theorem WithinCapacity.insert_object (within : WithinCapacity store)
    (hasRoom : checkProfileSyncFixtureObjectCapacity store key = .ok ()) :
    WithinCapacity { store with objects := store.objects.insert key bytes } := by
  obtain ⟨objects, roots⟩ := withinCapacity_iff.mp within
  apply withinCapacity_iff.mpr
  refine ⟨?_, roots⟩
  rw [references_insert_object]
  exact (withinLimit_insert_iff objects).mpr
    (checkProfileSyncFixtureObjectCapacity_eq_ok_iff.mp hasRoom)

theorem WithinCapacity.retain (within : WithinCapacity store)
    (hasRoom : checkProfileSyncFixtureObjectCapacity store key = .ok ()) :
    WithinCapacity { store with
      objects := store.objects.insert key bytes
      retained := store.retained.insert key } := by
  obtain ⟨objects, roots⟩ := withinCapacity_iff.mp within
  apply withinCapacity_iff.mpr
  refine ⟨?_, roots⟩
  rw [references_retain]
  exact (withinLimit_insert_iff objects).mpr
    (checkProfileSyncFixtureObjectCapacity_eq_ok_iff.mp hasRoom)

theorem WithinCapacity.publish {root : ProfileSyncRootState} {nextRootSequence : Nat}
    (within : WithinCapacity store)
    (hasRoom : checkProfileSyncFixtureRootCapacity store key = .ok ()) :
    WithinCapacity { store with nextRootSequence, roots := store.roots.insert key root } := by
  obtain ⟨objects, roots⟩ := withinCapacity_iff.mp within
  apply withinCapacity_iff.mpr
  refine ⟨objects, ?_⟩
  rw [rootKeys_insert]
  exact (withinLimit_insert_iff roots).mpr
    (checkProfileSyncFixtureRootCapacity_eq_ok_iff.mp hasRoom)

/-- A store with fewer references, and the roots it had. -/
theorem WithinCapacity.of_subset (within : WithinCapacity store)
    (sameCapacity : next.capacity = store.capacity)
    (fewer : references next ⊆ references store) (sameRoots : next.roots = store.roots) :
    WithinCapacity next := by
  obtain ⟨objects, roots⟩ := withinCapacity_iff.mp within
  apply withinCapacity_iff.mpr
  rw [sameCapacity, rootKeys, sameRoots]
  exact ⟨objects.mono fewer, roots⟩

theorem retainedBy_retain {objects : Std.TreeMap ObjectKey Bytes} :
    retainedBy { store with objects, retained := store.retained.insert key } key.1 =
      insert key (retainedBy store key.1) := by
  ext other
  rw [Finset.mem_insert, mem_retainedBy, mem_retainedBy, Std.TreeSet.mem_insert,
    Std.LawfulEqCmp.compare_eq_iff_eq]
  grind

theorem checkRetentionPolicy_eq_ok {quota : Nat}
    (allows : service.checkRetentionPolicy store key = .ok ())
    (isQuota : store.retentionQuotaByProvider[service.providerId]? = some quota)
    (isNew : key ∉ store.retained) :
    ProfileSyncService.retainedProviderObjectCount store service.providerId < quota := by
  unfold ProfileSyncService.checkRetentionPolicy at allows
  obtain ⟨-, allows⟩ := check_then_eq_ok_iff.mp allows
  rw [isQuota] at allows
  simpa [isNew] using allows

theorem keepsQuotas_retain {objects : Std.TreeMap ObjectKey Bytes}
    (own : key.1 = service.providerId)
    (allows : service.checkRetentionPolicy store key = .ok ()) :
    KeepsQuotas store { store with objects, retained := store.retained.insert key } := by
  intro providerId quota gained isQuota isOwner isRetained isNew
  have isKey : key = gained := by
    rcases Std.TreeSet.mem_insert.mp isRetained with same | before
    · exact Std.LawfulEqOrd.eq_of_compare same
    · exact absurd before isNew
  subst isKey
  subst isOwner
  rw [own] at isQuota
  have below := checkRetentionPolicy_eq_ok allows isQuota isNew
  rw [retainedProviderObjectCount_eq_card, ← own] at below
  rw [retainedProviderObjectCount_eq_card, retainedBy_retain,
    Finset.card_insert_of_notMem (fun isMember => isNew (mem_retainedBy.mp isMember).1)]
  exact below

/-- What every step keeps of a store. -/
structure StepKeeps (store next : ProfileSyncStore) : Prop where
  sameCapacity : next.capacity = store.capacity
  within : WithinCapacity store → WithinCapacity next
  quotas : KeepsQuotas store next

theorem stepKeeps_refl (store : ProfileSyncStore) : StepKeeps store store :=
  ⟨rfl, id, keepsQuotas_of_subset fun _ => id⟩

/-- A request that succeeds stays within the capacity and within the quotas. -/
theorem handle_keeps {request : ProfileSyncRequest}
    (handles : service.handle store maxProfileSyncObjectBytes request =
      .ok (some (response, next))) : StepKeeps store next := by
  cases request with
  | putEncryptedObject profile bytes =>
      obtain ⟨result, puts, isResult⟩ := map_eq_ok_iff.mp handles
      cases isResult
      obtain ⟨-, -, -, hasRoom, -, rfl⟩ := putObject_eq_ok_iff.mp puts
      exact ⟨rfl, fun within => within.insert_object hasRoom, keepsQuotas_of_subset fun _ => id⟩
  | retainObject profile objectId =>
      obtain ⟨result, retains, isResult⟩ := map_eq_ok_iff.mp handles
      cases isResult
      obtain ⟨-, -, -, -, allows, bytes, -, hasRoom, -, rfl⟩ := retainObject_eq_ok_iff.mp retains
      exact ⟨rfl, fun within => within.retain hasRoom, keepsQuotas_retain rfl allows⟩
  | releaseObject profile objectId =>
      obtain ⟨result, releases, isResult⟩ := map_eq_ok_iff.mp handles
      cases isResult
      obtain ⟨-, -, -, -, rfl⟩ := releaseObject_eq_ok_iff.mp releases
      have fewer : ∀ key ∈ store.retained.erase (service.providerId, profile, objectId),
          key ∈ store.retained := fun _ => Std.TreeSet.mem_of_mem_erase
      refine ⟨rfl, fun within => within.of_subset rfl ?_ rfl, keepsQuotas_of_subset fewer⟩
      intro key isReference
      rw [mem_references] at isReference ⊢
      exact isReference.imp_right (fewer key)
  | publishRoot profile rootId objectId =>
      obtain ⟨-, -, -, -, -, hasRoom, -, -, rfl⟩ := publishRoot_eq_some_iff.mp handles
      exact ⟨rfl, fun within => within.publish hasRoom, keepsQuotas_of_subset fun _ => id⟩
  | getEncryptedObject | listRetainedObjects | verifyRetainedObject | resolveRoot
  | listRootCandidates | rootHealth | discoverProviders | providerHealth =>
      obtain ⟨result, -, isResult⟩ := map_eq_ok_iff.mp handles
      cases isResult
      exact stepKeeps_refl store

theorem apply_capacity {operation : FixtureOperation}
    (applies : operation.apply store = .ok next) : next.capacity = store.capacity := by
  cases operation with
  | expireCurrentProviderFreshness =>
      cases applies
      rfl
  | markProviderSeen providerId =>
      cases known : store.providers[providerId]? with
      | none => simp [FixtureOperation.apply, known] at applies
      | some state =>
          simp only [FixtureOperation.apply, known, Except.ok.injEq] at applies
          subst applies
          rfl
  | setProviderOnline | setProviderRetentionAvailable | setProviderRetentionQuota =>
      obtain ⟨-, applies⟩ := unit_bind_eq_ok_iff.mp applies
      cases applies
      rfl
  | setProviderTransferAvailable =>
      obtain ⟨-, applies⟩ := unit_bind_eq_ok_iff.mp applies
      obtain ⟨-, applies⟩ := unit_bind_eq_ok_iff.mp applies
      cases applies
      rfl
  | removeProviderObjectBytes =>
      obtain ⟨-, applies⟩ := unit_bind_eq_ok_iff.mp applies
      obtain ⟨-, applies⟩ := unit_bind_eq_ok_iff.mp applies
      obtain ⟨-, applies⟩ := unit_bind_eq_ok_iff.mp applies
      cases applies
      rfl
  | setProviderRootAvailable =>
      obtain ⟨-, applies⟩ := unit_bind_eq_ok_iff.mp applies
      obtain ⟨-, applies⟩ := unit_bind_eq_ok_iff.mp applies
      obtain ⟨-, applies⟩ := unit_bind_eq_ok_iff.mp applies
      obtain ⟨-, applies⟩ := unit_bind_eq_ok_iff.mp applies
      cases applies
      rfl

/-- An operation of the fixture adds neither references nor roots. -/
theorem OperationEffect.keeps (effect : OperationEffect store next)
    (sameCapacity : next.capacity = store.capacity) : StepKeeps store next := by
  refine ⟨sameCapacity, fun within => within.of_subset sameCapacity ?_ effect.roots, ?_⟩
  · intro key isReference
    rw [mem_references, effect.retained] at isReference
    exact mem_references.mpr (isReference.imp_left (effect.objects key))
  · apply keepsQuotas_of_subset
    rw [effect.retained]
    exact fun _ => id

end Steps

section Runs

/-- What an event leaves of a backend. -/
def LocalBackend.next (backend : LocalBackend) : LocalEvent → LocalBackend
  | .register providerId providerKind roles =>
      if backend.isFixture then
        let (service, store) := localFixtureProvider backend.store providerId providerKind roles
        { backend with store, services := backend.services ++ [service] }
      else backend
  | .request index request maxProfileSyncObjectBytes =>
      match backend.services[index]? with
      | none => backend
      | some service =>
          { backend with
            store := stateAfter (service.call maxProfileSyncObjectBytes request) backend.store }
  | .operate operation =>
      if backend.isFixture then
        match operation.apply backend.store with
        | .ok store => { backend with store }
        | .error _ => backend
      else backend

structure SameTables (store next : ProfileSyncStore) : Prop where
  objects : next.objects = store.objects
  retained : next.retained = store.retained
  roots : next.roots = store.roots

/-- A request that returns an error leaves the tables of the store. -/
def FailureChangesNothing (backend : LocalBackend) (event : LocalEvent) : Prop :=
  ∀ index request maxProfileSyncObjectBytes service failure next,
    event = .request index request maxProfileSyncObjectBytes →
      backend.services[index]? = some service →
        (service.call maxProfileSyncObjectBytes request).run backend.store =
          .error failure next → SameTables backend.store next

/-- The capacity of a local store is never exceeded, and failures change nothing. -/
structure LocalCapacityKept (start : LocalBackend) (events : List LocalEvent) : Prop where
  capacity : Throughout LocalBackend.next (fun backend =>
    backend.store.capacity = start.store.capacity ∧ WithinCapacity backend.store) events start
  quotas : AllTaken LocalBackend.next
    (fun backend event => KeepsQuotas backend.store (backend.next event).store) events start
  failures : AllTaken LocalBackend.next FailureChangesNothing events start

variable {backend : LocalBackend} {store next : ProfileSyncStore} {service : ProfileSyncService}
  {providerId providerKind : String} {roles : ProfileSyncProviderRoles}

theorem localFixtureProvider_capacity
    (registers : localFixtureProvider store providerId providerKind roles = (service, next)) :
    next.capacity = store.capacity := by
  unfold localFixtureProvider at registers
  split at registers
  · cases registers
    rfl
  · cases registers
    rfl

theorem LocalBackend.next_keeps (event : LocalEvent) :
    StepKeeps backend.store (backend.next event).store := by
  have unchanged := stepKeeps_refl backend.store
  cases event with
  | register providerId providerKind roles =>
      unfold LocalBackend.next
      by_cases isFixture : backend.isFixture = true
      · simp only [isFixture, if_true]
        exact (localFixtureProvider_effect rfl).1.keeps (localFixtureProvider_capacity rfl)
      · simp only [isFixture]
        exact unchanged
  | request index request maxProfileSyncObjectBytes =>
      cases isService : backend.services[index]? with
      | none =>
          simp only [LocalBackend.next, isService]
          exact unchanged
      | some service =>
          simp only [LocalBackend.next, isService]
          cases called : (service.call maxProfileSyncObjectBytes request).run backend.store with
          | ok response store =>
              rw [stateAfter_of_ok called]
              exact handle_keeps (call_eq_ok_iff.mp called).2.2
          | error failure store =>
              rw [stateAfter_of_error called, eq_of_call_eq_error called]
              exact unchanged
  | operate operation =>
      unfold LocalBackend.next
      by_cases isFixture : backend.isFixture = true
      · simp only [isFixture, if_true]
        cases applies : operation.apply backend.store with
        | error failure => exact unchanged
        | ok store => exact (apply_effect applies).keeps (apply_capacity applies)
      · simp only [isFixture]
        exact unchanged

theorem withinCapacity_withCapacity (capacity : ProfileSyncFixtureCapacity) :
    WithinCapacity (.withCapacity capacity) := by
  have noReferences : references (.withCapacity capacity) = ∅ := by
    ext key
    simp [mem_references, ProfileSyncStore.withCapacity]
  have noRoots : rootKeys (.withCapacity capacity) = ∅ := by
    ext key
    simp [mem_rootKeys, ProfileSyncStore.withCapacity]
  apply withinCapacity_iff.mpr
  rw [noReferences, noRoots]
  exact ⟨withinLimit_empty, withinLimit_empty⟩

theorem LocalCapacityKept.of_within {start : LocalBackend} {events : List LocalEvent}
    (within : WithinCapacity start.store) : LocalCapacityKept start events where
  capacity := by
    have keeps (backend : LocalBackend) (event : LocalEvent)
        (holds : backend.store.capacity = start.store.capacity ∧ WithinCapacity backend.store)
        (_ : True) : (backend.next event).store.capacity = start.store.capacity ∧
          WithinCapacity (backend.next event).store := by
      have kept := @LocalBackend.next_keeps backend event
      exact ⟨kept.sameCapacity.trans holds.1, kept.within holds.2⟩
    exact throughout_of_allTaken keeps ⟨rfl, within⟩ fun _ _ _ => trivial
  quotas := fun _ event _ => (LocalBackend.next_keeps event).quotas
  failures := by
    intro done event _ index request maxProfileSyncObjectBytes service failure next _ _ fails
    rw [eq_of_call_eq_error fails]
    exact ⟨rfl, rfl, rfl⟩

end Runs

end Slate.Broadwebd.Local
