import Slate.Broadwebd.LocalFixture

/-!
# Runs of the local backend

In every backend that a run reaches, no two roots have the same publish sequence, a root is
kept under its publisher, and only providers that a fixture knows have objects in it.
-/

namespace Slate.Broadwebd.Local

open Slate.Foundation

attribute [local instance] lexOrd

section Effects

/-- What a request of a provider does to the store. -/
inductive RequestEffect (providerId : String) (store : ProfileSyncStore) :
    ProfileSyncStore → Prop where
  | unchanged : RequestEffect providerId store store
  | put (profile objectId : String) (bytes : Bytes) :
      RequestEffect providerId store
        { store with objects := store.objects.insert (providerId, profile, objectId) bytes }
  | retain (profile objectId : String) (bytes : Bytes) :
      RequestEffect providerId store
        { store with
          objects := store.objects.insert (providerId, profile, objectId) bytes
          retained := store.retained.insert (providerId, profile, objectId) }
  | release (profile objectId : String) :
      RequestEffect providerId store
        { store with retained := store.retained.erase (providerId, profile, objectId) }
  | publish (profile rootId objectId : String)
      (isObjectId : validateProfileSyncObjectId objectId = .ok ()) :
      RequestEffect providerId store
        { store with
          nextRootSequence := store.nextRootSequence + 1
          roots := store.roots.insert (profile, rootId, providerId)
            { objectId, publisherProviderId := providerId,
              publishSequence := store.nextRootSequence + 1 } }

variable {service : ProfileSyncService} {store next : ProfileSyncStore}
  {response : ProfileSyncResponse} {maxProfileSyncObjectBytes : Nat}
  {profile rootId objectId : String} {bytes : Bytes}

theorem putObject_eq_ok_iff :
    service.putObject store profile bytes maxProfileSyncObjectBytes = .ok (response, next) ↔
      validateProfile profile = .ok () ∧ service.requireObjectTransfer = .ok () ∧
        validateObjectBudget bytes.length maxProfileSyncObjectBytes = .ok () ∧
        checkProfileSyncFixtureObjectCapacity store
          (service.providerId, profile, localObjectId bytes) = .ok () ∧
        response = .putEncryptedObject (localObjectId bytes) ∧
        next = { store with
          objects := store.objects.insert (service.providerId, profile, localObjectId bytes)
            bytes } := by
  unfold ProfileSyncService.putObject
  simp only [unit_bind_eq_ok_iff, pure, Except.pure, Except.ok.injEq, Prod.mk.injEq]
  simp only [eq_comm]

theorem retainObject_eq_ok_iff :
    service.retainObject store profile objectId = .ok (response, next) ↔
      validateProfile profile = .ok () ∧ validateProfileSyncObjectId objectId = .ok () ∧
        service.requireAvailability = .ok () ∧ service.requireObjectTransfer = .ok () ∧
        service.checkRetentionPolicy store (service.providerId, profile, objectId) = .ok () ∧
        ∃ bytes, findOnlineObject store service.providerId profile objectId = some bytes ∧
          checkProfileSyncFixtureObjectCapacity store
            (service.providerId, profile, objectId) = .ok () ∧
          response = .retainObject objectId true ∧
          next = { store with
            objects := store.objects.insert (service.providerId, profile, objectId) bytes
            retained := store.retained.insert (service.providerId, profile, objectId) } := by
  unfold ProfileSyncService.retainObject
  simp only [unit_bind_eq_ok_iff]
  cases findOnlineObject store service.providerId profile objectId with
  | none => simp
  | some bytes =>
      simp only [unit_bind_eq_ok_iff, pure, Except.pure, Except.ok.injEq, Prod.mk.injEq,
        Option.some.injEq, exists_eq_left']
      simp only [eq_comm]

theorem releaseObject_eq_ok_iff :
    service.releaseObject store profile objectId = .ok (response, next) ↔
      validateProfile profile = .ok () ∧ validateProfileSyncObjectId objectId = .ok () ∧
        service.requireAvailability = .ok () ∧ response = .releaseObject objectId false ∧
        next = { store with
          retained := store.retained.erase (service.providerId, profile, objectId) } := by
  unfold ProfileSyncService.releaseObject
  simp only [unit_bind_eq_ok_iff, pure, Except.pure, Except.ok.injEq, Prod.mk.injEq]
  simp only [eq_comm]

theorem publishRoot_eq_some_iff :
    service.publishRoot store profile rootId objectId = .ok (some (response, next)) ↔
      validateProfile profile = .ok () ∧ validateProfileSyncRootId rootId = .ok () ∧
        validateProfileSyncObjectId objectId = .ok () ∧ service.requireMutableRoots = .ok () ∧
        providerHasObject store service.providerId profile objectId = true ∧
        checkProfileSyncFixtureRootCapacity store (profile, rootId, service.providerId) = .ok () ∧
        store.nextRootSequence ≠ u64Max ∧ response = .root rootId (some objectId) ∧
        next = { store with
          nextRootSequence := store.nextRootSequence + 1
          roots := store.roots.insert (profile, rootId, service.providerId)
            { objectId, publisherProviderId := service.providerId,
              publishSequence := store.nextRootSequence + 1 } } := by
  unfold ProfileSyncService.publishRoot
  simp only [unit_bind_eq_ok_iff, check_then_eq_ok_iff]
  by_cases last : store.nextRootSequence = u64Max
  · simp [last, pure, Except.pure]
  · rw [if_neg last]
    simp only [pure, Except.pure, Except.ok.injEq, Option.some.injEq, Prod.mk.injEq,
      Bool.not_eq_true', Bool.not_eq_false, ne_eq, last, not_false_eq_true, true_and]
    simp only [eq_comm]

theorem putObject_effect
    (puts : service.putObject store profile bytes maxProfileSyncObjectBytes =
      .ok (response, next)) : RequestEffect service.providerId store next := by
  obtain ⟨-, -, -, -, -, rfl⟩ := putObject_eq_ok_iff.mp puts
  exact .put profile (localObjectId bytes) bytes

theorem retainObject_effect
    (retains : service.retainObject store profile objectId = .ok (response, next)) :
    RequestEffect service.providerId store next := by
  obtain ⟨-, -, -, -, -, bytes, -, -, -, rfl⟩ := retainObject_eq_ok_iff.mp retains
  exact .retain profile objectId bytes

theorem releaseObject_effect
    (releases : service.releaseObject store profile objectId = .ok (response, next)) :
    RequestEffect service.providerId store next := by
  obtain ⟨-, -, -, -, rfl⟩ := releaseObject_eq_ok_iff.mp releases
  exact .release profile objectId

theorem publishRoot_effect
    (publishes : service.publishRoot store profile rootId objectId =
      .ok (some (response, next))) : RequestEffect service.providerId store next := by
  obtain ⟨-, -, isObjectId, -, -, -, -, -, rfl⟩ := publishRoot_eq_some_iff.mp publishes
  exact .publish profile rootId objectId isObjectId

/-- A request of a provider writes entries of that provider alone. -/
theorem handle_effect {request : ProfileSyncRequest}
    (handles : service.handle store maxProfileSyncObjectBytes request =
      .ok (some (response, next))) : RequestEffect service.providerId store next := by
  cases request with
  | putEncryptedObject profile bytes =>
      obtain ⟨result, puts, isResult⟩ := map_eq_ok_iff.mp handles
      cases isResult
      exact putObject_effect puts
  | retainObject profile objectId =>
      obtain ⟨result, retains, isResult⟩ := map_eq_ok_iff.mp handles
      cases isResult
      exact retainObject_effect retains
  | releaseObject profile objectId =>
      obtain ⟨result, releases, isResult⟩ := map_eq_ok_iff.mp handles
      cases isResult
      exact releaseObject_effect releases
  | publishRoot profile rootId objectId => exact publishRoot_effect handles
  | getEncryptedObject | listRetainedObjects | verifyRetainedObject | resolveRoot
  | listRootCandidates | rootHealth | discoverProviders | providerHealth =>
      obtain ⟨result, -, isResult⟩ := map_eq_ok_iff.mp handles
      cases isResult
      exact .unchanged

/-- What an operation of the fixture leaves of the entries: it only takes out objects, and
forgets no provider. -/
structure OperationEffect (store next : ProfileSyncStore) : Prop where
  roots : next.roots = store.roots
  nextRootSequence : next.nextRootSequence = store.nextRootSequence
  retained : next.retained = store.retained
  objects : ∀ key ∈ next.objects, key ∈ store.objects
  providers : ∀ providerId ∈ store.providers, providerId ∈ next.providers

theorem apply_effect {operation : FixtureOperation} (applies : operation.apply store = .ok next) :
    OperationEffect store next := by
  cases operation with
  | expireCurrentProviderFreshness =>
      cases applies
      exact ⟨rfl, rfl, rfl, fun _ => id, fun _ => id⟩
  | markProviderSeen providerId =>
      cases known : store.providers[providerId]? with
      | none => simp [FixtureOperation.apply, known] at applies
      | some state =>
          simp only [FixtureOperation.apply, known, Except.ok.injEq] at applies
          subst applies
          exact ⟨rfl, rfl, rfl, fun _ => id, fun _ isKnown =>
            Std.TreeMap.mem_insert.mpr (.inr isKnown)⟩
  | setProviderOnline providerId online =>
      obtain ⟨-, applies⟩ := unit_bind_eq_ok_iff.mp applies
      cases applies
      exact ⟨rfl, rfl, rfl, fun _ => id, fun _ => id⟩
  | setProviderRetentionAvailable providerId available =>
      obtain ⟨-, applies⟩ := unit_bind_eq_ok_iff.mp applies
      cases applies
      exact ⟨rfl, rfl, rfl, fun _ => id, fun _ => id⟩
  | setProviderRetentionQuota providerId quota =>
      obtain ⟨-, applies⟩ := unit_bind_eq_ok_iff.mp applies
      cases applies
      exact ⟨rfl, rfl, rfl, fun _ => id, fun _ => id⟩
  | removeProviderObjectBytes providerId profile objectId =>
      obtain ⟨-, applies⟩ := unit_bind_eq_ok_iff.mp applies
      obtain ⟨-, applies⟩ := unit_bind_eq_ok_iff.mp applies
      obtain ⟨-, applies⟩ := unit_bind_eq_ok_iff.mp applies
      cases applies
      exact ⟨rfl, rfl, rfl, fun _ => Std.TreeMap.mem_of_mem_erase, fun _ => id⟩
  | setProviderTransferAvailable source target available =>
      obtain ⟨-, applies⟩ := unit_bind_eq_ok_iff.mp applies
      obtain ⟨-, applies⟩ := unit_bind_eq_ok_iff.mp applies
      cases applies
      exact ⟨rfl, rfl, rfl, fun _ => id, fun _ => id⟩
  | setProviderRootAvailable source target profile rootId available =>
      obtain ⟨-, applies⟩ := unit_bind_eq_ok_iff.mp applies
      obtain ⟨-, applies⟩ := unit_bind_eq_ok_iff.mp applies
      obtain ⟨-, applies⟩ := unit_bind_eq_ok_iff.mp applies
      obtain ⟨-, applies⟩ := unit_bind_eq_ok_iff.mp applies
      cases applies
      exact ⟨rfl, rfl, rfl, fun _ => id, fun _ => id⟩

end Effects

section Roots

/-- The roots are kept under their publishers, with sequences that no two of them share. -/
structure RootsNumbered (store : ProfileSyncStore) : Prop where
  publisher : ∀ (profile rootId publisher : String) (root : ProfileSyncRootState),
    store.roots[(profile, rootId, publisher)]? = some root → root.publisherProviderId = publisher
  isObjectId : ∀ (key : ObjectKey) (root : ProfileSyncRootState), store.roots[key]? = some root →
    validateProfileSyncObjectId root.objectId = .ok ()
  atMost : ∀ (key : ObjectKey) (root : ProfileSyncRootState), store.roots[key]? = some root →
    root.publishSequence ≤ store.nextRootSequence
  distinct : ∀ (first second : ObjectKey) (firstRoot secondRoot : ProfileSyncRootState),
    store.roots[first]? = some firstRoot → store.roots[second]? = some secondRoot →
      firstRoot.publishSequence = secondRoot.publishSequence → first = second

variable {store next : ProfileSyncStore}

theorem RootsNumbered.of_eq (numbered : RootsNumbered store) (sameRoots : next.roots = store.roots)
    (sameSequence : next.nextRootSequence = store.nextRootSequence) : RootsNumbered next where
  publisher := by
    rw [sameRoots]
    exact numbered.publisher
  isObjectId := by
    rw [sameRoots]
    exact numbered.isObjectId
  atMost := by
    rw [sameRoots, sameSequence]
    exact numbered.atMost
  distinct := by
    rw [sameRoots]
    exact numbered.distinct

/-- A root behind a publication is the published one or was there before. -/
theorem getElem?_insert_root {roots : Std.TreeMap ObjectKey ProfileSyncRootState}
    {published key : ObjectKey} {new root : ProfileSyncRootState}
    (found : (roots.insert published new)[key]? = some root) :
    (published = key ∧ new = root) ∨ (published ≠ key ∧ roots[key]? = some root) := by
  rw [Std.TreeMap.getElem?_insert] at found
  by_cases same : compare published key = .eq
  · rw [if_pos same] at found
    exact .inl ⟨Std.LawfulEqOrd.eq_of_compare same, Option.some.inj found⟩
  · rw [if_neg same] at found
    exact .inr ⟨fun equal => same (Std.LawfulEqCmp.compare_eq_iff_eq.mpr equal), found⟩

theorem RootsNumbered.request {providerId : String} (numbered : RootsNumbered store)
    (effect : RequestEffect providerId store next) : RootsNumbered next := by
  cases effect with
  | unchanged => exact numbered
  | put | retain | release => exact numbered.of_eq rfl rfl
  | publish profile rootId objectId isObjectId =>
      constructor
      · intro storedProfile storedRootId publisher root found
        rcases getElem?_insert_root found with ⟨isKey, rfl⟩ | ⟨-, before⟩
        · exact (Prod.mk.inj (Prod.mk.inj isKey).2).2
        · exact numbered.publisher _ _ _ _ before
      · intro key root found
        rcases getElem?_insert_root found with ⟨-, rfl⟩ | ⟨-, before⟩
        · exact isObjectId
        · exact numbered.isObjectId key root before
      · intro key root found
        rcases getElem?_insert_root found with ⟨-, rfl⟩ | ⟨-, before⟩
        · exact Nat.le_refl _
        · exact Nat.le_succ_of_le (numbered.atMost key root before)
      · intro first second firstRoot secondRoot isFirst isSecond same
        rcases getElem?_insert_root isFirst with ⟨rfl, rfl⟩ | ⟨-, firstBefore⟩
        · rcases getElem?_insert_root isSecond with ⟨isKey, -⟩ | ⟨-, secondBefore⟩
          · exact isKey
          · have atMost := numbered.atMost _ _ secondBefore
            rw [← same] at atMost
            exact absurd atMost (Nat.not_succ_le_self _)
        · rcases getElem?_insert_root isSecond with ⟨rfl, rfl⟩ | ⟨-, secondBefore⟩
          · have atMost := numbered.atMost _ _ firstBefore
            rw [same] at atMost
            exact absurd atMost (Nat.not_succ_le_self _)
          · exact numbered.distinct _ _ _ _ firstBefore secondBefore same

end Roots

section Holders

/-- In a fixture the services, the holders and the retainers are registered providers; the
service of a process on its own knows no provider. -/
structure HoldersKnown (backend : LocalBackend) : Prop where
  unregistered : backend.isFixture = false → backend.store.providers.isEmpty = true
  services : backend.isFixture = true → ∀ service ∈ backend.services,
    service.registrationError = none → service.providerId ∈ backend.store.providers
  objects : backend.isFixture = true → ∀ key ∈ backend.store.objects,
    key.1 ∈ backend.store.providers
  retained : backend.isFixture = true → ∀ key ∈ backend.store.retained,
    key.1 ∈ backend.store.providers

variable {backend : LocalBackend} {store : ProfileSyncStore}

theorem RequestEffect.providers {providerId : String}
    (effect : RequestEffect providerId backend.store store) :
    store.providers = backend.store.providers := by
  cases effect <;> rfl

theorem RequestEffect.mem_objects {providerId : String} {key : ObjectKey}
    (effect : RequestEffect providerId backend.store store) (isKey : key ∈ store.objects) :
    key.1 = providerId ∨ key ∈ backend.store.objects := by
  cases effect with
  | unchanged | release | publish => exact .inr isKey
  | put profile objectId bytes | retain profile objectId bytes =>
      rcases Std.TreeMap.mem_insert.mp isKey with same | before
      · exact .inl (congrArg Prod.fst (Std.LawfulEqOrd.eq_of_compare same)).symm
      · exact .inr before

theorem RequestEffect.mem_retained {providerId : String} {key : ObjectKey}
    (effect : RequestEffect providerId backend.store store) (isKey : key ∈ store.retained) :
    key.1 = providerId ∨ key ∈ backend.store.retained := by
  cases effect with
  | unchanged | put | publish => exact .inr isKey
  | release => exact .inr (Std.TreeSet.mem_of_mem_erase isKey)
  | retain profile objectId bytes =>
      rcases Std.TreeSet.mem_insert.mp isKey with same | before
      · exact .inl (congrArg Prod.fst (Std.LawfulEqOrd.eq_of_compare same)).symm
      · exact .inr before

theorem HoldersKnown.request {service : ProfileSyncService} (known : HoldersKnown backend)
    (isService : service ∈ backend.services) (isRegistered : service.registrationError = none)
    (effect : RequestEffect service.providerId backend.store store) :
    HoldersKnown { backend with store } where
  unregistered alone := by
    rw [effect.providers]
    exact known.unregistered alone
  services isFixture := by
    rw [effect.providers]
    exact known.services isFixture
  objects isFixture key isKey := by
    rw [effect.providers]
    rcases effect.mem_objects isKey with own | before
    · rw [own]
      exact known.services isFixture service isService isRegistered
    · exact known.objects isFixture key before
  retained isFixture key isKey := by
    rw [effect.providers]
    rcases effect.mem_retained isKey with own | before
    · rw [own]
      exact known.services isFixture service isService isRegistered
    · exact known.retained isFixture key before

theorem HoldersKnown.operation (known : HoldersKnown backend) (isFixture : backend.isFixture = true)
    (effect : OperationEffect backend.store store) : HoldersKnown { backend with store } where
  unregistered alone := by
    rw [isFixture] at alone
    cases alone
  services isFixture service isService isRegistered :=
    effect.providers _ (known.services isFixture service isService isRegistered)
  objects isFixture key isKey :=
    effect.providers _ (known.objects isFixture key (effect.objects key isKey))
  retained isFixture key isKey := by
    rw [effect.retained] at isKey
    exact effect.providers _ (known.retained isFixture key isKey)

end Holders

section Registration

variable {backend : LocalBackend} {store next : ProfileSyncStore} {service : ProfileSyncService}
  {providerId providerKind : String} {roles : ProfileSyncProviderRoles}

/-- A registration writes the provider of the service, or the service carries an error. -/
theorem localFixtureProvider_effect
    (registers : localFixtureProvider store providerId providerKind roles = (service, next)) :
    OperationEffect store next ∧
      (service.registrationError = none → service.providerId ∈ next.providers) := by
  unfold localFixtureProvider at registers
  cases capacity : checkProfileSyncFixtureProviderCapacity store providerId with
  | error error =>
      rw [capacity] at registers
      cases registers
      refine ⟨⟨rfl, rfl, rfl, fun _ => id, fun _ => id⟩, ?_⟩
      intro isRegistered
      cases isRegistered
  | ok =>
      rw [capacity] at registers
      cases registers
      exact ⟨⟨rfl, rfl, rfl, fun _ => id, fun _ isKnown =>
        Std.TreeMap.mem_insert.mpr (.inr isKnown)⟩, fun _ => Std.TreeMap.mem_insert_self⟩

theorem HoldersKnown.registration (known : HoldersKnown backend)
    (isFixture : backend.isFixture = true)
    (registers : localFixtureProvider backend.store providerId providerKind roles =
      (service, store)) :
    HoldersKnown { backend with store, services := backend.services ++ [service] } := by
  obtain ⟨effect, registered⟩ := localFixtureProvider_effect registers
  have others := known.operation isFixture effect
  refine ⟨others.unregistered, ?_, others.objects, others.retained⟩
  intro isFixture other isService isRegistered
  rcases List.mem_append.mp isService with isService | isNew
  · exact others.services isFixture other isService isRegistered
  · rw [List.mem_singleton.mp isNew] at isRegistered ⊢
    exact registered isRegistered

end Registration

section Reachable

variable {backend next : LocalBackend}

/-- What holds in every backend that a run reaches. -/
structure LocalInvariant (backend : LocalBackend) : Prop where
  rootsNumbered : RootsNumbered backend.store
  holdersKnown : HoldersKnown backend

theorem rootsNumbered_withCapacity (capacity : ProfileSyncFixtureCapacity) :
    RootsNumbered (.withCapacity capacity) := by
  constructor <;> simp [ProfileSyncStore.withCapacity]

theorem LocalInvariant.take {event : LocalEvent} (holds : LocalInvariant backend)
    (takes : backend.take event = some next) : LocalInvariant next := by
  obtain ⟨numbered, known⟩ := holds
  cases event with
  | register providerId providerKind roles =>
      simp only [LocalBackend.take, Option.ite_none_right_eq_some, Option.some.injEq] at takes
      obtain ⟨isFixture, rfl⟩ := takes
      obtain ⟨effect, -⟩ := @localFixtureProvider_effect backend.store _ _ providerId
        providerKind roles rfl
      exact ⟨numbered.of_eq effect.roots effect.nextRootSequence,
        known.registration isFixture rfl⟩
  | request index request maxProfileSyncObjectBytes =>
      simp only [LocalBackend.take] at takes
      cases isService : backend.services[index]? with
      | none => simp [isService] at takes
      | some service =>
          simp only [isService, Option.ite_none_left_eq_some] at takes
          obtain ⟨notFailed, takes⟩ := takes
          have isRegistered : service.registrationError = none :=
            Option.not_isSome_iff_eq_none.mp notFailed
          split at takes
          · rename_i response store handles
            cases takes
            have effect := handle_effect handles
            exact ⟨numbered.request effect,
              known.request (List.mem_of_getElem? isService) isRegistered effect⟩
          · cases takes
  | operate operation =>
      simp only [LocalBackend.take, Option.ite_none_right_eq_some] at takes
      obtain ⟨isFixture, takes⟩ := takes
      cases applies : operation.apply backend.store with
      | error error => simp [applies] at takes
      | ok store =>
          simp only [applies, Option.some.injEq] at takes
          subst takes
          have effect := apply_effect applies
          exact ⟨numbered.of_eq effect.roots effect.nextRootSequence,
            known.operation isFixture effect⟩

theorem LocalReachable.invariant (reachable : LocalReachable backend) :
    LocalInvariant backend := by
  induction reachable with
  | default =>
      refine ⟨rootsNumbered_withCapacity _, ?_⟩
      constructor <;> simp [LocalBackend.default, ProfileSyncStore.default,
        ProfileSyncStore.withCapacity]
  | fixture capacity =>
      refine ⟨rootsNumbered_withCapacity _, ?_⟩
      constructor <;> simp [LocalBackend.fixture, ProfileSyncStore.withCapacity]
  | step event reachable takes inductionHypothesis => exact inductionHypothesis.take takes

end Reachable

end Slate.Broadwebd.Local
