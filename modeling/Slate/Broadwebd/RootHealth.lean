import Slate.Broadwebd.LocalRuns
import Slate.Storage.SettingsPulls

/-!
# The health of a root

Health, resolution and the list of candidates agree on the newest root, since no two roots
have the same sequence. Health says of an object what a fetch would find, and of its providers
in which state each of them is.
-/

namespace Slate.Broadwebd.Local

open Slate.Foundation

attribute [local instance] lexOrd

section Candidates

variable {store : ProfileSyncStore} {requester profile rootId : String}

instance candidateOrder_transCmp : Std.TransCmp candidateOrder :=
  inferInstanceAs (Std.TransCmp (compareLex
    (fun left right => compareOn ProfileSyncRootCandidate.publishSequence right left)
    (compareLex (compareOn (·.publisherProviderId)) (compareOn (·.objectId)))))

theorem candidateBefore_total (left right : ProfileSyncRootCandidate) :
    (candidateBefore left right || candidateBefore right left) = true := by
  have swapped : candidateOrder left right = (candidateOrder right left).swap :=
    Std.OrientedCmp.eq_swap
  unfold candidateBefore
  rw [swapped]
  cases candidateOrder right left <;> rfl

theorem publishSequence_le_of_candidateBefore {left right : ProfileSyncRootCandidate}
    (before : candidateBefore left right = true) :
    right.publishSequence ≤ left.publishSequence := by
  unfold candidateBefore candidateOrder at before
  cases order : compare right.publishSequence left.publishSequence with
  | lt => exact (Nat.compare_eq_lt.mp order).le
  | eq => exact (Nat.compare_eq_eq.mp order).le
  | gt =>
      rw [order] at before
      cases before

theorem candidateBefore_trans {first second third : ProfileSyncRootCandidate}
    (before : candidateBefore first second = true) (after : candidateBefore second third = true) :
    candidateBefore first third = true :=
  Std.TransCmp.isLE_trans before after

/-- Two entries of a map have two keys. -/
theorem pairwise_toList (roots : Std.TreeMap ObjectKey ProfileSyncRootState) :
    roots.toList.Pairwise fun first second => first.1 ≠ second.1 :=
  roots.distinct_keys_toList.imp fun distinct same =>
    distinct (Std.LawfulEqCmp.compare_eq_iff_eq.mpr same)

/-- The candidates that a requester sees have sequences of their own. -/
theorem rootCandidates_pairwise (numbered : RootsNumbered store) (visible : Bool) :
    (rootCandidates store visible requester profile rootId).Pairwise
      fun first second => first.publishSequence ≠ second.publishSequence := by
  unfold rootCandidates
  rw [(List.mergeSort_perm _ _).pairwise_iff fun distinct => Ne.symm distinct,
    List.pairwise_filterMap]
  refine (pairwise_toList store.roots).imp_of_mem ?_
  rintro ⟨⟨_, _, _⟩, firstRoot⟩ ⟨⟨_, _, _⟩, secondRoot⟩ isFirst isSecond keys first isCandidate
    second isOther same
  rw [Option.ite_none_right_eq_some] at isCandidate isOther
  cases isCandidate.2
  cases isOther.2
  have firstStored := Std.TreeMap.mem_toList_iff_getElem?_eq_some.mp isFirst
  have secondStored := Std.TreeMap.mem_toList_iff_getElem?_eq_some.mp isSecond
  exact keys (numbered.distinct _ _ _ _ firstStored secondStored same)

theorem rootCandidates_sorted (visible : Bool) :
    (rootCandidates store visible requester profile rootId).Pairwise
      fun first second => candidateBefore first second = true :=
  @List.pairwise_mergeSort _ candidateBefore (fun _ _ _ => candidateBefore_trans)
    candidateBefore_total _

/-- The first candidate has a later sequence than any other. -/
theorem publishSequence_lt_of_cons (numbered : RootsNumbered store)
    {first : ProfileSyncRootCandidate} {rest : List ProfileSyncRootCandidate}
    (candidates : visibleRootCandidates store requester profile rootId = first :: rest) :
    ∀ other ∈ rest, other.publishSequence < first.publishSequence := by
  have sorted := @rootCandidates_sorted store requester profile rootId true
  have distinct := @rootCandidates_pairwise store requester profile rootId numbered true
  rw [show rootCandidates store true requester profile rootId = first :: rest from candidates]
    at sorted distinct
  intro other isOther
  have before := publishSequence_le_of_candidateBefore
    ((List.pairwise_cons.mp sorted).1 other isOther)
  have different := (List.pairwise_cons.mp distinct).1 other isOther
  exact lt_of_le_of_ne before different.symm

/-- A candidate as the storage of a receiver has it. -/
def ProfileSyncRootCandidate.toStorage (candidate : ProfileSyncRootCandidate) :
    Storage.ProfileSyncRootCandidate where
  publisherId := candidate.publisherProviderId
  objectId := candidate.objectId
  publishSequence := candidate.publishSequence

theorem newest_cons {first : Storage.ProfileSyncRootCandidate}
    {rest : List Storage.ProfileSyncRootCandidate}
    (later : ∀ other ∈ rest, other.publishSequence < first.publishSequence) :
    Storage.newestProfileSyncRootCandidate (first :: rest) = some first := by
  rw [Storage.newestProfileSyncRootCandidate]
  congr 1
  induction rest with
  | nil => rfl
  | cons other rest inductionHypothesis =>
      obtain ⟨earlier, others⟩ := List.forall_mem_cons.mp later
      have notBefore : ¬ Storage.candidateLe first other := by
        rintro (before | ⟨same, -⟩)
        · exact absurd before (Nat.lt_asymm earlier)
        · exact absurd same (Nat.ne_of_gt earlier)
      rw [List.foldl_cons, if_neg notBefore]
      exact inductionHypothesis others

/-- The first of the visible candidates is the newest by the rule of the receiver. -/
theorem newest_visibleRootCandidates (numbered : RootsNumbered store) :
    Storage.newestProfileSyncRootCandidate
        ((visibleRootCandidates store requester profile rootId).map (·.toStorage)) =
      (visibleRootCandidates store requester profile rootId).head?.map (·.toStorage) := by
  cases candidates : visibleRootCandidates store requester profile rootId with
  | nil => rfl
  | cons first rest =>
      rw [List.map_cons, List.head?_cons, Option.map_some]
      apply newest_cons
      intro other isOther
      obtain ⟨candidate, isCandidate, rfl⟩ := List.mem_map.mp isOther
      exact publishSequence_lt_of_cons numbered candidates candidate isCandidate

/-- The object of a visible candidate has a valid id. -/
theorem isObjectId_of_visible (numbered : RootsNumbered store)
    {candidate : ProfileSyncRootCandidate}
    (isVisible : candidate ∈ visibleRootCandidates store requester profile rootId) :
    validateProfileSyncObjectId candidate.objectId = .ok () := by
  obtain ⟨entry, isEntry, isCandidate⟩ :=
    List.mem_filterMap.mp (List.mem_mergeSort.mp isVisible)
  simp only [Option.ite_none_right_eq_some, Option.some.injEq] at isCandidate
  obtain ⟨-, rfl⟩ := isCandidate
  exact numbered.isObjectId _ _ (Std.TreeMap.mem_toList_iff_getElem?_eq_some.mp isEntry)

end Candidates

section Providers

variable {store : ProfileSyncStore} {requester profile objectId providerId : String}

def LatestObjectProviderAvailability.providerIds (availability : LatestObjectProviderAvailability) :
    ObjectProviderState → List String
  | .available => availability.availableProviderIds
  | .delayed => availability.delayedProviderIds
  | .stale => availability.staleProviderIds
  | .offline => availability.offlineProviderIds

theorem providerIds_push (availability : LatestObjectProviderAvailability) (providerId : String)
    (pushed state : ObjectProviderState) :
    (availability.push providerId pushed).providerIds state =
      availability.providerIds state ++ if pushed = state then [providerId] else [] := by
  cases pushed <;> cases state <;>
    simp [LatestObjectProviderAvailability.push, LatestObjectProviderAvailability.providerIds]

/-- What a fold collects in a list stands there in the order of the items. -/
theorem projected_foldl {State Item Out : Type} {step : State → Item → State}
    (project : State → List Out) (collects : Item → Prop) [DecidablePred collects]
    (collect : Item → Out) (items : List Item) (state : State)
    (each : ∀ state item, project (step state item) =
      project state ++ if collects item then [collect item] else []) :
    project (items.foldl step state) =
      project state ++ (items.filter fun item => collects item).map collect := by
  induction items generalizing state with
  | nil => simp
  | cons item items inductionHypothesis =>
      rw [List.foldl_cons, inductionHypothesis, each]
      by_cases isCollected : collects item <;> simp [isCollected]

/-- The providers of the object in one state, in the order of their ids. -/
theorem providerIds_latestObjectProviderAvailability (state : ObjectProviderState) :
    (latestObjectProviderAvailability store requester profile objectId).providerIds state =
      (store.objects.keys.filter fun key => (key.2.1 = profile ∧ key.2.2 = objectId) ∧
        objectProviderState store requester key.1 = some state).map (·.1) := by
  have none : LatestObjectProviderAvailability.providerIds {} state = [] := by
    cases state <;> rfl
  unfold latestObjectProviderAvailability
  rw [projected_foldl (LatestObjectProviderAvailability.providerIds · state)
    (fun key => (key.2.1 = profile ∧ key.2.2 = objectId) ∧
      objectProviderState store requester key.1 = some state) (·.1), none, List.nil_append]
  intro availability key
  by_cases isObject : key.2.1 = profile ∧ key.2.2 = objectId
  · cases found : objectProviderState store requester key.1 with
    | none => simp [isObject]
    | some pushed =>
        by_cases same : pushed = state <;> simp [isObject, providerIds_push, same]
  · have skipped : key.2.1 ≠ profile ∨ key.2.2 ≠ objectId := by
      rwa [← not_and_or]
    simp [skipped, isObject]

theorem mem_providerIds_iff {state : ObjectProviderState} :
    providerId ∈
        (latestObjectProviderAvailability store requester profile objectId).providerIds state ↔
      (providerId, profile, objectId) ∈ store.objects ∧
        objectProviderState store requester providerId = some state := by
  rw [providerIds_latestObjectProviderAvailability]
  constructor
  · intro isProvider
    obtain ⟨⟨provider, stored⟩, isKey, rfl⟩ := List.mem_map.mp isProvider
    simp only [List.mem_filter, Std.TreeMap.mem_keys, decide_eq_true_eq] at isKey
    obtain ⟨isStored, ⟨rfl, rfl⟩, isState⟩ := isKey
    exact ⟨isStored, isState⟩
  · rintro ⟨isStored, isState⟩
    refine List.mem_map.mpr ⟨(providerId, profile, objectId), ?_, rfl⟩
    simp [isStored, isState]

/-- No provider stands in a list twice. -/
theorem nodup_providerIds (state : ObjectProviderState) :
    ((latestObjectProviderAvailability store requester profile objectId).providerIds
      state).Nodup := by
  rw [providerIds_latestObjectProviderAvailability]
  refine List.Nodup.map_on ?_ (store.objects.nodup_keys.filter _)
  intro first isFirst second isSecond same
  simp only [List.mem_filter, decide_eq_true_eq] at isFirst isSecond
  obtain ⟨-, ⟨firstProfile, firstObject⟩, -⟩ := isFirst
  obtain ⟨-, ⟨secondProfile, secondObject⟩, -⟩ := isSecond
  exact Prod.ext same (Prod.ext (firstProfile.trans secondProfile.symm)
    (firstObject.trans secondObject.symm))

/-- A provider that transfers objects is in one of the states. -/
theorem exists_objectProviderState
    (transfers : providerHasRole store providerId (·.objectTransfer) = true) :
    ∃ state, objectProviderState store requester providerId = some state := by
  unfold providerHasRole at transfers
  unfold objectProviderState
  cases known : store.providers[providerId]? with
  | none =>
      dsimp only
      split <;> exact ⟨_, rfl⟩
  | some state =>
      rw [known] at transfers
      simp only [transfers, Bool.not_true, Bool.false_eq_true, if_false]
      split
      · exact ⟨_, rfl⟩
      · split
        · exact ⟨_, rfl⟩
        · split <;> exact ⟨_, rfl⟩

/-- A provider is available exactly if a fetch would take the object from it. -/
theorem objectProviderState_eq_available_iff :
    objectProviderState store requester providerId = some .available ↔
      providerIsFreshOnlineForRole store providerId (·.objectTransfer) = true ∧
        transferAvailable store providerId requester = true := by
  unfold objectProviderState providerIsFreshOnlineForRole
  cases store.providers[providerId]? with
  | none => simp
  | some state =>
      dsimp only
      cases state.roles.objectTransfer <;>
        cases providerIsOnline store providerId state.roles <;>
        cases providerIsFresh store state.lastSeenSequence <;>
        cases transferAvailable store providerId requester <;> decide

theorem findOnlineObject_isSome_iff :
    (findOnlineObject store requester profile objectId).isSome = true ↔
      ∃ providerId, (providerId, profile, objectId) ∈ store.objects ∧
        objectProviderState store requester providerId = some .available := by
  unfold findOnlineObject
  rw [Option.isSome_map, List.find?_isSome]
  constructor
  · rintro ⟨⟨⟨provider, stored⟩, bytes⟩, isEntry, fetched⟩
    simp only [Bool.and_eq_true, decide_eq_true_eq] at fetched
    obtain ⟨⟨⟨isProfile, isObject⟩, isOnline⟩, transfers⟩ := fetched
    refine ⟨provider, ?_, objectProviderState_eq_available_iff.mpr ⟨isOnline, transfers⟩⟩
    rw [← isProfile, ← isObject]
    rw [Std.TreeMap.mem_toList_iff_getElem?_eq_some] at isEntry
    exact Std.TreeMap.mem_iff_isSome_getElem?.mpr (Option.isSome_of_eq_some isEntry)
  · rintro ⟨provider, isStored, isAvailable⟩
    obtain ⟨bytes, found⟩ :=
      Option.isSome_iff_exists.mp (Std.TreeMap.mem_iff_isSome_getElem?.mp isStored)
    obtain ⟨isOnline, transfers⟩ := objectProviderState_eq_available_iff.mp isAvailable
    refine ⟨((provider, profile, objectId), bytes),
      Std.TreeMap.mem_toList_iff_getElem?_eq_some.mpr found, ?_⟩
    simp [isOnline, transfers]

end Providers

section Retention

variable {backend : LocalBackend} {profile objectId : String}

/-- A provider that is connected, not offline and seen lately enough; the service of a process
on its own, which knows no provider, counts as one. -/
def FreshOnline (store : ProfileSyncStore) (providerId : String) : Prop :=
  (∃ state, store.providers[providerId]? = some state ∧ state.roles.connectivity = true ∧
    providerId ∉ store.offlineProviders ∧
    store.minimumProviderSeenSequence ≤ state.lastSeenSequence) ∨
  store.providers.isEmpty = true

theorem freshOnline_of_retainer (known : HoldersKnown backend) {key : ObjectKey}
    (isRetained : key ∈ backend.store.retained)
    (serves : providerIsFreshOnlineForRole backend.store key.1 retains = true) :
    FreshOnline backend.store key.1 := by
  unfold providerIsFreshOnlineForRole at serves
  cases found : backend.store.providers[key.1]? with
  | none =>
      have unknown : key.1 ∉ backend.store.providers := by
        rw [Std.TreeMap.mem_iff_isSome_getElem?, found]
        exact Bool.false_ne_true
      have alone : backend.isFixture = false := by
        by_contra isFixture
        exact unknown (known.retained (Bool.not_eq_false _ ▸ isFixture) key isRetained)
      exact .inr (known.unregistered alone)
  | some state =>
      rw [found] at serves
      simp only [providerIsOnline, providerIsFresh, Bool.and_eq_true, Bool.not_eq_true',
        decide_eq_true_eq] at serves
      obtain ⟨⟨⟨connected, notOffline⟩, seen⟩, -⟩ := serves
      refine .inl ⟨state, found, connected, ?_, seen⟩
      rw [← Std.TreeSet.contains_iff_mem, notOffline]
      exact Bool.false_ne_true

/-- The providers that are counted retain the object and hold its bytes. -/
theorem exists_retainers (known : HoldersKnown backend) :
    ∃ providerIds : List String, providerIds.Nodup ∧
      providerIds.length = onlineRetainingProviderCount backend.store profile objectId ∧
      ∀ providerId ∈ providerIds,
        (providerId, profile, objectId) ∈ backend.store.retained ∧
          (providerId, profile, objectId) ∈ backend.store.objects ∧
          FreshOnline backend.store providerId := by
  refine ⟨_, ?_, List.length_map (·.1), ?_⟩
  · have distinct : backend.store.retained.toList.Nodup :=
      backend.store.retained.distinct_toList.imp Std.ReflCmp.ne_of_cmp_ne_eq
    refine List.Nodup.map_on ?_ (distinct.filter _)
    rintro ⟨first, firstStored⟩ isFirst ⟨second, secondStored⟩ isSecond same
    simp only [List.mem_filter, Bool.and_eq_true, decide_eq_true_eq] at isFirst isSecond
    obtain ⟨-, ⟨⟨firstProfile, firstObject⟩, -⟩, -⟩ := isFirst
    obtain ⟨-, ⟨⟨secondProfile, secondObject⟩, -⟩, -⟩ := isSecond
    exact Prod.ext same (Prod.ext (firstProfile.trans secondProfile.symm)
      (firstObject.trans secondObject.symm))
  · intro providerId isProvider
    obtain ⟨⟨provider, storedProfile, storedObjectId⟩, isKey, rfl⟩ := List.mem_map.mp isProvider
    simp only [List.mem_filter, Std.TreeSet.mem_toList, Bool.and_eq_true,
      decide_eq_true_eq] at isKey
    obtain ⟨isRetained, ⟨⟨rfl, rfl⟩, serves⟩, holds⟩ := isKey
    exact ⟨isRetained, Std.TreeMap.contains_iff_mem.mp holds,
      freshOnline_of_retainer known isRetained serves⟩

/-- Health that is not degraded has a candidate whose object is available, retained once at
least and as often as asked for. -/
theorem not_degraded {visible delayed delayedProviders stale offline retaining minimum : Nat}
    {available : Bool}
    (notDegraded : (profileSyncRootHealthMessage visible delayed available delayedProviders stale
      offline retaining minimum).1 = false) :
    available = true ∧ max 1 minimum ≤ retaining := by
  unfold profileSyncRootHealthMessage at notDegraded
  split_ifs at notDegraded with noCandidate _ notAvailable _ _ _ noRetainer tooFew
  refine ⟨by simpa using notAvailable, ?_⟩
  omega

end Retention

section Truth

variable {store : ProfileSyncStore} {service : ProfileSyncService} {profile rootId : String}
  {minimum : Nat} {health : ProfileSyncRootHealth}

/-- A fetch finds bytes if its checks pass and a provider is available. -/
theorem getObject_eq_ok_iff {objectId : String} (isProfile : validateProfile profile = .ok ())
    (isObjectId : validateProfileSyncObjectId objectId = .ok ()) :
    (∃ maxBytes bytes, service.getObject store profile objectId maxBytes =
        .ok (.getEncryptedObject objectId bytes)) ↔
      service.roles.objectTransfer = true ∧
        (findOnlineObject store service.providerId profile objectId).isSome = true := by
  constructor
  · rintro ⟨maxBytes, bytes, gets⟩
    obtain ⟨-, gets⟩ := unit_bind_eq_ok_iff.mp gets
    obtain ⟨-, gets⟩ := unit_bind_eq_ok_iff.mp gets
    obtain ⟨transfers, gets⟩ := unit_bind_eq_ok_iff.mp gets
    refine ⟨?_, ?_⟩
    · by_contra lacks
      rw [ProfileSyncService.requireObjectTransfer, ProfileSyncService.requireRole,
        if_neg lacks] at transfers
      cases transfers
    · cases found : findOnlineObject store service.providerId profile objectId with
      | none => simp [found] at gets
      | some bytes => rfl
  · rintro ⟨transfers, found⟩
    obtain ⟨bytes, isFound⟩ := Option.isSome_iff_exists.mp found
    refine ⟨bytes.length, bytes, ?_⟩
    have inBudget : validateObjectBudget bytes.length bytes.length = .ok () :=
      if_neg (Nat.lt_irrefl _)
    have hasRole : service.requireObjectTransfer = .ok () := if_pos transfers
    rw [ProfileSyncService.getObject, isProfile, isObjectId, hasRole, isFound]
    simp only [ok_bind, inBudget]
    rfl

/-- The providers of the object that health lists in a state. -/
def ProfileSyncRootHealth.providerIds (health : ProfileSyncRootHealth) :
    ObjectProviderState → List String
  | .available => health.latestObjectAvailableProviderIds
  | .delayed => health.delayedObjectProviderIds
  | .stale => health.latestObjectStaleProviderIds
  | .offline => health.latestObjectOfflineProviderIds

/-- What the health that a service reports says about the store. -/
structure Truthful (store : ProfileSyncStore) (service : ProfileSyncService)
    (profile rootId : String) (minimum : Nat) (health : ProfileSyncRootHealth) : Prop where
  resolved : service.resolveRoot store profile rootId = .ok (.root rootId health.latestObjectId)
  newest : ∃ candidates, service.listRootCandidates store profile rootId =
      .ok (.rootCandidates rootId candidates) ∧
    health.latestObjectId = (Storage.newestProfileSyncRootCandidate
      (candidates.map (·.toStorage))).map (·.objectId)
  available : ∀ objectId, health.latestObjectId = some objectId →
    ((health.latestObjectAvailable = true ∧ service.roles.objectTransfer = true) ↔
      ∃ maxBytes bytes, service.getObject store profile objectId maxBytes =
        .ok (.getEncryptedObject objectId bytes))
  listed : ∀ objectId providerId, health.latestObjectId = some objectId →
    (providerId, profile, objectId) ∈ store.objects →
    providerHasRole store providerId (·.objectTransfer) = true →
      ∃! state, providerId ∈ health.providerIds state
  listedOnce : ∀ state, (health.providerIds state).Nodup
  retained : health.degraded = false → ∃ objectId, health.latestObjectId = some objectId ∧
    ∃ providerIds : List String, providerIds.Nodup ∧ max 1 minimum ≤ providerIds.length ∧
      ∀ providerId ∈ providerIds, (providerId, profile, objectId) ∈ store.retained ∧
        (providerId, profile, objectId) ∈ store.objects ∧ FreshOnline store providerId

theorem providerIds_rootHealthOf (state : ObjectProviderState) :
    (service.rootHealthOf store profile rootId minimum).providerIds state =
      (((service.rootHealthOf store profile rootId minimum).latestObjectId.map
        (latestObjectProviderAvailability store service.providerId profile)).getD
          {}).providerIds state := by
  cases state <;> rfl

theorem providerIds_of_latest {objectId : String}
    (isLatest : (service.rootHealthOf store profile rootId minimum).latestObjectId =
      some objectId) (state : ObjectProviderState) :
    (service.rootHealthOf store profile rootId minimum).providerIds state =
      (latestObjectProviderAvailability store service.providerId profile objectId).providerIds
        state := by
  rw [providerIds_rootHealthOf, isLatest]
  rfl

theorem latestObjectAvailable_rootHealthOf {objectId : String}
    (isLatest : (service.rootHealthOf store profile rootId minimum).latestObjectId =
      some objectId) :
    (service.rootHealthOf store profile rootId minimum).latestObjectAvailable = true ↔
      (findOnlineObject store service.providerId profile objectId).isSome = true := by
  have listed := providerIds_of_latest isLatest .available
  have reported : (service.rootHealthOf store profile rootId minimum).latestObjectAvailable =
      !((service.rootHealthOf store profile rootId minimum).providerIds .available).isEmpty := rfl
  rw [reported, listed, findOnlineObject_isSome_iff, Bool.not_eq_true',
    List.isEmpty_eq_false_iff_exists_mem]
  simp only [mem_providerIds_iff]

theorem retained_rootHealthOf {backend : LocalBackend} (known : HoldersKnown backend)
    (notDegraded :
      (service.rootHealthOf backend.store profile rootId minimum).degraded = false) :
    ∃ objectId, (service.rootHealthOf backend.store profile rootId minimum).latestObjectId =
        some objectId ∧
      ∃ providerIds : List String, providerIds.Nodup ∧ max 1 minimum ≤ providerIds.length ∧
        ∀ providerId ∈ providerIds, (providerId, profile, objectId) ∈ backend.store.retained ∧
          (providerId, profile, objectId) ∈ backend.store.objects ∧
          FreshOnline backend.store providerId := by
  obtain ⟨-, enough⟩ := not_degraded notDegraded
  cases latest : (service.rootHealthOf backend.store profile rootId minimum).latestObjectId with
  | none =>
      have isHead : ((visibleRootCandidates backend.store service.providerId profile
          rootId).head?.map (·.objectId)) = none := latest
      rw [isHead, Option.map_none, Option.getD_none] at enough
      omega
  | some objectId =>
      have isHead : ((visibleRootCandidates backend.store service.providerId profile
          rootId).head?.map (·.objectId)) = some objectId := latest
      rw [isHead, Option.map_some, Option.getD_some] at enough
      obtain ⟨providerIds, distinct, count, retainers⟩ :=
        @exists_retainers backend profile objectId known
      rw [← count] at enough
      exact ⟨objectId, rfl, providerIds, distinct, enough, retainers⟩

/-- In every backend that a run reaches, the health of a root tells the truth. -/
theorem rootHealth_truthful {backend : LocalBackend} (reachable : LocalReachable backend)
    (reports : service.rootHealth backend.store profile rootId minimum =
      .ok (.rootHealth health)) :
    Truthful backend.store service profile rootId minimum health := by
  obtain ⟨numbered, known⟩ := reachable.invariant
  obtain ⟨isProfile, reports⟩ := unit_bind_eq_ok_iff.mp reports
  obtain ⟨isRootId, reports⟩ := unit_bind_eq_ok_iff.mp reports
  obtain ⟨discovers, reports⟩ := unit_bind_eq_ok_iff.mp reports
  cases reports
  constructor
  · rw [ProfileSyncService.resolveRoot, isProfile, isRootId, discovers]
    rfl
  · refine ⟨visibleRootCandidates backend.store service.providerId profile rootId, ?_, ?_⟩
    · rw [ProfileSyncService.listRootCandidates, isProfile, isRootId, discovers]
      rfl
    · rw [newest_visibleRootCandidates numbered, Option.map_map]
      rfl
  · intro objectId isLatest
    have isHead : ((visibleRootCandidates backend.store service.providerId profile
        rootId).head?.map (·.objectId)) = some objectId := isLatest
    obtain ⟨candidate, isFirst, rfl⟩ := Option.map_eq_some_iff.mp isHead
    have isObjectId := isObjectId_of_visible numbered (List.mem_of_mem_head? isFirst)
    rw [getObject_eq_ok_iff isProfile isObjectId, latestObjectAvailable_rootHealthOf isLatest,
      and_comm]
  · intro objectId providerId isLatest isStored transfers
    obtain ⟨state, isState⟩ := @exists_objectProviderState _ service.providerId _ transfers
    refine ⟨state, ?_, ?_⟩
    · dsimp only
      rw [providerIds_of_latest isLatest]
      exact mem_providerIds_iff.mpr ⟨isStored, isState⟩
    · intro other isListed
      rw [providerIds_of_latest isLatest] at isListed
      obtain ⟨-, isOther⟩ := mem_providerIds_iff.mp isListed
      exact Option.some.inj (isOther.symm.trans isState)
  · intro state
    cases latest : (service.rootHealthOf backend.store profile rootId minimum).latestObjectId with
    | none =>
        rw [providerIds_rootHealthOf, latest]
        cases state <;> exact List.nodup_nil
    | some objectId =>
        rw [providerIds_of_latest latest]
        exact nodup_providerIds state
  · exact retained_rootHealthOf known

end Truth

section Reader

/-- A provider that discovers and is connected, and transfers no objects. -/
def readerRoles : ProfileSyncProviderRoles where
  discovery := true
  connectivity := true
  objectTransfer := false
  availability := false
  mutableRoots := false

def reader : ProfileSyncService where
  providerId := "reader"
  providerKind := "reader"
  privacyBoundary := localPrivacyBoundary
  roles := readerRoles
  registrationError := none

/-- A device publishes an object that it retains, and a reader joins. -/
def readerEvents : List LocalEvent :=
  [.register "local-fixture-device-a" "local-fixture" .loggedInDevice,
    .request 0 (.putEncryptedObject "default" [1, 2]) 100,
    .request 0 (.retainObject "default" (localObjectId [1, 2])) 100,
    .request 0 (.publishRoot "default" "profile-root" (localObjectId [1, 2])) 100,
    .register "reader" "reader" readerRoles]

def readerHealth : ProfileSyncRootHealth where
  profile := "default"
  rootId := "profile-root"
  visibleCandidates := 1
  delayedCandidates := 0
  delayedPublisherProviderIds := []
  latestObjectId := some (localObjectId [1, 2])
  latestObjectAvailable := true
  latestObjectAvailableProviderIds := ["local-fixture-device-a"]
  latestObjectStaleProviderIds := []
  latestObjectOfflineProviderIds := []
  delayedObjectProviderIds := []
  unavailableRetainingProviderIds := []
  onlineRetainingProviders := 1
  minimumOnlineRetainingProviders := 1
  degraded := false
  message := "profile sync root is available and retained by fresh online providers in the " ++
    "local fixture"

/-- The reader is a service of the backend that the events leave, and it reports the health. -/
theorem exists_reader_backend :
    ∃ backend, LocalReachable backend ∧ reader ∈ backend.services ∧
      reader.rootHealth backend.store "default" "profile-root" 1 =
        .ok (.rootHealth readerHealth) := by
  have run : ((LocalBackend.fixture ⟨none, none, none⟩).takeAll readerEvents).map
      (fun backend => (backend.services[1]?,
        (reader.rootHealth backend.store "default" "profile-root" 1).toOption)) =
      some (some reader, some (.rootHealth readerHealth)) := by
    decide +kernel
  obtain ⟨backend, takes, observed⟩ := Option.map_eq_some_iff.mp run
  obtain ⟨isReader, reports⟩ := Prod.mk.inj observed
  refine ⟨backend, (LocalReachable.fixture _).takeAll takes, List.mem_of_getElem? isReader, ?_⟩
  cases result : reader.rootHealth backend.store "default" "profile-root" 1 with
  | error error =>
      rw [result] at reports
      cases reports
  | ok response =>
      rw [result] at reports
      exact congrArg Except.ok (Option.some.inj reports)

theorem readerHealth_truthful :
    ∃ backend, LocalReachable backend ∧
      Truthful backend.store reader "default" "profile-root" 1 readerHealth := by
  obtain ⟨backend, reachable, -, reports⟩ := exists_reader_backend
  exact ⟨backend, reachable, rootHealth_truthful reachable reports⟩

/-- The reader is told that the object is available, and cannot fetch it. -/
theorem reader_cannot_fetch :
    ∃ backend objectId, LocalReachable backend ∧ reader ∈ backend.services ∧
      reader.rootHealth backend.store "default" "profile-root" 1 =
        .ok (.rootHealth readerHealth) ∧
      readerHealth.latestObjectId = some objectId ∧ readerHealth.latestObjectAvailable = true ∧
      ¬ ∃ maxBytes bytes, reader.getObject backend.store "default" objectId maxBytes =
        .ok (.getEncryptedObject objectId bytes) := by
  obtain ⟨backend, reachable, isService, reports⟩ := exists_reader_backend
  refine ⟨backend, localObjectId [1, 2], reachable, isService, reports, rfl, rfl, ?_⟩
  have isProfile : validateProfile "default" = .ok () := by decide +kernel
  have isObjectId : validateProfileSyncObjectId (localObjectId [1, 2]) = .ok () := by
    decide +kernel
  rw [getObject_eq_ok_iff isProfile isObjectId]
  rintro ⟨transfers, -⟩
  cases transfers

end Reader

end Slate.Broadwebd.Local
