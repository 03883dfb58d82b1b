import Mathlib.Tactic.Common
import Slate.Broadwebd.KuboProfileSync

/-!
# Profile sync in the memory of a process

Services share a store of objects, retained objects and roots, each entry under the provider
that made it. A fixture registers providers in the store and injects faults: providers that
are offline or not seen for long, and transfers and roots that are delayed.
-/

namespace Slate.Broadwebd.Local

open Slate.Foundation

attribute [local instance] lexOrd

structure ProfileSyncFixtureCapacity where
  maxProviders : Option Nat
  maxObjects : Option Nat
  maxRoots : Option Nat

structure ProfileSyncRootState where
  objectId : String
  publisherProviderId : String
  publishSequence : Nat
  deriving DecidableEq, Repr

structure ProfileSyncProviderState where
  providerKind : String
  privacyBoundary : String
  roles : ProfileSyncProviderRoles
  lastSeenSequence : Nat

structure ProfileSyncStore where
  capacity : ProfileSyncFixtureCapacity
  objects : Std.TreeMap ObjectKey Bytes
  retained : Std.TreeSet ObjectKey
  /-- By profile, root and publisher. -/
  roots : Std.TreeMap ObjectKey ProfileSyncRootState
  nextRootSequence : Nat
  providers : Std.TreeMap String ProfileSyncProviderState
  nextProviderSeenSequence : Nat
  minimumProviderSeenSequence : Nat
  offlineProviders : Std.TreeSet String
  /-- The source and the requester. -/
  delayedTransfers : Std.TreeSet (String × String)
  /-- The source, the requester, the profile and the root. -/
  delayedRoots : Std.TreeSet (String × String × String × String)
  retentionBlockedProviders : Std.TreeSet String
  retentionQuotaByProvider : Std.TreeMap String Nat

def ProfileSyncStore.withCapacity (capacity : ProfileSyncFixtureCapacity) : ProfileSyncStore where
  capacity
  objects := ∅
  retained := ∅
  roots := ∅
  nextRootSequence := 0
  providers := ∅
  nextProviderSeenSequence := 0
  minimumProviderSeenSequence := 0
  offlineProviders := ∅
  delayedTransfers := ∅
  delayedRoots := ∅
  retentionBlockedProviders := ∅
  retentionQuotaByProvider := ∅

def ProfileSyncStore.default : ProfileSyncStore :=
  .withCapacity { maxProviders := none, maxObjects := none, maxRoots := none }

deriving instance DecidableEq for ProfileSyncProviderRoles

structure ProfileSyncService where
  providerId : String
  providerKind : String
  privacyBoundary : String
  roles : ProfileSyncProviderRoles
  registrationError : Option BroadwebdError
  deriving DecidableEq

def localPrivacyBoundary : String :=
  "local in-memory profile-sync preview backend; no sockets or external network"

def ProfileSyncService.default : ProfileSyncService where
  providerId := "local-preview-profile-sync"
  providerKind := "local-preview"
  privacyBoundary := localPrivacyBoundary
  roles := .loggedInDevice
  registrationError := none

section Capacity

variable (store : ProfileSyncStore)

def checkProfileSyncFixtureProviderCapacity (providerId : String) : Except BroadwebdError Unit :=
  if providerId ∈ store.providers then .ok ()
  else
    match store.capacity.maxProviders with
    | some maxProviders =>
        if maxProviders ≤ store.providers.size then
          .error (.unsupportedRequest
            s!"profile sync fixture provider capacity exceeded: max {maxProviders} providers")
        else .ok ()
    | none => .ok ()

def checkProfileSyncFixtureNewObjectCapacity : Except BroadwebdError Unit :=
  let retainedWithoutBytes :=
    (store.retained.toList.filter fun key => !store.objects.contains key).length
  let objectReferenceCount := store.objects.size + retainedWithoutBytes
  match store.capacity.maxObjects with
  | some maxObjects =>
      if maxObjects ≤ objectReferenceCount then
        .error (.unsupportedRequest
          s!"profile sync fixture object capacity exceeded: max {maxObjects} object refs")
      else .ok ()
  | none => .ok ()

def checkProfileSyncFixtureObjectCapacity (objectKey : ObjectKey) : Except BroadwebdError Unit :=
  if objectKey ∈ store.objects ∨ objectKey ∈ store.retained then .ok ()
  else checkProfileSyncFixtureNewObjectCapacity store

def checkProfileSyncFixtureRootCapacity (rootKey : ObjectKey) : Except BroadwebdError Unit :=
  if rootKey ∈ store.roots then .ok ()
  else
    match store.capacity.maxRoots with
    | some maxRoots =>
        if maxRoots ≤ store.roots.size then
          .error (.unsupportedRequest
            s!"profile sync fixture root capacity exceeded: max {maxRoots} roots")
        else .ok ()
    | none => .ok ()

end Capacity

section Availability

variable (store : ProfileSyncStore)

/-- Saturating. -/
def nextProviderSeenSequence : Nat := min (store.nextProviderSeenSequence + 1) u64Max

def providerIsOnline (providerId : String) (roles : ProfileSyncProviderRoles) : Bool :=
  roles.connectivity && !store.offlineProviders.contains providerId

def providerIsFresh (lastSeenSequence : Nat) : Bool :=
  store.minimumProviderSeenSequence ≤ lastSeenSequence

def providerIsFreshOnlineForRole (providerId : String)
    (role : ProfileSyncProviderRoles → Bool) : Bool :=
  match store.providers[providerId]? with
  | none => true
  | some state =>
      providerIsOnline store providerId state.roles &&
        providerIsFresh store state.lastSeenSequence && role state.roles

def providerHasRole (providerId : String) (role : ProfileSyncProviderRoles → Bool) : Bool :=
  match store.providers[providerId]? with
  | none => true
  | some state => role state.roles

def providerHasObject (providerId profile objectId : String) : Bool :=
  store.objects.contains (providerId, profile, objectId)

def transferAvailable (sourceProviderId requesterProviderId : String) : Bool :=
  sourceProviderId = requesterProviderId ||
    !store.delayedTransfers.contains (sourceProviderId, requesterProviderId)

def rootAvailable (sourceProviderId requesterProviderId profile rootId : String) : Bool :=
  sourceProviderId = requesterProviderId ||
    !store.delayedRoots.contains (sourceProviderId, requesterProviderId, profile, rootId)

/-- The first entry, by its provider, that the requester can fetch. -/
def findOnlineObject (requesterProviderId profile objectId : String) : Option Bytes :=
  (store.objects.toList.find? fun (key, _) =>
    key.2.1 = profile && key.2.2 = objectId &&
      providerIsFreshOnlineForRole store key.1 (·.objectTransfer) &&
      transferAvailable store key.1 requesterProviderId).map (·.2)

end Availability

section Roots

structure ProfileSyncRootCandidate where
  publisherProviderId : String
  objectId : String
  publishSequence : Nat
  deriving DecidableEq, Repr

/-- The later publication first. -/
def candidateOrder (left right : ProfileSyncRootCandidate) : Ordering :=
  (compare right.publishSequence left.publishSequence).then
    ((compare left.publisherProviderId right.publisherProviderId).then
      (compare left.objectId right.objectId))

def candidateBefore (left right : ProfileSyncRootCandidate) : Bool :=
  (candidateOrder left right).isLE

variable (store : ProfileSyncStore)

/-- The candidates of a root that the requester sees, or those that are delayed for it. -/
def rootCandidates (visible : Bool) (requesterProviderId profile rootId : String) :
    List ProfileSyncRootCandidate :=
  let candidates := store.roots.toList.filterMap fun ((storedProfile, storedRootId, publisher),
      root) =>
    if storedProfile = profile ∧ storedRootId = rootId ∧
        providerHasRole store publisher (·.mutableRoots) ∧
        rootAvailable store publisher requesterProviderId profile rootId = visible then
      some ⟨root.publisherProviderId, root.objectId, root.publishSequence⟩
    else none
  candidates.mergeSort candidateBefore

def visibleRootCandidates : String → String → String → List ProfileSyncRootCandidate :=
  rootCandidates store true

def delayedRootCandidates : String → String → String → List ProfileSyncRootCandidate :=
  rootCandidates store false

def latestVisibleRootCandidate (requesterProviderId profile rootId : String) :
    Option ProfileSyncRootCandidate :=
  (visibleRootCandidates store requesterProviderId profile rootId).head?

end Roots

section Health

structure ProfileSyncRootHealth where
  profile : String
  rootId : String
  visibleCandidates : Nat
  delayedCandidates : Nat
  delayedPublisherProviderIds : List String
  latestObjectId : Option String
  latestObjectAvailable : Bool
  latestObjectAvailableProviderIds : List String
  latestObjectStaleProviderIds : List String
  latestObjectOfflineProviderIds : List String
  delayedObjectProviderIds : List String
  unavailableRetainingProviderIds : List String
  onlineRetainingProviders : Nat
  minimumOnlineRetainingProviders : Nat
  degraded : Bool
  message : String
  deriving DecidableEq, Repr

structure LatestObjectProviderAvailability where
  availableProviderIds : List String := []
  delayedProviderIds : List String := []
  staleProviderIds : List String := []
  offlineProviderIds : List String := []

inductive ObjectProviderState where
  | available
  | delayed
  | stale
  | offline
  deriving DecidableEq, Repr

variable (store : ProfileSyncStore)

/-- The state of a provider of an object, unless it does not transfer objects. -/
def objectProviderState (requesterProviderId providerId : String) : Option ObjectProviderState :=
  match store.providers[providerId]? with
  | none =>
      if transferAvailable store providerId requesterProviderId then some .available
      else some .delayed
  | some state =>
      if !state.roles.objectTransfer then none
      else if !providerIsOnline store providerId state.roles then some .offline
      else if !providerIsFresh store state.lastSeenSequence then some .stale
      else if !transferAvailable store providerId requesterProviderId then some .delayed
      else some .available

def LatestObjectProviderAvailability.push (availability : LatestObjectProviderAvailability)
    (providerId : String) : ObjectProviderState → LatestObjectProviderAvailability
  | .available =>
      { availability with
        availableProviderIds := availability.availableProviderIds ++ [providerId] }
  | .delayed =>
      { availability with delayedProviderIds := availability.delayedProviderIds ++ [providerId] }
  | .stale =>
      { availability with staleProviderIds := availability.staleProviderIds ++ [providerId] }
  | .offline =>
      { availability with offlineProviderIds := availability.offlineProviderIds ++ [providerId] }

def latestObjectProviderAvailability (requesterProviderId profile objectId : String) :
    LatestObjectProviderAvailability :=
  store.objects.keys.foldl (fun availability key =>
    if key.2.1 ≠ profile ∨ key.2.2 ≠ objectId then availability
    else
      match objectProviderState store requesterProviderId key.1 with
      | none => availability
      | some state => availability.push key.1 state) {}

/-- A provider that may retain objects for others, and that others reach. -/
def retains (roles : ProfileSyncProviderRoles) : Bool :=
  roles.availability && roles.objectTransfer

def onlineRetainingProviderCount (profile objectId : String) : Nat :=
  (store.retained.toList.filter fun key =>
    key.2.1 = profile && key.2.2 = objectId && providerIsFreshOnlineForRole store key.1 retains &&
      providerHasObject store key.1 profile objectId).length

def unavailableRetainingProviderIds (profile objectId : String) : List String :=
  (store.retained.toList.filter fun key =>
    key.2.1 = profile && key.2.2 = objectId && providerIsFreshOnlineForRole store key.1 retains &&
      !providerHasObject store key.1 profile objectId).map (·.1)

def profileSyncRootHealthMessage (visibleCandidates delayedCandidates : Nat)
    (latestObjectAvailable : Bool)
    (delayedObjectProviders staleObjectProviders offlineObjectProviders onlineRetainingProviders
      minimumOnlineRetainingProviders : Nat) : Bool × String :=
  if visibleCandidates = 0 then
    if 0 < delayedCandidates then
      (true, "profile sync root has no visible candidates in the local fixture; " ++
        toString delayedCandidates ++ " candidate(s) are delayed")
    else (true, "profile sync root has no visible candidates in the local fixture")
  else if !latestObjectAvailable then
    if 0 < delayedObjectProviders then
      (true, "profile sync root object is blocked by " ++ toString delayedObjectProviders ++
        " delayed object-transfer provider(s) in the local fixture")
    else if 0 < staleObjectProviders then
      (true, "profile sync root object is only held by " ++ toString staleObjectProviders ++
        " stale object-transfer provider(s) in the local fixture")
    else if 0 < offlineObjectProviders then
      (true, "profile sync root object is only held by " ++ toString offlineObjectProviders ++
        " offline object-transfer provider(s) in the local fixture")
    else
      (true, "profile sync root object is not available from a fresh online provider in the " ++
        "local fixture")
  else if onlineRetainingProviders = 0 then
    (true, "profile sync root object is not retained by a fresh online provider in the local " ++
      "fixture")
  else if onlineRetainingProviders < minimumOnlineRetainingProviders then
    (true, "profile sync root has " ++ toString onlineRetainingProviders ++
      " fresh online retaining providers, below the requested quorum of " ++
      toString minimumOnlineRetainingProviders)
  else
    (false, "profile sync root is available and retained by fresh online providers in the local " ++
      "fixture")

end Health

section Providers

structure ProfileSyncProviderRecord where
  providerId : String
  providerKind : String
  privacyBoundary : String
  retainedObjects : Nat
  roles : ProfileSyncProviderRoles
  canPublishRoots : Bool
  deriving DecidableEq

structure ProfileSyncProviderHealth where
  profile : String
  knownProviders : Nat
  onlineProviders : Nat
  offlineProviders : Nat
  freshOnlineProviders : Nat
  staleOnlineProviders : Nat
  freshOnlineProviderIds : List String
  staleOnlineProviderIds : List String
  offlineProviderIds : List String
  minimumProviderSeenSequence : Nat
  objectTransferProviders : Nat
  availabilityProviders : Nat
  mutableRootProviders : Nat
  retainedObjects : Nat
  degraded : Bool
  message : String
  deriving DecidableEq, Repr

structure ProfileSyncProviderHealthEntry where
  providerId : String
  roles : ProfileSyncProviderRoles
  online : Bool
  fresh : Bool

variable (store : ProfileSyncStore)

def retainedObjectCount (providerId profile : String) : Nat :=
  (store.retained.toList.filter fun key => key.1 = providerId && key.2.1 = profile).length

/-- A store without providers has the service that asks. -/
def providerHealthEntries (defaultProviderId : String) (defaultRoles : ProfileSyncProviderRoles) :
    List ProfileSyncProviderHealthEntry :=
  if store.providers.isEmpty then
    [{ providerId := defaultProviderId
       roles := defaultRoles
       online := defaultRoles.connectivity
       fresh := providerIsFresh store 0 }]
  else
    store.providers.toList.map fun (providerId, state) =>
      { providerId
        roles := state.roles
        online := providerIsOnline store providerId state.roles
        fresh := providerIsFresh store state.lastSeenSequence }

def profileSyncHealthMessage (onlineProviders freshOnlineProviders objectTransferProviders
    availabilityProviders mutableRootProviders : Nat) : Bool × String :=
  if onlineProviders = 0 then
    (true, "profile sync has no online providers in the local fixture")
  else if freshOnlineProviders = 0 then
    (true, "profile sync has no fresh online providers in the local fixture")
  else if objectTransferProviders = 0 then
    (true, "profile sync has no fresh online object-transfer provider in the local fixture")
  else if availabilityProviders = 0 then
    (true, "profile sync has no fresh online availability provider in the local fixture")
  else if mutableRootProviders = 0 then
    (true, "profile sync has no fresh online mutable-root provider in the local fixture")
  else (false, "profile sync providers are ready in the local fixture")

end Providers

section Objects

/-- The id has the length and a hash of the bytes. -/
def localObjectHash (bytes : Bytes) : UInt64 :=
  bytes.foldl (fun hash byte => (hash ^^^ byte.toUInt64) * 0x100000001b3) 0xcbf29ce484222325

def hex16 (value : UInt64) : String :=
  let digits := Nat.toDigits 16 value.toNat
  String.ofList (List.replicate (16 - digits.length) '0' ++ digits)

def localObjectId (bytes : Bytes) : String :=
  "local-broadweb-object:v1:" ++ toString bytes.length ++ ":" ++ hex16 (localObjectHash bytes)

def validateObjectBudget (size maxProfileSyncObjectBytes : Nat) : Except BroadwebdError Unit :=
  if maxProfileSyncObjectBytes < size then
    .error (.responseTooLarge maxProfileSyncObjectBytes size)
  else .ok ()

end Objects

end Slate.Broadwebd.Local
