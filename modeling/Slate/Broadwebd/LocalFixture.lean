import Slate.Broadwebd.LocalProfileSync

/-!
# Services and faults of a local store

A run of the local backend takes requests of its services and, in a fixture, registrations and
faults in any order. Each step holds the lock of the store once.
-/

namespace Slate.Broadwebd.Local

open Slate.Foundation

attribute [local instance] lexOrd

inductive ProfileSyncResponse where
  | putEncryptedObject (objectId : String)
  | getEncryptedObject (objectId : String) (bytes : Bytes)
  | retainObject (objectId : String) (retained : Bool)
  | releaseObject (objectId : String) (retained : Bool)
  | retainedObjects (objectIds : List String)
  | retainedObjectStatus (objectId : String) (retained available : Bool)
  | root (rootId : String) (objectId : Option String)
  | rootCandidates (rootId : String) (candidates : List ProfileSyncRootCandidate)
  | rootHealth (health : ProfileSyncRootHealth)
  | providers (providers : List ProfileSyncProviderRecord)
  | providerHealth (health : ProfileSyncProviderHealth)
  deriving DecidableEq

namespace ProfileSyncService

variable (service : ProfileSyncService) (store : ProfileSyncStore)

def requireRole (enabled : Bool) (role : String) : Except BroadwebdError Unit :=
  if enabled then .ok ()
  else .error (.unsupportedRequest
    s!"profile sync provider lacks {role} role: {service.providerId}")

def requireAvailability : Except BroadwebdError Unit :=
  service.requireRole service.roles.availability "profile-sync/availability"

def requireObjectTransfer : Except BroadwebdError Unit :=
  service.requireRole service.roles.objectTransfer "profile-sync/object-transfer"

def requireDiscovery : Except BroadwebdError Unit :=
  service.requireRole service.roles.discovery "profile-sync/provider-discovery"

def requireMutableRoots : Except BroadwebdError Unit :=
  service.requireRole service.roles.mutableRoots "profile-sync/mutable-root"

section Objects

def putObject (profile : String) (bytes : Bytes) (maxProfileSyncObjectBytes : Nat) :
    Except BroadwebdError (ProfileSyncResponse × ProfileSyncStore) := do
  validateProfile profile
  service.requireObjectTransfer
  validateObjectBudget bytes.length maxProfileSyncObjectBytes
  let objectId := localObjectId bytes
  let objectKey := (service.providerId, profile, objectId)
  checkProfileSyncFixtureObjectCapacity store objectKey
  pure (.putEncryptedObject objectId,
    { store with objects := store.objects.insert objectKey bytes })

def getObject (profile objectId : String) (maxProfileSyncObjectBytes : Nat) :
    Except BroadwebdError ProfileSyncResponse := do
  validateProfile profile
  validateProfileSyncObjectId objectId
  service.requireObjectTransfer
  match findOnlineObject store service.providerId profile objectId with
  | none =>
      .error (.unsupportedRequest
        s!"profile sync object not available from an online provider: {objectId}")
  | some bytes => do
      validateObjectBudget bytes.length maxProfileSyncObjectBytes
      pure (.getEncryptedObject objectId bytes)

def retainedProviderObjectCount (providerId : String) : Nat :=
  (store.retained.toList.filter fun key => key.1 = providerId).length

def checkRetentionPolicy (retainedKey : ObjectKey) : Except BroadwebdError Unit := do
  if store.retentionBlockedProviders.contains service.providerId then
    throw (.unsupportedRequest
      s!"profile sync retention is blocked by local pinning policy for provider: {
        service.providerId}")
  match store.retentionQuotaByProvider[service.providerId]? with
  | some maxRetainedObjects =>
      if retainedKey ∉ store.retained ∧
          maxRetainedObjects ≤ retainedProviderObjectCount store service.providerId then
        .error (.unsupportedRequest
          s!"profile sync retention quota exceeded for provider {service.providerId}: max {
            maxRetainedObjects} retained objects")
      else .ok ()
  | none => .ok ()

def retainObject (profile objectId : String) :
    Except BroadwebdError (ProfileSyncResponse × ProfileSyncStore) := do
  validateProfile profile
  validateProfileSyncObjectId objectId
  service.requireAvailability
  service.requireObjectTransfer
  let key := (service.providerId, profile, objectId)
  service.checkRetentionPolicy store key
  match findOnlineObject store service.providerId profile objectId with
  | none =>
      .error (.unsupportedRequest s!"cannot retain unavailable profile sync object: {objectId}")
  | some bytes => do
      checkProfileSyncFixtureObjectCapacity store key
      pure (.retainObject objectId true,
        { store with
          objects := store.objects.insert key bytes
          retained := store.retained.insert key })

def releaseObject (profile objectId : String) :
    Except BroadwebdError (ProfileSyncResponse × ProfileSyncStore) := do
  validateProfile profile
  validateProfileSyncObjectId objectId
  service.requireAvailability
  pure (.releaseObject objectId false,
    { store with retained := store.retained.erase (service.providerId, profile, objectId) })

def listRetainedObjects (profile : String) : Except BroadwebdError ProfileSyncResponse := do
  validateProfile profile
  service.requireAvailability
  let own := store.retained.toList.filter fun key =>
    key.1 = service.providerId && key.2.1 = profile
  pure (.retainedObjects (own.map (·.2.2)))

def verifyRetainedObject (profile objectId : String) :
    Except BroadwebdError ProfileSyncResponse := do
  validateProfile profile
  validateProfileSyncObjectId objectId
  service.requireAvailability
  let retained := store.retained.contains (service.providerId, profile, objectId)
  let available :=
    if retained then providerHasObject store service.providerId profile objectId
    else (findOnlineObject store service.providerId profile objectId).isSome
  pure (.retainedObjectStatus objectId retained available)

end Objects

section Roots

/-- The next sequence is a `u64`, and to count past it panics: there is no result. -/
def publishRoot (profile rootId objectId : String) :
    Except BroadwebdError (Option (ProfileSyncResponse × ProfileSyncStore)) := do
  validateProfile profile
  validateProfileSyncRootId rootId
  validateProfileSyncObjectId objectId
  service.requireMutableRoots
  if !providerHasObject store service.providerId profile objectId then
    throw (.unsupportedRequest s!"cannot publish missing local profile sync object: {objectId}")
  let rootKey := (profile, rootId, service.providerId)
  checkProfileSyncFixtureRootCapacity store rootKey
  if store.nextRootSequence = u64Max then pure none
  else
    let publishSequence := store.nextRootSequence + 1
    let root : ProfileSyncRootState :=
      { objectId, publisherProviderId := service.providerId, publishSequence }
    pure (some (.root rootId (some objectId),
      { store with
        nextRootSequence := publishSequence
        roots := store.roots.insert rootKey root }))

def resolveRoot (profile rootId : String) : Except BroadwebdError ProfileSyncResponse := do
  validateProfile profile
  validateProfileSyncRootId rootId
  service.requireDiscovery
  let latest := latestVisibleRootCandidate store service.providerId profile rootId
  pure (.root rootId (latest.map (·.objectId)))

def listRootCandidates (profile rootId : String) :
    Except BroadwebdError ProfileSyncResponse := do
  validateProfile profile
  validateProfileSyncRootId rootId
  service.requireDiscovery
  pure (.rootCandidates rootId (visibleRootCandidates store service.providerId profile rootId))

/-- The health of a root that the checks have let through. -/
def rootHealthOf (profile rootId : String) (minimumOnlineRetainingProviders : Nat) :
    ProfileSyncRootHealth :=
  let candidates := visibleRootCandidates store service.providerId profile rootId
  let delayedCandidates := delayedRootCandidates store service.providerId profile rootId
  let latestObjectId := candidates.head?.map (·.objectId)
  let providers := (latestObjectId.map
    (latestObjectProviderAvailability store service.providerId profile)).getD {}
  let latestObjectAvailable := !providers.availableProviderIds.isEmpty
  let onlineRetainingProviders :=
    (latestObjectId.map (onlineRetainingProviderCount store profile)).getD 0
  let unavailable := (latestObjectId.map (unavailableRetainingProviderIds store profile)).getD []
  let (degraded, message) := profileSyncRootHealthMessage candidates.length
    delayedCandidates.length latestObjectAvailable providers.delayedProviderIds.length
    providers.staleProviderIds.length providers.offlineProviderIds.length
    onlineRetainingProviders minimumOnlineRetainingProviders
  { profile
    rootId
    visibleCandidates := candidates.length
    delayedCandidates := delayedCandidates.length
    delayedPublisherProviderIds := delayedCandidates.map (·.publisherProviderId)
    latestObjectId
    latestObjectAvailable
    latestObjectAvailableProviderIds := providers.availableProviderIds
    latestObjectStaleProviderIds := providers.staleProviderIds
    latestObjectOfflineProviderIds := providers.offlineProviderIds
    delayedObjectProviderIds := providers.delayedProviderIds
    unavailableRetainingProviderIds := unavailable
    onlineRetainingProviders
    minimumOnlineRetainingProviders
    degraded
    message }

def rootHealth (profile rootId : String) (minimumOnlineRetainingProviders : Nat) :
    Except BroadwebdError ProfileSyncResponse := do
  validateProfile profile
  validateProfileSyncRootId rootId
  service.requireDiscovery
  pure (.rootHealth (service.rootHealthOf store profile rootId minimumOnlineRetainingProviders))

end Roots

section Providers

/-- The providers that are online and seen lately, or the service itself in a store without
providers. -/
def discoveredProviders (profile : String) : List ProfileSyncProviderRecord :=
  if store.providers.isEmpty then
    [{ providerId := service.providerId
       providerKind := service.providerKind
       privacyBoundary := service.privacyBoundary
       retainedObjects := retainedObjectCount store service.providerId profile
       roles := service.roles
       canPublishRoots := service.roles.mutableRoots }]
  else
    let seen := store.providers.toList.filter fun (providerId, state) =>
      providerIsOnline store providerId state.roles && providerIsFresh store state.lastSeenSequence
    seen.map fun (providerId, state) =>
      { providerId
        providerKind := state.providerKind
        privacyBoundary := state.privacyBoundary
        retainedObjects := retainedObjectCount store providerId profile
        roles := state.roles
        canPublishRoots := state.roles.mutableRoots }

def discoverProviders (profile : String) : Except BroadwebdError ProfileSyncResponse := do
  validateProfile profile
  service.requireDiscovery
  pure (.providers (service.discoveredProviders store profile))

/-- The health of the providers that the checks have let through. -/
def providerHealthOf (profile : String) : ProfileSyncProviderHealth :=
  let providers := providerHealthEntries store service.providerId service.roles
  let online := providers.filter (·.online)
  let fresh := online.filter (·.fresh)
  let stale := online.filter (!·.fresh)
  let offline := providers.filter (!·.online)
  let objectTransferProviders := (fresh.filter (·.roles.objectTransfer)).length
  let availabilityProviders := (fresh.filter (·.roles.availability)).length
  let mutableRootProviders := (fresh.filter (·.roles.mutableRoots)).length
  let (degraded, message) := profileSyncHealthMessage online.length fresh.length
    objectTransferProviders availabilityProviders mutableRootProviders
  { profile
    knownProviders := providers.length
    onlineProviders := online.length
    offlineProviders := providers.length - online.length
    freshOnlineProviders := fresh.length
    staleOnlineProviders := stale.length
    freshOnlineProviderIds := fresh.map (·.providerId)
    staleOnlineProviderIds := stale.map (·.providerId)
    offlineProviderIds := offline.map (·.providerId)
    minimumProviderSeenSequence := store.minimumProviderSeenSequence
    objectTransferProviders
    availabilityProviders
    mutableRootProviders
    retainedObjects := (fresh.map fun provider =>
      retainedObjectCount store provider.providerId profile).foldl (· + ·) 0
    degraded
    message }

def providerHealth (profile : String) : Except BroadwebdError ProfileSyncResponse := do
  validateProfile profile
  service.requireDiscovery
  pure (.providerHealth (service.providerHealthOf store profile))

end Providers

end ProfileSyncService

section Requests

inductive ProfileSyncRequest where
  | putEncryptedObject (profile : String) (bytes : Bytes)
  | getEncryptedObject (profile objectId : String)
  | retainObject (profile objectId : String)
  | releaseObject (profile objectId : String)
  | listRetainedObjects (profile : String)
  | verifyRetainedObject (profile objectId : String)
  | publishRoot (profile rootId objectId : String)
  | resolveRoot (profile rootId : String)
  | listRootCandidates (profile rootId : String)
  | rootHealth (profile rootId : String) (minimumOnlineRetainingProviders : Nat)
  | discoverProviders (profile : String)
  | providerHealth (profile : String)

/-- `ApplicationServicePlugin::call` behind the checks of the provider. -/
def ProfileSyncService.handle (service : ProfileSyncService) (store : ProfileSyncStore)
    (maxProfileSyncObjectBytes : Nat) :
    ProfileSyncRequest → Except BroadwebdError (Option (ProfileSyncResponse × ProfileSyncStore))
  | .putEncryptedObject profile bytes =>
      (service.putObject store profile bytes maxProfileSyncObjectBytes).map some
  | .getEncryptedObject profile objectId =>
      (service.getObject store profile objectId maxProfileSyncObjectBytes).map
        fun response => some (response, store)
  | .retainObject profile objectId => (service.retainObject store profile objectId).map some
  | .releaseObject profile objectId => (service.releaseObject store profile objectId).map some
  | .listRetainedObjects profile =>
      (service.listRetainedObjects store profile).map fun response => some (response, store)
  | .verifyRetainedObject profile objectId =>
      (service.verifyRetainedObject store profile objectId).map
        fun response => some (response, store)
  | .publishRoot profile rootId objectId => service.publishRoot store profile rootId objectId
  | .resolveRoot profile rootId =>
      (service.resolveRoot store profile rootId).map fun response => some (response, store)
  | .listRootCandidates profile rootId =>
      (service.listRootCandidates store profile rootId).map fun response => some (response, store)
  | .rootHealth profile rootId minimumOnlineRetainingProviders =>
      (service.rootHealth store profile rootId minimumOnlineRetainingProviders).map
        fun response => some (response, store)
  | .discoverProviders profile =>
      (service.discoverProviders store profile).map fun response => some (response, store)
  | .providerHealth profile =>
      (service.providerHealth store profile).map fun response => some (response, store)

end Requests

section Fixture

/-- A service whose provider the fixture registers, unless its capacity is exceeded. -/
def localFixtureProvider (store : ProfileSyncStore) (providerId providerKind : String)
    (roles : ProfileSyncProviderRoles) : ProfileSyncService × ProfileSyncStore :=
  let service : ProfileSyncService :=
    { providerId, providerKind, privacyBoundary := localPrivacyBoundary, roles,
      registrationError := none }
  match checkProfileSyncFixtureProviderCapacity store providerId with
  | .error error => ({ service with registrationError := some error }, store)
  | .ok () =>
      let lastSeenSequence := nextProviderSeenSequence store
      let state : ProfileSyncProviderState :=
        { providerKind, privacyBoundary := localPrivacyBoundary, roles, lastSeenSequence }
      (service,
        { store with
          nextProviderSeenSequence := lastSeenSequence
          providers := store.providers.insert providerId state })

def requireKnownProfileSyncProvider (store : ProfileSyncStore) (providerId : String) :
    Except BroadwebdError Unit :=
  if providerId ∈ store.providers then .ok ()
  else .error (.unsupportedRequest s!"unknown profile sync provider: {providerId}")

/-- Puts an element into a set, or takes it out. -/
def setMember {Element : Type} [Ord Element] (isMember : Bool) (element : Element)
    (elements : Std.TreeSet Element) : Std.TreeSet Element :=
  if isMember then elements.insert element else elements.erase element

/-- The operations of a fixture on the store that its services share. -/
inductive FixtureOperation where
  | expireCurrentProviderFreshness
  | markProviderSeen (providerId : String)
  | setProviderOnline (providerId : String) (online : Bool)
  | setProviderRetentionAvailable (providerId : String) (available : Bool)
  | setProviderRetentionQuota (providerId : String) (maxRetainedObjects : Option Nat)
  | removeProviderObjectBytes (providerId profile objectId : String)
  | setProviderTransferAvailable (sourceProviderId targetProviderId : String) (available : Bool)
  | setProviderRootAvailable (sourceProviderId targetProviderId profile rootId : String)
      (available : Bool)

def FixtureOperation.apply (store : ProfileSyncStore) :
    FixtureOperation → Except BroadwebdError ProfileSyncStore
  | .expireCurrentProviderFreshness =>
      .ok { store with
        minimumProviderSeenSequence := min (store.nextProviderSeenSequence + 1) u64Max }
  | .markProviderSeen providerId =>
      match store.providers[providerId]? with
      | none => .error (.unsupportedRequest s!"unknown profile sync provider: {providerId}")
      | some state =>
          let lastSeenSequence := nextProviderSeenSequence store
          .ok { store with
            nextProviderSeenSequence := lastSeenSequence
            providers := store.providers.insert providerId { state with lastSeenSequence } }
  | .setProviderOnline providerId online => do
      requireKnownProfileSyncProvider store providerId
      pure { store with
        offlineProviders := setMember (!online) providerId store.offlineProviders }
  | .setProviderRetentionAvailable providerId available => do
      requireKnownProfileSyncProvider store providerId
      pure { store with
        retentionBlockedProviders :=
          setMember (!available) providerId store.retentionBlockedProviders }
  | .setProviderRetentionQuota providerId maxRetainedObjects => do
      requireKnownProfileSyncProvider store providerId
      pure { store with
        retentionQuotaByProvider :=
          match maxRetainedObjects with
          | some quota => store.retentionQuotaByProvider.insert providerId quota
          | none => store.retentionQuotaByProvider.erase providerId }
  | .removeProviderObjectBytes providerId profile objectId => do
      validateProfile profile
      validateProfileSyncObjectId objectId
      requireKnownProfileSyncProvider store providerId
      pure { store with objects := store.objects.erase (providerId, profile, objectId) }
  | .setProviderTransferAvailable sourceProviderId targetProviderId available => do
      requireKnownProfileSyncProvider store sourceProviderId
      requireKnownProfileSyncProvider store targetProviderId
      pure { store with
        delayedTransfers :=
          setMember (!available) (sourceProviderId, targetProviderId) store.delayedTransfers }
  | .setProviderRootAvailable sourceProviderId targetProviderId profile rootId available => do
      validateProfile profile
      validateProfileSyncRootId rootId
      requireKnownProfileSyncProvider store sourceProviderId
      requireKnownProfileSyncProvider store targetProviderId
      pure { store with
        delayedRoots := setMember (!available)
          (sourceProviderId, targetProviderId, profile, rootId) store.delayedRoots }

end Fixture

section Runs

/-- A store, the services that share it, and whether a fixture owns it. -/
structure LocalBackend where
  isFixture : Bool
  store : ProfileSyncStore
  services : List ProfileSyncService

/-- The service of a process on its own. -/
def LocalBackend.default : LocalBackend where
  isFixture := false
  store := .default
  services := [.default]

def LocalBackend.fixture (capacity : ProfileSyncFixtureCapacity) : LocalBackend where
  isFixture := true
  store := .withCapacity capacity
  services := []

inductive LocalEvent where
  | register (providerId providerKind : String) (roles : ProfileSyncProviderRoles)
  | request (service : Nat) (request : ProfileSyncRequest) (maxProfileSyncObjectBytes : Nat)
  | operate (operation : FixtureOperation)

/-- What an event leaves, unless it is refused. Whether the provider of a request is online is
asked under an earlier lock, so a request may come through behind its going offline. -/
def LocalBackend.take (backend : LocalBackend) : LocalEvent → Option LocalBackend
  | .register providerId providerKind roles =>
      if backend.isFixture then
        let (service, store) := localFixtureProvider backend.store providerId providerKind roles
        some { backend with store, services := backend.services ++ [service] }
      else none
  | .request index request maxProfileSyncObjectBytes =>
      match backend.services[index]? with
      | none => none
      | some service =>
          if service.registrationError.isSome then none
          else
            match service.handle backend.store maxProfileSyncObjectBytes request with
            | .ok (some (_, store)) => some { backend with store }
            | _ => none
  | .operate operation =>
      if backend.isFixture then
        match operation.apply backend.store with
        | .ok store => some { backend with store }
        | .error _ => none
      else none

/-- The backends that a run reaches. -/
inductive LocalReachable : LocalBackend → Prop where
  | default : LocalReachable .default
  | fixture (capacity : ProfileSyncFixtureCapacity) : LocalReachable (.fixture capacity)
  | step {backend next : LocalBackend} (event : LocalEvent) (reachable : LocalReachable backend)
      (takes : backend.take event = some next) : LocalReachable next

/-- Takes events one after the other. -/
def LocalBackend.takeAll (backend : LocalBackend) : List LocalEvent → Option LocalBackend
  | [] => some backend
  | event :: events => (backend.take event).bind fun next => next.takeAll events

theorem LocalReachable.takeAll {backend next : LocalBackend} {events : List LocalEvent}
    (reachable : LocalReachable backend) (takes : backend.takeAll events = some next) :
    LocalReachable next := by
  induction events generalizing backend with
  | nil =>
      cases takes
      exact reachable
  | cons event events inductionHypothesis =>
      obtain ⟨middle, takesFirst, takesOthers⟩ := Option.bind_eq_some_iff.mp takes
      exact inductionHypothesis (.step event reachable takesFirst) takesOthers

end Runs

end Slate.Broadwebd.Local
