import Slate.Foundation.Statements
import Slate.Broadwebd.LocalRuns

/-!
# Requests under the lock of the store

A service answers a request by statements that check, read and write the store it has locked.
Nothing undoes what they wrote before a failure. They write only behind all their checks, so
they do what the transactions of the service do.
-/

namespace Slate.Broadwebd.Local

open Slate.Foundation

attribute [local instance] lexOrd

inductive RequestFailure where
  | error (error : BroadwebdError)
  /-- To count past a `u64` panics. -/
  | overflow

abbrev StoreStatements := EStateM RequestFailure ProfileSyncStore

/-- A check, or a reading that may fail. -/
def checked {α : Type} (result : Except BroadwebdError α) : StoreStatements α :=
  MonadExcept.ofExcept (result.mapError RequestFailure.error)

namespace ProfileSyncService

variable (service : ProfileSyncService)

def ensureRegistered : Except BroadwebdError Unit :=
  match service.registrationError with
  | some error => .error error
  | none => .ok ()

def ensureOnline (store : ProfileSyncStore) : Except BroadwebdError Unit :=
  if store.offlineProviders.contains service.providerId then
    .error (.request s!"profile sync provider is offline: {service.providerId}")
  else service.requireRole service.roles.connectivity "profile-sync/local-connectivity"

section Writing

def putObjectStatements (profile : String) (bytes : Bytes) (maxProfileSyncObjectBytes : Nat) :
    StoreStatements ProfileSyncResponse := do
  checked (validateProfile profile)
  checked service.requireObjectTransfer
  checked (validateObjectBudget bytes.length maxProfileSyncObjectBytes)
  let objectId := localObjectId bytes
  let objectKey := (service.providerId, profile, objectId)
  checked (checkProfileSyncFixtureObjectCapacity (← get) objectKey)
  modify fun store => { store with objects := store.objects.insert objectKey bytes }
  pure (.putEncryptedObject objectId)

def retainObjectStatements (profile objectId : String) :
    StoreStatements ProfileSyncResponse := do
  checked (validateProfile profile)
  checked (validateProfileSyncObjectId objectId)
  checked service.requireAvailability
  checked service.requireObjectTransfer
  let key := (service.providerId, profile, objectId)
  checked (service.checkRetentionPolicy (← get) key)
  match findOnlineObject (← get) service.providerId profile objectId with
  | none =>
      throw (.error (.unsupportedRequest
        s!"cannot retain unavailable profile sync object: {objectId}"))
  | some bytes =>
      checked (checkProfileSyncFixtureObjectCapacity (← get) key)
      modify fun store => { store with objects := store.objects.insert key bytes }
      modify fun store => { store with retained := store.retained.insert key }
      pure (.retainObject objectId true)

def releaseObjectStatements (profile objectId : String) :
    StoreStatements ProfileSyncResponse := do
  checked (validateProfile profile)
  checked (validateProfileSyncObjectId objectId)
  checked service.requireAvailability
  modify fun store =>
    { store with retained := store.retained.erase (service.providerId, profile, objectId) }
  pure (.releaseObject objectId false)

def publishRootStatements (profile rootId objectId : String) :
    StoreStatements ProfileSyncResponse := do
  checked (validateProfile profile)
  checked (validateProfileSyncRootId rootId)
  checked (validateProfileSyncObjectId objectId)
  checked service.requireMutableRoots
  if !providerHasObject (← get) service.providerId profile objectId then
    throw (.error (.unsupportedRequest
      s!"cannot publish missing local profile sync object: {objectId}"))
  let rootKey := (profile, rootId, service.providerId)
  checked (checkProfileSyncFixtureRootCapacity (← get) rootKey)
  if (← get).nextRootSequence = u64Max then throw .overflow
  modify fun store => { store with nextRootSequence := store.nextRootSequence + 1 }
  let publishSequence := (← get).nextRootSequence
  let root : ProfileSyncRootState :=
    { objectId, publisherProviderId := service.providerId, publishSequence }
  modify fun store => { store with roots := store.roots.insert rootKey root }
  pure (.root rootId (some objectId))

end Writing

/-- `ApplicationServicePlugin::call`. -/
def call (maxProfileSyncObjectBytes : Nat) (request : ProfileSyncRequest) :
    StoreStatements ProfileSyncResponse := do
  checked service.ensureRegistered
  checked (service.ensureOnline (← get))
  match request with
  | .putEncryptedObject profile bytes =>
      service.putObjectStatements profile bytes maxProfileSyncObjectBytes
  | .getEncryptedObject profile objectId =>
      checked (service.getObject (← get) profile objectId maxProfileSyncObjectBytes)
  | .retainObject profile objectId => service.retainObjectStatements profile objectId
  | .releaseObject profile objectId => service.releaseObjectStatements profile objectId
  | .listRetainedObjects profile => checked (service.listRetainedObjects (← get) profile)
  | .verifyRetainedObject profile objectId =>
      checked (service.verifyRetainedObject (← get) profile objectId)
  | .publishRoot profile rootId objectId =>
      service.publishRootStatements profile rootId objectId
  | .resolveRoot profile rootId => checked (service.resolveRoot (← get) profile rootId)
  | .listRootCandidates profile rootId =>
      checked (service.listRootCandidates (← get) profile rootId)
  | .discoverProviders profile => checked (service.discoverProviders (← get) profile)
  | .providerHealth profile => checked (service.providerHealth (← get) profile)
  | .rootHealth profile rootId minimumOnlineRetainingProviders =>
      checked (service.rootHealth (← get) profile rootId minimumOnlineRetainingProviders)

end ProfileSyncService

section Transactions

variable {α β : Type} {store next : ProfileSyncStore}

/-- What is left of a store that a transaction changes only if it succeeds. -/
def outcome (store : ProfileSyncStore) :
    Except BroadwebdError (Option (α × ProfileSyncStore)) →
      EStateM.Result RequestFailure ProfileSyncStore α
  | .ok (some (value, next)) => .ok value next
  | .ok none => .error .overflow store
  | .error failure => .error (.error failure) store

theorem outcome_eq_ok_iff {value : α}
    {result : Except BroadwebdError (Option (α × ProfileSyncStore))} :
    outcome store result = .ok value next ↔ result = .ok (some (value, next)) := by
  cases result with
  | error failure => simp [outcome]
  | ok result => cases result <;> simp [outcome, Prod.ext_iff]

theorem eq_of_outcome_eq_error {failure : RequestFailure}
    {result : Except BroadwebdError (Option (α × ProfileSyncStore))}
    (fails : outcome store result = .error failure next) : next = store := by
  cases result with
  | error error =>
      cases fails
      rfl
  | ok result =>
      cases result with
      | none =>
          cases fails
          rfl
      | some result => cases fails

theorem run_checked_bind {result : Except BroadwebdError α} {rest : α → StoreStatements β}
    {transaction : α → Except BroadwebdError (Option (β × ProfileSyncStore))}
    (runs : ∀ value, result = .ok value →
      (rest value).run store = outcome store (transaction value)) :
    (checked result >>= rest).run store = outcome store (result >>= transaction) := by
  cases result with
  | error failure => rfl
  | ok value => exact runs value rfl

theorem run_get_bind {rest : ProfileSyncStore → StoreStatements β} :
    (get >>= rest).run store = (rest store).run store := rfl

/-- A reading writes nothing. -/
theorem run_checked {result : Except BroadwebdError α} :
    (checked result).run store = outcome store (result.map fun value => some (value, store)) := by
  cases result <;> rfl

end Transactions

section Requests

variable {service : ProfileSyncService} {store next : ProfileSyncStore}
  {profile rootId objectId : String} {bytes : Bytes} {maxProfileSyncObjectBytes : Nat}
  {request : ProfileSyncRequest}

theorem run_putObjectStatements :
    (service.putObjectStatements profile bytes maxProfileSyncObjectBytes).run store =
      outcome store ((service.putObject store profile bytes maxProfileSyncObjectBytes).map some) := by
  unfold ProfileSyncService.putObject
  simp only [map_bind]
  apply run_checked_bind
  intro _ _
  apply run_checked_bind
  intro _ _
  apply run_checked_bind
  intro _ _
  apply run_checked_bind
  intro _ _
  rfl

theorem run_retainObjectStatements :
    (service.retainObjectStatements profile objectId).run store =
      outcome store ((service.retainObject store profile objectId).map some) := by
  unfold ProfileSyncService.retainObject
  simp only [map_bind]
  apply run_checked_bind
  intro _ _
  apply run_checked_bind
  intro _ _
  apply run_checked_bind
  intro _ _
  apply run_checked_bind
  intro _ _
  apply run_checked_bind
  intro _ _
  rw [run_get_bind]
  cases findOnlineObject store service.providerId profile objectId with
  | none => rfl
  | some bytes =>
      simp only [map_bind]
      apply run_checked_bind
      intro _ _
      rfl

theorem run_releaseObjectStatements :
    (service.releaseObjectStatements profile objectId).run store =
      outcome store ((service.releaseObject store profile objectId).map some) := by
  unfold ProfileSyncService.releaseObject
  simp only [map_bind]
  apply run_checked_bind
  intro _ _
  apply run_checked_bind
  intro _ _
  apply run_checked_bind
  intro _ _
  rfl

theorem run_publishRootStatements :
    (service.publishRootStatements profile rootId objectId).run store =
      outcome store (service.publishRoot store profile rootId objectId) := by
  unfold ProfileSyncService.publishRoot
  apply run_checked_bind
  intro _ _
  apply run_checked_bind
  intro _ _
  apply run_checked_bind
  intro _ _
  apply run_checked_bind
  intro _ _
  rw [run_get_bind]
  dsimp only
  by_cases missing : (!providerHasObject store service.providerId profile objectId) = true
  · rw [if_pos missing, if_pos missing]
    rfl
  · rw [if_neg missing, if_neg missing]
    apply run_checked_bind
    intro _ _
    rw [run_get_bind]
    by_cases last : store.nextRootSequence = u64Max
    · rw [if_pos last, if_pos last]
      rfl
    · rw [if_neg last, if_neg last]
      rfl

/-- The statements of a request do what its transaction does. -/
theorem run_call :
    (service.call maxProfileSyncObjectBytes request).run store =
      outcome store (do
        service.ensureRegistered
        service.ensureOnline store
        service.handle store maxProfileSyncObjectBytes request) := by
  apply run_checked_bind
  intro _ _
  apply run_checked_bind
  intro _ _
  cases request with
  | putEncryptedObject profile bytes => exact run_putObjectStatements
  | retainObject profile objectId => exact run_retainObjectStatements
  | releaseObject profile objectId => exact run_releaseObjectStatements
  | publishRoot profile rootId objectId => exact run_publishRootStatements
  | getEncryptedObject | listRetainedObjects | verifyRetainedObject | resolveRoot
  | listRootCandidates | rootHealth | discoverProviders | providerHealth => exact run_checked

theorem call_eq_ok_iff {response : ProfileSyncResponse} :
    (service.call maxProfileSyncObjectBytes request).run store = .ok response next ↔
      service.ensureRegistered = .ok () ∧ service.ensureOnline store = .ok () ∧
        service.handle store maxProfileSyncObjectBytes request = .ok (some (response, next)) := by
  rw [run_call, outcome_eq_ok_iff, unit_bind_eq_ok_iff, unit_bind_eq_ok_iff]

/-- A request that fails leaves the store as it was. -/
theorem eq_of_call_eq_error {failure : RequestFailure}
    (fails : (service.call maxProfileSyncObjectBytes request).run store = .error failure next) :
    next = store := by
  rw [run_call] at fails
  exact eq_of_outcome_eq_error fails

end Requests

end Slate.Broadwebd.Local
