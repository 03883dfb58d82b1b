import Slate.Foundation.Rows
import Slate.Foundation.SharedTable
import Slate.Broadwebd.KuboNode

/-!
# Profile sync over a Kubo node

The service keeps its own tables by provider, profile and object, and asks the node by object
and by root alone.
-/

namespace Slate.Broadwebd

open Foundation

/-- The largest value of a `u64`. -/
def u64Max : Nat := 18446744073709551615

section Validation

def validateProfile (profile : String) : Except BroadwebdError Unit :=
  if profile ≠ "" ∧ profile.toList.all fun char => char.isAlphanum || char = '-' || char = '_' then
    .ok ()
  else .error (.invalidProfile profile)

def isRootIdChar (char : Char) : Bool :=
  char.isAlphanum || char = '-' || char = '_' || char = '.' || char = '/'

/-- A path segment that is neither empty nor begins with a dot, as `.` and `..` do. -/
def isRootIdSegment (segment : List Char) : Bool :=
  !segment.isEmpty && segment.head? != some '.'

def validateProfileSyncRootId (rootId : String) : Except BroadwebdError Unit :=
  if rootId ≠ "" ∧ rootId.utf8ByteSize ≤ 256 ∧ rootId.toList.all isRootIdChar ∧
      (rootId.toList.splitOn '/').all isRootIdSegment then .ok ()
  else .error (.unsupportedRequest "invalid profile sync root id")

def isObjectIdChar (char : Char) : Bool :=
  0x21 ≤ char.toNat && char.toNat ≤ 0x7E && !"\\'\"<>\x60".toList.contains char

def validateProfileSyncObjectId (objectId : String) : Except BroadwebdError Unit :=
  if objectId ≠ "" ∧ objectId.utf8ByteSize ≤ 2048 ∧ objectId.toList.all isObjectIdChar then .ok ()
  else .error (.unsupportedRequest "invalid profile sync object id")

end Validation

structure ProfileSyncProviderRoles where
  discovery : Bool
  connectivity : Bool
  objectTransfer : Bool
  availability : Bool
  mutableRoots : Bool

def ProfileSyncProviderRoles.loggedInDevice : ProfileSyncProviderRoles where
  discovery := true
  connectivity := true
  objectTransfer := true
  availability := true
  mutableRoots := true

/-- The provider, the profile and the object of an entry. -/
abbrev ObjectKey := String × String × String

structure ProfileSyncRootState where
  profile : String
  rootId : String
  objectId : String
  publisherProviderId : String
  publishSequence : Nat

def ProfileSyncRootState.key (root : ProfileSyncRootState) : ObjectKey :=
  (root.profile, root.rootId, root.publisherProviderId)

structure ProfileSyncStore where
  maxObjects : Option Nat
  maxRoots : Option Nat
  objects : List ObjectKey
  retained : List ObjectKey
  roots : List ProfileSyncRootState
  nextRootSequence : Nat

structure ProfileSyncService where
  providerId : String
  roles : ProfileSyncProviderRoles
  maxProfileSyncObjectBytes : Nat

/-- A service that talks to a Kubo node acts as a device that is logged in. -/
def kuboService (providerId : String) (maxProfileSyncObjectBytes : Nat) : ProfileSyncService where
  providerId := providerId
  roles := .loggedInDevice
  maxProfileSyncObjectBytes := maxProfileSyncObjectBytes

section Capacity

def checkNewObjectCapacity (store : ProfileSyncStore) : Except BroadwebdError Unit :=
  let retainedWithoutBytes := store.retained.filter fun key => !store.objects.contains key
  let objectReferenceCount := store.objects.length + retainedWithoutBytes.length
  match store.maxObjects with
  | some maxObjects =>
    if maxObjects ≤ objectReferenceCount then
      .error (.unsupportedRequest
        s!"profile sync fixture object capacity exceeded: max {maxObjects} object refs")
    else .ok ()
  | none => .ok ()

def checkObjectCapacity (store : ProfileSyncStore) (key : ObjectKey) : Except BroadwebdError Unit :=
  if key ∈ store.objects ∨ key ∈ store.retained then .ok () else checkNewObjectCapacity store

def checkRootCapacity (store : ProfileSyncStore) (key : ObjectKey) : Except BroadwebdError Unit :=
  if key ∈ store.roots.map ProfileSyncRootState.key then .ok ()
  else
    match store.maxRoots with
    | some maxRoots =>
      if maxRoots ≤ store.roots.length then
        .error (.unsupportedRequest
          s!"profile sync fixture root capacity exceeded: max {maxRoots} roots")
      else .ok ()
    | none => .ok ()

end Capacity

/-- The requests that only report on the service's own tables. -/
inductive ProfileSyncReport where
  | rootCandidates (rootId : String)
  | providers
  | providerHealth
  | rootHealth (rootId : String) (minimumOnlineRetainingProviders : Nat)

inductive ProfileSyncRequest where
  | putEncryptedObject (profile : String) (bytes : Bytes)
  | getEncryptedObject (profile objectId : String)
  | retainObject (profile objectId : String)
  | releaseObject (profile objectId : String)
  | listRetainedObjects (profile : String)
  | verifyRetainedObject (profile objectId : String)
  | publishRoot (profile rootId objectId : String)
  | resolveRoot (profile rootId : String)
  | report (profile : String) (report : ProfileSyncReport)

inductive ProfileSyncResponse where
  | putEncryptedObject (objectId : String)
  | getEncryptedObject (objectId : String) (bytes : Bytes)
  | retainObject (objectId : String) (retained : Bool)
  | releaseObject (objectId : String) (retained : Bool)
  | retainedObjects (objectIds : List String)
  | retainedObjectStatus (objectId : String) (retained available : Bool)
  | root (rootId : String) (objectId : Option String)
  | reported
  deriving DecidableEq

/-- A service's tables and the node it talks to. -/
structure KuboBacked where
  store : ProfileSyncStore
  node : KuboNode

section Requests

variable (behaviour : KuboBehaviour) (service : ProfileSyncService) (backed : KuboBacked)

def requireRole (enabled : Bool) (role : String) : Except BroadwebdError Unit :=
  if enabled then .ok ()
  else .error (.unsupportedRequest
    s!"profile sync provider lacks {role} role: {service.providerId}")

def requireAvailability : Except BroadwebdError Unit :=
  requireRole service service.roles.availability "profile-sync/availability"

def requireObjectTransfer : Except BroadwebdError Unit :=
  requireRole service service.roles.objectTransfer "profile-sync/object-transfer"

def requireDiscovery : Except BroadwebdError Unit :=
  requireRole service service.roles.discovery "profile-sync/provider-discovery"

def requireMutableRoots : Except BroadwebdError Unit :=
  requireRole service service.roles.mutableRoots "profile-sync/mutable-root"

/-- The bytes are on the node even where the answer to the request is an error. -/
def putEncryptedObject (profile : String) (bytes : Bytes) :
    Except BroadwebdError ProfileSyncResponse × KuboBacked :=
  let checks : Except BroadwebdError Unit := do
    validateProfile profile
    requireObjectTransfer service
    checkNewObjectCapacity backed.store
  match checks with
  | .error error => (.error error, backed)
  | .ok () =>
    let (added, node) :=
      kuboPutEncryptedObject behaviour backed.node service.maxProfileSyncObjectBytes bytes
    match added with
    | .error error => (.error error, { backed with node })
    | .ok objectId =>
      let key := (service.providerId, profile, objectId)
      match checkObjectCapacity backed.store key with
      | .error error => (.error error, { backed with node })
      | .ok () =>
        (.ok (.putEncryptedObject objectId),
          { store := { backed.store with objects := backed.store.objects.insert key }, node })

def getEncryptedObject (profile objectId : String) : Except BroadwebdError ProfileSyncResponse := do
  validateProfile profile
  validateProfileSyncObjectId objectId
  requireObjectTransfer service
  let bytes ← kuboGetEncryptedObject behaviour backed.node service.maxProfileSyncObjectBytes objectId
  if service.maxProfileSyncObjectBytes < bytes.length then
    .error (.responseTooLarge service.maxProfileSyncObjectBytes bytes.length)
  else .ok (.getEncryptedObject objectId bytes)

/-- The service checks its capacity again behind the node's answer, on tables that the request
did not change in between. -/
def retainObject (profile objectId : String) :
    Except BroadwebdError (ProfileSyncResponse × KuboBacked) := do
  validateProfile profile
  validateProfileSyncObjectId objectId
  requireAvailability service
  requireObjectTransfer service
  let key := (service.providerId, profile, objectId)
  checkObjectCapacity backed.store key
  let node ← kuboRetainObject behaviour backed.node objectId
  checkObjectCapacity backed.store key
  .ok (.retainObject objectId true,
    { store := { backed.store with retained := backed.store.retained.insert key }, node })

def releaseObject (profile objectId : String) :
    Except BroadwebdError (ProfileSyncResponse × KuboBacked) := do
  validateProfile profile
  validateProfileSyncObjectId objectId
  requireAvailability service
  let node ← kuboReleaseObject behaviour backed.node objectId
  let key := (service.providerId, profile, objectId)
  .ok (.releaseObject objectId false,
    { store := { backed.store with retained := backed.store.retained.erase key }, node })

def listRetainedObjects (profile : String) : Except BroadwebdError ProfileSyncResponse := do
  validateProfile profile
  requireAvailability service
  let own := backed.store.retained.filter fun key =>
    key.1 = service.providerId && key.2.1 = profile
  .ok (.retainedObjects
    ((own.map fun key => key.2.2).mergeSort fun first second => decide (first ≤ second)))

def verifyRetainedObject (profile objectId : String) :
    Except BroadwebdError (ProfileSyncResponse × KuboBacked) := do
  validateProfile profile
  validateProfileSyncObjectId objectId
  requireAvailability service
  let retained ← kuboVerifyRetainedObject behaviour backed.node objectId
  let key := (service.providerId, profile, objectId)
  let entries :=
    if retained then backed.store.retained.insert key else backed.store.retained.erase key
  .ok (.retainedObjectStatus objectId retained retained,
    { backed with store := { backed.store with retained := entries } })

def publishRoot (profile rootId objectId : String) :
    Except BroadwebdError (ProfileSyncResponse × KuboBacked) := do
  validateProfile profile
  validateProfileSyncRootId rootId
  validateProfileSyncObjectId objectId
  requireMutableRoots service
  let key := (profile, rootId, service.providerId)
  checkRootCapacity backed.store key
  let node ← kuboPublishRoot behaviour backed.node rootId objectId
  checkRootCapacity backed.store key
  let publishSequence := min (backed.store.nextRootSequence + 1) u64Max
  let root : ProfileSyncRootState := {
    profile, rootId, objectId, publisherProviderId := service.providerId, publishSequence }
  let roots := Rows.upsert ProfileSyncRootState.key (fun _ new => new) root backed.store.roots
  .ok (.root rootId (some objectId),
    { store := { backed.store with roots, nextRootSequence := publishSequence }, node })

def resolveRoot (profile rootId : String) : Except BroadwebdError ProfileSyncResponse := do
  validateProfile profile
  validateProfileSyncRootId rootId
  requireDiscovery service
  let objectId ← kuboResolveRoot behaviour backed.node rootId
  .ok (.root rootId (some objectId))

def reportOf (profile : String) (report : ProfileSyncReport) :
    Except BroadwebdError ProfileSyncResponse := do
  validateProfile profile
  match report with
  | .rootCandidates rootId | .rootHealth rootId _ => validateProfileSyncRootId rootId
  | .providers | .providerHealth => .ok ()
  requireDiscovery service
  .ok .reported

/-- An answer with the state it leaves; an error leaves the state as it was. -/
def answered (result : Except BroadwebdError (ProfileSyncResponse × KuboBacked)) :
    Except BroadwebdError ProfileSyncResponse × KuboBacked :=
  match result with
  | .error error => (.error error, backed)
  | .ok (response, next) => (.ok response, next)

def kuboProfileSyncViaExecutor :
    ProfileSyncRequest → Except BroadwebdError ProfileSyncResponse × KuboBacked
  | .putEncryptedObject profile bytes => putEncryptedObject behaviour service backed profile bytes
  | .getEncryptedObject profile objectId =>
    (getEncryptedObject behaviour service backed profile objectId, backed)
  | .retainObject profile objectId =>
    answered backed (retainObject behaviour service backed profile objectId)
  | .releaseObject profile objectId =>
    answered backed (releaseObject behaviour service backed profile objectId)
  | .listRetainedObjects profile => (listRetainedObjects service backed profile, backed)
  | .verifyRetainedObject profile objectId =>
    answered backed (verifyRetainedObject behaviour service backed profile objectId)
  | .publishRoot profile rootId objectId =>
    answered backed (publishRoot behaviour service backed profile rootId objectId)
  | .resolveRoot profile rootId =>
    (resolveRoot behaviour service backed profile rootId, backed)
  | .report profile report => (reportOf service profile report, backed)

end Requests

end Slate.Broadwebd
