import Slate.Foundation.Reader
import Slate.Foundation.SharedTable
import Slate.Broadwebd.LocalCapacity
import Slate.Broadwebd.RootHealth

/-!
# Objects by their ids

An object is found by its length and a hash of its bytes, in the copy of any provider. What is
found is what was put as long as no profile puts different bytes under one id.
-/

namespace Slate.Broadwebd.Local

open Slate.Foundation Slate.Foundation.Reader

attribute [local instance] lexOrd

section Ids

variable {bytes : Bytes} {char : Char}

theorem isObjectIdChar_of_isDigitOf {radix : Nat} (isDigit : isDigitOf radix char = true) :
    isObjectIdChar char = true := by
  have alphanum : char.isAlphanum = true := by
    simp only [isDigitOf, Bool.and_eq_true, Bool.or_eq_true, decide_eq_true_eq, Char.le_def] at isDigit
    rw [Text.isAlphanum_iff, Text.isUpper_iff, Text.isLower_iff]
    rcases isDigit.1 with (digit | lower) | upper
    · exact .inr (.inr digit)
    · exact .inr (.inl lower)
    · exact .inl upper
  have bounds := Text.isAlphanum_bounds alphanum
  have noneQuotes : ("\\'\"<>\x60".toList.all fun quote => !quote.isAlphanum) = true := by decide
  have plain : char ∉ "\\'\"<>\x60".toList := by
    intro isMember
    have notAlphanum := List.all_eq_true.mp noneQuotes char isMember
    rw [alphanum] at notAlphanum
    cases notAlphanum
  have inRange : 0x21 ≤ char.toNat ∧ char.toNat ≤ 0x7E := by omega
  unfold isObjectIdChar
  simpa [inRange] using plain

theorem length_hex16 (value : UInt64) : (hex16 value).toList.length = 16 := by
  have short : (Nat.toDigits 16 value.toNat).length ≤ 16 :=
    (Nat.length_toDigits_le_iff (by decide) (by decide)).mpr value.toNat_lt
  unfold hex16
  simp only [String.toList_ofList, List.length_append, List.length_replicate]
  omega

theorem isObjectIdChar_hex16 (value : UInt64) : (hex16 value).toList.all isObjectIdChar = true := by
  rw [List.all_eq_true]
  intro char isMember
  unfold hex16 at isMember
  simp only [String.toList_ofList] at isMember
  rcases List.mem_append.mp isMember with isZero | isDigit
  · rw [(List.mem_replicate.mp isZero).2]
    decide
  · exact isObjectIdChar_of_isDigitOf
      (isDigitOf_of_mem_toDigits (by decide) (by decide) char isDigit)

/-- The id of bytes that fit into memory is an object id. -/
theorem validateProfileSyncObjectId_localObjectId (fits : bytes.length < 2 ^ 64) :
    validateProfileSyncObjectId (localObjectId bytes) = .ok () := by
  have digits : (toString bytes.length).toList = Nat.toDigits 10 bytes.length := Nat.toList_repr
  have isText : (localObjectId bytes).toList = "local-broadweb-object:v1:".toList ++
      Nat.toDigits 10 bytes.length ++ ":".toList ++ (hex16 (localObjectHash bytes)).toList := by
    unfold localObjectId
    rw [String.toList_append, String.toList_append, String.toList_append, digits]
  have fewDigits : (Nat.toDigits 10 bytes.length).length ≤ 20 :=
    (Nat.length_toDigits_le_iff (by decide) (by decide)).mpr (by omega)
  have short : (localObjectId bytes).toList.length ≤ 62 := by
    rw [isText]
    simp only [List.length_append, length_hex16]
    have atStart : "local-broadweb-object:v1:".toList.length = 25 := by decide
    have atColon : ":".toList.length = 1 := by decide
    omega
  have size := Text.utf8ByteSize_ofList_le (localObjectId bytes).toList
  rw [String.ofList_toList] at size
  unfold validateProfileSyncObjectId
  rw [if_pos]
  refine ⟨?_, by omega, ?_⟩
  · intro empty
    rw [empty] at isText
    have lengths := congrArg List.length isText
    simp at lengths
  · rw [isText, List.all_append, List.all_append, List.all_append, isObjectIdChar_hex16]
    have ofDigits : (Nat.toDigits 10 bytes.length).all isObjectIdChar = true :=
      List.all_eq_true.mpr fun char isMember => isObjectIdChar_of_isDigitOf
        (isDigitOf_of_mem_toDigits (by decide) (by decide) char isMember)
    rw [ofDigits]
    decide

end Ids

section Runs

/-- What is asked of a local store whose providers can all be reached: registrations, of every
provider under its own roles, and requests. -/
inductive UseEvent where
  | register (providerId providerKind : String)
  | request (index : Nat) (request : ProfileSyncRequest) (maxProfileSyncObjectBytes : UInt64)

/-- Bytes that were put into a profile, and the id that was returned for them. -/
structure PutRecord where
  profile : String
  objectId : String
  bytes : Bytes

structure UsedStore where
  backend : LocalBackend
  puts : List PutRecord

def UseEvent.toLocalEvent (rolesOf : String → ProfileSyncProviderRoles) : UseEvent → LocalEvent
  | .register providerId providerKind => .register providerId providerKind (rolesOf providerId)
  | .request index asked maxProfileSyncObjectBytes =>
      .request index asked maxProfileSyncObjectBytes.toNat

/-- What an event puts, once the service has returned an id. -/
def UsedStore.putBy (used : UsedStore) : UseEvent → List PutRecord
  | .request index (ProfileSyncRequest.putEncryptedObject profile bytes)
      maxProfileSyncObjectBytes =>
      match used.backend.services[index]? with
      | none => []
      | some service =>
          match (service.call maxProfileSyncObjectBytes.toNat
              (.putEncryptedObject profile bytes)).run used.backend.store with
          | .ok (.putEncryptedObject objectId) _ => [{ profile, objectId, bytes }]
          | _ => []
  | _ => []

def UsedStore.next (rolesOf : String → ProfileSyncProviderRoles) (used : UsedStore)
    (event : UseEvent) : UsedStore where
  backend := used.backend.next (event.toLocalEvent rolesOf)
  puts := used.putBy event ++ used.puts

/-- A request for the id of bytes that were put is only ever answered with these bytes, and it is
answered if the service may fetch objects and the budget has room for the bytes. -/
structure GetsBack (used : UsedStore) : Prop where
  answers : ∀ put ∈ used.puts, ∀ service ∈ used.backend.services,
    ∀ maxProfileSyncObjectBytes response next,
      (service.call maxProfileSyncObjectBytes
        (.getEncryptedObject put.profile put.objectId)).run used.backend.store =
          .ok response next → response = .getEncryptedObject put.objectId put.bytes
  answered : ∀ put ∈ used.puts, ∀ service ∈ used.backend.services,
    service.registrationError = none → service.roles.connectivity = true →
      service.roles.objectTransfer = true →
        ∀ maxProfileSyncObjectBytes, put.bytes.length ≤ maxProfileSyncObjectBytes →
          (service.call maxProfileSyncObjectBytes
            (.getEncryptedObject put.profile put.objectId)).run used.backend.store =
              .ok (.getEncryptedObject put.objectId put.bytes) used.backend.store

/-- What a service asks of bytes that are put. -/
structure AcceptsPut (service : ProfileSyncService) (store : ProfileSyncStore) (profile : String)
    (bytes : Bytes) (maxProfileSyncObjectBytes : Nat) : Prop where
  isRegistered : service.ensureRegistered = .ok ()
  isOnline : service.ensureOnline store = .ok ()
  isProfile : validateProfile profile = .ok ()
  transfers : service.requireObjectTransfer = .ok ()
  inBudget : validateObjectBudget bytes.length maxProfileSyncObjectBytes = .ok ()
  hasRoom : checkProfileSyncFixtureObjectCapacity store
    (service.providerId, profile, localObjectId bytes) = .ok ()

/-- Bytes that a service accepts have another id than all other bytes that were put into the
profile: another length, or another hash. -/
def DistinguishesPut (used : UsedStore) (event : UseEvent) : Prop :=
  ∀ index profile bytes maxProfileSyncObjectBytes service,
    event = .request index (.putEncryptedObject profile bytes) maxProfileSyncObjectBytes →
      used.backend.services[index]? = some service →
        AcceptsPut service used.backend.store profile bytes maxProfileSyncObjectBytes.toNat →
          ∀ put ∈ used.puts, put.profile = profile →
            put.objectId = localObjectId bytes → put.bytes = bytes

/-- The store of a process on its own, or of a fixture with a capacity, whose providers have the
roles that they have. -/
inductive LocalStart where
  | process
  | fixture (capacity : ProfileSyncFixtureCapacity)
      (rolesOf : String → ProfileSyncProviderRoles)

def LocalStart.rolesOf : LocalStart → String → ProfileSyncProviderRoles
  | .process => fun _ => .loggedInDevice
  | .fixture _ rolesOf => rolesOf

def LocalStart.used : LocalStart → UsedStore
  | .process => { backend := .default, puts := [] }
  | .fixture capacity _ => { backend := .fixture capacity, puts := [] }

end Runs

section Requests

variable {service : ProfileSyncService} {store next : ProfileSyncStore} {profile objectId : String}
  {bytes : Bytes} {maxProfileSyncObjectBytes : Nat} {request : ProfileSyncRequest}
  {response : ProfileSyncResponse}

theorem call_put_eq_ok_iff :
    (service.call maxProfileSyncObjectBytes (.putEncryptedObject profile bytes)).run store =
        .ok response next ↔
      AcceptsPut service store profile bytes maxProfileSyncObjectBytes ∧
        response = .putEncryptedObject (localObjectId bytes) ∧
        next = { store with
          objects := store.objects.insert (service.providerId, profile, localObjectId bytes)
            bytes } := by
  rw [call_eq_ok_iff]
  have isPut : service.handle store maxProfileSyncObjectBytes (.putEncryptedObject profile bytes) =
      .ok (some (response, next)) ↔
        service.putObject store profile bytes maxProfileSyncObjectBytes = .ok (response, next) := by
    unfold ProfileSyncService.handle
    cases puts : service.putObject store profile bytes maxProfileSyncObjectBytes <;>
      simp [Except.map, puts]
  rw [isPut, putObject_eq_ok_iff]
  constructor
  · rintro ⟨isRegistered, isOnline, isProfile, transfers, inBudget, hasRoom, rfl, rfl⟩
    exact ⟨⟨isRegistered, isOnline, isProfile, transfers, inBudget, hasRoom⟩, rfl, rfl⟩
  · rintro ⟨accepts, rfl, rfl⟩
    exact ⟨accepts.isRegistered, accepts.isOnline, accepts.isProfile, accepts.transfers,
      accepts.inBudget, accepts.hasRoom, rfl, rfl⟩

theorem findOnlineObject_stored {requester : String}
    (found : findOnlineObject store requester profile objectId = some bytes) :
    ∃ providerId : String, store.objects[(providerId, profile, objectId)]? = some bytes := by
  unfold findOnlineObject at found
  obtain ⟨⟨⟨providerId, stored⟩, storedBytes⟩, isFound, rfl⟩ := Option.map_eq_some_iff.mp found
  have isEntry := List.mem_of_find?_eq_some isFound
  have fetched := List.find?_some isFound
  simp only [Bool.and_eq_true, decide_eq_true_eq] at fetched
  obtain ⟨⟨⟨isProfile, isObject⟩, -⟩, -⟩ := fetched
  refine ⟨providerId, ?_⟩
  rw [← isProfile, ← isObject]
  exact Std.TreeMap.mem_toList_iff_getElem?_eq_some.mp isEntry

theorem call_get_eq_ok_iff :
    (service.call maxProfileSyncObjectBytes (.getEncryptedObject profile objectId)).run store =
        .ok response next ↔
      service.ensureRegistered = .ok () ∧ service.ensureOnline store = .ok () ∧
        validateProfile profile = .ok () ∧ validateProfileSyncObjectId objectId = .ok () ∧
        service.requireObjectTransfer = .ok () ∧
        ∃ bytes, findOnlineObject store service.providerId profile objectId = some bytes ∧
          validateObjectBudget bytes.length maxProfileSyncObjectBytes = .ok () ∧
          response = .getEncryptedObject objectId bytes ∧ next = store := by
  rw [call_eq_ok_iff]
  unfold ProfileSyncService.handle ProfileSyncService.getObject
  simp only [map_bind, unit_bind_eq_ok_iff]
  cases findOnlineObject store service.providerId profile objectId with
  | none => simp [Except.map]
  | some bytes =>
      simp only [map_bind, unit_bind_eq_ok_iff, Option.some.injEq, exists_eq_left']
      simp only [pure, Except.pure, Except.map, Except.ok.injEq, Option.some.injEq, Prod.mk.injEq]
      simp only [eq_comm]

/-- What a request leaves of the objects: what was there, and bytes under their own id if it puts
some. -/
structure ObjectsAfter (service : ProfileSyncService) (store : ProfileSyncStore)
    (request : ProfileSyncRequest) (next : ProfileSyncStore) : Prop where
  from_before : ∀ (key : ObjectKey) (bytes : Bytes), next.objects[key]? = some bytes →
    (∃ providerId : String, store.objects[(providerId, key.2)]? = some bytes) ∨
      ∃ profile, request = .putEncryptedObject profile bytes ∧
        key = (service.providerId, profile, localObjectId bytes)
  kept : ∀ key ∈ store.objects, key ∈ next.objects

theorem objectsAfter_of_eq (same : next.objects = store.objects) :
    ObjectsAfter service store request next where
  from_before key bytes found := by
    rw [same] at found
    exact .inl ⟨key.1, found⟩
  kept key isKey := by
    rw [same]
    exact isKey

theorem getElem?_insert_object {objects : Std.TreeMap ObjectKey Bytes} {written key : ObjectKey}
    {new bytes : Bytes} (found : (objects.insert written new)[key]? = some bytes) :
    (key = written ∧ bytes = new) ∨ objects[key]? = some bytes := by
  rw [Std.TreeMap.getElem?_insert] at found
  split at found
  · rename_i same
    exact .inl ⟨(Std.LawfulEqOrd.eq_of_compare same).symm, (Option.some.inj found).symm⟩
  · exact .inr found

theorem handle_objectsAfter
    (handles : service.handle store maxProfileSyncObjectBytes request =
      .ok (some (response, next))) : ObjectsAfter service store request next := by
  cases request with
  | putEncryptedObject profile bytes =>
      obtain ⟨result, puts, isResult⟩ := map_eq_ok_iff.mp handles
      cases isResult
      obtain ⟨-, -, -, -, -, rfl⟩ := putObject_eq_ok_iff.mp puts
      constructor
      · intro key found isFound
        rcases getElem?_insert_object isFound with ⟨isKey, rfl⟩ | before
        · exact .inr ⟨profile, rfl, isKey⟩
        · exact .inl ⟨key.1, before⟩
      · exact fun key isKey => Std.TreeMap.mem_insert.mpr (.inr isKey)
  | retainObject profile objectId =>
      obtain ⟨result, retains, isResult⟩ := map_eq_ok_iff.mp handles
      cases isResult
      obtain ⟨-, -, -, -, -, bytes, copied, -, -, rfl⟩ := retainObject_eq_ok_iff.mp retains
      obtain ⟨providerId, isStored⟩ := findOnlineObject_stored copied
      constructor
      · intro key found isFound
        rcases getElem?_insert_object isFound with ⟨rfl, rfl⟩ | before
        · exact .inl ⟨providerId, isStored⟩
        · exact .inl ⟨key.1, before⟩
      · exact fun key isKey => Std.TreeMap.mem_insert.mpr (.inr isKey)
  | releaseObject profile objectId =>
      obtain ⟨result, releases, isResult⟩ := map_eq_ok_iff.mp handles
      cases isResult
      obtain ⟨-, -, -, -, rfl⟩ := releaseObject_eq_ok_iff.mp releases
      exact objectsAfter_of_eq rfl
  | publishRoot profile rootId objectId =>
      obtain ⟨-, -, -, -, -, -, -, -, rfl⟩ := publishRoot_eq_some_iff.mp handles
      exact objectsAfter_of_eq rfl
  | getEncryptedObject | listRetainedObjects | verifyRetainedObject | resolveRoot
  | listRootCandidates | rootHealth | discoverProviders | providerHealth =>
      obtain ⟨result, -, isResult⟩ := map_eq_ok_iff.mp handles
      cases isResult
      exact objectsAfter_of_eq rfl

end Requests

section Steps

variable {rolesOf : String → ProfileSyncProviderRoles} {backend : LocalBackend}
  {used : UsedStore} {service : ProfileSyncService} {store next : ProfileSyncStore}
  {event : UseEvent} {put : PutRecord} {index : Nat} {providerId : String}

/-- Every provider has its own roles, and all of them can be reached. -/
structure Ready (rolesOf : String → ProfileSyncProviderRoles) (backend : LocalBackend) : Prop where
  services : ∀ service ∈ backend.services, service.registrationError = none →
    service.roles = rolesOf service.providerId
  providers : ∀ (providerId : String) (state : ProfileSyncProviderState),
    backend.store.providers[providerId]? = some state → state.roles = rolesOf providerId
  noneOffline : backend.store.offlineProviders = ∅
  noneStale : backend.store.minimumProviderSeenSequence = 0
  noneDelayed : backend.store.delayedTransfers = ∅

theorem RequestEffect.ready (effect : RequestEffect service.providerId backend.store store)
    (ready : Ready rolesOf backend) : Ready rolesOf { backend with store } := by
  obtain ⟨services, providers, noneOffline, noneStale, noneDelayed⟩ := ready
  cases effect <;> exact ⟨services, providers, noneOffline, noneStale, noneDelayed⟩

theorem Ready.register {providerKind : String} (ready : Ready rolesOf backend) :
    Ready rolesOf (backend.next (.register providerId providerKind (rolesOf providerId))) := by
  unfold LocalBackend.next
  by_cases isFixture : backend.isFixture = true
  · simp only [isFixture, if_true]
    unfold localFixtureProvider
    cases checkProfileSyncFixtureProviderCapacity backend.store providerId with
    | error error =>
        refine ⟨?_, ready.providers, ready.noneOffline, ready.noneStale, ready.noneDelayed⟩
        intro service isService isRegistered
        rcases List.mem_append.mp isService with before | isNew
        · exact ready.services service before isRegistered
        · rw [List.mem_singleton.mp isNew] at isRegistered
          cases isRegistered
    | ok =>
        refine ⟨?_, ?_, ready.noneOffline, ready.noneStale, ready.noneDelayed⟩
        · intro service isService isRegistered
          rcases List.mem_append.mp isService with before | isNew
          · exact ready.services service before isRegistered
          · rw [List.mem_singleton.mp isNew]
        · intro other state isState
          simp only [Std.TreeMap.getElem?_insert] at isState
          split at isState
          · rename_i same
            rw [← Std.LawfulEqOrd.eq_of_compare same, ← Option.some.inj isState]
          · exact ready.providers other state isState
  · simp only [isFixture]
    exact ready

/-- A provider whose roles allow it hands out its objects to everybody. -/
theorem Ready.available (ready : Ready rolesOf backend) {requester : String}
    (connects : (rolesOf providerId).connectivity = true)
    (transfers : (rolesOf providerId).objectTransfer = true) :
    objectProviderState backend.store requester providerId = some .available := by
  apply objectProviderState_eq_available_iff.mpr
  unfold providerIsFreshOnlineForRole transferAvailable providerIsOnline providerIsFresh
  rw [ready.noneOffline, ready.noneStale, ready.noneDelayed]
  constructor
  · cases known : backend.store.providers[providerId]? with
    | none => rfl
    | some state =>
        simp [ready.providers providerId state known, connects, transfers]
  · simp

theorem Ready.ensureOnline (ready : Ready rolesOf backend)
    (connects : service.roles.connectivity = true) :
    service.ensureOnline backend.store = .ok () := by
  unfold ProfileSyncService.ensureOnline
  rw [ready.noneOffline]
  simp [ProfileSyncService.requireRole, connects]

theorem mem_putBy_iff : put ∈ used.putBy event ↔
    ∃ index profile bytes maxProfileSyncObjectBytes service,
      event = .request index (.putEncryptedObject profile bytes) maxProfileSyncObjectBytes ∧
        used.backend.services[index]? = some service ∧
        AcceptsPut service used.backend.store profile bytes maxProfileSyncObjectBytes.toNat ∧
        put = { profile, objectId := localObjectId bytes, bytes } := by
  constructor
  · intro isPut
    unfold UsedStore.putBy at isPut
    split at isPut
    · rename_i index profile bytes maxProfileSyncObjectBytes
      split at isPut
      · cases isPut
      · rename_i service isService
        split at isPut
        · rename_i objectId next called
          obtain ⟨accepts, isResponse, -⟩ := call_put_eq_ok_iff.mp called
          cases isResponse
          exact ⟨index, profile, bytes, maxProfileSyncObjectBytes, service, rfl, isService, accepts,
            List.mem_singleton.mp isPut⟩
        · cases isPut
    · cases isPut
  · rintro ⟨index, profile, bytes, maxProfileSyncObjectBytes, service, rfl, isService, accepts, rfl⟩
    have called := call_put_eq_ok_iff.mpr ⟨accepts, rfl, rfl⟩
    unfold UsedStore.putBy
    simp only [isService, called]
    exact List.mem_singleton_self _

/-- The store has the bytes that were put, and under every id the bytes that were put there. -/
structure Addressed (rolesOf : String → ProfileSyncProviderRoles) (used : UsedStore) : Prop where
  ready : Ready rolesOf used.backend
  stored : ∀ (key : ObjectKey) (bytes : Bytes), used.backend.store.objects[key]? = some bytes →
    { profile := key.2.1, objectId := key.2.2, bytes } ∈ used.puts
  kept : ∀ put ∈ used.puts, ∃ providerId,
    (providerId, put.profile, put.objectId) ∈ used.backend.store.objects ∧
      (rolesOf providerId).connectivity = true ∧ (rolesOf providerId).objectTransfer = true
  named : ∀ put ∈ used.puts, validateProfile put.profile = .ok () ∧
    validateProfileSyncObjectId put.objectId = .ok ()
  distinct : ∀ first ∈ used.puts, ∀ second ∈ used.puts, first.profile = second.profile →
    first.objectId = second.objectId → first.bytes = second.bytes

theorem AcceptsPut.roles {profile : String} {bytes : Bytes} {maxProfileSyncObjectBytes : Nat}
    (accepts : AcceptsPut service store profile bytes maxProfileSyncObjectBytes) :
    service.registrationError = none ∧ service.roles.connectivity = true ∧
      service.roles.objectTransfer = true := by
  obtain ⟨isRegistered, isOnline, -, transfers, -, -⟩ := accepts
  refine ⟨?_, ?_, ?_⟩
  · unfold ProfileSyncService.ensureRegistered at isRegistered
    cases failed : service.registrationError with
    | none => rfl
    | some error => simp [failed] at isRegistered
  · unfold ProfileSyncService.ensureOnline ProfileSyncService.requireRole at isOnline
    by_contra lacks
    split at isOnline
    · cases isOnline
    · cases isOnline
  · unfold ProfileSyncService.requireObjectTransfer ProfileSyncService.requireRole at transfers
    by_contra lacks
    simp [lacks] at transfers

theorem AcceptsPut.fits {profile : String} {bytes : Bytes} {maxProfileSyncObjectBytes : UInt64}
    (accepts : AcceptsPut service store profile bytes maxProfileSyncObjectBytes.toNat) :
    bytes.length < 2 ^ 64 := by
  have inBudget := accepts.inBudget
  have bounded := maxProfileSyncObjectBytes.toNat_lt
  unfold validateObjectBudget at inBudget
  split at inBudget
  · cases inBudget
  · omega

theorem Addressed.getsBack (addressed : Addressed rolesOf used) : GetsBack used where
  answers := by
    intro put isPut service _ maxProfileSyncObjectBytes response next gets
    obtain ⟨-, -, -, -, -, bytes, found, -, rfl, -⟩ := call_get_eq_ok_iff.mp gets
    obtain ⟨providerId, isStored⟩ := findOnlineObject_stored found
    have same := addressed.distinct _ (addressed.stored _ _ isStored) put isPut rfl rfl
    exact congrArg _ same
  answered := by
    intro put isPut service isService isRegistered connects transfers maxProfileSyncObjectBytes
      inBudget
    obtain ⟨isProfile, isObjectId⟩ := addressed.named put isPut
    obtain ⟨providerId, isKept, providerConnects, providerTransfers⟩ := addressed.kept put isPut
    have isFound : (findOnlineObject used.backend.store service.providerId put.profile
        put.objectId).isSome = true := findOnlineObject_isSome_iff.mpr
      ⟨providerId, isKept, addressed.ready.available providerConnects providerTransfers⟩
    obtain ⟨bytes, found⟩ := Option.isSome_iff_exists.mp isFound
    obtain ⟨holder, isStored⟩ := findOnlineObject_stored found
    have same : bytes = put.bytes :=
      addressed.distinct _ (addressed.stored _ _ isStored) put isPut rfl rfl
    subst same
    apply call_get_eq_ok_iff.mpr
    refine ⟨?_, addressed.ready.ensureOnline connects, isProfile, isObjectId, if_pos transfers, _,
      found, if_neg (Nat.not_lt.mpr inBudget), rfl, rfl⟩
    rw [ProfileSyncService.ensureRegistered, isRegistered]

/-- A request leaves the backend as it was, or the store that the service leaves. -/
theorem next_request (index : Nat) (request : ProfileSyncRequest)
    (maxProfileSyncObjectBytes : Nat) :
    backend.next (.request index request maxProfileSyncObjectBytes) = backend ∨
      ∃ service response store, backend.services[index]? = some service ∧
        (service.call maxProfileSyncObjectBytes request).run backend.store = .ok response store ∧
        backend.next (.request index request maxProfileSyncObjectBytes) =
          { backend with store } := by
  cases isService : backend.services[index]? with
  | none =>
      left
      simp only [LocalBackend.next, isService]
  | some service =>
      cases called : (service.call maxProfileSyncObjectBytes request).run backend.store with
      | ok response store =>
          refine .inr ⟨service, response, store, rfl, called, ?_⟩
          simp only [LocalBackend.next, isService, stateAfter_of_ok called]
      | error failure store =>
          left
          simp only [LocalBackend.next, isService, stateAfter_of_error called,
            eq_of_call_eq_error called]

theorem Ready.step (ready : Ready rolesOf used.backend) (event : UseEvent) :
    Ready rolesOf (used.next rolesOf event).backend := by
  cases event with
  | register providerId providerKind => exact ready.register
  | request index asked maxProfileSyncObjectBytes =>
      have isNext : (used.next rolesOf (.request index asked maxProfileSyncObjectBytes)).backend =
        used.backend.next (.request index asked maxProfileSyncObjectBytes.toNat) := rfl
      rw [isNext]
      rcases @next_request used.backend index asked maxProfileSyncObjectBytes.toNat with
        unchanged | ⟨service, response, store, -, called, changed⟩
      · rw [unchanged]
        exact ready
      · rw [changed]
        exact (handle_effect (call_eq_ok_iff.mp called).2.2).ready ready

theorem objects_register {providerKind : String} {roles : ProfileSyncProviderRoles} :
    (backend.next (.register providerId providerKind roles)).store.objects =
      backend.store.objects := by
  unfold LocalBackend.next
  by_cases isFixture : backend.isFixture = true
  · simp only [isFixture, if_true]
    unfold localFixtureProvider
    split <;> rfl
  · simp only [isFixture]
    rfl

/-- An event keeps the objects, and adds copies of them and what it puts. -/
theorem next_objects (event : UseEvent) :
    (∀ (key : ObjectKey) (bytes : Bytes),
      (used.next rolesOf event).backend.store.objects[key]? = some bytes →
        (∃ providerId : String,
          used.backend.store.objects[(providerId, key.2)]? = some bytes) ∨
          { profile := key.2.1, objectId := key.2.2, bytes } ∈ used.putBy event) ∧
      (∀ key ∈ used.backend.store.objects,
        key ∈ (used.next rolesOf event).backend.store.objects) := by
  cases event with
  | register providerId providerKind =>
      have same : (used.next rolesOf (.register providerId providerKind)).backend.store.objects =
        used.backend.store.objects := objects_register
      rw [same]
      exact ⟨fun key bytes found => .inl ⟨key.1, found⟩, fun _ => id⟩
  | request index asked maxProfileSyncObjectBytes =>
      have isNext : (used.next rolesOf (.request index asked maxProfileSyncObjectBytes)).backend =
        used.backend.next (.request index asked maxProfileSyncObjectBytes.toNat) := rfl
      rw [isNext]
      rcases @next_request used.backend index asked maxProfileSyncObjectBytes.toNat with
        unchanged | ⟨service, response, store, isService, called, changed⟩
      · rw [unchanged]
        exact ⟨fun key bytes found => .inl ⟨key.1, found⟩, fun _ => id⟩
      · rw [changed]
        have after := handle_objectsAfter (call_eq_ok_iff.mp called).2.2
        refine ⟨?_, after.kept⟩
        intro key bytes found
        rcases after.from_before key bytes found with before | ⟨profile, rfl, rfl⟩
        · exact .inl before
        · exact .inr (mem_putBy_iff.mpr ⟨index, profile, bytes, _, service, rfl, isService,
            (call_put_eq_ok_iff.mp called).1, rfl⟩)

theorem stored_of_mem_putBy (isPut : put ∈ used.putBy event) :
    ∃ service, service ∈ used.backend.services ∧ service.registrationError = none ∧
      service.roles.connectivity = true ∧ service.roles.objectTransfer = true ∧
      (service.providerId, put.profile, put.objectId) ∈
        (used.next rolesOf event).backend.store.objects ∧
      validateProfile put.profile = .ok () ∧ validateProfileSyncObjectId put.objectId = .ok () := by
  obtain ⟨index, profile, bytes, maxProfileSyncObjectBytes, service, rfl, isService, accepts, rfl⟩ :=
    mem_putBy_iff.mp isPut
  obtain ⟨isRegistered, connects, transfers⟩ := accepts.roles
  refine ⟨service, List.mem_of_getElem? isService, isRegistered, connects, transfers, ?_,
    accepts.isProfile, validateProfileSyncObjectId_localObjectId accepts.fits⟩
  have called := call_put_eq_ok_iff.mpr ⟨accepts, rfl, rfl⟩
  have isNext : (used.next rolesOf (.request index (.putEncryptedObject profile bytes)
      maxProfileSyncObjectBytes)).backend.store =
        stateAfter (service.call maxProfileSyncObjectBytes.toNat
          (.putEncryptedObject profile bytes)) used.backend.store := by
    simp only [UsedStore.next, UseEvent.toLocalEvent, LocalBackend.next, isService]
  rw [isNext, stateAfter_of_ok called]
  exact Std.TreeMap.mem_insert_self

theorem Addressed.step (addressed : Addressed rolesOf used)
    (distinguishes : DistinguishesPut used event) : Addressed rolesOf (used.next rolesOf event) := by
  obtain ⟨fromBefore, keeps⟩ := @next_objects rolesOf used event
  have isNew (first second : PutRecord) (isFirst : first ∈ used.putBy event)
      (isSecond : second ∈ used.puts) (sameProfile : first.profile = second.profile)
      (sameId : first.objectId = second.objectId) : first.bytes = second.bytes := by
    obtain ⟨index, profile, bytes, _, service, isEvent, isService, accepts, rfl⟩ :=
      mem_putBy_iff.mp isFirst
    exact (distinguishes index profile bytes _ service isEvent isService accepts second isSecond
      sameProfile.symm sameId.symm).symm
  constructor
  · exact addressed.ready.step event
  · intro key bytes found
    apply List.mem_append.mpr
    rcases fromBefore key bytes found with ⟨providerId, before⟩ | isPut
    · exact .inr (addressed.stored (providerId, key.2) bytes before)
    · exact .inl isPut
  · intro put isMember
    rcases List.mem_append.mp isMember with isPut | before
    · obtain ⟨service, isService, isRegistered, connects, transfers, isStored, -, -⟩ :=
        @stored_of_mem_putBy rolesOf _ _ _ isPut
      rw [addressed.ready.services service isService isRegistered] at connects transfers
      exact ⟨service.providerId, isStored, connects, transfers⟩
    · obtain ⟨providerId, isKept, connects, transfers⟩ := addressed.kept put before
      exact ⟨providerId, keeps _ isKept, connects, transfers⟩
  · intro put isMember
    rcases List.mem_append.mp isMember with isPut | before
    · obtain ⟨-, -, -, -, -, -, isProfile, isObjectId⟩ := @stored_of_mem_putBy rolesOf _ _ _ isPut
      exact ⟨isProfile, isObjectId⟩
    · exact addressed.named put before
  · intro first isFirst second isSecond sameProfile sameId
    rcases List.mem_append.mp isFirst with firstNew | firstBefore
    · rcases List.mem_append.mp isSecond with secondNew | secondBefore
      · obtain ⟨_, _, _, _, _, firstEvent, -, -, rfl⟩ := mem_putBy_iff.mp firstNew
        obtain ⟨_, _, _, _, _, secondEvent, -, -, rfl⟩ := mem_putBy_iff.mp secondNew
        rw [firstEvent] at secondEvent
        cases secondEvent
        rfl
      · exact isNew first second firstNew secondBefore sameProfile sameId
    · rcases List.mem_append.mp isSecond with secondNew | secondBefore
      · exact (isNew second first secondNew firstBefore sameProfile.symm sameId.symm).symm
      · exact addressed.distinct first firstBefore second secondBefore sameProfile sameId

/-- The service that put the bytes is answered for both of them. -/
theorem distinguishesPut_of_getsBack (getsBack : GetsBack (used.next rolesOf event)) :
    DistinguishesPut used event := by
  intro index profile bytes maxProfileSyncObjectBytes service isEvent isService accepts put isBefore
    sameProfile sameId
  have isNew : { profile, objectId := localObjectId bytes, bytes } ∈ used.putBy event :=
    mem_putBy_iff.mpr ⟨index, profile, bytes, _, service, isEvent, isService, accepts, rfl⟩
  obtain ⟨isRegistered, connects, transfers⟩ := accepts.roles
  have stays : service ∈ (used.next rolesOf event).backend.services := by
    subst isEvent
    have isNext : (used.next rolesOf (.request index (.putEncryptedObject profile bytes)
        maxProfileSyncObjectBytes)).backend = used.backend.next
          (.request index (.putEncryptedObject profile bytes) maxProfileSyncObjectBytes.toNat) := rfl
    rw [isNext]
    rcases @next_request used.backend index (.putEncryptedObject profile bytes)
      maxProfileSyncObjectBytes.toNat with unchanged | ⟨_, _, _, -, -, changed⟩
    · rw [unchanged]
      exact List.mem_of_getElem? isService
    · rw [changed]
      exact List.mem_of_getElem? isService
  have gets := getsBack.answered _ (List.mem_append_left _ isNew) service stays isRegistered connects
    transfers bytes.length (Nat.le_refl _)
  rw [← sameProfile, ← sameId] at gets
  have answer := getsBack.answers put (List.mem_append_right _ isBefore) service stays _ _ _ gets
  exact (ProfileSyncResponse.getEncryptedObject.inj answer).2.symm

end Steps

section Results

theorem addressed_start (start : LocalStart) : Addressed start.rolesOf start.used := by
  cases start with
  | process =>
      refine ⟨⟨?_, ?_, rfl, rfl, rfl⟩, ?_, ?_, ?_, ?_⟩ <;>
        simp [LocalStart.used, LocalStart.rolesOf, LocalBackend.default, ProfileSyncService.default,
          ProfileSyncStore.default, ProfileSyncStore.withCapacity]
  | fixture capacity rolesOf =>
      refine ⟨⟨?_, ?_, rfl, rfl, rfl⟩, ?_, ?_, ?_, ?_⟩ <;>
        simp [LocalStart.used, LocalBackend.fixture, ProfileSyncStore.withCapacity]

/-- What was put comes back in exactly the runs that give different bytes in a profile different
ids. -/
theorem getsBack_iff (start : LocalStart) (events : List UseEvent) :
    Throughout (UsedStore.next start.rolesOf) GetsBack events start.used ↔
      AllTaken (UsedStore.next start.rolesOf) DistinguishesPut events start.used := by
  apply @throughout_iff_of_reveals _ _ _ _ (Addressed start.rolesOf)
  · exact fun used event addressed distinguishes => addressed.step distinguishes
  · exact fun used addressed => addressed.getsBack
  · exact fun used event _ getsBack => distinguishesPut_of_getsBack getsBack
  · exact addressed_start start

/-- Two texts of one length and one hash. -/
def collidingBytes : Bytes × Bytes :=
  (("8yn0iYCKYHlIj4-BwPqk".toList.map fun char => UInt8.ofNat char.toNat),
    "GReLUrM4wMqfg9yzV3KQ".toList.map fun char => UInt8.ofNat char.toNat)

/-- Bytes that a provider has put are gone once it has put other bytes of their length and
hash. -/
theorem colliding_bytes_are_lost :
    ¬∀ (start : LocalStart) (events : List UseEvent),
      Throughout (UsedStore.next start.rolesOf) GetsBack events start.used := by
  intro getsBack
  have distinguishes := distinguishesPut_of_getsBack (getsBack .process
    [.request 0 (.putEncryptedObject "home" collidingBytes.1) 1024,
      .request 0 (.putEncryptedObject "home" collidingBytes.2) 1024] _ (List.prefix_refl _))
  have isBefore := (@mem_putBy_iff LocalStart.process.used _ _).mpr ⟨0, "home", collidingBytes.1, 1024, .default, rfl, rfl,
    ⟨by decide +kernel, by decide +kernel, by decide +kernel, by decide +kernel, by decide +kernel,
      by decide +kernel⟩, rfl⟩
  have same := distinguishes 0 "home" collidingBytes.2 1024 .default rfl rfl
    ⟨by decide +kernel, by decide +kernel, by decide +kernel, by decide +kernel, by decide +kernel,
      by decide +kernel⟩ _ (List.mem_append_left _ isBefore) rfl (by decide +kernel)
  revert same
  decide +kernel

end Results

end Slate.Broadwebd.Local
