import Slate.Storage.TrustedObjects

/-!
# The object store

The daemon stores encrypted objects under content addresses and named roots that point to
them. Bytes that are already stored keep their id; other bytes get an id that no stored
object has. Only requests for an object that was never stored fail: the daemon's quotas and
name checks are not modelled.
-/

namespace Slate.ProfileSync

open Slate.Foundation Slate.Storage

inductive BroadwebdError where
  | unsupportedRequest (message : String)
deriving DecidableEq, Repr

structure StoredObject where
  profile : String
  bytes : List Nat
deriving DecidableEq, Repr

structure StoredRoot where
  profile : String
  rootId : String
  objectId : String
deriving DecidableEq, Repr

structure ObjectStore where
  objects : List StoredObject := []
  roots : List StoredRoot := []
deriving DecidableEq, Repr

namespace ObjectStore

variable (scheme : SyncObjectScheme)

section Requests

def rootKey (root : StoredRoot) : String × String :=
  (root.profile, root.rootId)

/-- The bytes stored under an object id. -/
def find (profile objectId : String) (store : ObjectStore) : Option (List Nat) :=
  (store.objects.zipIdx.find? fun (object, index) =>
    object.profile == profile && scheme.objectName index == objectId).map (·.1.bytes)

def putEncryptedObject (profile : String) (bytes : List Nat) (store : ObjectStore) :
    String × ObjectStore :=
  match store.objects.findIdx? fun object => object == { profile, bytes } with
  | some index => (scheme.objectName index, store)
  | none =>
      (scheme.objectName store.objects.length,
        { store with objects := store.objects ++ [{ profile, bytes }] })

def getProfileSyncObject (profile objectId : String) (store : ObjectStore) :
    Except BroadwebdError ProfileSyncObjectBytes :=
  match store.find scheme profile objectId with
  | some bytes => .ok { objectId, bytes }
  | none => .error (.unsupportedRequest
      ("profile sync object not available from an online provider: " ++ objectId))

def retainObject (profile objectId : String) (store : ObjectStore) :
    Except BroadwebdError Unit :=
  match store.find scheme profile objectId with
  | some _ => .ok ()
  | none => .error (.unsupportedRequest
      ("cannot retain unavailable profile sync object: " ++ objectId))

/-- The last publication of a root is the one that is resolved. -/
def publishRoot (profile rootId objectId : String) (store : ObjectStore) : ObjectStore :=
  { store with
    roots := Rows.upsert rootKey (fun _ excluded => excluded) { profile, rootId, objectId }
      store.roots }

def resolveProfileSyncRoot (profile rootId : String) (store : ObjectStore) : Option String :=
  (Rows.lookup rootKey (profile, rootId) store.roots).map (·.objectId)

def putRetainedObject (profile : String) (bytes : List Nat) (store : ObjectStore) :
    Except BroadwebdError (String × ObjectStore) := do
  let (objectId, store) := store.putEncryptedObject scheme profile bytes
  store.retainObject scheme profile objectId
  pure (objectId, store)

def putRetainedRoot (profile rootId : String) (bytes : List Nat) (store : ObjectStore) :
    Except BroadwebdError (String × ObjectStore) := do
  let (objectId, store) ← store.putRetainedObject scheme profile bytes
  pure (objectId, store.publishRoot profile rootId objectId)

/-- The store as the source that objects are pulled from. -/
def source (store : ObjectStore) : ProfileSyncObjectSource BroadwebdError where
  resolveProfileSyncRoot profile rootId := .ok (store.resolveProfileSyncRoot profile rootId)
  getProfileSyncObject profile objectId := store.getProfileSyncObject scheme profile objectId

end Requests

section Growth

/-- Stored objects stay; roots may change. -/
def Extends (store next : ObjectStore) : Prop :=
  store.objects <+: next.objects

variable {scheme} {store next : ObjectStore} {profile objectId : String} {bytes : List Nat}

theorem Extends.refl (store : ObjectStore) : store.Extends store :=
  List.prefix_refl store.objects

theorem Extends.trans {first second third : ObjectStore} (before : first.Extends second)
    (after : second.Extends third) : first.Extends third :=
  List.IsPrefix.trans before after

/-- An id names one place in the store. -/
theorem find_eq_some_iff (lawful : scheme.Lawful) :
    store.find scheme profile objectId = some bytes ↔
      ∃ index, store.objects[index]? = some { profile, bytes } ∧
        scheme.objectName index = objectId := by
  have mem_iff : ∀ object index, (object, index) ∈ store.objects.zipIdx ↔
      store.objects[index]? = some object := by
    intro object index
    simp [List.mem_zipIdx_iff_getElem?]
  constructor
  · intro found
    obtain ⟨⟨object, index⟩, found, same⟩ := Option.map_eq_some_iff.mp found
    have named := List.find?_some found
    simp only [Bool.and_eq_true, beq_iff_eq] at named
    have placed := (mem_iff object index).mp (List.mem_of_find?_eq_some found)
    refine ⟨index, ?_, named.2⟩
    rw [placed, ← same, ← named.1]
  · rintro ⟨index, placed, named⟩
    cases found : store.objects.zipIdx.find? fun (object, index) =>
        object.profile == profile && scheme.objectName index == objectId with
    | none =>
        have absent := List.find?_eq_none.mp found (⟨profile, bytes⟩, index)
          ((mem_iff _ _).mpr placed)
        simp [named] at absent
    | some entry =>
        obtain ⟨object, other⟩ := entry
        have otherNamed := List.find?_some found
        simp only [Bool.and_eq_true, beq_iff_eq] at otherNamed
        have otherPlaced := (mem_iff object other).mp (List.mem_of_find?_eq_some found)
        have same : other = index := lawful.objectName (otherNamed.2.trans named.symm)
        rw [same, placed] at otherPlaced
        rw [find, found]
        exact congrArg (fun found : StoredObject => some found.bytes)
          (Option.some.inj otherPlaced).symm

/-- What was stored is found for ever. -/
theorem Extends.find (lawful : scheme.Lawful) (grown : store.Extends next)
    (found : store.find scheme profile objectId = some bytes) :
    next.find scheme profile objectId = some bytes := by
  obtain ⟨index, placed, named⟩ := (find_eq_some_iff lawful).mp found
  obtain ⟨added, same⟩ := grown
  refine (find_eq_some_iff lawful).mpr ⟨index, ?_, named⟩
  rw [← same]
  rw [List.getElem?_append_left (List.getElem?_eq_some_iff.mp placed).1]
  exact placed

theorem putEncryptedObject_spec (lawful : scheme.Lawful)
    (put : store.putEncryptedObject scheme profile bytes = (objectId, next)) :
    store.Extends next ∧ next.roots = store.roots ∧
      next.find scheme profile objectId = some bytes ∧ objectId ≠ "" := by
  unfold putEncryptedObject at put
  split at put
  next index found =>
    obtain ⟨rfl, rfl⟩ := Prod.mk.inj put
    refine ⟨.refl store, rfl, ?_, lawful.objectName_ne_empty index⟩
    obtain ⟨placed, same, -⟩ := List.findIdx?_eq_some_iff_getElem.mp found
    refine (find_eq_some_iff lawful).mpr ⟨index, ?_, rfl⟩
    rw [List.getElem?_eq_getElem placed, eq_of_beq same]
  next =>
    obtain ⟨rfl, rfl⟩ := Prod.mk.inj put
    refine ⟨List.prefix_append _ _, rfl, ?_, lawful.objectName_ne_empty _⟩
    exact (find_eq_some_iff lawful).mpr ⟨store.objects.length, by simp, rfl⟩

theorem getProfileSyncObject_eq_ok_iff {object : ProfileSyncObjectBytes} :
    store.getProfileSyncObject scheme profile objectId = .ok object ↔
      object.objectId = objectId ∧ store.find scheme profile objectId = some object.bytes := by
  unfold getProfileSyncObject
  cases found : store.find scheme profile objectId with
  | none =>
      constructor
      · intro h
        cases h
      · rintro ⟨-, h⟩
        cases h
  | some bytes =>
      constructor
      · intro h
        cases h
        exact ⟨rfl, rfl⟩
      · rintro ⟨rfl, same⟩
        rw [Option.some.inj same]

theorem retainObject_eq_ok_iff :
    store.retainObject scheme profile objectId = .ok () ↔
      ∃ bytes, store.find scheme profile objectId = some bytes := by
  unfold retainObject
  cases found : store.find scheme profile objectId with
  | none =>
      constructor
      · intro h
        cases h
      · rintro ⟨_, h⟩
        cases h
  | some bytes => exact ⟨fun _ => ⟨bytes, rfl⟩, fun _ => rfl⟩

theorem putRetainedObject_eq_ok_iff (lawful : scheme.Lawful) :
    store.putRetainedObject scheme profile bytes = .ok (objectId, next) ↔
      store.putEncryptedObject scheme profile bytes = (objectId, next) := by
  unfold putRetainedObject
  cases put : store.putEncryptedObject scheme profile bytes with
  | mk found stored =>
      have kept := (putEncryptedObject_spec lawful put).2.2.1
      have retained := retainObject_eq_ok_iff.mpr ⟨bytes, kept⟩
      simp only [retained, ok_bind]
      constructor
      · intro h
        exact Except.ok.inj h
      · intro h
        exact congrArg Except.ok h

theorem putRetainedRoot_eq_ok_iff (lawful : scheme.Lawful) {rootId : String} :
    store.putRetainedRoot scheme profile rootId bytes = .ok (objectId, next) ↔
      ∃ stored, store.putEncryptedObject scheme profile bytes = (objectId, stored) ∧
        next = stored.publishRoot profile rootId objectId := by
  unfold putRetainedRoot
  rw [bind_eq_ok_iff]
  constructor
  · rintro ⟨⟨_, stored⟩, put, h⟩
    obtain ⟨rfl, rfl⟩ := ok_pair_inj h
    exact ⟨stored, (putRetainedObject_eq_ok_iff lawful).mp put, rfl⟩
  · rintro ⟨stored, put, rfl⟩
    exact ⟨(objectId, stored), (putRetainedObject_eq_ok_iff lawful).mpr put, rfl⟩

theorem extends_publishRoot (rootId : String) :
    store.Extends (store.publishRoot profile rootId objectId) :=
  .refl store

@[simp]
theorem resolveProfileSyncRoot_publishRoot (rootId : String) :
    (store.publishRoot profile rootId objectId).resolveProfileSyncRoot profile rootId =
      some objectId := by
  let root : StoredRoot := ⟨profile, rootId, objectId⟩
  have written : Rows.lookup rootKey (rootKey root)
      (Rows.upsert rootKey (fun _ excluded => excluded) root store.roots) =
        some (((Rows.lookup rootKey (rootKey root) store.roots).map fun _ => root).getD root) :=
    Rows.lookup_upsert_self (fun _ _ => rfl) store.roots
  have published : Rows.lookup rootKey (profile, rootId)
      (store.publishRoot profile rootId objectId).roots = some root := by
    refine written.trans (congrArg some ?_)
    cases Rows.lookup rootKey (rootKey root) store.roots <;> rfl
  rw [resolveProfileSyncRoot, published, Option.map_some]

theorem resolveProfileSyncRoot_publishRoot_of_ne {rootId other : String}
    (different : rootId ≠ other) :
    (store.publishRoot profile rootId objectId).resolveProfileSyncRoot profile other =
      store.resolveProfileSyncRoot profile other := by
  rw [resolveProfileSyncRoot, publishRoot, Rows.lookup_upsert_of_ne (fun _ _ => rfl)]
  · rfl
  · simp [rootKey, different]

end Growth

end ObjectStore

/-- The content key, its id and the signing key a device publishes with. -/
structure SyncCredentials where
  contentKey : List Nat
  keyId : String
  signer : ProfileSyncDeviceSigner

/-- The nonce is the one drawn after `drawn` objects were stored. -/
def signEncryptedJsonObject (scheme : SyncObjectScheme) (profile domain objectKind : String)
    (payload : List Nat) (credentials : SyncCredentials) (drawn : Nat) : List Nat :=
  let encryptedObject := EncryptedSyncObject.sealWithNonce scheme profile domain objectKind
    credentials.keyId payload credentials.contentKey (scheme.nonce drawn)
  scheme.signed.toBytes <|
    credentials.signer.sign scheme (scheme.encrypted.toBytes encryptedObject)

end Slate.ProfileSync
