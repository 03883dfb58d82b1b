import Mathlib.Logic.Function.Basic
import Slate.Foundation.Transaction
import Slate.Broadwebd.Http

/-!
# A Kubo node

The node keeps objects, pins and names for everybody who talks to it. The client in front of it
checks what it sends and what comes back.
-/

namespace Slate.Broadwebd

open Foundation

abbrev Bytes := List UInt8

section Validation

def isControl (char : Char) : Bool :=
  char.toNat < 0x20 || (0x7F ≤ char.toNat && char.toNat ≤ 0x9F)

def validateKuboProfileSyncNameToken (label value : String) : Except BroadwebdError Unit :=
  if value = "" then .error (.invalidUrl s!"{label} is empty")
  else if 2048 < value.utf8ByteSize then .error (.invalidUrl s!"{label} is too long")
  else if value.toList.any isControl then
    .error (.invalidUrl s!"{label} must not contain control characters")
  else .ok ()

def validateKuboProfileSyncObjectId (objectId : String) : Except BroadwebdError Unit := do
  validateKuboProfileSyncNameToken "profile sync object id" objectId
  if '/' ∈ objectId.toList then
    .error (.invalidUrl s!"profile sync object id must not contain a path separator: {objectId}")
  else .ok ()

end Validation

/-- What is left open about a node: the content ids of bytes, the status of its refusals, and
whether it refuses what concerns an object that is not pinned, as Kubo does, or answers that
nothing is pinned, as the in-process fixture does. -/
structure KuboBehaviour where
  contentId : Bytes → String
  refusal : UInt16
  refusesUnpinned : Bool

structure KuboNode where
  objects : String → Option Bytes
  pins : String → Bool
  names : String → Option String

def kuboRefusal (behaviour : KuboBehaviour) (operation : String) : BroadwebdError :=
  .request s!"Kubo profile-sync {operation} returned HTTP status {behaviour.refusal}"

section Rpc

variable (behaviour : KuboBehaviour) (node : KuboNode)

/-- The node has added the bytes when the client looks at the id in its answer. -/
def kuboPutEncryptedObject (budget : Nat) (bytes : Bytes) :
    Except BroadwebdError String × KuboNode :=
  if budget < bytes.length then (.error (.responseTooLarge budget bytes.length), node)
  else
    let objectId := behaviour.contentId bytes
    ((validateKuboProfileSyncObjectId objectId).map fun _ => objectId,
      { node with objects := Function.update node.objects objectId (some bytes) })

def kuboGetEncryptedObject (budget : Nat) (objectId : String) : Except BroadwebdError Bytes := do
  validateKuboProfileSyncObjectId objectId
  match node.objects objectId with
  | none => .error (kuboRefusal behaviour "cat")
  | some bytes =>
    if budget < bytes.length then .error (.responseTooLarge budget bytes.length) else .ok bytes

def kuboRetainObject (objectId : String) : Except BroadwebdError KuboNode := do
  validateKuboProfileSyncObjectId objectId
  match node.objects objectId with
  | none => .error (kuboRefusal behaviour "pin/add")
  | some _ => .ok { node with pins := Function.update node.pins objectId true }

def kuboReleaseObject (objectId : String) : Except BroadwebdError KuboNode := do
  validateKuboProfileSyncObjectId objectId
  if behaviour.refusesUnpinned && !node.pins objectId then
    .error (kuboRefusal behaviour "pin/rm")
  else .ok { node with pins := Function.update node.pins objectId false }

def kuboVerifyRetainedObject (objectId : String) : Except BroadwebdError Bool := do
  validateKuboProfileSyncObjectId objectId
  if node.pins objectId then .ok true
  else if behaviour.refusesUnpinned then .error (kuboRefusal behaviour "pin/ls")
  else .ok false

def kuboPublishRoot (keyId objectId : String) : Except BroadwebdError KuboNode := do
  validateKuboProfileSyncNameToken "IPNS key id" keyId
  validateKuboProfileSyncObjectId objectId
  match node.objects objectId with
  | none => .error (kuboRefusal behaviour "name/publish")
  | some _ => .ok { node with names := Function.update node.names keyId (some objectId) }

def kuboResolveRoot (name : String) : Except BroadwebdError String := do
  validateKuboProfileSyncNameToken "IPNS name" name
  match node.names name with
  | none => .error (kuboRefusal behaviour "name/resolve")
  | some objectId => do
    validateKuboProfileSyncObjectId objectId
    .ok objectId

end Rpc

section Results

variable {behaviour : KuboBehaviour} {node next : KuboNode} {objectId keyId : String}

theorem kuboPutEncryptedObject_frame {budget : Nat} {bytes : Bytes} :
    (kuboPutEncryptedObject behaviour node budget bytes).2.pins = node.pins ∧
      (kuboPutEncryptedObject behaviour node budget bytes).2.names = node.names := by
  unfold kuboPutEncryptedObject
  split <;> exact ⟨rfl, rfl⟩

theorem kuboRetainObject_eq_ok_iff :
    kuboRetainObject behaviour node objectId = .ok next ↔
      validateKuboProfileSyncObjectId objectId = .ok () ∧ (node.objects objectId).isSome ∧
        next = { node with pins := Function.update node.pins objectId true } := by
  unfold kuboRetainObject
  rw [unit_bind_eq_ok_iff]
  cases node.objects objectId <;> simp [eq_comm]

theorem kuboReleaseObject_eq_ok_iff :
    kuboReleaseObject behaviour node objectId = .ok next ↔
      validateKuboProfileSyncObjectId objectId = .ok () ∧
        (behaviour.refusesUnpinned → node.pins objectId) ∧
        next = { node with pins := Function.update node.pins objectId false } := by
  unfold kuboReleaseObject
  rw [unit_bind_eq_ok_iff]
  cases behaviour.refusesUnpinned <;> cases node.pins objectId <;> simp [eq_comm]

theorem kuboVerifyRetainedObject_eq_ok_true_iff :
    kuboVerifyRetainedObject behaviour node objectId = .ok true ↔
      validateKuboProfileSyncObjectId objectId = .ok () ∧ node.pins objectId := by
  unfold kuboVerifyRetainedObject
  rw [unit_bind_eq_ok_iff]
  cases behaviour.refusesUnpinned <;> cases node.pins objectId <;> simp

theorem kuboPublishRoot_eq_ok_iff :
    kuboPublishRoot behaviour node keyId objectId = .ok next ↔
      validateKuboProfileSyncNameToken "IPNS key id" keyId = .ok () ∧
        validateKuboProfileSyncObjectId objectId = .ok () ∧ (node.objects objectId).isSome ∧
        next = { node with names := Function.update node.names keyId (some objectId) } := by
  unfold kuboPublishRoot
  rw [unit_bind_eq_ok_iff, unit_bind_eq_ok_iff]
  cases node.objects objectId <;> simp [eq_comm]

theorem kuboResolveRoot_eq_ok_iff :
    kuboResolveRoot behaviour node keyId = .ok objectId ↔
      validateKuboProfileSyncNameToken "IPNS name" keyId = .ok () ∧
        node.names keyId = some objectId ∧ validateKuboProfileSyncObjectId objectId = .ok () := by
  unfold kuboResolveRoot
  rw [unit_bind_eq_ok_iff]
  cases named : node.names keyId with
  | none => simp
  | some found =>
    simp only [unit_bind_eq_ok_iff, Except.ok.injEq, Option.some.injEq]
    constructor
    · rintro ⟨validName, validObject, rfl⟩
      exact ⟨validName, rfl, validObject⟩
    · rintro ⟨validName, rfl, validObject⟩
      exact ⟨validName, validObject, rfl⟩

/-- Names are checked alike under every label. -/
theorem validateKuboProfileSyncNameToken_ok_iff {label other value : String} :
    validateKuboProfileSyncNameToken label value = .ok () ↔
      validateKuboProfileSyncNameToken other value = .ok () := by
  unfold validateKuboProfileSyncNameToken
  split
  · simp
  · split
    · simp
    · split <;> simp

end Results

end Slate.Broadwebd
