import Mathlib.Init

/-!
# Serializers

A serializer writes a value as a list of numbers and reads it back from the front of a
longer list. Serializers are put together along the shape of a type, and every one of them
carries the proof that what was written is read back.
-/

namespace Slate.Foundation

universe u v

structure Serial (Value : Type u) where
  write : Value → List Nat
  read : List Nat → Option (Value × List Nat)
  read_write : ∀ value rest, read (write value ++ rest) = some (value, rest)

namespace Serial

variable {Value : Type u} {Other : Type v}

/-- Read a value and nothing else. -/
def decode (serial : Serial Value) (numbers : List Nat) : Option Value :=
  match serial.read numbers with
  | some (value, []) => some value
  | _ => none

theorem decode_write (serial : Serial Value) (value : Value) :
    serial.decode (serial.write value) = some value := by
  have found := serial.read_write value []
  rw [List.append_nil] at found
  rw [decode, found]

/-- One number. -/
def nat : Serial Nat where
  write number := [number]
  read
    | [] => none
    | number :: rest => some (number, rest)
  read_write _ _ := rfl

/-- One after the other. -/
def pair (first : Serial Value) (second : Serial Other) : Serial (Value × Other) where
  write value := first.write value.1 ++ second.write value.2
  read numbers :=
    (first.read numbers).bind fun found =>
      (second.read found.2).map fun other => ((found.1, other.1), other.2)
  read_write value rest := by
    rw [List.append_assoc, first.read_write, Option.bind_some, second.read_write, Option.map_some]

/-- A type that another one represents. -/
def via (serial : Serial Value) (represent : Other → Value) (restore : Value → Other)
    (restored : ∀ other, restore (represent other) = other) : Serial Other where
  write other := serial.write (represent other)
  read numbers := (serial.read numbers).map fun found => (restore found.1, found.2)
  read_write other rest := by
    rw [serial.read_write, Option.map_some, restored]

/-- Read a given number of values. -/
def readCount (serial : Serial Value) : Nat → List Nat → Option (List Value × List Nat)
  | 0, numbers => some ([], numbers)
  | count + 1, numbers =>
      (serial.read numbers).bind fun found =>
        (serial.readCount count found.2).map fun others => (found.1 :: others.1, others.2)

theorem readCount_flatMap (serial : Serial Value) (values : List Value) (rest : List Nat) :
    serial.readCount values.length (values.flatMap serial.write ++ rest) =
      some (values, rest) := by
  induction values with
  | nil => rfl
  | cons value values inductionHypothesis =>
      rw [List.flatMap_cons, List.append_assoc, List.length_cons, readCount, serial.read_write,
        Option.bind_some, inductionHypothesis, Option.map_some]

/-- A list, its length first. -/
def list (serial : Serial Value) : Serial (List Value) where
  write values := values.length :: values.flatMap serial.write
  read
    | [] => none
    | count :: rest => serial.readCount count rest
  read_write values rest := readCount_flatMap serial values rest

def option (serial : Serial Value) : Serial (Option Value) where
  write
    | none => [0]
    | some value => 1 :: serial.write value
  read
    | 0 :: rest => some (none, rest)
    | _ :: rest => (serial.read rest).map fun found => (some found.1, found.2)
    | [] => none
  read_write value rest := by
    cases value with
    | none => rfl
    | some value =>
        rw [List.cons_append]
        exact congrArg (Option.map fun found : Value × List Nat => (some found.1, found.2))
          (serial.read_write value rest)

/-- An integer, its sign first. -/
def int : Serial Int where
  write
    | .ofNat number => [0, number]
    | .negSucc number => [1, number]
  read
    | 0 :: number :: rest => some (.ofNat number, rest)
    | _ :: number :: rest => some (.negSucc number, rest)
    | _ => none
  read_write value rest := by
    cases value <;> rfl

/-- A text as the list of its characters. -/
def text : Serial String :=
  (list nat).via (fun value => value.toList.map Char.toNat)
    (fun numbers => String.ofList (numbers.map Char.ofNat))
    (fun value => by
      have same : value.toList.map (Char.ofNat ∘ Char.toNat) = value.toList := by
        rw [show Char.ofNat ∘ Char.toNat = id from funext Char.ofNat_toNat, List.map_id]
      rw [List.map_map, same, String.ofList_toList])

end Serial

end Slate.Foundation
