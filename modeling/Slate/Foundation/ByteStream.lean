import Mathlib.Algebra.Group.Nat.Defs
import Slate.Foundation.Statements

/-!
# Streams of bytes

A source hands out bytes in parts of any size, none at its end; a sink takes them. Whatever
the parts are, an exact number of bytes is read if the source still has them, and what is
left is what comes after them.
-/

namespace Slate.Foundation

variable {σ : Type}

/-- At most as many bytes as asked for. -/
abbrev ByteSource (σ : Type) := Nat → EStateM String σ (List Nat)

structure ByteSink (σ : Type) where
  write : List Nat → EStateM String σ Unit
  flush : EStateM String σ Unit

namespace ByteSource

/-- Reads until nothing is needed any more; each part has at least one byte. -/
def readExactLoop (source : ByteSource σ) : Nat → Nat → EStateM String σ (List Nat)
  | _, 0 => pure []
  | 0, _ + 1 => throw "failed to fill whole buffer"
  | rounds + 1, needed + 1 => do
      let part ← source (needed + 1)
      if part = [] then
        throw "failed to fill whole buffer"
      let others ← readExactLoop source rounds (needed + 1 - part.length)
      pure (part ++ others)

/-- `Read::read_exact`. -/
def readExact (source : ByteSource σ) (needed : Nat) : EStateM String σ (List Nat) :=
  readExactLoop source needed needed

/-- The source hands out its contents in parts that are not empty. -/
structure Delivers (source : ByteSource σ) (Good : σ → Prop) (contents : σ → List Nat) :
    Prop where
  part : ∀ state asked, Good state → 0 < asked → contents state ≠ [] →
    ∃ part next, source asked state = .ok part next ∧ Good next ∧ part ≠ [] ∧
      part.length ≤ asked ∧ contents state = part ++ contents next

variable {source : ByteSource σ} {Good : σ → Prop} {contents : σ → List Nat}

theorem Delivers.readExactLoop (delivers : source.Delivers Good contents) {rounds needed : Nat}
    {state : σ} (good : Good state) (enoughRounds : needed ≤ rounds)
    (enough : needed ≤ (contents state).length) :
    ∃ next, readExactLoop source rounds needed state = .ok ((contents state).take needed) next ∧
      Good next ∧ contents next = (contents state).drop needed := by
  induction rounds generalizing needed state with
  | zero =>
      obtain rfl : needed = 0 := by omega
      exact ⟨state, rfl, good, rfl⟩
  | succ rounds inductionHypothesis =>
      cases needed with
      | zero => exact ⟨state, rfl, good, rfl⟩
      | succ needed =>
          have nonempty : contents state ≠ [] := by
            rw [← List.length_pos_iff]
            omega
          obtain ⟨part, middle, read, goodMiddle, partNonempty, atMost, split⟩ :=
            delivers.part state (needed + 1) good (Nat.succ_pos needed) nonempty
          have positive : 0 < part.length := List.length_pos_iff.mpr partNonempty
          have total := congrArg List.length split
          rw [List.length_append] at total
          have fewerRounds : needed + 1 - part.length ≤ rounds := by omega
          have stillEnough : needed + 1 - part.length ≤ (contents middle).length := by omega
          obtain ⟨next, readOthers, goodNext, left⟩ :=
            inductionHypothesis goodMiddle fewerRounds stillEnough
          have taken : (contents state).take (needed + 1) =
              part ++ (contents middle).take (needed + 1 - part.length) := by
            rw [split, List.take_append, List.take_of_length_le atMost]
          have dropped : (contents state).drop (needed + 1) =
              (contents middle).drop (needed + 1 - part.length) := by
            rw [split, List.drop_append, List.drop_of_length_le atMost, List.nil_append]
          refine ⟨next, ?_, goodNext, left.trans dropped.symm⟩
          rw [ByteSource.readExactLoop, taken]
          change EStateM.bind (source (needed + 1)) _ state = _
          rw [EStateM.bind, read]
          simp only [partNonempty, if_false]
          change EStateM.bind (ByteSource.readExactLoop source rounds
            (needed + 1 - part.length)) _ middle = _
          rw [EStateM.bind, readOthers]
          rfl

/-- An exact number of bytes is read, however the source hands them out. -/
theorem Delivers.readExact (delivers : source.Delivers Good contents) {needed : Nat} {state : σ}
    (good : Good state) (enough : needed ≤ (contents state).length) :
    ∃ next, source.readExact needed state = .ok ((contents state).take needed) next ∧
      Good next ∧ contents next = (contents state).drop needed :=
  delivers.readExactLoop good (Nat.le_refl _) enough

theorem Delivers.readExact_append (delivers : source.Delivers Good contents) {bytes rest : List Nat}
    {state : σ} (good : Good state) (isContents : contents state = bytes ++ rest) :
    ∃ next, source.readExact bytes.length state = .ok bytes next ∧ Good next ∧
      contents next = rest := by
  have enough : bytes.length ≤ (contents state).length := by
    rw [isContents, List.length_append]
    exact Nat.le_add_right ..
  obtain ⟨next, read, goodNext, left⟩ := delivers.readExact good enough
  rw [isContents, List.take_left] at read
  rw [isContents, List.drop_left] at left
  exact ⟨next, read, goodNext, left⟩

end ByteSource

namespace ByteSink

/-- `Write::write_all`, for sinks that take what they are given. -/
def writeAll (sink : ByteSink σ) (bytes : List Nat) : EStateM String σ Unit :=
  if bytes = [] then pure () else sink.write bytes

end ByteSink

section Buffers

/-- A buffer that is read from its front. -/
def cursorSource : ByteSource (List Nat) := fun asked bytes =>
  .ok (bytes.take asked) (bytes.drop asked)

/-- Chunks that are handed out one by one. -/
def chunkSource : ByteSource (List (List Nat)) := fun asked chunks =>
  match chunks with
  | [] => .ok [] []
  | chunk :: rest =>
      .ok (chunk.take asked) (if chunk.length ≤ asked then rest else chunk.drop asked :: rest)

/-- A buffer that grows at its end. -/
def bufferSink : ByteSink (List Nat) where
  write bytes buffer := .ok () (buffer ++ bytes)
  flush buffer := .ok () buffer

theorem cursorSource_delivers : cursorSource.Delivers (fun _ => True) id where
  part bytes asked _ positive nonempty := by
    refine ⟨bytes.take asked, bytes.drop asked, rfl, trivial, ?_, List.length_take_le .., ?_⟩
    · rw [ne_eq, List.take_eq_nil_iff]
      intro empty
      rcases empty with none | isNil
      · omega
      · exact nonempty isNil
    · exact (List.take_append_drop asked bytes).symm

theorem chunkSource_delivers :
    chunkSource.Delivers (fun chunks => ∀ chunk ∈ chunks, chunk ≠ []) List.flatten where
  part chunks asked good positive nonempty := by
    cases chunks with
    | nil => exact absurd rfl nonempty
    | cons chunk rest =>
        obtain ⟨chunkNonempty, restGood⟩ := List.forall_mem_cons.mp good
        have takes : chunk.take asked ≠ [] := by
          rw [ne_eq, List.take_eq_nil_iff]
          intro empty
          rcases empty with none | isNil
          · omega
          · exact chunkNonempty isNil
        refine ⟨chunk.take asked, _, rfl, ?_, takes, List.length_take_le .., ?_⟩
        · by_cases whole : chunk.length ≤ asked
          · rwa [if_pos whole]
          · rw [if_neg whole]
            refine List.forall_mem_cons.mpr ⟨?_, restGood⟩
            rw [ne_eq, List.drop_eq_nil_iff]
            exact whole
        · by_cases whole : chunk.length ≤ asked
          · rw [if_pos whole, List.take_of_length_le whole, List.flatten_cons]
          · rw [if_neg whole, List.flatten_cons, List.flatten_cons, ← List.append_assoc,
              List.take_append_drop]

end Buffers

section BigEndian

/-- `u32::to_be_bytes`. -/
def toBeBytes (value : Nat) : List Nat :=
  [value / 2 ^ 24 % 256, value / 2 ^ 16 % 256, value / 2 ^ 8 % 256, value % 256]

/-- `u32::from_be_bytes`. -/
def fromBeBytes (bytes : List Nat) : Nat :=
  bytes.foldl (fun value byte => value * 256 + byte) 0

theorem fromBeBytes_toBeBytes {value : Nat} (inBounds : value < 2 ^ 32) :
    fromBeBytes (toBeBytes value) = value := by
  simp only [fromBeBytes, toBeBytes, List.foldl_cons, List.foldl_nil]
  omega

end BigEndian

end Slate.Foundation
