import Slate.Foundation.Occurrence
import Slate.Foundation.ParseInt
import Slate.Foundation.Utf8
import Slate.Foundation.Transaction
import Slate.Broadwebd.Http

/-!
# Chunked bodies

The body of a response comes in chunks, each behind a line with its size. The decoder reads the
size as any unsigned integer with white space around it, which is more than the grammar allows.
-/

namespace Slate.Broadwebd

open Foundation

def crlf : List UInt8 := [0x0D, 0x0A]

def findCrlf (input : List UInt8) : Option Nat := positionOf crlf input

section Decoding

/-- The size in front of the extensions. -/
def chunkSize (sizeLine : List Char) : Except ParseIntError Nat :=
  fromStrRadix 16 UInt64.size (Text.trim (Text.before (· = ';') sizeLine))

variable (utf8Error : List UInt8 → String)

/-- One turn of the loop: the output and the rest of the input behind a chunk, or nothing at the
last one. -/
def readChunk (limit : Nat) (output input : List UInt8) :
    Except BroadwebdError (Option (List UInt8 × List UInt8)) := do
  let lineEnd ← (findCrlf input).elim (.error (.request "truncated chunk size")) .ok
  let sizeLine ← (Utf8.decode (input.take lineEnd)).elim
    (.error (.request s!"invalid chunk size: {utf8Error (input.take lineEnd)}")) .ok
  let size ← (chunkSize sizeLine).mapError fun error =>
    .request s!"invalid chunk size: {error.text}"
  let rest := input.drop (lineEnd + 2)
  if size = 0 then .ok none
  else if rest.length < size then .error (.request "truncated chunk body")
  else
    let output := output ++ rest.take size
    if limit < output.length then .error (.responseTooLarge limit output.length)
    else if (rest.drop size).take 2 = crlf then .ok (some (output, rest.drop (size + 2)))
    else .error (.request "chunk body missing CRLF terminator")

end Decoding

section Reading

variable {utf8Error : List UInt8 → String} {limit : Nat}
  {output output' input rest line otherLine : List UInt8}

/-- Nothing in the line ends it. -/
def Inline (line : List UInt8) : Prop := ¬crlf <:+: line ++ crlf.dropLast

theorem findCrlf_append (inline : Inline line) :
    findCrlf (line ++ (crlf ++ rest)) = some line.length :=
  positionOf_append (by decide) inline

theorem inline_unique {otherRest : List UInt8} (inline : Inline line)
    (otherInline : Inline otherLine)
    (same : line ++ (crlf ++ rest) = otherLine ++ (crlf ++ otherRest)) :
    line = otherLine ∧ rest = otherRest :=
  first_occurrence_unique (by decide) inline otherInline same

/-- A line of which the size is read, and what stands behind it. -/
structure ReadsSize (input : List UInt8) (sizeLine : List Char) (size : Nat)
    (rest : List UInt8) : Prop where
  isInput : input = Utf8.encode sizeLine ++ (crlf ++ rest)
  inline : Inline (Utf8.encode sizeLine)
  isSize : chunkSize sizeLine = .ok size

theorem take_line (line rest : List UInt8) : (line ++ (crlf ++ rest)).take line.length = line := by
  rw [List.take_left]

theorem drop_line (line rest : List UInt8) :
    (line ++ (crlf ++ rest)).drop (line.length + 2) = rest := by
  have length : line.length + 2 = (line ++ crlf).length := by
    rw [List.length_append]
    rfl
  rw [length, ← List.append_assoc, List.drop_left]

theorem readChunk_eq_ok_iff {result : Option (List UInt8 × List UInt8)} :
    readChunk utf8Error limit output input = .ok result ↔
      ∃ sizeLine size behind, ReadsSize input sizeLine size behind ∧
        (size = 0 ∧ result = none ∨
          ∃ chunk rest, chunk ≠ [] ∧ size = chunk.length ∧ behind = chunk ++ (crlf ++ rest) ∧
            (output ++ chunk).length ≤ limit ∧ result = some (output ++ chunk, rest)) := by
  unfold readChunk
  constructor
  · intro read
    obtain ⟨lineEnd, found, readLine⟩ := bind_eq_ok_iff.mp read
    cases isFound : findCrlf input with
    | none =>
        rw [isFound] at found
        cases found
    | some position =>
    rw [isFound] at found
    obtain rfl : position = lineEnd := Except.ok.inj found
    obtain ⟨line, behind, rfl, rfl, inline⟩ := exists_of_positionOf (by decide) isFound
    rw [take_line, drop_line] at readLine
    obtain ⟨sizeLine, decoded, readSize⟩ := bind_eq_ok_iff.mp readLine
    have isLine : line = Utf8.encode sizeLine := by
      cases isDecoded : Utf8.decode line with
      | none =>
          rw [isDecoded] at decoded
          cases decoded
      | some text =>
          rw [isDecoded] at decoded
          rw [← Except.ok.inj decoded]
          exact Utf8.decode_eq_some_iff.mp isDecoded
    obtain ⟨size, isSize, readBehind⟩ := bind_eq_ok_iff.mp readSize
    have lineInline : Inline (Utf8.encode sizeLine) := isLine ▸ inline
    refine ⟨sizeLine, size, behind, ⟨by rw [isLine], lineInline, mapError_eq_ok_iff.mp isSize⟩, ?_⟩
    dsimp only at readBehind
    split at readBehind
    · rename_i isZero
      exact .inl ⟨isZero, (Except.ok.inj readBehind).symm⟩
    rename_i notZero
    split at readBehind
    · cases readBehind
    rename_i long
    split at readBehind
    · cases readBehind
    rename_i inBounds
    split at readBehind
    · rename_i terminated
      have size_le : size ≤ behind.length := not_lt.mp long
      refine .inr ⟨behind.take size, behind.drop (size + 2), ?_, ?_, ?_, not_lt.mp inBounds,
        (Except.ok.inj readBehind).symm⟩
      · intro empty
        have length := congrArg List.length empty
        rw [List.length_take, List.length_nil] at length
        omega
      · rw [List.length_take]
        omega
      · rw [← terminated, ← List.drop_drop, List.take_append_drop, List.take_append_drop]
    · cases readBehind
  · rintro ⟨sizeLine, size, behind, ⟨rfl, inline, isSize⟩, outcome⟩
    rw [findCrlf_append inline]
    refine bind_eq_ok_iff.mpr ⟨_, rfl, ?_⟩
    rw [take_line, drop_line, Utf8.decode_eq_some_iff.mpr rfl]
    refine bind_eq_ok_iff.mpr ⟨sizeLine, rfl, bind_eq_ok_iff.mpr ⟨size, ?_, ?_⟩⟩
    · exact mapError_eq_ok_iff.mpr isSize
    · rcases outcome with ⟨isZero, rfl⟩ | ⟨chunk, rest, nonempty, rfl, rfl, inBounds, rfl⟩
      · rw [if_pos isZero]
      · have notZero : chunk.length ≠ 0 := fun zero => nonempty (List.length_eq_zero_iff.mp zero)
        have long : ¬(chunk ++ (crlf ++ rest)).length < chunk.length := by simp
        have isCrlf : (crlf ++ rest).take 2 = crlf := rfl
        dsimp only
        rw [if_neg notZero, if_neg long, List.take_left, if_neg (not_lt.mpr inBounds),
          List.drop_left, if_pos isCrlf, drop_line]

/-- A chunk is taken off the input. -/
theorem length_lt_of_readChunk
    (read : readChunk utf8Error limit output input = .ok (some (output', rest))) :
    rest.length < input.length := by
  obtain ⟨sizeLine, size, behind, ⟨rfl, -, -⟩, outcome⟩ := readChunk_eq_ok_iff.mp read
  rcases outcome with ⟨-, absurd⟩ | ⟨chunk, others, nonempty, -, rfl, -, same⟩
  · cases absurd
  · obtain ⟨-, rfl⟩ := Prod.mk.inj (Option.some.inj same)
    have positive : 0 < crlf.length := by decide
    simp only [List.length_append]
    omega

end Reading

section Decoder

variable (utf8Error : List UInt8 → String)

/-- The loop over the chunks, with what it has put out so far. -/
def decodeChunks (limit : Nat) (output input : List UInt8) :
    Except BroadwebdError (List UInt8) :=
  match _isRead : readChunk utf8Error limit output input with
  | .error error => .error error
  | .ok none => .ok output
  | .ok (some (output, rest)) => decodeChunks limit output rest
termination_by input.length
decreasing_by exact length_lt_of_readChunk _isRead

def decodeChunkedBody (body : List UInt8) (limit : Nat) : Except BroadwebdError (List UInt8) :=
  decodeChunks utf8Error limit [] body

end Decoder

end Slate.Broadwebd
