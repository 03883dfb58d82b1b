import Slate.Broadwebd.ServiceFrame

/-!
# Round trips of service frames

A value whose encoding fits the limit and the length prefix is written as one frame, and a
reader takes the same value and no byte behind it from any source that has the frame in
front. Nothing is written of a value that does not fit.
-/

namespace Slate.Broadwebd

open Slate.Foundation

section Encoding

variable {Value σ : Type} {serde : Serde Value} {value : Value} {maxFrameBytes : Nat}
  {label : String}

def Serde.encoding (serde : Serde Value) (value : Value) : List Nat :=
  (serde.toWriter value).1.flatten

/-- Every value is encoded, and its encoding decodes to it. -/
structure Serde.RoundTrips (serde : Serde Value) : Prop where
  encodes : ∀ value, (serde.toWriter value).2 = none
  decodes : ∀ value, serde.fromSlice (serde.encoding value) = .ok value

/-- The writer with more bytes. -/
def BoundedFrameWriter.append (piece : List Nat) (writer : BoundedFrameWriter) :
    BoundedFrameWriter :=
  { writer with bytes := writer.bytes ++ piece }

theorem append_append (first second : List Nat) (writer : BoundedFrameWriter) :
    (writer.append first).append second = writer.append (first ++ second) := by
  unfold BoundedFrameWriter.append
  rw [List.append_assoc]

theorem length_append (piece : List Nat) (writer : BoundedFrameWriter) :
    (writer.append piece).bytes.length = writer.bytes.length + piece.length :=
  List.length_append

theorem writeAll_of_fits {piece : List Nat} {writer : BoundedFrameWriter}
    (fits : writer.bytes.length + piece.length ≤ writer.maxFrameBytes) :
    BoundedFrameWriter.sink.writeAll piece writer = .ok () (writer.append piece) := by
  unfold ByteSink.writeAll
  by_cases empty : piece = []
  · rw [if_pos empty, empty, BoundedFrameWriter.append, List.append_nil]
    rfl
  · rw [if_neg empty]
    exact if_neg (not_lt.mpr fits)

theorem writeAll_of_large {piece : List Nat} {writer : BoundedFrameWriter}
    (inBounds : writer.bytes.length ≤ writer.maxFrameBytes)
    (large : writer.maxFrameBytes < writer.bytes.length + piece.length) :
    ∃ error after actual, BoundedFrameWriter.sink.writeAll piece writer = .error error after ∧
      after.rejectedLen = some actual := by
  have nonempty : piece ≠ [] := by
    rintro rfl
    exact absurd large (not_lt.mpr inBounds)
  refine ⟨"broadwebd service frame exceeds configured byte limit",
    { writer with rejectedLen := some (writer.bytes.length + piece.length) },
    writer.bytes.length + piece.length, ?_, rfl⟩
  unfold ByteSink.writeAll
  rw [if_neg nonempty]
  exact if_pos large

theorem writePieces_of_fits {pieces : List (List Nat)} {writer : BoundedFrameWriter}
    (fits : writer.bytes.length + pieces.flatten.length ≤ writer.maxFrameBytes) :
    writePieces pieces writer = .ok () (writer.append pieces.flatten) := by
  induction pieces generalizing writer with
  | nil =>
      rw [List.flatten_nil, BoundedFrameWriter.append, List.append_nil]
      rfl
  | cons piece pieces inductionHypothesis =>
      rw [List.flatten_cons, List.length_append, ← Nat.add_assoc] at fits
      have written := writeAll_of_fits ((Nat.le_add_right _ _).trans fits)
      rw [← length_append] at fits
      change EStateM.bind (BoundedFrameWriter.sink.writeAll piece) _ writer = _
      rw [EStateM.bind, written, List.flatten_cons, ← append_append]
      exact inductionHypothesis fits

/-- Pieces that do not fit as a whole are rejected at one of them. -/
theorem writePieces_of_large {pieces : List (List Nat)} {writer : BoundedFrameWriter}
    (inBounds : writer.bytes.length ≤ writer.maxFrameBytes)
    (large : writer.maxFrameBytes < writer.bytes.length + pieces.flatten.length) :
    ∃ error after actual, writePieces pieces writer = .error error after ∧
      after.rejectedLen = some actual := by
  induction pieces generalizing writer with
  | nil => exact absurd large (not_lt.mpr inBounds)
  | cons piece pieces inductionHypothesis =>
      rw [List.flatten_cons, List.length_append, ← Nat.add_assoc] at large
      by_cases fits : writer.bytes.length + piece.length ≤ writer.maxFrameBytes
      · have written := writeAll_of_fits fits
        rw [← length_append] at fits large
        obtain ⟨error, after, actual, rejects, isActual⟩ := inductionHypothesis fits large
        refine ⟨error, after, actual, ?_, isActual⟩
        change EStateM.bind (BoundedFrameWriter.sink.writeAll piece) _ writer = _
        rw [EStateM.bind, written]
        exact rejects
      · obtain ⟨error, after, actual, rejects, isActual⟩ :=
          writeAll_of_large inBounds (not_le.mp fits)
        refine ⟨error, after, actual, ?_, isActual⟩
        change EStateM.bind (BoundedFrameWriter.sink.writeAll piece) _ writer = _
        rw [EStateM.bind, rejects]

theorem encodeJsonFrame_of_fits (roundTrips : serde.RoundTrips)
    (fits : (serde.encoding value).length ≤ maxFrameBytes) :
    encodeJsonFrame serde value maxFrameBytes label = .ok (serde.encoding value) := by
  have written := @writePieces_of_fits (serde.toWriter value).1 (.new maxFrameBytes)
    (by rwa [BoundedFrameWriter.new, List.length_nil, Nat.zero_add])
  have isWritten : serde.writeTo value (.new maxFrameBytes) =
      .ok () ((BoundedFrameWriter.new maxFrameBytes).append (serde.encoding value)) := by
    change EStateM.bind (writePieces (serde.toWriter value).1) _ _ = _
    rw [EStateM.bind, written, roundTrips.encodes]
    rfl
  rw [encodeJsonFrame, isWritten]
  rfl

theorem encodeJsonFrame_of_large (large : maxFrameBytes < (serde.encoding value).length) :
    ∃ actual, encodeJsonFrame serde value maxFrameBytes label =
      .error (.frameTooLarge maxFrameBytes actual) := by
  obtain ⟨error, after, actual, rejects, isActual⟩ := @writePieces_of_large
    (serde.toWriter value).1 (.new maxFrameBytes) (Nat.zero_le _)
    (by rwa [BoundedFrameWriter.new, List.length_nil, Nat.zero_add])
  have fails : serde.writeTo value (.new maxFrameBytes) = .error error after := by
    change EStateM.bind (writePieces (serde.toWriter value).1) _ _ = _
    rw [EStateM.bind, rejects]
  refine ⟨actual, ?_⟩
  rw [encodeJsonFrame, fails]
  dsimp only
  rw [isActual]

theorem decodeJsonFrame_encoding (roundTrips : serde.RoundTrips)
    (fits : (serde.encoding value).length ≤ maxFrameBytes) :
    decodeJsonFrame serde (serde.encoding value) maxFrameBytes label = .ok value := by
  rw [decodeJsonFrame, if_neg (not_lt.mpr fits), roundTrips.decodes]
  rfl

end Encoding

section Framing

variable {σ : Type} {frame rest : List Nat}

/-- A frame behind its length. -/
def framed (frame : List Nat) : List Nat := toBeBytes frame.length ++ frame

theorem io_eq_ok {α : Type} {action : EStateM String σ α} {state next : σ} {value : α}
    (succeeds : action state = .ok value next) : io action state = .ok value next := by
  rw [io, EStateM.adaptExcept, succeeds]

theorem io_eq_error {α : Type} {action : EStateM String σ α} {state next : σ} {error : String}
    (fails : action state = .error error next) : io action state = .error (.io error) next := by
  rw [io, EStateM.adaptExcept, fails]

theorem bind_eq_of_ok {ε α β : Type} {first : EStateM ε σ α} {next : α → EStateM ε σ β}
    {state middle : σ} {value : α} (succeeds : first state = .ok value middle) :
    (first >>= next) state = next value middle := by
  change EStateM.bind first next state = _
  rw [EStateM.bind, succeeds]

theorem bind_eq_of_error {ε α β : Type} {first : EStateM ε σ α} {next : α → EStateM ε σ β}
    {state middle : σ} {error : ε} (fails : first state = .error error middle) :
    (first >>= next) state = .error error middle := by
  change EStateM.bind first next state = _
  rw [EStateM.bind, fails]

/-- A frame that fits the prefix is written behind its length, then the sink is flushed. -/
theorem writeLenPrefixedFrame_eq {sink : ByteSink σ} {state withLength withFrame : σ}
    (short : frame.length < 2 ^ 32)
    (writesLength : sink.writeAll (toBeBytes frame.length) state = .ok () withLength)
    (writesFrame : sink.writeAll frame withLength = .ok () withFrame) :
    writeLenPrefixedFrame sink frame state = io sink.flush withFrame := by
  unfold writeLenPrefixedFrame
  rw [if_neg (not_le.mpr short)]
  dsimp only
  rw [bind_eq_of_ok (io_eq_ok writesLength), bind_eq_of_ok (io_eq_ok writesFrame)]

theorem writeLenPrefixedFrame_of_long {sink : ByteSink σ} {state : σ}
    (long : 2 ^ 32 ≤ frame.length) :
    ∃ error, writeLenPrefixedFrame sink frame state = .error error state := by
  unfold writeLenPrefixedFrame
  rw [if_pos long]
  exact ⟨_, rfl⟩

theorem bufferSink_writeAll (bytes buffer : List Nat) :
    bufferSink.writeAll bytes buffer = .ok () (buffer ++ bytes) := by
  unfold ByteSink.writeAll
  by_cases empty : bytes = []
  · rw [if_pos empty, empty, List.append_nil]
    rfl
  · rw [if_neg empty]
    rfl

theorem writeLenPrefixedFrame_bufferSink (buffer : List Nat) (short : frame.length < 2 ^ 32) :
    writeLenPrefixedFrame bufferSink frame buffer = .ok () (buffer ++ framed frame) := by
  rw [writeLenPrefixedFrame_eq short (bufferSink_writeAll _ _) (bufferSink_writeAll _ _),
    List.append_assoc]
  rfl

/-- A frame is read from a source that has it in front, whatever parts the source makes. -/
theorem readLenPrefixedFrame_framed {source : ByteSource σ} {Good : σ → Prop}
    {contents : σ → List Nat} (delivers : source.Delivers Good contents) {state : σ}
    (good : Good state) {maxFrameBytes : Nat} (short : frame.length < 2 ^ 32)
    (fits : frame.length ≤ maxFrameBytes) (isContents : contents state = framed frame ++ rest) :
    ∃ next, readLenPrefixedFrame source maxFrameBytes state = .ok frame next ∧ Good next ∧
      contents next = rest := by
  rw [framed, List.append_assoc] at isContents
  obtain ⟨middle, readLength, goodMiddle, afterLength⟩ :=
    delivers.readExact_append good isContents
  obtain ⟨next, readFrame, goodNext, left⟩ :=
    delivers.readExact_append goodMiddle afterLength
  have isFour : (toBeBytes frame.length).length = 4 := rfl
  rw [isFour] at readLength
  refine ⟨next, ?_, goodNext, left⟩
  unfold readLenPrefixedFrame
  rw [bind_eq_of_ok (io_eq_ok readLength)]
  dsimp only
  rw [fromBeBytes_toBeBytes short, if_neg (not_lt.mpr fits)]
  exact io_eq_ok readFrame

end Framing

section Values

variable {Value σ : Type} {serde : Serde Value} {value : Value} {maxFrameBytes : Nat}
  {label : String}

/-- The encoding fits the limit, and its length fits the prefix. -/
def Serde.Carries (serde : Serde Value) (maxFrameBytes : Nat) (value : Value) : Prop :=
  (serde.encoding value).length ≤ maxFrameBytes ∧ (serde.encoding value).length < 2 ^ 32

def writeValue (serde : Serde Value) (maxFrameBytes : Nat) (label : String) (sink : ByteSink σ)
    (value : Value) : EStateM BroadwebdError σ Unit := do
  let frame ← MonadExcept.ofExcept (encodeJsonFrame serde value maxFrameBytes label)
  writeLenPrefixedFrame sink frame

def readValue (serde : Serde Value) (maxFrameBytes : Nat) (label : String)
    (source : ByteSource σ) : EStateM BroadwebdError σ Value := do
  let frame ← readLenPrefixedFrame source maxFrameBytes
  MonadExcept.ofExcept (decodeJsonFrame serde frame maxFrameBytes label)

theorem writeValue_of_carries (roundTrips : serde.RoundTrips)
    (carries : serde.Carries maxFrameBytes value) (sink : ByteSink σ) (state : σ) :
    writeValue serde maxFrameBytes label sink value state =
      writeLenPrefixedFrame sink (serde.encoding value) state := by
  unfold writeValue
  rw [encodeJsonFrame_of_fits roundTrips carries.1]
  rfl

/-- Nothing of a value that is not carried is written. -/
theorem writeValue_of_not_carries (roundTrips : serde.RoundTrips)
    (notCarried : ¬ serde.Carries maxFrameBytes value) (sink : ByteSink σ) (state : σ) :
    ∃ error, writeValue serde maxFrameBytes label sink value state = .error error state := by
  unfold writeValue
  by_cases fits : (serde.encoding value).length ≤ maxFrameBytes
  · have long : 2 ^ 32 ≤ (serde.encoding value).length :=
      not_lt.mp fun short => notCarried ⟨fits, short⟩
    rw [encodeJsonFrame_of_fits roundTrips fits]
    exact writeLenPrefixedFrame_of_long long
  · obtain ⟨actual, rejected⟩ :=
      @encodeJsonFrame_of_large _ serde value maxFrameBytes label (not_le.mp fits)
    rw [rejected]
    exact ⟨_, rfl⟩

theorem writeValue_bufferSink (roundTrips : serde.RoundTrips)
    (carries : serde.Carries maxFrameBytes value) (buffer : List Nat) :
    writeValue serde maxFrameBytes label bufferSink value buffer =
      .ok () (buffer ++ framed (serde.encoding value)) := by
  rw [writeValue_of_carries roundTrips carries]
  exact writeLenPrefixedFrame_bufferSink buffer carries.2

theorem writeValue_bufferSink_eq_ok_iff (roundTrips : serde.RoundTrips)
    {buffer after : List Nat} :
    writeValue serde maxFrameBytes label bufferSink value buffer = .ok () after ↔
      serde.Carries maxFrameBytes value ∧ after = buffer ++ framed (serde.encoding value) := by
  by_cases carries : serde.Carries maxFrameBytes value
  · rw [writeValue_bufferSink roundTrips carries]
    simp [carries, eq_comm]
  · obtain ⟨error, fails⟩ :=
      @writeValue_of_not_carries _ _ _ _ _ label roundTrips carries bufferSink buffer
    rw [fails]
    simp [carries]

/-- What was written is read again, and nothing behind it. -/
theorem readValue_framed (roundTrips : serde.RoundTrips)
    (carries : serde.Carries maxFrameBytes value) {source : ByteSource σ} {Good : σ → Prop}
    {contents : σ → List Nat} (delivers : source.Delivers Good contents) {state : σ}
    {rest : List Nat} (good : Good state)
    (isContents : contents state = framed (serde.encoding value) ++ rest) :
    ∃ next, readValue serde maxFrameBytes label source state = .ok value next ∧ Good next ∧
      contents next = rest := by
  obtain ⟨next, read, goodNext, left⟩ :=
    readLenPrefixedFrame_framed delivers good carries.2 carries.1 isContents
  refine ⟨next, ?_, goodNext, left⟩
  unfold readValue
  rw [bind_eq_of_ok read, decodeJsonFrame_encoding roundTrips carries.1]
  rfl

end Values

end Slate.Broadwebd
