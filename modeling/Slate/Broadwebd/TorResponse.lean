import Slate.Broadwebd.ChunkGrammar
import Slate.Broadwebd.ContentTypes

/-!
# Responses over Tor

A response is read from the bytes of a stream: the lines of its head up to an empty one, and the
body behind it, in chunks where a header says so. What a server writes is read back, as long as
the decoder can make sense of the extensions that it drops.
-/

namespace Slate.Broadwebd

open Foundation

def maxHeaderBytes : Nat := 64 * 1024

structure ResourceBudget where
  maxHttpResponseBytes : UInt64
  deriving DecidableEq, Repr

def ResourceBudget.limit (budget : ResourceBudget) : Nat := budget.maxHttpResponseBytes.toNat

section Heads

def findHeaderEnd (response : List UInt8) : Option Nat := positionOf (crlf ++ crlf) response

def ontoFirst (char : Char) : List (List Char) → List (List Char)
  | [] => [[char]]
  | line :: lines => (char :: line) :: lines

/-- `str::split` at line ends. -/
def splitLines : List Char → List (List Char)
  | [] => [[]]
  | '\r' :: '\n' :: rest => [] :: splitLines rest
  | char :: rest => ontoFirst char (splitLines rest)

def splitWhitespace (text : List Char) : List (List Char) :=
  (text.splitOnP Text.isWhitespace).filter (· ≠ [])

def statusCode (statusLine : List Char) : Except BroadwebdError UInt16 :=
  match splitWhitespace statusLine with
  | [] => .error (.request "missing HTTP version")
  | version :: parts =>
    if ¬"HTTP/".toList <+: version then
      .error (.request s!"invalid HTTP status line: {String.ofList statusLine}")
    else
      match parts with
      | [] => .error (.request "missing HTTP status code")
      | code :: _ =>
        ((fromStrRadix 10 UInt16.size code).map UInt16.ofNat).mapError fun error =>
          .request s!"invalid HTTP status code: {error.text}"

def httpHeader (line : List Char) : Option HttpHeader :=
  (Text.splitOnce [':'] line).bind fun (name, value) =>
    if Text.trim name = [] then none
    else some {
      name := String.ofList (Text.trim name)
      value := String.ofList (Text.trim value) }

/-- The first header of the transfer encoding names chunks. -/
def namesChunks (headers : List HttpHeader) : Bool :=
  (headerValue headers "transfer-encoding").any fun value =>
    Text.contains (Text.toAsciiLowercase value.toList) "chunked".toList

end Heads

section Responses

variable (parsers : UrlStandard.Parsers) (utf8Error : List UInt8 → String)

def decodeBody (headers : List HttpHeader) (limit : Nat) (sent : List UInt8) :
    Except BroadwebdError (List UInt8) :=
  if namesChunks headers then decodeChunkedBody utf8Error sent limit else .ok sent

def httpResponseFromBytes (finalUrl : String) (response : List UInt8) (budget : ResourceBudget) :
    Except BroadwebdError HttpFetchResponse := do
  let headerEnd ← (findHeaderEnd response).elim
    (.error (.request "Tor HTTP response ended before headers completed")) .ok
  if maxHeaderBytes < headerEnd then .error (.responseTooLarge budget.limit headerEnd)
  else
    let headerText ← (Utf8.decode (response.take headerEnd)).elim
      (.error (.request s!"invalid HTTP headers: {utf8Error (response.take headerEnd)}")) .ok
    let lines := splitLines headerText
    let statusLine ← lines.head?.elim (.error (.request "missing HTTP status line")) .ok
    let statusCode ← statusCode statusLine
    let headers := lines.tail.filterMap httpHeader
    let body ← decodeBody utf8Error headers budget.limit (response.drop (headerEnd + 4))
    if budget.limit < body.length then .error (.responseTooLarge budget.limit body.length)
    else
      let contentType :=
        inferContentType parsers finalUrl (headerValue headers "content-type") body
      .ok (HttpFetchResponse.new parsers finalUrl statusCode contentType headers body)

end Responses

section Written

/-- A header that is written in a line of its own. -/
structure WellFormedHeader (header : HttpHeader) : Prop where
  named : header.name.toList ≠ []
  nameTrimmed : Text.trim header.name.toList = header.name.toList
  uncoloned : ':' ∉ header.name.toList
  valueTrimmed : Text.trim header.value.toList = header.value.toList
  nameInline : '\r' ∉ header.name.toList ∧ '\n' ∉ header.name.toList
  valueInline : '\r' ∉ header.value.toList ∧ '\n' ∉ header.value.toList

/-- What stands in front of a body. -/
structure ResponseHead where
  statusCode : UInt16
  reason : List Char
  headers : List HttpHeader
  reasonInline : '\r' ∉ reason ∧ '\n' ∉ reason
  wellFormed : ∀ header ∈ headers, WellFormedHeader header

def headerLine (header : HttpHeader) : List Char :=
  header.name.toList ++ ':' :: ' ' :: header.value.toList

def ResponseHead.statusLine (head : ResponseHead) : List Char :=
  "HTTP/1.1".toList ++ ' ' :: (Nat.toDigits 10 head.statusCode.toNat ++ ' ' :: head.reason)

/-- Lines behind a first one. -/
def furtherLines (lines : List (List Char)) : List Char :=
  lines.flatMap fun line => '\r' :: '\n' :: line

def ResponseHead.text (head : ResponseHead) : List Char :=
  head.statusLine ++ furtherLines (head.headers.map headerLine)

/-- What a server sends behind the head. -/
inductive Payload where
  | plain (body : List UInt8)
  | chunked (chunks : List Chunk) (last : SizeLine) (trailers : List UInt8)

def Payload.bytes : Payload → List UInt8
  | .plain body => body
  | .chunked chunks last trailers => writeChunks chunks last trailers

def Payload.body : Payload → List UInt8
  | .plain body => body
  | .chunked chunks _ _ => dataOf chunks

/-- The payload is sent as the headers say. -/
def Payload.Announced (headers : List HttpHeader) : Payload → Prop
  | .plain _ => headerValue headers "transfer-encoding" = none
  | .chunked _ last _ => last.size = 0 ∧ ∃ header ∈ headers, namesChunks [header]

/-- How many bytes of a payload must be there for its body to be whole, where this can be
seen. -/
def Payload.framed : Payload → Nat
  | .plain _ => 0
  | .chunked chunks last _ => (writeChunks chunks last []).length

/-- The decoder is led to the chunks, and their extensions are text. -/
def Payload.Readable (headers : List HttpHeader) : Payload → Prop
  | .plain _ => True
  | .chunked chunks last _ => namesChunks headers ∧
      (∀ chunk ∈ chunks, (Utf8.decode chunk.line.extension).isSome) ∧
        (Utf8.decode last.extension).isSome

structure Message where
  head : ResponseHead
  payload : Payload
  announced : payload.Announced head.headers

def Message.headBytes (message : Message) : List UInt8 :=
  Utf8.encode message.head.text ++ (crlf ++ crlf)

def Message.bytes (message : Message) : List UInt8 := message.headBytes ++ message.payload.bytes

end Written

section Lines

variable {line : List Char} {lines : List (List Char)} {rest : List Char}

theorem splitLines_cons {char : Char} (other : '\r' ≠ char) :
    splitLines (char :: rest) = ontoFirst char (splitLines rest) := by
  rw [splitLines]
  rintro behind rfl -
  exact other rfl

theorem splitLines_of_inline (inline : '\r' ∉ line) : splitLines line = [line] := by
  induction line with
  | nil => rfl
  | cons first line inductionHypothesis =>
      rw [List.mem_cons, not_or] at inline
      rw [splitLines_cons inline.1, inductionHypothesis inline.2]
      rfl

theorem splitLines_append (inline : '\r' ∉ line) :
    splitLines (line ++ '\r' :: '\n' :: rest) = line :: splitLines rest := by
  induction line with
  | nil => rw [List.nil_append, splitLines]
  | cons first line inductionHypothesis =>
      rw [List.mem_cons, not_or] at inline
      rw [List.cons_append, splitLines_cons inline.1, inductionHypothesis inline.2]
      rfl

theorem splitLines_furtherLines (inline : '\r' ∉ line) (allInline : ∀ line ∈ lines, '\r' ∉ line) :
    splitLines (line ++ furtherLines lines) = line :: lines := by
  induction lines generalizing line with
  | nil =>
      rw [furtherLines, List.flatMap_nil, List.append_nil]
      exact splitLines_of_inline inline
  | cons next lines inductionHypothesis =>
      obtain ⟨nextInline, othersInline⟩ := List.forall_mem_cons.mp allInline
      have isRest := inductionHypothesis nextInline othersInline
      rw [furtherLines, List.flatMap_cons, List.cons_append, List.cons_append,
        splitLines_append inline]
      exact congrArg (line :: ·) isRest

/-- No line in the head is empty, so that the first empty one ends it. -/
theorem head_unbroken {last : List UInt8} (inline : '\r' ∉ line)
    (nonempty : ∀ line ∈ lines, line ≠ []) (allInline : ∀ line ∈ lines, '\r' ∉ line)
    (isLast : last = [0x0D, 0x0A, 0x0D]) :
    ¬crlf ++ crlf <:+: Utf8.encode (line ++ furtherLines lines) ++ last := by
  have absent {line : List Char} (inline : '\r' ∉ line) : (0x0D : UInt8) ∉ Utf8.encode line :=
    Utf8.not_mem_encode (by decide) inline
  induction lines generalizing line with
  | nil =>
      intro within
      rw [furtherLines, List.flatMap_nil, List.append_nil] at within
      have atEnd := infix_of_not_mem (absent inline) within
      rw [isLast] at atEnd
      revert atEnd
      decide
  | cons next lines inductionHypothesis =>
      obtain ⟨nextNonempty, othersNonempty⟩ := List.forall_mem_cons.mp nonempty
      obtain ⟨nextInline, othersInline⟩ := List.forall_mem_cons.mp allInline
      intro within
      have isEnd : Utf8.encode (furtherLines (next :: lines)) =
          0x0D :: 0x0A :: Utf8.encode (next ++ furtherLines lines) := by
        rw [furtherLines, List.flatMap_cons, List.cons_append, List.cons_append]
        rfl
      rw [Utf8.encode_append, List.append_assoc, isEnd] at within
      have behind : [0x0D, 0x0A, 0x0D, 0x0A] <:+:
          0x0D :: 0x0A :: (Utf8.encode (next ++ furtherLines lines) ++ last) :=
        infix_of_not_mem (absent inline) within
      rw [List.infix_cons_iff, List.cons_prefix_cons, List.cons_prefix_cons] at behind
      rcases behind with ⟨-, -, atNext⟩ | behind
      · obtain ⟨first, others, rfl⟩ := List.exists_cons_of_ne_nil nextNonempty
        obtain ⟨byte, bytes, isFirst⟩ :=
          List.exists_cons_of_ne_nil (String.utf8EncodeChar_ne_nil (c := first))
        have isByte : byte ∈ Utf8.encode (first :: others) := by
          rw [Utf8.encode, List.flatMap_cons, isFirst]
          exact List.mem_cons_self
        rw [Utf8.encode, List.cons_append, List.flatMap_cons, isFirst, List.cons_append,
          List.cons_append, List.cons_prefix_cons] at atNext
        rw [← atNext.1] at isByte
        exact absent nextInline isByte
      · have notLf : (0x0D : UInt8) ∉ [(0x0A : UInt8)] := by decide
        exact inductionHypothesis nextInline othersNonempty othersInline
          (infix_of_not_mem notLf behind)

end Lines

section Heads

variable {header : HttpHeader} {head : ResponseHead} {text word : List Char}

theorem trim_space (text : List Char) : Text.trim (' ' :: text) = Text.trim text := by
  rw [Text.trim, List.dropWhile_cons_of_pos (by decide), Text.trim]

theorem httpHeader_headerLine (wellFormed : WellFormedHeader header) :
    httpHeader (headerLine header) = some header := by
  have isSplit : Text.splitOnce [':'] (headerLine header) =
      some (header.name.toList, ' ' :: header.value.toList) :=
    Text.splitOnce_char_eq_some_iff.mpr ⟨rfl, wellFormed.uncoloned⟩
  rw [httpHeader, isSplit, Option.bind_some]
  dsimp only
  rw [wellFormed.nameTrimmed, if_neg wellFormed.named, trim_space, wellFormed.valueTrimmed,
    String.ofList_toList, String.ofList_toList]

theorem splitWhitespace_append (unspaced : Text.Unspaced word) (nonempty : word ≠ []) :
    splitWhitespace (word ++ ' ' :: text) = word :: splitWhitespace text := by
  rw [splitWhitespace, List.splitOnP_append_cons _ _ (by decide),
    List.splitOnP_eq_singleton unspaced, List.singleton_append, List.filter_cons_of_pos]
  · rfl
  · simpa using nonempty

theorem toDigits_unspaced (value : Nat) : Text.Unspaced (Nat.toDigits 10 value) := by
  intro char isMember
  apply Text.isWhitespace_of_alphanum
  have isDigit := Nat.isDigit_of_mem_toDigits (by decide) (by decide) isMember
  simp [Char.isAlphanum, isDigit]

theorem statusLine_eq (head : ResponseHead) : head.statusLine = "HTTP/1.1".toList ++
    ' ' :: (Nat.toDigits 10 head.statusCode.toNat ++ ' ' :: head.reason) := rfl

theorem statusCode_statusLine (head : ResponseHead) :
    Slate.Broadwebd.statusCode head.statusLine = .ok head.statusCode := by
  have isVersion : Text.Unspaced "HTTP/1.1".toList := by decide
  have isProtocol : "HTTP/".toList <+: "HTTP/1.1".toList := by decide
  have digits : Nat.toDigits 10 head.statusCode.toNat ≠ [] := Nat.toDigits_ne_nil
  have spells : Spells 10 (Nat.toDigits 10 head.statusCode.toNat) head.statusCode.toNat := by
    refine ⟨digits, ?_, ?_⟩
    · exact Reader.isDigitOf_of_mem_toDigits (by decide) (by decide)
    · exact Reader.ofDigits_toDigits (by decide) (by decide)
  have isCode : fromStrRadix 10 UInt16.size (Nat.toDigits 10 head.statusCode.toNat) =
      .ok head.statusCode.toNat :=
    (fromStrRadix_eq_ok_iff (by decide) (by decide)).mpr
      ⟨_, .inl rfl, spells, head.statusCode.toNat_lt⟩
  have parts : splitWhitespace head.statusLine = "HTTP/1.1".toList ::
      Nat.toDigits 10 head.statusCode.toNat :: splitWhitespace head.reason := by
    rw [statusLine_eq, splitWhitespace_append isVersion (by decide),
      splitWhitespace_append (toDigits_unspaced _) digits]
  unfold Slate.Broadwebd.statusCode
  rw [parts]
  dsimp only
  rw [if_neg (not_not_intro isProtocol), isCode]
  exact congrArg Except.ok (UInt16.ofNat_toNat)

theorem statusLine_inline (head : ResponseHead) : '\r' ∉ head.statusLine := by
  intro isMember
  have notDigit : '\r' ∉ Nat.toDigits 10 head.statusCode.toNat := by
    intro isDigit
    have unspaced := toDigits_unspaced head.statusCode.toNat '\r' isDigit
    revert unspaced
    decide
  have notVersion : '\r' ∉ "HTTP/1.1".toList := by decide
  simp only [statusLine_eq, List.mem_append, List.mem_cons, notVersion, notDigit,
    head.reasonInline.1] at isMember
  simp at isMember

theorem headerLine_inline (wellFormed : WellFormedHeader header) : '\r' ∉ headerLine header := by
  simp [headerLine, wellFormed.nameInline.1, wellFormed.valueInline.1]

theorem headerLines_inline (head : ResponseHead) :
    ∀ line ∈ head.headers.map headerLine, '\r' ∉ line := by
  intro line isLine
  obtain ⟨header, isHeader, rfl⟩ := List.mem_map.mp isLine
  exact headerLine_inline (head.wellFormed header isHeader)

theorem headerLines_nonempty (head : ResponseHead) :
    ∀ line ∈ head.headers.map headerLine, line ≠ [] := by
  intro line isLine
  obtain ⟨header, -, rfl⟩ := List.mem_map.mp isLine
  simp [headerLine]

theorem headers_of_lines (head : ResponseHead) :
    (head.headers.map headerLine).filterMap httpHeader = head.headers := by
  rw [List.filterMap_map]
  have each : ∀ header ∈ head.headers, (httpHeader ∘ headerLine) header = some header :=
    fun header isHeader => httpHeader_headerLine (head.wellFormed header isHeader)
  rw [List.filterMap_congr each, List.filterMap_some]

/-- The end of a head is its first empty line. -/
theorem head_isFirst (head : ResponseHead) :
    ¬crlf ++ crlf <:+: Utf8.encode head.text ++ (crlf ++ crlf).dropLast :=
  head_unbroken (statusLine_inline head) (headerLines_nonempty head) (headerLines_inline head) rfl

end Heads

section Reading

variable {parsers : UrlStandard.Parsers} {utf8Error : List UInt8 → String} {finalUrl : String}
  {budget : ResourceBudget} {head : ResponseHead} {sent : List UInt8}

/-- Behind a head that was written, what matters is the body. -/
theorem httpResponseFromBytes_eq_ok_iff {response : HttpFetchResponse}
    (fits : (Utf8.encode head.text).length ≤ maxHeaderBytes) :
    httpResponseFromBytes parsers utf8Error finalUrl
        (Utf8.encode head.text ++ (crlf ++ crlf) ++ sent) budget = .ok response ↔
      ∃ body, decodeBody utf8Error head.headers budget.limit sent = .ok body ∧
        body.length ≤ budget.limit ∧
          response = HttpFetchResponse.new parsers finalUrl head.statusCode
            (inferContentType parsers finalUrl (headerValue head.headers "content-type") body)
            head.headers body := by
  have isEnd : findHeaderEnd (Utf8.encode head.text ++ (crlf ++ crlf) ++ sent) =
      some (Utf8.encode head.text).length := by
    rw [findHeaderEnd, List.append_assoc]
    exact positionOf_append (by decide) (head_isFirst head)
  have behind : (Utf8.encode head.text ++ (crlf ++ crlf) ++ sent).drop
      ((Utf8.encode head.text).length + 4) = sent := by
    have length : (Utf8.encode head.text).length + 4 =
        (Utf8.encode head.text ++ (crlf ++ crlf)).length := by
      rw [List.length_append]
      rfl
    rw [length, List.drop_left]
  have isText : (Utf8.encode head.text ++ (crlf ++ crlf) ++ sent).take
      (Utf8.encode head.text).length = Utf8.encode head.text := by
    rw [List.append_assoc, List.take_left]
  have lines : splitLines head.text = head.statusLine :: head.headers.map headerLine :=
    splitLines_furtherLines (statusLine_inline head) (headerLines_inline head)
  unfold httpResponseFromBytes
  rw [isEnd, Option.elim_some, ok_bind, if_neg (not_lt.mpr fits), isText, behind,
    Utf8.decode_eq_some_iff.mpr rfl, Option.elim_some, ok_bind, lines]
  dsimp only
  rw [List.head?_cons, Option.elim_some, ok_bind, statusCode_statusLine, ok_bind, List.tail_cons,
    headers_of_lines, bind_eq_ok_iff]
  apply exists_congr
  intro body
  apply and_congr_right
  intro _
  by_cases long : budget.limit < body.length
  · rw [if_pos long]
    constructor
    · intro absurd
      cases absurd
    · rintro ⟨inBounds, -⟩
      exact absurd inBounds (not_le.mpr long)
  · rw [if_neg long]
    constructor
    · intro same
      exact ⟨not_lt.mp long, (Except.ok.inj same).symm⟩
    · rintro ⟨-, rfl⟩
      rfl

end Reading

section Chunks

variable {utf8Error : List UInt8 → String} {limit : Nat} {output behind body : List UInt8}
  {chunks : List Chunk} {last : SizeLine}

theorem exists_text {line : SizeLine} (readable : (Utf8.decode line.extension).isSome) :
    ∃ text, Utf8.encode text = line.bytes := by
  obtain ⟨extension, isExtension⟩ := Option.isSome_iff_exists.mp readable
  refine ⟨line.sizeText ++ extension, ?_⟩
  rw [Utf8.encode_append, ← Utf8.decode_eq_some_iff.mp isExtension]
  rfl

theorem readable_of_text {line : SizeLine} {text : List Char}
    (same : Utf8.encode text = line.bytes) : (Utf8.decode line.extension).isSome := by
  obtain ⟨extension, -, isExtension⟩ := Utf8.isPrefix_of_encode same.symm
  rw [Utf8.decode_eq_some_iff.mpr isExtension]
  rfl

/-- Written chunks are read again. -/
theorem decodeChunks_writeChunks (small : limit < UInt64.size) (isLast : last.size = 0)
    (readable : ∀ chunk ∈ chunks, (Utf8.decode chunk.line.extension).isSome)
    (lastReadable : (Utf8.decode last.extension).isSome)
    (fits : (output ++ dataOf chunks).length ≤ limit) :
    decodeChunks utf8Error limit output (writeChunks chunks last behind) =
      .ok (output ++ dataOf chunks) := by
  induction chunks generalizing output with
  | nil =>
      obtain ⟨text, isText⟩ := exists_text lastReadable
      have reads : ReadsSize (writeChunks [] last behind) text 0 behind := by
        refine ⟨by rw [isText]; rfl, isText ▸ last.inline_bytes, ?_⟩
        exact (SizeLine.chunkSize_eq_ok_iff isText).mpr ⟨isLast.symm, by decide⟩
      apply decodeChunks_eq_ok_iff.mpr
      refine .inl ⟨?_, (List.append_nil output).symm⟩
      exact readChunk_eq_ok_iff.mpr ⟨text, 0, behind, reads, .inl ⟨rfl, rfl⟩⟩
  | cons chunk chunks inductionHypothesis =>
      obtain ⟨chunkReadable, othersReadable⟩ := List.forall_mem_cons.mp readable
      obtain ⟨text, isText⟩ := exists_text chunkReadable
      have split : output ++ dataOf (chunk :: chunks) =
          (output ++ chunk.data) ++ dataOf chunks := by
        rw [List.append_assoc]
        rfl
      rw [split] at fits ⊢
      have length := fits
      rw [List.length_append] at length
      have inBounds : (output ++ chunk.data).length ≤ limit := by omega
      have isSmall : chunk.data.length < UInt64.size := by
        rw [List.length_append] at inBounds
        omega
      have reads : ReadsSize (writeChunks (chunk :: chunks) last behind) text chunk.data.length
          (chunk.data ++ (crlf ++ writeChunks chunks last behind)) := by
        refine ⟨by rw [isText]; rfl, isText ▸ chunk.line.inline_bytes, ?_⟩
        exact (SizeLine.chunkSize_eq_ok_iff isText).mpr ⟨chunk.isSize.symm, isSmall⟩
      apply decodeChunks_eq_ok_iff.mpr
      refine .inr ⟨output ++ chunk.data, writeChunks chunks last behind, ?_,
        inductionHypothesis othersReadable fits⟩
      exact readChunk_eq_ok_iff.mpr ⟨text, _, _, reads,
        .inr ⟨chunk.data, _, chunk.nonempty, rfl, rfl, inBounds, rfl⟩⟩

/-- Where written chunks are read, all the extensions are text. -/
theorem readable_of_decodeChunks
    (decoded : decodeChunks utf8Error limit output (writeChunks chunks last behind) = .ok body) :
    (∀ chunk ∈ chunks, (Utf8.decode chunk.line.extension).isSome) ∧
      (Utf8.decode last.extension).isSome := by
  induction chunks generalizing output with
  | nil =>
      obtain ⟨result, isRead⟩ :
          ∃ result, readChunk utf8Error limit output (writeChunks [] last behind) = .ok result := by
        rcases decodeChunks_eq_ok_iff.mp decoded with ⟨isRead, -⟩ | ⟨_, _, isRead, -⟩
        · exact ⟨_, isRead⟩
        · exact ⟨_, isRead⟩
      obtain ⟨text, size, rest, reads, -⟩ := readChunk_eq_ok_iff.mp isRead
      exact ⟨by simp, readable_of_text (SizeLine.of_readsSize reads).1⟩
  | cons chunk chunks inductionHypothesis =>
      rcases decodeChunks_eq_ok_iff.mp decoded with ⟨isRead, -⟩ | ⟨output', rest, isRead, decoded'⟩
      · obtain ⟨text, size, behind', reads, outcome⟩ := readChunk_eq_ok_iff.mp isRead
        rcases outcome with ⟨isZero, -⟩ | ⟨_, _, _, _, _, _, absurd⟩
        · have isSize := (SizeLine.of_readsSize reads).2.2
          rw [isZero, chunk.isSize] at isSize
          exact absurd (List.length_eq_zero_iff.mp isSize.symm) chunk.nonempty
        · cases absurd
      · obtain ⟨text, size, behind', reads, outcome⟩ := readChunk_eq_ok_iff.mp isRead
        obtain ⟨sameText, sameRest, isSize⟩ := SizeLine.of_readsSize reads
        rcases outcome with ⟨-, absurd⟩ | ⟨data, others, -, rfl, rfl, -, same⟩
        · cases absurd
        obtain ⟨-, rfl⟩ := Prod.mk.inj (Option.some.inj same)
        obtain ⟨-, sameBehind⟩ := List.append_inj sameRest (isSize.trans chunk.isSize)
        rw [List.append_cancel_left sameBehind] at decoded'
        obtain ⟨othersReadable, lastReadable⟩ := inductionHypothesis decoded'
        exact ⟨List.forall_mem_cons.mpr ⟨readable_of_text sameText, othersReadable⟩, lastReadable⟩

theorem length_writeChunks (chunks : List Chunk) (last : SizeLine) (behind : List UInt8) :
    (writeChunks chunks last behind).length =
      (writeChunks chunks last []).length + behind.length := by
  induction chunks with
  | nil =>
      simp only [writeChunks, List.length_append, List.length_nil]
      omega
  | cons chunk chunks inductionHypothesis =>
      simp only [writeChunks, List.length_append, inductionHypothesis]
      omega

theorem length_dataOf_lt (chunks : List Chunk) (last : SizeLine) (behind : List UInt8) :
    (dataOf chunks).length < (writeChunks chunks last behind).length := by
  have lineEnd : crlf.length = 2 := rfl
  induction chunks with
  | nil =>
      simp only [writeChunks, List.length_append, lineEnd, dataOf, List.flatMap_nil,
        List.length_nil]
      omega
  | cons chunk chunks inductionHypothesis =>
      have split : (dataOf (chunk :: chunks)).length =
          chunk.data.length + (dataOf chunks).length := List.length_append
      rw [split]
      simp only [writeChunks, List.length_append]
      omega

/-- What is read of a part is read of the whole. -/
theorem ReadsSize.of_take {whole rest : List UInt8} {text : List Char} {cut size : Nat}
    (reads : ReadsSize (whole.take cut) text size rest) :
    ReadsSize whole text size (rest ++ whole.drop cut) := by
  refine ⟨?_, reads.inline, reads.isSize⟩
  conv_lhs => rw [← List.take_append_drop cut whole, reads.isInput]
  simp only [List.append_assoc]

/-- Chunks that are cut before the end of the last line are not read. -/
theorem decodeChunks_take_ne_ok {cut : Nat} (inside : cut < (writeChunks chunks last []).length) :
    decodeChunks utf8Error limit output ((writeChunks chunks last behind).take cut) ≠ .ok body := by
  intro decoded
  have lineEnd : crlf.length = 2 := rfl
  induction chunks generalizing output cut with
  | nil =>
      obtain ⟨result, isRead⟩ : ∃ result, readChunk utf8Error limit output
          ((writeChunks [] last behind).take cut) = .ok result := by
        rcases decodeChunks_eq_ok_iff.mp decoded with ⟨isRead, -⟩ | ⟨_, _, isRead, -⟩
        · exact ⟨_, isRead⟩
        · exact ⟨_, isRead⟩
      obtain ⟨text, size, rest, reads, -⟩ := readChunk_eq_ok_iff.mp isRead
      have sameText := (SizeLine.of_readsSize reads.of_take).1
      have length := congrArg List.length reads.isInput
      simp only [writeChunks, List.length_append, List.length_take, List.length_nil, sameText,
        lineEnd] at length inside
      omega
  | cons chunk chunks inductionHypothesis =>
      obtain ⟨result, isRead, decoded'⟩ : ∃ result, readChunk utf8Error limit output
          ((writeChunks (chunk :: chunks) last behind).take cut) = .ok result ∧
            ∀ output' rest, result = some (output', rest) →
              decodeChunks utf8Error limit output' rest = .ok body := by
        rcases decodeChunks_eq_ok_iff.mp decoded with ⟨isRead, -⟩ | ⟨output', rest, isRead, read⟩
        · exact ⟨none, isRead, fun _ _ absurd => by cases absurd⟩
        · refine ⟨_, isRead, fun _ _ same => ?_⟩
          obtain ⟨rfl, rfl⟩ := Prod.mk.inj (Option.some.inj same)
          exact read
      obtain ⟨text, size, rest, reads, outcome⟩ := readChunk_eq_ok_iff.mp isRead
      obtain ⟨sameText, sameRest, isSize⟩ := SizeLine.of_readsSize reads.of_take
      rcases outcome with ⟨isZero, -⟩ | ⟨data, others, -, rfl, rfl, -, isResult⟩
      · rw [isZero, chunk.isSize] at isSize
        exact absurd (List.length_eq_zero_iff.mp isSize.symm) chunk.nonempty
      · rw [List.append_assoc] at sameRest
        obtain ⟨sameData, sameBehind⟩ := List.append_inj sameRest (isSize.trans chunk.isSize)
        rw [List.append_assoc] at sameBehind
        have sameOthers := List.append_cancel_left sameBehind
        have isPart : others = (writeChunks chunks last behind).take others.length := by
          rw [← sameOthers, List.take_left]
        have length := congrArg List.length reads.isInput
        rw [List.length_take, length_writeChunks] at length
        have shorter : others.length < (writeChunks chunks last []).length := by
          simp only [writeChunks, List.length_append, sameText, sameData] at length inside
          omega
        have read := decoded' _ _ isResult
        rw [isPart] at read
        exact inductionHypothesis shorter read

end Chunks

section Messages

variable {parsers : UrlStandard.Parsers} {utf8Error : List UInt8 → String} {finalUrl : String}
  {budget : ResourceBudget}

/-- A message is read as it was written, and where it is cut this is noticed. -/
structure ReadBack (parsers : UrlStandard.Parsers) (utf8Error : List UInt8 → String)
    (finalUrl : String) (budget : ResourceBudget) (message : Message) : Prop where
  whole : ∃ response,
    httpResponseFromBytes parsers utf8Error finalUrl message.bytes budget = .ok response ∧
      response.statusCode = message.head.statusCode ∧ response.headers = message.head.headers ∧
        response.body = message.payload.body
  cut : ∀ chunks last trailers, message.payload = .chunked chunks last trailers →
    ∀ cut < message.headBytes.length + (writeChunks chunks last []).length, ∀ response,
      httpResponseFromBytes parsers utf8Error finalUrl (message.bytes.take cut) budget ≠
        .ok response

/-- A head that is cut does not come to its end. -/
theorem httpResponseFromBytes_take_ne_ok {head : ResponseHead} {sent : List UInt8} {cut : Nat}
    {response : HttpFetchResponse}
    (inside : cut < (Utf8.encode head.text ++ (crlf ++ crlf)).length) :
    httpResponseFromBytes parsers utf8Error finalUrl
      ((Utf8.encode head.text ++ (crlf ++ crlf) ++ sent).take cut) budget ≠ .ok response := by
  have isCut : (Utf8.encode head.text ++ (crlf ++ crlf) ++ sent).take cut <+:
      Utf8.encode head.text ++ (crlf ++ crlf).dropLast := by
    have isPrefix : Utf8.encode head.text ++ (crlf ++ crlf).dropLast <+:
        Utf8.encode head.text ++ (crlf ++ crlf) ++ sent := by
      rw [List.append_assoc, List.prefix_append_right_inj]
      exact (List.dropLast_prefix _).trans (List.prefix_append _ _)
    apply List.prefix_of_prefix_length_le (List.take_prefix _ _) isPrefix
    have lengths : (crlf ++ crlf).length = 4 ∧ (crlf ++ crlf).dropLast.length = 3 := by decide
    simp only [List.length_append, List.length_take, lengths.2] at inside ⊢
    rw [← List.length_append, lengths.1] at inside
    omega
  have notFound : findHeaderEnd ((Utf8.encode head.text ++ (crlf ++ crlf) ++ sent).take cut) =
      none :=
    positionOf_eq_none fun within => head_isFirst head (within.trans isCut.isInfix)
  intro read
  unfold httpResponseFromBytes at read
  rw [notFound] at read
  cases read

/-- A message is read back where the decoder is led to its chunks and can make text of their
extensions. -/
theorem message_readBack_iff (parsers : UrlStandard.Parsers) (utf8Error : List UInt8 → String)
    (finalUrl : String) (budget : ResourceBudget) (message : Message)
    (fits : (Utf8.encode message.head.text).length ≤ maxHeaderBytes)
    (inBudget : message.payload.body.length ≤ budget.limit) :
    ReadBack parsers utf8Error finalUrl budget message ↔
      message.payload.Readable message.head.headers := by
  obtain ⟨head, payload, announced⟩ := message
  constructor
  · intro readBack
    cases payload with
    | plain body => trivial
    | chunked chunks last trailers =>
        obtain ⟨response, read, -, -, isBody⟩ := readBack.whole
        obtain ⟨body, decoded, -, rfl⟩ := (httpResponseFromBytes_eq_ok_iff fits).mp read
        obtain rfl : body = dataOf chunks := isBody
        unfold decodeBody at decoded
        split at decoded
        · rename_i names
          exact ⟨names, readable_of_decodeChunks decoded⟩
        · have sameLength := congrArg List.length (Except.ok.inj decoded)
          have longer := length_dataOf_lt chunks last trailers
          exact absurd sameLength.symm (Nat.ne_of_lt longer)
  · intro readable
    constructor
    · refine ⟨_, (httpResponseFromBytes_eq_ok_iff fits).mpr
        ⟨payload.body, ?_, inBudget, rfl⟩, rfl, rfl, rfl⟩
      cases payload with
      | plain body =>
          have unnamed : namesChunks head.headers = false := by
            rw [namesChunks, announced]
            rfl
          rw [decodeBody, unnamed]
          rfl
      | chunked chunks last trailers =>
          rw [decodeBody, if_pos readable.1]
          exact decodeChunks_writeChunks budget.maxHttpResponseBytes.toNat_lt_size announced.1
            readable.2.1 readable.2.2 inBudget
    · rintro chunks last trailers rfl cut inside response read
      by_cases inHead : cut < (Utf8.encode head.text ++ (crlf ++ crlf)).length
      · exact httpResponseFromBytes_take_ne_ok inHead read
      · have isCut : Message.bytes ⟨head, .chunked chunks last trailers, announced⟩ =
            Utf8.encode head.text ++ (crlf ++ crlf) ++ writeChunks chunks last trailers := rfl
        rw [isCut, List.take_append, List.take_of_length_le (not_lt.mp inHead)] at read
        obtain ⟨body, decoded, -⟩ := (httpResponseFromBytes_eq_ok_iff fits).mp read
        rw [decodeBody, if_pos readable.1] at decoded
        refine decodeChunks_take_ne_ok ?_ decoded
        have isHead : Message.headBytes ⟨head, .chunked chunks last trailers, announced⟩ =
            Utf8.encode head.text ++ (crlf ++ crlf) := rfl
        rw [isHead] at inside
        omega

end Messages

section Sample

def sampleHead : ResponseHead where
  statusCode := 200
  reason := "OK".toList
  headers := [⟨"Transfer-Encoding", "chunked"⟩]
  reasonInline := by decide
  wellFormed := by
    intro header isHeader
    rw [List.mem_singleton] at isHeader
    subst isHeader
    constructor <;> decide

/-- A chunk with an extension that is no text in UTF-8. -/
def latinLine : SizeLine :=
  { sampleSizeLine '5' isDigitOf_five with
    extension := [0x3B, 0x6E, 0x3D, 0xE9]
    marked := rfl
    unbroken := by decide }

def sampleMessage (line : SizeLine) (isFive : line.size = 5) : Message where
  head := sampleHead
  payload := .chunked [⟨line, Utf8.encode "hello".toList, hello_nonempty, isFive⟩]
    (sampleSizeLine '0' isDigitOf_zero) crlf
  announced := ⟨by decide, _, List.mem_cons_self, by decide⟩

def sampleBudget : ResourceBudget := ⟨1024⟩

/-- A message in chunks without extensions is read back. -/
theorem plain_chunks_read_back :
    ReadBack UrlStandard.asciiParsers (fun _ => "") "tor+http://example.onion/" sampleBudget
      (sampleMessage (sampleSizeLine '5' isDigitOf_five) (by decide)) := by
  apply (message_readBack_iff _ _ _ _ _ _ _).mpr
  · refine ⟨by decide, ?_, by decide +kernel⟩
    intro chunk isChunk
    rw [List.mem_singleton.mp isChunk]
    decide +kernel
  · decide +kernel
  · decide +kernel

/-- A message is refused for an extension in another encoding. -/
theorem latin_extension_refused :
    (Utf8.encode (sampleMessage latinLine (by decide)).head.text).length ≤ maxHeaderBytes ∧
      ¬ReadBack UrlStandard.asciiParsers (fun _ => "") "tor+http://example.onion/" sampleBudget
        (sampleMessage latinLine (by decide)) := by
  refine ⟨by decide +kernel, ?_⟩
  intro readBack
  obtain ⟨response, read, -⟩ := readBack.whole
  have refused : (httpResponseFromBytes UrlStandard.asciiParsers (fun _ => "")
      "tor+http://example.onion/" (sampleMessage latinLine (by decide)).bytes
      sampleBudget).toOption = none := by
    decide +kernel
  rw [read] at refused
  cases refused

end Sample

end Slate.Broadwebd
