import Slate.Broadwebd.ChunkedBody

/-!
# The grammar of chunks

What a body in chunks looks like: lines of hexadecimal sizes with blanks around them and
extensions behind them, each followed by its chunk, and a line of zero at the end. A body that
the decoder accepts is of this form where its sizes are spelled without a sign and without other
white space.
-/

namespace Slate.Broadwebd

open Foundation

section Grammar

def isBlank (char : Char) : Bool := char = ' ' || char = '\t'

/-- A line with a size in digits, and an extension behind a semicolon or none. -/
structure SizeLine where
  front : List Char
  digits : List Char
  back : List Char
  extension : List UInt8
  front_blank : ∀ char ∈ front, isBlank char = true
  back_blank : ∀ char ∈ back, isBlank char = true
  nonempty : digits ≠ []
  areDigits : ∀ digit ∈ digits, Reader.isDigitOf 16 digit = true
  marked : extension.head?.all (· = 0x3B) = true
  unbroken : ¬crlf <:+: extension

namespace SizeLine

def sizeText (line : SizeLine) : List Char := line.front ++ line.digits ++ line.back

def bytes (line : SizeLine) : List UInt8 := Utf8.encode line.sizeText ++ line.extension

def size (line : SizeLine) : Nat := Reader.ofDigits 16 line.digits

end SizeLine

/-- A line and as many bytes as it says. -/
structure Chunk where
  line : SizeLine
  data : List UInt8
  nonempty : data ≠ []
  isSize : line.size = data.length

def dataOf (chunks : List Chunk) : List UInt8 := chunks.flatMap Chunk.data

/-- Chunks, the line behind the last one, and what follows it. -/
def writeChunks : List Chunk → SizeLine → List UInt8 → List UInt8
  | [], last, behind => last.bytes ++ (crlf ++ behind)
  | chunk :: chunks, last, behind =>
    chunk.line.bytes ++ (crlf ++ (chunk.data ++ (crlf ++ writeChunks chunks last behind)))

/-- Bytes that begin with chunks and the line of the last one, and the body that they carry. -/
def IsChunked (input body : List UInt8) : Prop :=
  ∃ chunks last behind, input = writeChunks chunks last behind ∧ last.size = 0 ∧
    body = dataOf chunks

end Grammar

section Characters

variable {char : Char}

theorem hexDigit_bounds (isDigit : Reader.isDigitOf 16 char = true) :
    48 ≤ char.toNat ∧ char.toNat ≤ 57 ∨ 65 ≤ char.toNat ∧ char.toNat ≤ 90 ∨
      97 ≤ char.toNat ∧ char.toNat ≤ 122 := by
  apply Text.isAlphanum_bounds
  unfold Reader.isDigitOf at isDigit
  simp only [Bool.and_eq_true, Bool.or_eq_true, decide_eq_true_eq] at isDigit
  rw [Text.isAlphanum_iff, Text.isUpper_iff, Text.isLower_iff]
  rcases isDigit.1 with (digit | lower) | upper
  · exact .inr (.inr digit)
  · exact .inr (.inl lower)
  · exact .inl upper

theorem hexDigit_unspaced (isDigit : Reader.isDigitOf 16 char = true) :
    Text.isWhitespace char = false := by
  have bounds := hexDigit_bounds isDigit
  simp only [Text.isWhitespace, Bool.or_eq_false_iff, Bool.and_eq_false_iff,
    decide_eq_false_iff_not]
  omega

theorem blank_spaced (isBlank_ : isBlank char = true) : Text.isWhitespace char = true := by
  simp only [isBlank, Bool.or_eq_true, decide_eq_true_eq] at isBlank_
  rcases isBlank_ with rfl | rfl <;> decide

theorem inline_iff {line : List UInt8} : Inline line ↔ ¬crlf <:+: line := by
  have lastTwo : crlf.dropLast = [0x0D] := rfl
  rw [Inline, lastTwo, not_iff_not, List.infix_concat_iff]
  constructor
  · rintro (⟨start, same⟩ | within)
    · have last := congrArg List.getLast? same
      simp [crlf] at last
    · exact within
  · exact .inr

end Characters

namespace SizeLine

variable {line : SizeLine} {text behind : List Char}

theorem mem_sizeText {char : Char} (isMember : char ∈ line.sizeText) :
    isBlank char = true ∨ Reader.isDigitOf 16 char = true := by
  rcases List.mem_append.mp isMember with inFront | inBack
  · rcases List.mem_append.mp inFront with isFront | isDigit
    · exact .inl (line.front_blank char isFront)
    · exact .inr (line.areDigits char isDigit)
  · exact .inl (line.back_blank char inBack)

/-- What stands in front of the extension is neither of these. -/
theorem not_mem_sizeText {char : Char} (isMark : char ∈ [';', '\r', '+']) :
    char ∉ line.sizeText := by
  intro isMember
  have others : [';', '\r', '+'].all fun char =>
      !isBlank char && !Reader.isDigitOf 16 char := by decide
  have other := List.all_eq_true.mp others char isMark
  rcases mem_sizeText isMember with blank | digit
  · simp [blank] at other
  · simp [digit] at other

theorem inline_bytes (line : SizeLine) : Inline line.bytes := by
  rw [inline_iff]
  intro within
  apply line.unbroken
  apply infix_of_not_mem _ within
  exact Utf8.not_mem_encode (by decide) (not_mem_sizeText (by simp))

/-- A text of a line has the size in front of the first semicolon. -/
theorem before_of_encode (same : Utf8.encode text = line.bytes) :
    Text.before (· = ';') text = line.sizeText := by
  obtain ⟨behind, rfl, isBehind⟩ := Utf8.isPrefix_of_encode same.symm
  rw [Text.before, List.takeWhile_append_of_pos]
  · have stops : behind.takeWhile (fun char => !decide (char = ';')) = [] := by
      cases behind with
      | nil => rfl
      | cons first behind =>
          have marked := line.marked
          obtain ⟨byte, bytes, isFirst⟩ :=
            List.exists_cons_of_ne_nil (String.utf8EncodeChar_ne_nil (c := first))
          rw [isBehind, Utf8.encode, List.flatMap_cons, isFirst] at marked
          simp only [List.cons_append, List.head?_cons, Option.all_some,
            decide_eq_true_eq] at marked
          subst marked
          have ascii : first.toNat < 0x80 := by
            by_contra large
            have isByte : (0x3B : UInt8) ∈ String.utf8EncodeChar first := by
              rw [isFirst]
              exact List.mem_cons_self
            have isLarge := Utf8.utf8EncodeChar_nonascii (not_lt.mp large) isByte
            exact absurd isLarge (by decide)
          rw [Utf8.utf8EncodeChar_ascii ascii] at isFirst
          have code := congrArg UInt8.toNat (List.cons.inj isFirst).1
          rw [UInt8.toNat_ofNat'] at code
          have isMark : first = ';' := by
            apply Char.toNat_inj.mp
            have mark : (0x3B : UInt8).toNat = ';'.toNat := by decide
            omega
          simp [isMark]
    rw [stops, List.append_nil]
  · intro char isMember
    have other : char ≠ ';' := by
      rintro rfl
      exact not_mem_sizeText (by simp) isMember
    simpa using other

theorem trim_sizeText (line : SizeLine) : Text.trim line.sizeText = line.digits := by
  have frontSpaced : ∀ char ∈ line.front, Text.isWhitespace char = true :=
    fun char isMember => blank_spaced (line.front_blank char isMember)
  have backSpaced : ∀ char ∈ line.back, Text.isWhitespace char = true :=
    fun char isMember => blank_spaced (line.back_blank char isMember)
  have unspaced : Text.Unspaced line.digits :=
    fun char isMember => hexDigit_unspaced (line.areDigits char isMember)
  have trimmed := @Text.trim_append_of_unspaced line.digits line.back unspaced line.nonempty
  unfold Text.trim at trimmed ⊢
  rw [sizeText, List.append_assoc, List.dropWhile_append_of_pos frontSpaced, trimmed,
    List.rdropWhile_eq_nil_iff.mpr backSpaced, List.append_nil]

theorem spells (line : SizeLine) : Spells 16 line.digits line.size :=
  ⟨line.nonempty, line.areDigits, rfl⟩

/-- The decoder reads the size of a line, unless it is too large for it. -/
theorem chunkSize_eq_ok_iff {size : Nat} (same : Utf8.encode text = line.bytes) :
    chunkSize text = .ok size ↔ size = line.size ∧ size < UInt64.size := by
  unfold chunkSize
  rw [before_of_encode same, trim_sizeText, fromStrRadix_eq_ok_iff (by decide) (by decide)]
  constructor
  · rintro ⟨digits, isDigits | isDigits, spells, inBounds⟩
    · subst isDigits
      exact ⟨spells.isValue.symm, inBounds⟩
    · have plus := line.areDigits '+' (by rw [isDigits]; exact List.mem_cons_self)
      rw [plus_no_digit] at plus
      cases plus
  · rintro ⟨rfl, inBounds⟩
    exact ⟨line.digits, .inl rfl, line.spells, inBounds⟩

/-- What the decoder reads where a line of the grammar stands is that line. -/
theorem of_readsSize {rest behind : List UInt8} {size : Nat}
    (reads : ReadsSize (line.bytes ++ (crlf ++ rest)) text size behind) :
    Utf8.encode text = line.bytes ∧ behind = rest ∧ size = line.size := by
  obtain ⟨sameLine, sameRest⟩ :=
    inline_unique line.inline_bytes reads.inline reads.isInput
  exact ⟨sameLine.symm, sameRest.symm, ((chunkSize_eq_ok_iff sameLine.symm).mp reads.isSize).1⟩

end SizeLine

section Spelling

/-- The size lines of the input, as the decoder comes to them. -/
inductive SizeLineOf : List UInt8 → List Char → Prop
  | first {input rest : List UInt8} {sizeLine : List Char} {size : Nat} :
      ReadsSize input sizeLine size rest → SizeLineOf input sizeLine
  | later {input chunk rest : List UInt8} {sizeLine line : List Char} :
      ReadsSize input sizeLine chunk.length (chunk ++ (crlf ++ rest)) → chunk ≠ [] →
        SizeLineOf rest line → SizeLineOf input line

/-- No sign and no white space but blanks is spelled with the size. -/
def PlainSize (sizeLine : List Char) : Prop :=
  ∀ char ∈ Text.before (· = ';') sizeLine,
    char ≠ '+' ∧ (Text.isWhitespace char = true → isBlank char = true)

variable {line : SizeLine} {text : List Char} {size : Nat}

theorem plainSize_of_encode (same : Utf8.encode text = line.bytes) : PlainSize text := by
  intro char isMember
  rw [SizeLine.before_of_encode same] at isMember
  constructor
  · rintro rfl
    exact SizeLine.not_mem_sizeText (by simp) isMember
  · intro space
    rcases SizeLine.mem_sizeText isMember with blank | digit
    · exact blank
    · rw [hexDigit_unspaced digit] at space
      cases space

/-- A plainly spelled size is one of the grammar. -/
theorem exists_sizeLine (isSize : chunkSize text = .ok size) (plain : PlainSize text)
    (inline : Inline (Utf8.encode text)) :
    ∃ line : SizeLine, line.bytes = Utf8.encode text ∧ line.size = size := by
  obtain ⟨front, back, split, frontSpaced, backSpaced⟩ :=
    Text.trim_split (Text.before (· = ';') text)
  obtain ⟨digits, isDigits, spells, -⟩ :=
    (fromStrRadix_eq_ok_iff (by decide) (by decide)).mp isSize
  have noSign : Text.trim (Text.before (· = ';') text) = digits := by
    rcases isDigits with same | signed
    · exact same
    · have plus : '+' ∈ Text.before (· = ';') text := by
        rw [split, signed]
        simp
      exact absurd rfl (plain '+' plus).1
  rw [noSign] at split
  have isText : Utf8.encode text =
      Utf8.encode (front ++ digits ++ back) ++ Utf8.encode (Text.fromStop (· = ';') text) := by
    rw [← Utf8.encode_append, ← split]
    exact congrArg Utf8.encode (List.takeWhile_append_dropWhile).symm
  refine ⟨{
    front, digits, back
    extension := Utf8.encode (Text.fromStop (· = ';') text)
    front_blank := ?_
    back_blank := ?_
    nonempty := spells.nonempty
    areDigits := spells.areDigits
    marked := ?_
    unbroken := ?_ }, isText.symm, spells.isValue⟩
  · intro char isMember
    apply (plain char _).2 (frontSpaced char isMember)
    rw [split]
    simp [isMember]
  · intro char isMember
    apply (plain char _).2 (backSpaced char isMember)
    rw [split]
    simp [isMember]
  · cases isBehind : Text.fromStop (· = ';') text with
    | nil => rfl
    | cons first behind =>
        have stops := List.head?_dropWhile_not (fun char => !decide (char = ';')) text
        rw [Text.fromStop] at isBehind
        rw [isBehind] at stops
        obtain rfl : first = ';' := by simpa using stops
        rw [Utf8.encode, List.flatMap_cons, Utf8.utf8EncodeChar_ascii (by decide)]
        rfl
  · rw [inline_iff, isText] at inline
    intro within
    exact inline (within.trans (List.suffix_append _ _).isInfix)

end Spelling

section Acceptance

variable {utf8Error : List UInt8 → String} {limit : Nat} {output input body : List UInt8}

theorem decodeChunks_eq_ok_iff :
    decodeChunks utf8Error limit output input = .ok body ↔
      readChunk utf8Error limit output input = .ok none ∧ output = body ∨
        ∃ output' rest, readChunk utf8Error limit output input = .ok (some (output', rest)) ∧
          decodeChunks utf8Error limit output' rest = .ok body := by
  rw [decodeChunks]
  split
  · rename_i error isRead
    simp [isRead]
  · rename_i isRead
    simp [isRead]
  · rename_i output' rest isRead
    simp [isRead]

/-- What is accepted and plainly spelled is in chunks. -/
theorem isChunked_of_decodeChunks
    (decoded : decodeChunks utf8Error limit output input = .ok body)
    (plain : ∀ line, SizeLineOf input line → PlainSize line) :
    ∃ chunks last behind, input = writeChunks chunks last behind ∧ last.size = 0 ∧
      body = output ++ dataOf chunks := by
  induction length : input.length using Nat.strong_induction_on generalizing output input with
  | _ _ inductionHypothesis =>
  rcases decodeChunks_eq_ok_iff.mp decoded with ⟨isRead, rfl⟩ | ⟨output', rest, isRead, decoded'⟩
  · obtain ⟨sizeLine, size, behind, reads, outcome⟩ := readChunk_eq_ok_iff.mp isRead
    obtain ⟨last, isLast, isSize⟩ :=
      exists_sizeLine reads.isSize (plain sizeLine (.first reads)) reads.inline
    refine ⟨[], last, behind, ?_, ?_, (List.append_nil output).symm⟩
    · rw [reads.isInput, ← isLast]
      rfl
    · rcases outcome with ⟨isZero, -⟩ | ⟨_, _, _, _, _, _, absurd⟩
      · exact isSize.trans isZero
      · cases absurd
  · have shorter := length_lt_of_readChunk isRead
    obtain ⟨sizeLine, size, behind, reads, outcome⟩ := readChunk_eq_ok_iff.mp isRead
    rcases outcome with ⟨-, absurd⟩ | ⟨chunk, others, nonempty, rfl, rfl, -, same⟩
    · cases absurd
    obtain ⟨rfl, rfl⟩ := Prod.mk.inj (Option.some.inj same)
    obtain ⟨line, isLine, isSize⟩ :=
      exists_sizeLine reads.isSize (plain sizeLine (.first reads)) reads.inline
    obtain ⟨chunks, last, behind, isRest, isLast, isBody⟩ :=
      inductionHypothesis rest.length (length ▸ shorter) decoded'
        (fun line isLine => plain line (.later reads nonempty isLine)) rfl
    refine ⟨⟨line, chunk, nonempty, isSize⟩ :: chunks, last, behind, ?_, isLast, ?_⟩
    · rw [reads.isInput, ← isLine, isRest]
      rfl
    · rw [isBody, List.append_assoc]
      rfl

/-- The sizes of a body in chunks are plainly spelled. -/
theorem plainSize_of_writeChunks {chunks : List Chunk} {last : SizeLine} {behind : List UInt8}
    {line : List Char} (isLast : last.size = 0)
    (isLine : SizeLineOf (writeChunks chunks last behind) line) : PlainSize line := by
  induction chunks with
  | nil =>
      cases isLine with
      | first reads => exact plainSize_of_encode (SizeLine.of_readsSize reads).1
      | later reads nonempty _ =>
          have isZero := (SizeLine.of_readsSize reads).2.2
          rw [isLast, List.length_eq_zero_iff] at isZero
          exact absurd isZero nonempty
  | cons chunk chunks inductionHypothesis =>
      cases isLine with
      | first reads => exact plainSize_of_encode (SizeLine.of_readsSize reads).1
      | later reads _ isLater =>
          obtain ⟨-, same, isSize⟩ := SizeLine.of_readsSize reads
          obtain ⟨-, sameRest⟩ := List.append_inj same (isSize.trans chunk.isSize)
          rw [List.append_cancel_left sameRest] at isLater
          exact inductionHypothesis isLater

theorem length_le_of_decodeChunks
    (decoded : decodeChunks utf8Error limit output input = .ok body)
    (inBounds : output.length ≤ limit) : body.length ≤ limit := by
  induction length : input.length using Nat.strong_induction_on generalizing output input with
  | _ _ inductionHypothesis =>
  rcases decodeChunks_eq_ok_iff.mp decoded with ⟨-, rfl⟩ | ⟨output', rest, isRead, decoded'⟩
  · exact inBounds
  · obtain ⟨sizeLine, size, behind, -, outcome⟩ := readChunk_eq_ok_iff.mp isRead
    rcases outcome with ⟨-, absurd⟩ | ⟨chunk, others, -, -, -, fits, same⟩
    · cases absurd
    obtain ⟨rfl, rfl⟩ := Prod.mk.inj (Option.some.inj same)
    exact inductionHypothesis rest.length (length ▸ length_lt_of_readChunk isRead) decoded' fits rfl

/-- An accepted body is in chunks where the sizes that the decoder comes to are plainly
spelled. -/
theorem accepted_isChunked_iff (utf8Error : List UInt8 → String) (input body : List UInt8)
    (limit : Nat) (decoded : decodeChunkedBody utf8Error input limit = .ok body) :
    IsChunked input body ∧ body.length ≤ limit ↔
      ∀ line, SizeLineOf input line → PlainSize line := by
  constructor
  · rintro ⟨⟨chunks, last, behind, rfl, isLast, -⟩, -⟩ line isLine
    exact plainSize_of_writeChunks isLast isLine
  · intro plain
    exact ⟨isChunked_of_decodeChunks decoded plain,
      length_le_of_decodeChunks decoded (Nat.zero_le limit)⟩

end Acceptance

section Sample

def sampleChunks : List UInt8 := Utf8.encode "5\r\nhello\r\n0\r\n\r\n".toList

def signedChunks : List UInt8 := Utf8.encode "+5\r\nhello\r\n0\r\n\r\n".toList

def sampleSizeLine (digit : Char) (isDigit : Reader.isDigitOf 16 digit = true) : SizeLine where
  front := []
  digits := [digit]
  back := []
  extension := []
  front_blank := by simp
  back_blank := by simp
  nonempty := by simp
  areDigits := by simpa using isDigit
  marked := rfl
  unbroken := by decide

theorem isDigitOf_five : Reader.isDigitOf 16 '5' = true := by decide

theorem isDigitOf_zero : Reader.isDigitOf 16 '0' = true := by decide

theorem hello_nonempty : Utf8.encode "hello".toList ≠ [] := by decide

def helloChunk : Chunk where
  line := sampleSizeLine '5' isDigitOf_five
  data := Utf8.encode "hello".toList
  nonempty := hello_nonempty
  isSize := by decide

theorem isChunked_sampleChunks : IsChunked sampleChunks (Utf8.encode "hello".toList) :=
  ⟨[helloChunk], sampleSizeLine '0' isDigitOf_zero, crlf, by decide +kernel, by decide, by decide⟩

/-- The sizes of a plain body are plainly spelled. -/
theorem plainSizes_sampleChunks :
    decodeChunkedBody (fun _ => "") sampleChunks 1024 = .ok (Utf8.encode "hello".toList) ∧
      ∀ line, SizeLineOf sampleChunks line → PlainSize line := by
  have accepted : decodeChunkedBody (fun _ => "") sampleChunks 1024 =
      .ok (Utf8.encode "hello".toList) := by decide +kernel
  exact ⟨accepted, (accepted_isChunked_iff (fun _ => "") sampleChunks
    (Utf8.encode "hello".toList) 1024 accepted).mp ⟨isChunked_sampleChunks, by decide⟩⟩

/-- A size with a plus sign is accepted. -/
theorem signed_size_accepted :
    decodeChunkedBody (fun _ => "") signedChunks 1024 = .ok (Utf8.encode "hello".toList) ∧
      ¬IsChunked signedChunks (Utf8.encode "hello".toList) := by
  refine ⟨by decide +kernel, ?_⟩
  rintro ⟨chunks, last, behind, same, isLast, -⟩
  have reads : ReadsSize signedChunks "+5".toList 5
      (Utf8.encode "hello\r\n0\r\n\r\n".toList) :=
    ⟨by decide +kernel, inline_iff.mpr (by decide +kernel), by decide +kernel⟩
  have isLine : SizeLineOf (writeChunks chunks last behind) "+5".toList := same ▸ .first reads
  exact absurd rfl (plainSize_of_writeChunks isLast isLine '+' (by decide)).1

end Sample

end Slate.Broadwebd
