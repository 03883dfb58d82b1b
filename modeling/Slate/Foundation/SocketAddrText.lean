import Slate.Foundation.SocketAddr

/-!
# Reading socket addresses again

What is written of an address is read as that address; the flow of an IPv6 address is not
written. Only few characters occur in the text of an address.
-/

namespace Slate.Foundation.Net

open Reader

section Groups

variable {rest : List Char}

theorem readSeparator_first {α : Type} {separator : Char} {inner : Reader α} (text : List Char) :
    readSeparator separator true inner text = inner text := rfl

theorem readSeparator_later {α : Type} {separator : Char} {inner : Reader α} (rest : List Char) :
    readSeparator separator false inner (separator :: rest) = inner rest :=
  bind_of_eq (givenChar_cons separator rest)

theorem readSeparator_other {α : Type} {separator : Char} {inner : Reader α} {text : List Char}
    (other : text.head? ≠ some separator) : readSeparator separator false inner text = none := by
  apply bind_of_eq_none
  unfold givenChar
  split
  · exact if_neg fun same => other (congrArg some same)
  · rfl

theorem noDigit_cons {radix : Nat} {char : Char} (other : isDigitOf radix char = false) :
    NoDigit radix (char :: rest) := by
  intro head isHead
  obtain rfl := Option.some.inj isHead
  exact other

theorem noDigit_nil {radix : Nat} : NoDigit radix [] := by
  intro head isHead
  cases isHead

theorem number_of_noDigit {form : NumberForm} (other : NoDigit form.radix rest) :
    number form rest = none := by
  have empty : rest.takeWhile (isDigitOf form.radix) = [] := by
    cases rest with
    | nil => rfl
    | cons char rest => simp [other char rfl]
  unfold number
  rw [empty]
  rfl

theorem readOctet_toDigits (octet : UInt8) (ends : NoDigit 10 rest) :
    readOctet (Nat.toDigits 10 octet.toNat ++ rest) = some (octet, rest) := by
  have bounded : octet.toNat < 256 := octet.toNat_lt
  have short : (Nat.toDigits 10 octet.toNat).length ≤ 3 :=
    (Nat.length_toDigits_le_iff (by decide) (by decide)).mpr (by omega)
  have read : number octetForm (Nat.toDigits 10 octet.toNat ++ rest) =
      some (octet.toNat, rest) :=
    @number_toDigits octet.toNat octetForm rest (by decide) (by decide) (decide_eq_true short)
      bounded ends
  rw [readOctet, bind_of_eq read, UInt8.ofNat_toNat]
  rfl

theorem readSegment_toDigits (segment : UInt16) (ends : NoDigit 16 rest) :
    readSegment (Nat.toDigits 16 segment.toNat ++ rest) = some (segment, rest) := by
  have bounded : segment.toNat < 65536 := segment.toNat_lt
  have short : (Nat.toDigits 16 segment.toNat).length ≤ 4 :=
    (Nat.length_toDigits_le_iff (by decide) (by decide)).mpr (by omega)
  have read : number segmentForm (Nat.toDigits 16 segment.toNat ++ rest) =
      some (segment.toNat, rest) :=
    @number_toDigits segment.toNat segmentForm rest (by decide) (by decide)
      (decide_eq_true short) bounded ends
  rw [readSegment, bind_of_eq read, UInt16.ofNat_toNat]
  rfl

theorem readIpv4Addr_write (ip : Ipv4Addr) (ends : NoDigit 10 rest) :
    readIpv4Addr (ip.write ++ rest) = some (ip, rest) := by
  have dot : ∀ text, NoDigit 10 ('.' :: text) := fun text => noDigit_cons (by decide)
  unfold readIpv4Addr Ipv4Addr.write
  simp only [List.append_assoc, List.cons_append]
  rw [bind_of_eq ((readSeparator_first _).trans (readOctet_toDigits ip.first (dot _))),
    bind_of_eq ((readSeparator_later _).trans (readOctet_toDigits ip.second (dot _))),
    bind_of_eq ((readSeparator_later _).trans (readOctet_toDigits ip.third (dot _))),
    bind_of_eq ((readSeparator_later _).trans (readOctet_toDigits ip.fourth ends))]
  rfl

/-- The first octet of an IPv4 address is followed by a dot. -/
theorem dot_of_readIpv4Addr {text : List Char} {result : Ipv4Addr × List Char}
    (read : readIpv4Addr text = some result) :
    (text.dropWhile (isDigitOf 10)).head? = some '.' := by
  obtain ⟨first, afterFirst, readFirst, read⟩ := bind_eq_some_iff.mp read
  obtain ⟨second, afterSecond, readSecond, -⟩ := bind_eq_some_iff.mp read
  obtain ⟨value, afterNumber, readNumber, isFirst⟩ := bind_eq_some_iff.mp readFirst
  have sameRest : afterNumber = afterFirst := (Prod.mk.inj (Option.some.inj isFirst)).2
  unfold number at readNumber
  dsimp only at readNumber
  split at readNumber
  · have isRest : text.dropWhile (isDigitOf 10) = afterNumber :=
      (Prod.mk.inj (Option.some.inj readNumber)).2
    rw [isRest, sameRest]
    by_contra other
    rw [readSeparator_other other] at readSecond
    cases readSecond
  · cases readNumber

/-- Hexadecimal digits that no dot follows are no IPv4 address. -/
theorem readIpv4Addr_of_no_dot {digits : List Char}
    (areDigits : ∀ char ∈ digits, isDigitOf 16 char = true) (noDigit : NoDigit 16 rest)
    (noDot : rest.head? ≠ some '.') : readIpv4Addr (digits ++ rest) = none := by
  rw [Option.eq_none_iff_forall_ne_some]
  intro result read
  have dot := dot_of_readIpv4Addr read
  clear read
  induction digits with
  | nil =>
      rw [List.nil_append] at dot
      cases rest with
      | nil => cases dot
      | cons char rest =>
          have notHex := noDigit char rfl
          have notDecimal : isDigitOf 10 char = false := by
            unfold isDigitOf at notHex ⊢
            rw [Bool.and_eq_false_iff] at notHex ⊢
            apply notHex.imp_right
            intro large
            rw [decide_eq_false_iff_not] at large ⊢
            omega
          rw [List.dropWhile_cons_of_neg (by simp [notDecimal])] at dot
          exact noDot dot
  | cons char digits inductionHypothesis =>
      by_cases isDecimal : isDigitOf 10 char = true
      · rw [List.cons_append, List.dropWhile_cons_of_pos isDecimal] at dot
        exact inductionHypothesis (fun other isOther => areDigits other (.tail _ isOther)) dot
      · rw [List.cons_append, List.dropWhile_cons_of_neg isDecimal, List.head?_cons] at dot
        have isHex := areDigits char (List.mem_cons_self ..)
        rw [Option.some.inj dot] at isHex
        exact absurd isHex (by decide)

/-- No segment follows, with or without a colon. -/
structure EndsGroups (rest : List Char) : Prop where
  noDigit : NoDigit 16 rest
  noDot : rest.head? ≠ some '.'
  noSegment : ∀ others, rest = ':' :: others → NoDigit 16 others ∧ others.head? ≠ some '.'

theorem readSegment_of_noDigit (other : NoDigit 16 rest) : readSegment rest = none :=
  bind_of_eq_none (number_of_noDigit other)

/-- Where the segments end nothing is read after a separator. -/
theorem EndsGroups.readSeparator_eq_none {α : Type} (ends : EndsGroups rest) (isFirst : Bool)
    {inner : Reader α}
    (fails : ∀ text, NoDigit 16 text → text.head? ≠ some '.' → inner text = none) :
    readSeparator ':' isFirst inner rest = none := by
  cases isFirst with
  | true => exact fails rest ends.noDigit ends.noDot
  | false =>
      by_cases colon : rest.head? = some ':'
      · obtain ⟨others, rfl⟩ := List.head?_eq_some_iff.mp colon
        obtain ⟨noDigit, noDot⟩ := ends.noSegment others rfl
        rw [readSeparator_later]
        exact fails others noDigit noDot
      · exact readSeparator_other colon

theorem EndsGroups.readGroups (ends : EndsGroups rest) (isFirst : Bool) (left : Nat) :
    readGroups isFirst left rest = (([], false), rest) := by
  cases left with
  | zero => rfl
  | succ left =>
      have noAddress : readSeparator ':' isFirst readIpv4Addr rest = none :=
        ends.readSeparator_eq_none isFirst fun text noDigit noDot =>
          @readIpv4Addr_of_no_dot text [] (fun _ isMember => by cases isMember) noDigit noDot
      have noSegment : readSeparator ':' isFirst readSegment rest = none :=
        ends.readSeparator_eq_none isFirst fun text noDigit _ => readSegment_of_noDigit noDigit
      rw [Net.readGroups, noAddress, ite_self, noSegment]

/-- Segments with a colon in front of each but a first one. -/
def writeGroups : Bool → List UInt16 → List Char
  | _, [] => []
  | isFirst, segment :: segments =>
      (if isFirst then [] else [':']) ++ Nat.toDigits 16 segment.toNat ++
        writeGroups false segments

attribute [local grind =] writeGroups

theorem writeSegments_cons_cons (segment next : UInt16) (others : List UInt16) :
    writeSegments (segment :: next :: others) =
      Nat.toDigits 16 segment.toNat ++ ':' :: writeSegments (next :: others) := rfl

theorem writeGroups_later {segments : List UInt16} (nonempty : segments ≠ []) :
    writeGroups false segments = ':' :: writeSegments segments := by
  induction segments with
  | nil => exact absurd rfl nonempty
  | cons segment segments inductionHypothesis =>
      cases segments with
      | nil => simp [writeGroups, writeSegments]
      | cons next others =>
          rw [writeGroups, inductionHypothesis (List.cons_ne_nil _ _), writeSegments_cons_cons]
          rfl

theorem writeSegments_eq (segments : List UInt16) :
    writeSegments segments = writeGroups true segments := by
  cases segments with
  | nil => rfl
  | cons segment segments =>
      cases segments with
      | nil => simp [writeGroups, writeSegments]
      | cons next others =>
          rw [writeGroups, writeGroups_later (List.cons_ne_nil _ _), writeSegments_cons_cons]
          rfl

theorem isHex_of_mem_toDigits (segment : UInt16) :
    ∀ char ∈ Nat.toDigits 16 segment.toNat, isDigitOf 16 char = true :=
  isDigitOf_of_mem_toDigits (by decide) (by decide)

/-- What comes after a segment is neither a digit nor a dot. -/
theorem after_segment (segments : List UInt16) (noDigit : NoDigit 16 rest)
    (noDot : rest.head? ≠ some '.') :
    NoDigit 16 (writeGroups false segments ++ rest) ∧
      (writeGroups false segments ++ rest).head? ≠ some '.' := by
  cases segments with
  | nil => exact ⟨noDigit, noDot⟩
  | cons segment segments =>
      constructor
      · exact noDigit_cons (by decide)
      · intro dot
        exact absurd (Option.some.inj dot) (by decide)

/-- Segments that were written are read, as long as there is room for them. -/
theorem readGroups_writeGroups (ends : EndsGroups rest) (segments : List UInt16) :
    ∀ (isFirst : Bool) (left : Nat), segments.length ≤ left →
      readGroups isFirst left (writeGroups isFirst segments ++ rest) =
        ((segments, false), rest) := by
  induction segments with
  | nil => exact fun isFirst left _ => ends.readGroups isFirst left
  | cons segment segments inductionHypothesis =>
      intro isFirst left room
      obtain ⟨left, rfl⟩ : ∃ fewer, left = fewer + 1 := ⟨left - 1, by
        rw [List.length_cons] at room
        omega⟩
      obtain ⟨noDigit, noDot⟩ := after_segment segments ends.noDigit ends.noDot
      have separated : ∀ {α : Type} (inner : Reader α),
          readSeparator ':' isFirst inner
              (writeGroups isFirst (segment :: segments) ++ rest) =
            inner (Nat.toDigits 16 segment.toNat ++ (writeGroups false segments ++ rest)) := by
        intro α inner
        rw [writeGroups, List.append_assoc, List.append_assoc]
        cases isFirst with
        | true => rfl
        | false => exact readSeparator_later _
      rw [Net.readGroups, separated, separated, readSegment_toDigits segment noDigit,
        readIpv4Addr_of_no_dot (isHex_of_mem_toDigits segment) noDigit noDot, ite_self]
      have later := inductionHypothesis false left (by
        rw [List.length_cons] at room
        omega)
      simp only [later]

end Groups

section Zeros

/-- All segments in the span are zero. -/
structure Span.Zero (segments : List UInt16) (span : Span) : Prop where
  inBounds : span.start + span.len ≤ segments.length
  zero : ∀ place, span.start ≤ place → place < span.start + span.len → segments[place]? = some 0

theorem Span.Zero.concat {segments : List UInt16} {span : Span} (zero : span.Zero segments)
    (segment : UInt16) : span.Zero (segments ++ [segment]) where
  inBounds := by
    have inBounds := zero.inBounds
    rw [List.length_append]
    omega
  zero place atLeast less := by
    have inBounds := zero.inBounds
    rw [List.getElem?_append_left (by omega)]
    exact zero.zero place atLeast less

/-- Both runs of the loop are of zeros, and the one at hand ends where the loop is. -/
structure SpanInvariant (segments : List UInt16) (state : SpanState) : Prop where
  longest : state.longest.Zero segments
  current : state.current.Zero segments
  atEnd : state.current.len ≠ 0 →
    state.current.start + state.current.len = segments.length

theorem SpanInvariant.step {segments : List UInt16} {state : SpanState}
    (invariant : SpanInvariant segments state) (segment : UInt16) :
    SpanInvariant (segments ++ [segment])
      (extendSpan state (segment, segments.length)) := by
  unfold extendSpan
  by_cases isZero : segment = 0
  · subst isZero
    simp only [if_true]
    generalize isStart : (if state.current.len = 0 then segments.length else state.current.start)
      = start
    have ends : start + (state.current.len + 1) = segments.length + 1 := by
      have atEnd := invariant.atEnd
      rw [← isStart]
      split <;> omega
    have grown : Span.Zero (segments ++ [0]) ⟨start, state.current.len + 1⟩ := by
      refine ⟨?_, ?_⟩
      · rw [List.length_append]
        exact ends.le
      · intro place atLeast less
        have atLeast : start ≤ place := atLeast
        have less : place < start + (state.current.len + 1) := less
        by_cases isLast : place = segments.length
        · rw [isLast, List.getElem?_concat_length]
        · rw [List.getElem?_append_left (by omega)]
          have started : state.current.len ≠ 0 := by omega
          have same : state.current.start = start := by rw [← isStart, if_neg started]
          exact invariant.current.zero place (by omega) (by omega)
    refine ⟨?_, grown, fun _ => ?_⟩
    · dsimp only
      split
      · exact grown
      · exact invariant.longest.concat 0
    · rw [List.length_append]
      exact ends
  · simp only [isZero, if_false]
    have none : Span.Zero (segments ++ [segment]) ⟨0, 0⟩ :=
      ⟨Nat.zero_le _, fun place _ less => absurd less (Nat.not_lt_zero place)⟩
    exact ⟨invariant.longest.concat segment, none, fun nonempty => absurd rfl nonempty⟩

theorem spanInvariant_foldl (segments : List UInt16) :
    SpanInvariant segments (segments.zipIdx.foldl extendSpan SpanState.start) := by
  induction segments using List.reverseRecOn with
  | nil =>
      have none : Span.Zero [] ⟨0, 0⟩ :=
        ⟨Nat.zero_le _, fun place _ less => absurd less (Nat.not_lt_zero place)⟩
      exact ⟨none, none, fun nonempty => absurd rfl nonempty⟩
  | append_singleton segments segment inductionHypothesis =>
      rw [List.zipIdx_append, List.foldl_append]
      have later := inductionHypothesis.step segment
      simpa using later

/-- A span of zeros can be left out and put in again. -/
theorem Span.Zero.split {segments : List UInt16} {span : Span} (zero : span.Zero segments) :
    segments.take span.start ++ List.replicate span.len 0 ++
      segments.drop (span.start + span.len) = segments := by
  have inBounds := zero.inBounds
  apply List.ext_getElem?
  intro place
  by_cases inFront : place < span.start
  · rw [List.append_assoc, List.getElem?_append_left (by rw [List.length_take]; omega),
      List.getElem?_take_of_lt inFront]
  · by_cases inZeros : place < span.start + span.len
    · rw [List.getElem?_append_left (by
        rw [List.length_append, List.length_take, List.length_replicate]; omega),
        List.getElem?_append_right (by rw [List.length_take]; omega), List.length_take,
        Nat.min_eq_left (by omega), List.getElem?_replicate_of_lt (by omega),
        zero.zero place (by omega) inZeros]
    · rw [List.getElem?_append_right (by
        rw [List.length_append, List.length_take, List.length_replicate]; omega),
        List.length_append, List.length_take, List.length_replicate, List.getElem?_drop,
        Nat.min_eq_left (by omega)]
      congr 1
      omega

end Zeros

section Ipv6

variable {rest : List Char}

theorem Ipv6Addr.ext_segments {first second : Ipv6Addr} (same : first.segments = second.segments) :
    first = second := by
  cases first
  cases second
  congr

theorem segments_ofParts {front back : List UInt16} (ip : Ipv6Addr)
    (parts : front ++ List.replicate (8 - front.length - back.length) 0 ++ back = ip.segments) :
    Ipv6Addr.ofParts front back = ip := by
  have segments : (Ipv6Addr.ofParts front back).segments =
      ((front ++ List.replicate (8 - front.length - back.length) 0 ++ back) ++
        List.replicate 8 0).take 8 := rfl
  apply Ipv6Addr.ext_segments
  rw [segments, parts, List.take_append_of_le_length ip.count.ge,
    List.take_of_length_le ip.count.le]

theorem endsGroups_colons (text : List Char) : EndsGroups (':' :: ':' :: text) where
  noDigit := noDigit_cons (by decide)
  noDot := by simp
  noSegment others same := by
    obtain rfl := (List.cons.inj same).2
    exact ⟨noDigit_cons (by decide), by simp⟩

/-- All eight segments are written. -/
theorem readIpv6Addr_full (ends : EndsGroups rest) (ip : Ipv6Addr) :
    readIpv6Addr (writeGroups true ip.segments ++ rest) = some (ip, rest) := by
  have read := readGroups_writeGroups ends ip.segments true 8 ip.count.le
  have whole : Ipv6Addr.ofParts ip.segments [] = ip := segments_ofParts ip (by simp [ip.count])
  unfold readIpv6Addr
  rw [bind_of_eq (congrArg some read)]
  simp only [ip.count, if_true, whole]
  rfl

/-- Some segments are left out between two colons. -/
theorem readIpv6Addr_colons {front back : List UInt16} {embedded : Bool} {text : List Char}
    (few : front.length < 8)
    (readBack : readGroups true (8 - (front.length + 1)) text = ((back, embedded), rest)) :
    readIpv6Addr (writeGroups true front ++ ':' :: ':' :: text) =
      some (Ipv6Addr.ofParts front back, rest) := by
  have read := readGroups_writeGroups (endsGroups_colons text) front true 8 few.le
  unfold readIpv6Addr
  rw [bind_of_eq (congrArg some read)]
  simp only [few.ne, if_false, Bool.false_eq_true]
  rw [bind_of_eq (givenChar_cons ':' _), bind_of_eq (givenChar_cons ':' _),
    bind_of_eq (congrArg some readBack)]
  rfl

theorem segments_of_toIpv4Mapped {ip : Ipv6Addr} {mapped : Ipv4Addr}
    (isMapped : ip.toIpv4Mapped = some mapped) :
    ip.segments = [0, 0, 0, 0, 0, 0xffff] ++ mapped.segments := by
  have joined : ∀ segment : UInt16,
      (segment / 256).toUInt8.toUInt16 * 256 + segment.toUInt8.toUInt16 = segment := by
    intro segment
    apply UInt16.toNat_inj.mp
    have bounded := segment.toNat_lt
    simp only [UInt16.toNat_add, UInt16.toNat_mul, UInt8.toNat_toUInt16, UInt16.toNat_toUInt8,
      UInt16.toNat_div, UInt16.reduceToNat]
    omega
  unfold Ipv6Addr.toIpv4Mapped at isMapped
  split at isMapped
  · rename_i upper lower isSegments
    obtain rfl := Option.some.inj isMapped
    rw [isSegments, Ipv4Addr.segments, joined, joined]
    rfl
  · cases isMapped

/-- An IPv4 address behind a segment. -/
theorem readGroups_mapped (mapped : Ipv4Addr) (ends : NoDigit 10 rest) :
    readGroups true 7 ("ffff:".toList ++ mapped.write ++ rest) =
      ((0xffff :: mapped.segments, true), rest) := by
  have noDigit : NoDigit 16 (':' :: (mapped.write ++ rest)) := noDigit_cons (by decide)
  have written : "ffff:".toList ++ mapped.write ++ rest =
      Nat.toDigits 16 (0xffff : UInt16).toNat ++ ':' :: (mapped.write ++ rest) := rfl
  have noAddress : readIpv4Addr (Nat.toDigits 16 (0xffff : UInt16).toNat ++
      ':' :: (mapped.write ++ rest)) = none :=
    readIpv4Addr_of_no_dot (isHex_of_mem_toDigits _) noDigit (by simp)
  rw [written, readGroups, readSeparator_first, readSeparator_first, noAddress, ite_self,
    readSegment_toDigits _ noDigit]
  have later : readGroups false 6 (':' :: (mapped.write ++ rest)) =
      ((mapped.segments, true), rest) := by
    rw [readGroups, readSeparator_later, if_pos (by decide), readIpv4Addr_write mapped ends]
  simp only [later]

/-- A span of zeros that is left out is put in again. -/
theorem readIpv6Addr_span (ends : EndsGroups rest) (ip : Ipv6Addr) {zeroes : Span}
    (zero : zeroes.Zero ip.segments) (several : 1 < zeroes.len) :
    readIpv6Addr (writeSegments (ip.segments.take zeroes.start) ++ ':' :: ':' ::
      (writeSegments (ip.segments.drop (zeroes.start + zeroes.len)) ++ rest)) =
        some (ip, rest) := by
  have inBounds := zero.inBounds
  rw [ip.count] at inBounds
  have frontLength : (ip.segments.take zeroes.start).length = zeroes.start := by
    rw [List.length_take, ip.count]
    omega
  have backLength : (ip.segments.drop (zeroes.start + zeroes.len)).length =
      8 - (zeroes.start + zeroes.len) := by
    rw [List.length_drop, ip.count]
  have readBack := readGroups_writeGroups ends (ip.segments.drop (zeroes.start + zeroes.len)) true
    (8 - ((ip.segments.take zeroes.start).length + 1)) (by omega)
  have read := readIpv6Addr_colons (by omega) readBack
  have missing : 8 - zeroes.start - (8 - (zeroes.start + zeroes.len)) = zeroes.len := by omega
  have parts : Ipv6Addr.ofParts (ip.segments.take zeroes.start)
      (ip.segments.drop (zeroes.start + zeroes.len)) = ip := by
    apply segments_ofParts
    rw [frontLength, backLength, missing]
    exact zero.split
  rw [parts] at read
  rw [writeSegments_eq, writeSegments_eq]
  exact read

/-- An IPv6 address that was written is read again. -/
theorem readIpv6Addr_write (ends : EndsGroups rest) (noDecimal : NoDigit 10 rest)
    (ip : Ipv6Addr) : readIpv6Addr (ip.write ++ rest) = some (ip, rest) := by
  unfold Ipv6Addr.write
  cases isMapped : ip.toIpv4Mapped with
  | some mapped =>
      have read := @readIpv6Addr_colons rest [] _ true _ (by decide)
        (readGroups_mapped mapped noDecimal)
      have parts : Ipv6Addr.ofParts [] (0xffff :: mapped.segments) = ip :=
        segments_ofParts ip (segments_of_toIpv4Mapped isMapped).symm
      rw [parts] at read
      exact read
  | none =>
      have zero : (longestZeros ip.segments).Zero ip.segments :=
        (spanInvariant_foldl ip.segments).longest
      dsimp only
      split
      · rename_i several
        rw [List.append_assoc]
        exact readIpv6Addr_span ends ip zero several
      · rw [writeSegments_eq]
        exact readIpv6Addr_full ends ip

/-- An IPv6 address begins with a segment and a colon or with a colon. -/
theorem write_eq_digits_colon (ip : Ipv6Addr) :
    ∃ digits others, ip.write = digits ++ ':' :: others ∧
      ∀ char ∈ digits, isDigitOf 16 char = true := by
  have ofGroups : ∀ segments text, segments ≠ [] →
      (segments.length = 1 → text.head? = some ':') →
      ∃ digits others, writeSegments segments ++ text = digits ++ ':' :: others ∧
        ∀ char ∈ digits, isDigitOf 16 char = true := by
    intro segments text nonempty single
    cases segments with
    | nil => exact absurd rfl nonempty
    | cons segment segments =>
        refine ⟨Nat.toDigits 16 segment.toNat, ?_⟩
        cases segments with
        | nil =>
            obtain ⟨others, rfl⟩ := List.head?_eq_some_iff.mp (single rfl)
            exact ⟨others, rfl, isHex_of_mem_toDigits segment⟩
        | cons next others =>
            refine ⟨writeSegments (next :: others) ++ text, ?_, isHex_of_mem_toDigits segment⟩
            rw [writeSegments_cons_cons, List.append_assoc, List.cons_append]
  unfold Ipv6Addr.write
  cases ip.toIpv4Mapped with
  | some mapped => exact ⟨[], _, rfl, fun _ isMember => by cases isMember⟩
  | none =>
      dsimp only
      split
      · cases front : ip.segments.take (longestZeros ip.segments).start with
        | nil => exact ⟨[], _, rfl, fun _ isMember => by cases isMember⟩
        | cons segment segments => exact ofGroups _ _ (List.cons_ne_nil _ _) fun _ => rfl
      · have count := ip.count
        obtain ⟨digits, others, same, areDigits⟩ := ofGroups ip.segments []
          (by rw [← List.length_pos_iff]; omega) (by omega)
        exact ⟨digits, others, by rwa [List.append_nil] at same, areDigits⟩

end Ipv6

section Addresses

theorem readIpAddr_write (ip : IpAddr) : readIpAddr ip.write = some (ip, []) := by
  cases ip with
  | v4 ip =>
      have read := readIpv4Addr_write ip (@noDigit_nil 10)
      rw [List.append_nil] at read
      exact orElse_of_eq (bind_of_eq read)
  | v6 ip =>
      have ends : EndsGroups [] := ⟨noDigit_nil, by simp, fun _ same => by cases same⟩
      have read := readIpv6Addr_write ends noDigit_nil ip
      rw [List.append_nil] at read
      obtain ⟨digits, others, isWritten, areDigits⟩ := write_eq_digits_colon ip
      have noIpv4 : readIpv4Addr ip.write = none := by
        rw [isWritten]
        exact readIpv4Addr_of_no_dot areDigits (noDigit_cons (by decide)) (by simp)
      exact (orElse_of_eq_none (bind_of_eq_none noIpv4)).trans (bind_of_eq read)

/-- An IP address that was written is parsed again. -/
theorem IpAddr.parse_toString (ip : IpAddr) : IpAddr.parse (toString ip) = .ok ip := by
  have read : whole readIpAddr ip.write = some ip := whole_eq_some_iff.mpr (readIpAddr_write ip)
  have written : (toString ip).toList = ip.write := String.toList_ofList
  unfold IpAddr.parse
  rw [written, read]

theorem readPort_toDigits (port : UInt16) :
    readPort (':' :: Nat.toDigits 10 port.toNat) = some (port, []) := by
  have read : number portForm (Nat.toDigits 10 port.toNat ++ []) = some (port.toNat, []) :=
    @number_toDigits port.toNat portForm [] (by decide) (by decide) rfl port.toNat_lt noDigit_nil
  rw [List.append_nil] at read
  rw [readPort, bind_of_eq (givenChar_cons ':' _), bind_of_eq read, UInt16.ofNat_toNat]
  rfl

/-- The scope is read if it was written; it is written if it is not zero. -/
theorem readScopeId_write (scopeId : UInt32) (rest : List Char) :
    (readScopeId <|> pure 0) ((if scopeId = 0 then [] else '%' :: Nat.toDigits 10 scopeId.toNat) ++
      ']' :: rest) = some (scopeId, ']' :: rest) := by
  by_cases none : scopeId = 0
  · have noScope : readScopeId (']' :: rest) = Option.none := bind_of_eq_none rfl
    rw [if_pos none, none, List.nil_append, orElse_of_eq_none noScope]
    rfl
  · have read : number scopeIdForm (Nat.toDigits 10 scopeId.toNat ++ ']' :: rest) =
        some (scopeId.toNat, ']' :: rest) :=
      @number_toDigits scopeId.toNat scopeIdForm _ (by decide) (by decide) rfl scopeId.toNat_lt
        (noDigit_cons (by decide))
    have readScope : readScopeId ('%' :: Nat.toDigits 10 scopeId.toNat ++ ']' :: rest) =
        some (scopeId, ']' :: rest) := by
      rw [readScopeId, List.cons_append, bind_of_eq (givenChar_cons '%' _), bind_of_eq read,
        UInt32.ofNat_toNat]
      rfl
    rw [if_neg none]
    exact orElse_of_eq readScope

/-- The address without a flow, which is not written. -/
def SocketAddr.withoutFlow : SocketAddr → SocketAddr
  | .v4 addr => .v4 addr
  | .v6 addr => .v6 { addr with flowinfo := 0 }

theorem readSocketAddr_write (addr : SocketAddr) :
    readSocketAddr addr.write = some (addr.withoutFlow, []) := by
  cases addr with
  | v4 addr =>
      have read : readSocketAddrV4 addr.write = some (addr, []) := by
        rw [readSocketAddrV4, SocketAddrV4.write,
          bind_of_eq (readIpv4Addr_write addr.ip (noDigit_cons (by decide))),
          bind_of_eq (readPort_toDigits addr.port)]
        rfl
      exact orElse_of_eq (bind_of_eq read)
  | v6 addr =>
      have noIpv4 : readIpv4Addr addr.write = none :=
        @readIpv4Addr_of_no_dot addr.write [] (fun _ isMember => by cases isMember)
          (noDigit_cons (by decide)) (by simp [SocketAddrV6.write])
      have ends : ∀ scope text, EndsGroups
          ((if addr.scopeId = 0 then [] else '%' :: scope) ++ ']' :: text) ∧
          NoDigit 10 ((if addr.scopeId = 0 then [] else '%' :: scope) ++ ']' :: text) := by
        intro scope text
        split
        · exact ⟨⟨noDigit_cons (by decide), by simp, fun _ same => by simp at same⟩,
            noDigit_cons (by decide)⟩
        · exact ⟨⟨noDigit_cons (by decide), by simp, fun _ same => by simp at same⟩,
            noDigit_cons (by decide)⟩
      have read : readSocketAddrV6 addr.write = some ({ addr with flowinfo := 0 }, []) := by
        obtain ⟨endsGroups, noDecimal⟩ := ends (Nat.toDigits 10 addr.scopeId.toNat)
          (':' :: Nat.toDigits 10 addr.port.toNat)
        rw [readSocketAddrV6, SocketAddrV6.write, List.cons_append, List.cons_append,
          List.append_assoc, bind_of_eq (givenChar_cons '[' _),
          bind_of_eq (readIpv6Addr_write endsGroups noDecimal addr.ip),
          bind_of_eq (readScopeId_write addr.scopeId _), bind_of_eq (givenChar_cons ']' _),
          bind_of_eq (readPort_toDigits addr.port)]
        rfl
      exact (orElse_of_eq_none (bind_of_eq_none (bind_of_eq_none noIpv4))).trans (bind_of_eq read)

/-- A socket address that was written is parsed again, but for its flow. -/
theorem SocketAddr.parse_toString (addr : SocketAddr) :
    SocketAddr.parse (toString addr) = .ok addr.withoutFlow := by
  have read : whole readSocketAddr addr.write = some addr.withoutFlow :=
    whole_eq_some_iff.mpr (readSocketAddr_write addr)
  have written : (toString addr).toList = addr.write := String.toList_ofList
  unfold SocketAddr.parse
  rw [written, read]

/-- A parsed address has no flow. -/
theorem SocketAddr.withoutFlow_of_parse {text : String} {addr : SocketAddr}
    (parsed : SocketAddr.parse text = .ok addr) : addr.withoutFlow = addr := by
  unfold SocketAddr.parse at parsed
  split at parsed
  · rename_i found read
    obtain rfl := Except.ok.inj parsed
    cases found with
    | v4 _ => rfl
    | v6 addr =>
        have read := whole_eq_some_iff.mp read
        have ofV6 : readSocketAddrV6 text.toList = some (addr, []) := by
          cases ofV4 : readSocketAddrV4 text.toList with
          | some result =>
              rw [readSocketAddr, orElse_of_eq (bind_of_eq ofV4)] at read
              cases Option.some.inj read
          | none =>
              rw [readSocketAddr, orElse_of_eq_none (bind_of_eq_none ofV4)] at read
              obtain ⟨found, rest, readV6, same⟩ := bind_eq_some_iff.mp read
              cases Option.some.inj same
              exact readV6
        obtain ⟨_, _, -, read⟩ := bind_eq_some_iff.mp ofV6
        obtain ⟨_, _, -, read⟩ := bind_eq_some_iff.mp read
        obtain ⟨_, _, -, read⟩ := bind_eq_some_iff.mp read
        obtain ⟨_, _, -, read⟩ := bind_eq_some_iff.mp read
        obtain ⟨_, _, -, same⟩ := bind_eq_some_iff.mp read
        cases Option.some.inj same
        rfl
  · cases parsed

theorem Ipv4Addr.length_write_le (ip : Ipv4Addr) : ip.write.length ≤ 15 := by
  have short : ∀ octet : UInt8, (Nat.toDigits 10 octet.toNat).length ≤ 3 := by
    intro octet
    have bounded : octet.toNat < 256 := octet.toNat_lt
    exact (Nat.length_toDigits_le_iff (by decide) (by decide)).mpr (by omega)
  have first := short ip.first
  have second := short ip.second
  have third := short ip.third
  have fourth := short ip.fourth
  simp only [Ipv4Addr.write, List.length_append, List.length_cons]
  omega

theorem length_writeSegments_le (segments : List UInt16) :
    (writeSegments segments).length ≤ 5 * segments.length := by
  have short : ∀ segment : UInt16, (Nat.toDigits 16 segment.toNat).length ≤ 4 := by
    intro segment
    have bounded : segment.toNat < 65536 := segment.toNat_lt
    exact (Nat.length_toDigits_le_iff (by decide) (by decide)).mpr (by omega)
  have ofGroups : ∀ isFirst, (writeGroups isFirst segments).length ≤ 5 * segments.length := by
    induction segments with
    | nil => exact fun _ => le_rfl
    | cons segment segments inductionHypothesis =>
        intro isFirst
        have later := inductionHypothesis false
        have digits := short segment
        have colon : (if isFirst then [] else [':']).length ≤ 1 := by
          split
          · exact Nat.zero_le _
          · exact le_rfl
        simp only [writeGroups, List.length_append, List.length_cons]
        omega
  rw [writeSegments_eq]
  exact ofGroups true

theorem IpAddr.length_write_le (ip : IpAddr) : ip.write.length ≤ 42 := by
  cases ip with
  | v4 ip => exact ip.length_write_le.trans (by decide)
  | v6 ip =>
      change ip.write.length ≤ 42
      unfold Ipv6Addr.write
      split
      · rename_i mapped _
        have short := mapped.length_write_le
        simp only [List.length_append, String.reduceToList, List.length_cons, List.length_nil]
        omega
      · have inBounds := (spanInvariant_foldl ip.segments).longest.inBounds
        rw [ip.count] at inBounds
        dsimp only
        split
        · have front := length_writeSegments_le
            (ip.segments.take (longestZeros ip.segments).start)
          have back := length_writeSegments_le
            (ip.segments.drop ((longestZeros ip.segments).start + (longestZeros ip.segments).len))
          rw [List.length_take, ip.count] at front
          rw [List.length_drop, ip.count] at back
          simp only [List.length_append, List.length_cons]
          omega
        · have all := length_writeSegments_le ip.segments
          rw [ip.count] at all
          omega

end Addresses

section Characters

/-- The characters of an IP address. -/
def isIpChar (char : Char) : Bool := isDigitOf 16 char || char = '.' || char = ':'

/-- The characters of a socket address. -/
def isSocketAddrChar (char : Char) : Bool :=
  isIpChar char || char = '[' || char = ']' || char = '%'

variable {allowed : Char → Bool}

theorem isIpChar_of_isDigitOf {radix : Nat} (atMostHex : radix ≤ 16) {char : Char}
    (isDigit : isDigitOf radix char = true) : isIpChar char = true := by
  have isHex : isDigitOf 16 char = true := by
    unfold isDigitOf at isDigit ⊢
    rw [Bool.and_eq_true, decide_eq_true_eq] at isDigit ⊢
    exact ⟨isDigit.1, by omega⟩
  rw [isIpChar, isHex]
  rfl

theorem takesOnly_ipNumber (ipChars : ∀ char, isIpChar char = true → allowed char = true)
    {form : NumberForm} (atMostHex : form.radix ≤ 16) : TakesOnly allowed (number form) :=
  takesOnly_number fun char isDigit => ipChars char (isIpChar_of_isDigitOf atMostHex isDigit)

theorem takesOnly_readSeparator {α : Type} {separator : Char} {inner : Reader α}
    (isAllowed : allowed separator = true) (innerOnly : TakesOnly allowed inner) (isFirst : Bool) :
    TakesOnly allowed (readSeparator separator isFirst inner) := by
  cases isFirst with
  | true => exact innerOnly
  | false => exact (takesOnly_givenChar isAllowed).bind fun _ => innerOnly

theorem takesOnly_readIpv4Addr (ipChars : ∀ char, isIpChar char = true → allowed char = true) :
    TakesOnly allowed readIpv4Addr := by
  have octet : TakesOnly allowed readOctet :=
    (takesOnly_ipNumber ipChars (by decide)).bind fun _ => takesOnly_pure _
  have separated := takesOnly_readSeparator (ipChars '.' (by decide)) octet
  exact (separated true).bind fun _ => (separated false).bind fun _ =>
    (separated false).bind fun _ => (separated false).bind fun _ => takesOnly_pure _

theorem takesOnly_readGroups (ipChars : ∀ char, isIpChar char = true → allowed char = true)
    (isFirst : Bool) (left : Nat) :
    TakesOnly allowed (fun text => some (readGroups isFirst left text)) := by
  have address := takesOnly_readSeparator (ipChars ':' (by decide))
    (takesOnly_readIpv4Addr ipChars)
  have readsSegment : TakesOnly allowed readSegment :=
    (takesOnly_ipNumber ipChars (by decide)).bind fun _ => takesOnly_pure _
  have segment := takesOnly_readSeparator (ipChars ':' (by decide)) readsSegment
  have nothing : ∀ text : List Char, ∃ taken, text = taken ++ text ∧
      ∀ char ∈ taken, allowed char = true :=
    fun text => ⟨[], rfl, fun _ isMember => by cases isMember⟩
  induction left generalizing isFirst with
  | zero =>
      intro text groups rest read
      have sameRest : text = rest := (Prod.mk.inj (Option.some.inj read)).2
      rw [← sameRest]
      exact nothing text
  | succ left inductionHypothesis =>
      intro text groups rest read
      have found := Option.some.inj read
      rw [readGroups] at found
      split at found
      · rename_i ip afterIp readIp
        obtain ⟨-, rfl⟩ := Prod.mk.inj found
        split at readIp
        · exact address isFirst text ip afterIp readIp
        · cases readIp
      · split at found
        · rename_i value afterSegment readSegment
          obtain ⟨taken, rfl, allAllowed⟩ := segment isFirst text value afterSegment readSegment
          obtain ⟨-, sameRest⟩ := Prod.mk.inj found
          obtain ⟨takenLater, isText, laterAllowed⟩ :=
            inductionHypothesis false afterSegment _ _ rfl
          refine ⟨taken ++ takenLater, ?_, ?_⟩
          · rw [List.append_assoc, ← sameRest, ← isText]
          · intro char isMember
            rcases List.mem_append.mp isMember with inFirst | inSecond
            · exact allAllowed char inFirst
            · exact laterAllowed char inSecond
        · have sameRest : text = rest := (Prod.mk.inj found).2
          rw [← sameRest]
          exact nothing text

theorem takesOnly_failure {α : Type} : TakesOnly allowed (failure : Reader α) := by
  intro text value rest read
  cases read

theorem takesOnly_readIpv6Addr (ipChars : ∀ char, isIpChar char = true → allowed char = true) :
    TakesOnly allowed readIpv6Addr := by
  have groups := takesOnly_readGroups ipChars
  have colon : TakesOnly allowed (givenChar ':') := takesOnly_givenChar (ipChars ':' (by decide))
  refine (groups true 8).bind fun head => ?_
  dsimp only
  split
  · exact takesOnly_pure _
  · split
    · exact takesOnly_failure.bind fun _ => colon.bind fun _ => colon.bind fun _ =>
        (groups true _).bind fun _ => takesOnly_pure _
    · exact colon.bind fun _ => colon.bind fun _ => (groups true _).bind fun _ => takesOnly_pure _

theorem isIpChar_of_parse {text : String} {ip : IpAddr} (parsed : IpAddr.parse text = .ok ip) :
    ∀ char ∈ text.toList, isIpChar char = true := by
  have ipOnly : TakesOnly isIpChar readIpAddr :=
    ((takesOnly_readIpv4Addr fun _ isIp => isIp).bind fun _ => takesOnly_pure _).orElse
      ((takesOnly_readIpv6Addr fun _ isIp => isIp).bind fun _ => takesOnly_pure _)
  unfold IpAddr.parse at parsed
  split at parsed
  · rename_i found read
    exact ipOnly.of_whole read
  · cases parsed

theorem isSocketAddrChar_of_parse {text : String} {addr : SocketAddr}
    (parsed : SocketAddr.parse text = .ok addr) :
    ∀ char ∈ text.toList, isSocketAddrChar char = true := by
  have ipChars : ∀ char, isIpChar char = true → isSocketAddrChar char = true := by
    intro char isIp
    rw [isSocketAddrChar, isIp]
    rfl
  have port : TakesOnly isSocketAddrChar readPort :=
    (takesOnly_givenChar (by decide)).bind fun _ =>
      (takesOnly_ipNumber ipChars (by decide)).bind fun _ => takesOnly_pure _
  have scope : TakesOnly isSocketAddrChar readScopeId :=
    (takesOnly_givenChar (by decide)).bind fun _ =>
      (takesOnly_ipNumber ipChars (by decide)).bind fun _ => takesOnly_pure _
  have v4 : TakesOnly isSocketAddrChar readSocketAddrV4 :=
    (takesOnly_readIpv4Addr ipChars).bind fun _ => port.bind fun _ => takesOnly_pure _
  have v6 : TakesOnly isSocketAddrChar readSocketAddrV6 :=
    (takesOnly_givenChar (by decide)).bind fun _ =>
      (takesOnly_readIpv6Addr ipChars).bind fun _ =>
        (scope.orElse (takesOnly_pure 0)).bind fun _ =>
          (takesOnly_givenChar (by decide)).bind fun _ => port.bind fun _ => takesOnly_pure _
  have addrOnly : TakesOnly isSocketAddrChar readSocketAddr :=
    (v4.bind fun _ => takesOnly_pure _).orElse (v6.bind fun _ => takesOnly_pure _)
  unfold SocketAddr.parse at parsed
  split at parsed
  · rename_i found read
    exact addrOnly.of_whole read
  · cases parsed

end Characters

end Slate.Foundation.Net
