import Mathlib.Data.List.Flatten
import Slate.Foundation.UrlPaths

/-!
# Percent coding

Decoding a text undoes what encoding did to it, and escapes that stood in the text before. It
never makes a text longer, and it leaves a text as it is exactly where there is no escape in it.
-/

namespace Slate.Foundation.UrlStandard

section Bytes

variable {byte high low : UInt8} {bytes start rest : List UInt8}

def isHexByte (byte : UInt8) : Bool := isHexDigit (Char.ofNat byte.toNat)

/-- The byte that two digits behind a percent sign stand for, and what follows them. -/
def escapeAt : List UInt8 → Option (UInt8 × List UInt8)
  | high :: low :: rest => (hexByte high low).map fun byte => (byte, rest)
  | _ => none

theorem hexByte_eq_some_of_digits (highDigit : isHexByte high = true)
    (lowDigit : isHexByte low = true) : (hexByte high low).isSome = true := by
  unfold isHexByte at highDigit lowDigit
  simp [hexByte, highDigit, lowDigit]

theorem hexByte_eq_none_of_other (other : isHexByte high = false ∨ isHexByte low = false) :
    hexByte high low = none := by
  unfold isHexByte at other
  unfold hexByte
  rcases other with other | other <;> simp [other]

theorem percentDecode_cons_of_ne (other : byte ≠ 0x25) :
    percentDecode (byte :: rest) = byte :: percentDecode rest := by
  match rest with
  | [] => rfl
  | [second] => rfl
  | second :: third :: rest => rw [percentDecode, if_neg other]

theorem percentDecode_escape {decoded : UInt8} {behind : List UInt8}
    (escape : escapeAt rest = some (decoded, behind)) :
    percentDecode (0x25 :: rest) = decoded :: percentDecode behind := by
  match rest with
  | [] => cases escape
  | [second] => cases escape
  | second :: third :: rest =>
      obtain ⟨byte, isByte, same⟩ := Option.map_eq_some_iff.mp escape
      obtain ⟨rfl, rfl⟩ := Prod.mk.inj same
      rw [percentDecode, if_pos rfl, isByte]

theorem percentDecode_of_no_escape (noEscape : escapeAt rest = none) :
    percentDecode (0x25 :: rest) = 0x25 :: percentDecode rest := by
  match rest with
  | [] => rfl
  | [second] => rfl
  | second :: third :: rest =>
      rw [percentDecode, if_pos rfl, Option.map_eq_none_iff.mp noEscape]

theorem percentDecode_append_of_notMem (plain : 0x25 ∉ start) :
    percentDecode (start ++ rest) = start ++ percentDecode rest := by
  induction start with
  | nil => rfl
  | cons first start inductionHypothesis =>
      rw [List.mem_cons, not_or] at plain
      obtain ⟨other, plain⟩ := plain
      rw [List.cons_append, percentDecode_cons_of_ne (Ne.symm other), inductionHypothesis plain,
        List.cons_append]

theorem length_of_escapeAt {decoded : UInt8} {behind : List UInt8}
    (escape : escapeAt rest = some (decoded, behind)) : behind.length + 2 = rest.length := by
  match rest with
  | [] => cases escape
  | [second] => cases escape
  | second :: third :: rest =>
      obtain ⟨byte, -, same⟩ := Option.map_eq_some_iff.mp escape
      rw [← (Prod.mk.inj same).2]
      rfl

/-- What cannot be a part of an escape is decoded apart from what stands in front of it. -/
theorem percentDecode_append (other : isHexByte byte = false) :
    percentDecode (start ++ byte :: rest) = percentDecode start ++ percentDecode (byte :: rest) := by
  induction length : start.length using Nat.strong_induction_on generalizing start with
  | _ count inductionHypothesis =>
      cases start with
      | nil => rfl
      | cons first start =>
          have onStart := inductionHypothesis start.length
            (by rw [← length, List.length_cons]; omega) rfl
          by_cases isPercent : first = 0x25
          · rw [isPercent, List.cons_append]
            cases escape : escapeAt start with
            | some found =>
                have sameEscape : escapeAt (start ++ byte :: rest) =
                    some (found.1, found.2 ++ byte :: rest) := by
                  match start with
                  | [] => cases escape
                  | [second] => cases escape
                  | second :: third :: start =>
                      obtain ⟨decoded, isDecoded, rfl⟩ := Option.map_eq_some_iff.mp escape
                      simp [escapeAt, isDecoded]
                have shorter := length_of_escapeAt escape
                rw [percentDecode_escape sameEscape, percentDecode_escape escape,
                  inductionHypothesis found.2.length
                    (by rw [← length, List.length_cons]; omega) rfl, List.cons_append]
            | none =>
                have sameEscape : escapeAt (start ++ byte :: rest) = none := by
                  match start with
                  | [] =>
                      cases rest with
                      | nil => rfl
                      | cons next rest => simp [escapeAt, hexByte_eq_none_of_other (.inl other)]
                  | [second] => simp [escapeAt, hexByte_eq_none_of_other (.inr other)]
                  | second :: third :: start =>
                      have noByte := Option.map_eq_none_iff.mp escape
                      simp [escapeAt, noByte]
                rw [percentDecode_of_no_escape sameEscape, percentDecode_of_no_escape escape,
                  onStart, List.cons_append]
          · rw [List.cons_append, percentDecode_cons_of_ne isPercent,
              percentDecode_cons_of_ne isPercent, onStart, List.cons_append]

theorem length_percentDecode_le : (percentDecode bytes).length ≤ bytes.length := by
  induction bytes using percentDecode.induct with
  | case1 => exact Nat.le_refl _
  | case2 | case3 => exact Nat.le_refl _
  | case4 second third rest decoded isDecoded inductionHypothesis =>
      rw [percentDecode, if_pos rfl, isDecoded]
      simp only [List.length_cons]
      omega
  | case5 second third rest undecoded inductionHypothesis =>
      rw [percentDecode, if_pos rfl, undecoded]
      exact Nat.succ_le_succ inductionHypothesis
  | case6 first second third rest noEscape inductionHypothesis =>
      rw [percentDecode, if_neg noEscape]
      exact Nat.succ_le_succ inductionHypothesis

/-- Decoding that does not shorten does nothing. -/
theorem percentDecode_eq_of_length (same : (percentDecode bytes).length = bytes.length) :
    percentDecode bytes = bytes := by
  induction bytes using percentDecode.induct with
  | case1 => rfl
  | case2 | case3 => rfl
  | case4 second third rest decoded isDecoded _ =>
      rw [percentDecode, if_pos rfl, isDecoded] at same
      have shorter := @length_percentDecode_le rest
      simp only [List.length_cons] at same
      omega
  | case5 second third rest undecoded inductionHypothesis =>
      rw [percentDecode, if_pos rfl, undecoded] at same ⊢
      rw [inductionHypothesis (Nat.succ.inj same)]
  | case6 first second third rest noEscape inductionHypothesis =>
      rw [percentDecode, if_neg noEscape] at same ⊢
      rw [inductionHypothesis (Nat.succ.inj same)]

theorem percentDecode_eq_nil_iff : percentDecode bytes = [] ↔ bytes = [] := by
  constructor
  · intro isNil
    cases bytes with
    | nil => rfl
    | cons first rest =>
        by_cases isPercent : first = 0x25
        · rw [isPercent] at isNil
          cases escape : escapeAt rest with
          | some found =>
              rw [percentDecode_escape escape] at isNil
              cases isNil
          | none =>
              rw [percentDecode_of_no_escape escape] at isNil
              cases isNil
        · rw [percentDecode_cons_of_ne isPercent] at isNil
          cases isNil
  · rintro rfl
    rfl

end Bytes

section Texts

variable {inSet : Char → Bool} {char : Char} {text front behind : List Char} {byte : UInt8}
  {rest : List UInt8}

/-- The bytes that a text stands for. -/
def decoded (text : List Char) : List UInt8 := percentDecode (Utf8.encode text)

theorem utf8_of_ascii (ascii : char.toNat < 0x80) :
    Utf8.encode (char :: text) = UInt8.ofNat char.toNat :: Utf8.encode text := by
  rw [Utf8.encode, List.flatMap_cons, Utf8.utf8EncodeChar_ascii ascii]
  rfl

theorem ofNat_toNat_of_ascii (ascii : char.toNat < 0x80) :
    Char.ofNat (UInt8.ofNat char.toNat).toNat = char := by
  have sameCode : (UInt8.ofNat char.toNat).toNat = char.toNat := by
    rw [UInt8.toNat_ofNat']
    omega
  rw [sameCode, Char.ofNat_toNat]

theorem isHexByte_of_ascii (ascii : char.toNat < 0x80) :
    isHexByte (UInt8.ofNat char.toNat) = isHexDigit char := by
  rw [isHexByte, ofNat_toNat_of_ascii ascii]

theorem isHexByte_of_large (large : 0x80 ≤ byte.toNat) : isHexByte byte = false := by
  rw [Bool.eq_false_iff]
  intro isDigit
  have isNone := @hexByte_eq_none byte byte (.inl large)
  have isSome := hexByte_eq_some_of_digits isDigit isDigit
  rw [isNone] at isSome
  cases isSome

/-- A character that is no digit begins with a byte that is none. -/
theorem exists_first_byte (other : isHexDigit char = false) (text : List Char) :
    ∃ byte rest, Utf8.encode (char :: text) = byte :: rest ∧ isHexByte byte = false := by
  by_cases ascii : char.toNat < 0x80
  · exact ⟨_, _, utf8_of_ascii ascii, by rw [isHexByte_of_ascii ascii, other]⟩
  · obtain ⟨byte, bytes, isChar⟩ : ∃ byte bytes, String.utf8EncodeChar char = byte :: bytes :=
      List.exists_cons_of_ne_nil String.utf8EncodeChar_ne_nil
    refine ⟨byte, bytes ++ Utf8.encode text, ?_, ?_⟩
    · rw [Utf8.encode, List.flatMap_cons, isChar]
      rfl
    · apply isHexByte_of_large
      exact Utf8.utf8EncodeChar_nonascii (not_lt.mp ascii) (by simp [isChar])

theorem decoded_append (other : isHexDigit char = false) :
    decoded (front ++ char :: behind) = decoded front ++ decoded (char :: behind) := by
  obtain ⟨byte, rest, isBehind, noDigit⟩ := exists_first_byte other behind
  rw [decoded, Utf8.encode_append, isBehind, percentDecode_append noDigit, decoded, decoded,
    isBehind]

theorem notMem_utf8EncodeChar (other : char ≠ '%') : 0x25 ∉ String.utf8EncodeChar char := by
  have absent := @Utf8.not_mem_encode [char] 0x25 (by decide) (by simpa using other.symm)
  simpa [Utf8.encode] using absent

theorem decoded_cons_of_ne (other : char ≠ '%') :
    decoded (char :: text) = String.utf8EncodeChar char ++ decoded text := by
  rw [decoded, Utf8.encode, List.flatMap_cons,
    percentDecode_append_of_notMem (notMem_utf8EncodeChar other)]
  rfl

theorem hexDigit_spec : ∀ digit < 16, isHexDigit (Text.hexDigit digit) = true ∧
    hexValue (Text.hexDigit digit) = digit ∧ (Text.hexDigit digit).toNat < 0x80 := by decide

theorem utf8_percentEncodeByte (byte : UInt8) : Utf8.encode (Text.percentEncodeByte byte) =
    [0x25, UInt8.ofNat (Text.hexDigit (byte.toNat / 16)).toNat,
      UInt8.ofNat (Text.hexDigit (byte.toNat % 16)).toNat] := by
  have small := byte.toNat_lt
  obtain ⟨-, -, highAscii⟩ := hexDigit_spec (byte.toNat / 16) (by omega)
  obtain ⟨-, -, lowAscii⟩ := hexDigit_spec (byte.toNat % 16) (by omega)
  rw [Text.percentEncodeByte, utf8_of_ascii (by decide), utf8_of_ascii highAscii,
    utf8_of_ascii lowAscii]
  rfl

theorem escapeAt_digits (byte : UInt8) (rest : List UInt8) :
    escapeAt (UInt8.ofNat (Text.hexDigit (byte.toNat / 16)).toNat ::
      UInt8.ofNat (Text.hexDigit (byte.toNat % 16)).toNat :: rest) = some (byte, rest) := by
  have small := byte.toNat_lt
  obtain ⟨highDigit, highValue, highAscii⟩ := hexDigit_spec (byte.toNat / 16) (by omega)
  obtain ⟨lowDigit, lowValue, lowAscii⟩ := hexDigit_spec (byte.toNat % 16) (by omega)
  have isByte : UInt8.ofNat (16 * (byte.toNat / 16) + byte.toNat % 16) = byte := by
    rw [Nat.div_add_mod, UInt8.ofNat_toNat]
  simp only [escapeAt, hexByte, ofNat_toNat_of_ascii highAscii, ofNat_toNat_of_ascii lowAscii,
    highDigit, lowDigit, highValue, lowValue, isByte, Bool.and_self, if_true, Option.map_some]

theorem percentDecode_percentEncodeByte (byte : UInt8) (rest : List UInt8) :
    percentDecode (Utf8.encode (Text.percentEncodeByte byte) ++ rest) =
      byte :: percentDecode rest := by
  rw [utf8_percentEncodeByte]
  exact percentDecode_escape (escapeAt_digits byte rest)

theorem percentDecode_percentEncodeBytes (bytes rest : List UInt8) :
    percentDecode (Utf8.encode (bytes.flatMap Text.percentEncodeByte) ++ rest) =
      bytes ++ percentDecode rest := by
  induction bytes with
  | nil => rfl
  | cons byte bytes inductionHypothesis =>
      rw [List.flatMap_cons, Utf8.encode_append, List.append_assoc,
        percentDecode_percentEncodeByte, inductionHypothesis, List.cons_append]

/-- A set of characters without those that escapes are made of. -/
def SparesEscapes (inSet : Char → Bool) : Prop :=
  inSet '%' = false ∧ ∀ char, isHexDigit char = true → inSet char = false

theorem encode_cons : encode inSet (char :: text) = percentEncode inSet char ++ encode inSet text :=
  List.flatMap_cons

/-- What a character is encoded to begins with a digit only where it is one. -/
theorem exists_first_byte_encode (other : isHexDigit char = false) (text : List Char) :
    ∃ byte rest, Utf8.encode (encode inSet (char :: text)) = byte :: rest ∧
      isHexByte byte = false := by
  rw [encode_cons, percentEncode]
  cases isEncoded : inSet char with
  | false => exact exists_first_byte other _
  | true =>
      obtain ⟨byte, bytes, isChar⟩ : ∃ byte bytes, String.utf8EncodeChar char = byte :: bytes :=
        List.exists_cons_of_ne_nil String.utf8EncodeChar_ne_nil
      rw [if_pos rfl, isChar, List.flatMap_cons, Text.percentEncodeByte]
      exact ⟨_, _, utf8_of_ascii (by decide), by decide⟩

theorem escapeAt_of_first (noDigit : isHexByte byte = false) (rest : List UInt8) :
    escapeAt (byte :: rest) = none := by
  cases rest with
  | nil => rfl
  | cons next rest => simp [escapeAt, hexByte_eq_none_of_other (.inl noDigit)]

theorem escapeAt_of_second (noDigit : isHexByte byte = false) (first : UInt8)
    (rest : List UInt8) : escapeAt (first :: byte :: rest) = none := by
  simp [escapeAt, hexByte_eq_none_of_other (.inr noDigit)]

theorem escapeAt_of_digits {high low : Char} (highDigit : isHexDigit high = true)
    (lowDigit : isHexDigit low = true) : ∃ byte, ∀ text,
      escapeAt (Utf8.encode (high :: low :: text)) = some (byte, Utf8.encode text) := by
  have highAscii := isHexDigit_ascii highDigit
  have lowAscii := isHexDigit_ascii lowDigit
  have isSome : (hexByte (UInt8.ofNat high.toNat) (UInt8.ofNat low.toNat)).isSome = true :=
    hexByte_eq_some_of_digits (by rw [isHexByte_of_ascii highAscii, highDigit])
      (by rw [isHexByte_of_ascii lowAscii, lowDigit])
  obtain ⟨byte, isByte⟩ := Option.isSome_iff_exists.mp isSome
  refine ⟨byte, fun text => ?_⟩
  rw [utf8_of_ascii highAscii, utf8_of_ascii lowAscii]
  simp [escapeAt, isByte]

/-- An escape is at the front of a text where two digits are, and encoding leaves those. -/
theorem escapeAt_cases (spares : SparesEscapes inSet) (text : List Char) :
    (∃ high low behind, text = high :: low :: behind ∧ isHexDigit high = true ∧
      isHexDigit low = true) ∨
    escapeAt (Utf8.encode text) = none ∧ escapeAt (Utf8.encode (encode inSet text)) = none := by
  cases text with
  | nil => exact .inr ⟨rfl, rfl⟩
  | cons high text =>
      cases highDigit : isHexDigit high with
      | false =>
          obtain ⟨byte, rest, isText, noDigit⟩ := exists_first_byte highDigit text
          obtain ⟨other, others, isEncoded, otherNoDigit⟩ :=
            @exists_first_byte_encode inSet high highDigit text
          rw [isText, isEncoded]
          exact .inr ⟨escapeAt_of_first noDigit rest, escapeAt_of_first otherNoDigit others⟩
      | true =>
          have highAscii := isHexDigit_ascii highDigit
          have isEncoded : encode inSet (high :: text) = high :: encode inSet text := by
            rw [encode_cons, percentEncode, spares.2 high highDigit]
            rfl
          cases text with
          | nil =>
              rw [isEncoded, utf8_of_ascii highAscii, utf8_of_ascii highAscii]
              exact .inr ⟨rfl, rfl⟩
          | cons low text =>
              cases lowDigit : isHexDigit low with
              | false =>
                  obtain ⟨byte, rest, isText, noDigit⟩ := exists_first_byte lowDigit text
                  obtain ⟨other, others, isRest, otherNoDigit⟩ :=
                    @exists_first_byte_encode inSet low lowDigit text
                  rw [isEncoded, utf8_of_ascii highAscii, utf8_of_ascii highAscii, isText, isRest]
                  exact .inr ⟨escapeAt_of_second noDigit _ rest,
                    escapeAt_of_second otherNoDigit _ others⟩
              | true => exact .inl ⟨high, low, text, rfl, highDigit, lowDigit⟩

/-- Decoding undoes encoding, and no more of a text than without it. -/
theorem decoded_encode (spares : SparesEscapes inSet) (text : List Char) :
    decoded (encode inSet text) = decoded text := by
  induction length : text.length using Nat.strong_induction_on generalizing text with
  | _ count inductionHypothesis =>
      cases text with
      | nil => rfl
      | cons char text =>
          have onText := inductionHypothesis text.length
            (by rw [← length, List.length_cons]; omega) text rfl
          rw [encode_cons, percentEncode]
          cases isEncoded : inSet char with
          | true =>
              have other : char ≠ '%' := by
                rintro rfl
                rw [spares.1] at isEncoded
                cases isEncoded
              rw [if_pos rfl, decoded, Utf8.encode_append, percentDecode_percentEncodeBytes,
                decoded_cons_of_ne other, ← onText]
              rfl
          | false =>
              rw [if_neg (by simp), List.singleton_append]
              by_cases isPercent : char = '%'
              · rw [isPercent, decoded, decoded, utf8_of_ascii (by decide), utf8_of_ascii (by decide)]
                change percentDecode (0x25 :: _) = percentDecode (0x25 :: _)
                rcases escapeAt_cases spares text with
                  ⟨high, low, behind, rfl, highDigit, lowDigit⟩ | ⟨noEscape, noOtherEscape⟩
                · obtain ⟨byte, escape⟩ := escapeAt_of_digits highDigit lowDigit
                  have isText : encode inSet (high :: low :: behind) =
                      high :: low :: encode inSet behind := by
                    rw [encode_cons, encode_cons, percentEncode, percentEncode,
                      spares.2 high highDigit, spares.2 low lowDigit]
                    rfl
                  have onBehind := inductionHypothesis behind.length
                    (by rw [← length, List.length_cons, List.length_cons, List.length_cons]; omega)
                    behind rfl
                  rw [isText, percentDecode_escape (escape _), percentDecode_escape (escape _)]
                  exact congrArg (byte :: ·) onBehind
                · rw [percentDecode_of_no_escape noEscape, percentDecode_of_no_escape noOtherEscape]
                  exact congrArg (0x25 :: ·) onText
              · rw [decoded_cons_of_ne isPercent, decoded_cons_of_ne isPercent, onText]

/-- A text that decoding leaves as it is. -/
def Unescaped (text : List Char) : Prop :=
  ∀ high low, isHexDigit high = true → isHexDigit low = true → ¬['%', high, low] <:+: text

theorem length_decoded_le : (decoded text).length ≤ (Utf8.encode text).length :=
  length_percentDecode_le

theorem decoded_eq_of_length (same : (decoded text).length = (Utf8.encode text).length) :
    decoded text = Utf8.encode text :=
  percentDecode_eq_of_length same

theorem decoded_eq_nil_iff : decoded text = [] ↔ text = [] := by
  rw [decoded, percentDecode_eq_nil_iff]
  cases text with
  | nil => simp [Utf8.encode]
  | cons char text => simp [Utf8.encode, String.utf8EncodeChar_ne_nil]

/-- A text is left as it is exactly where there is no escape in it. -/
theorem decoded_eq_iff : decoded text = Utf8.encode text ↔ Unescaped text := by
  constructor
  · intro same high low highDigit lowDigit isInfix
    obtain ⟨front, behind, rfl⟩ := isInfix
    obtain ⟨byte, escape⟩ := escapeAt_of_digits highDigit lowDigit
    have percent : isHexDigit '%' = false := by decide
    have shorter : (decoded ('%' :: high :: low :: behind)).length <
        (Utf8.encode ('%' :: high :: low :: behind)).length := by
      rw [decoded, utf8_of_ascii (by decide), utf8_of_ascii (isHexDigit_ascii highDigit),
        utf8_of_ascii (isHexDigit_ascii lowDigit)]
      change (percentDecode (0x25 :: _)).length < _
      rw [← utf8_of_ascii (isHexDigit_ascii lowDigit), ← utf8_of_ascii (isHexDigit_ascii highDigit),
        percentDecode_escape (escape behind)]
      have shorter := @length_percentDecode_le (Utf8.encode behind)
      rw [utf8_of_ascii (isHexDigit_ascii highDigit), utf8_of_ascii (isHexDigit_ascii lowDigit)]
      simp only [List.length_cons]
      omega
    have whole : front ++ ['%', high, low] ++ behind = front ++ '%' :: high :: low :: behind := by
      simp
    have frontLength := @length_decoded_le front
    rw [whole, decoded_append percent, Utf8.encode_append] at same
    have sameLength := congrArg List.length same
    rw [List.length_append, List.length_append] at sameLength
    omega
  · intro unescaped
    have spares : SparesEscapes fun _ => false := ⟨rfl, fun _ _ => rfl⟩
    induction text with
    | nil => rfl
    | cons char text inductionHypothesis =>
        have onText := inductionHypothesis fun high low highDigit lowDigit isInfix =>
          unescaped high low highDigit lowDigit (isInfix.trans (List.suffix_cons char text).isInfix)
        by_cases isPercent : char = '%'
        · rw [isPercent, decoded, utf8_of_ascii (by decide)]
          change percentDecode (0x25 :: _) = 0x25 :: _
          rcases escapeAt_cases spares text with
            ⟨high, low, behind, rfl, highDigit, lowDigit⟩ | ⟨noEscape, -⟩
          · rw [isPercent] at unescaped
            exact absurd (List.prefix_append ['%', high, low] behind).isInfix
              (unescaped high low highDigit lowDigit)
          · rw [percentDecode_of_no_escape noEscape]
            exact congrArg (0x25 :: ·) onText
        · rw [decoded_cons_of_ne isPercent, onText]
          rfl

end Texts

section Paths

variable {segments : List (List Char)} {walk : Walk} {text whole : List Char} {segment : List Char}

theorem isAlphanum_of_isHexDigit {char : Char} (isDigit : isHexDigit char = true) :
    char.isAlphanum = true := by
  simp only [isHexDigit, Bool.or_eq_true, Bool.and_eq_true, decide_eq_true_eq, Char.le_def,
    UInt32.le_iff_toNat_le] at isDigit
  have code : char.toNat = char.val.toNat := rfl
  rw [Text.isAlphanum_iff, Text.isUpper_iff, Text.isLower_iff, code]
  rcases isDigit with (isDecimal | isLower) | isUpper
  · exact .inr (.inr isDecimal)
  · exact .inr (.inl ⟨isLower.1, isLower.2.trans (by decide)⟩)
  · exact .inl ⟨isUpper.1, isUpper.2.trans (by decide)⟩

theorem spares_inPathSet : SparesEscapes inPathSet := by
  refine ⟨by decide, fun char isDigit => ?_⟩
  apply not_inPathSet_of_alphanum
  exact isAlphanum_of_isHexDigit isDigit

theorem decoded_slash (text : List Char) : decoded ('/' :: text) = 0x2F :: decoded text :=
  decoded_cons_of_ne (by decide)

/-- The number of bytes that segments stand for, each with the slash in front of it. -/
def weight : List (List Char) → Nat
  | [] => 0
  | segment :: rest => (decoded segment).length + 1 + weight rest

theorem weight_append {others : List (List Char)} :
    weight (segments ++ others) = weight segments + weight others := by
  induction segments with
  | nil => simp [weight]
  | cons segment rest inductionHypothesis =>
      simp [weight, inductionHypothesis, Nat.add_assoc]

theorem weight_singleton : weight [segment] = (decoded segment).length + 1 := by
  simp [weight]

theorem decoded_append_writeSegments :
    decoded (text ++ writeSegments segments) = decoded text ++ decoded (writeSegments segments) := by
  cases segments with
  | nil => simp [writeSegments, decoded, Utf8.encode, percentDecode]
  | cons segment segments =>
      rw [writeSegments_cons]
      exact decoded_append (by decide)

theorem length_decoded_writeSegments :
    (decoded (writeSegments segments)).length = weight segments := by
  induction segments with
  | nil => rfl
  | cons segment segments inductionHypothesis =>
      rw [writeSegments_cons, decoded_slash, decoded_append_writeSegments, List.length_cons,
        List.length_append, inductionHypothesis, ← List.singleton_append, weight_append,
        weight_singleton]
      omega

theorem weight_dropLast_le : weight segments.dropLast ≤ weight segments := by
  cases segments using List.reverseRecOn with
  | nil => exact Nat.le_refl _
  | append_singleton front last =>
      rw [List.dropLast_concat, weight_append]
      exact Nat.le_add_right _ _

theorem weight_parent_le : weight walk.parent.down ≤ weight walk.down := by
  unfold Walk.parent
  split
  · exact Nat.zero_le _
  · exact weight_dropLast_le

theorem weight_child : weight (walk.child segment).down = weight walk.down + weight [segment] :=
  weight_append

theorem weight_dots (areDots : isDots segment = true) : weight [[]] < weight [segment] := by
  have nonempty : decoded segment ≠ [] := by
    rw [Ne, decoded_eq_nil_iff]
    rintro rfl
    revert areDots
    decide
  have positive := List.length_pos_iff.mpr nonempty
  have empty : weight [[]] = 1 := rfl
  rw [empty, weight_singleton]
  omega

/-- What a walk leads down to says no more than its segments, and less if there are dots. -/
theorem weight_along : weight (walk.along segments).down ≤ weight walk.down + weight segments ∧
    ((∃ segment ∈ segments, isDots segment = true) →
      weight (walk.along segments).down < weight walk.down + weight segments) := by
  induction segments generalizing walk with
  | nil => simp [Walk.along, weight]
  | cons segment rest inductionHypothesis =>
      have isParent := @weight_parent_le walk
      rw [← List.singleton_append, weight_append]
      cases rest with
      | nil =>
          have none : weight [] = 0 := rfl
          rw [List.append_nil, Walk.along, none]
          split
          · rename_i isDouble
            have lighter := weight_dots (by simp [isDots, isDouble] : isDots segment = true)
            rw [weight_child]
            exact ⟨by omega, fun _ => by omega⟩
          · split
            · rename_i isSingle
              have lighter := weight_dots (by simp [isDots, isSingle] : isDots segment = true)
              rw [weight_child]
              exact ⟨by omega, fun _ => by omega⟩
            · rename_i noDouble noSingle
              rw [weight_child]
              refine ⟨Nat.le_refl _, ?_⟩
              rintro ⟨other, isMember, areDots⟩
              rw [List.mem_singleton.mp isMember] at areDots
              simp [isDots, noDouble, noSingle] at areDots
      | cons next rest =>
          have positive : 0 < weight [segment] := by
            rw [weight_singleton]
            omega
          rw [List.singleton_append, Walk.along]
          · split
            · have behind := (@inductionHypothesis walk.parent).1
              exact ⟨by omega, fun _ => by omega⟩
            · split
              · have behind := (@inductionHypothesis walk).1
                exact ⟨by omega, fun _ => by omega⟩
              · rename_i noDouble noSingle
                obtain ⟨behind, lighter⟩ := @inductionHypothesis (walk.child segment)
                rw [weight_child] at behind lighter
                refine ⟨by omega, ?_⟩
                rintro ⟨other, isMember, areDots⟩
                rcases List.mem_cons.mp isMember with rfl | inRest
                · simp [isDots, noDouble, noSingle] at areDots
                · have less := lighter ⟨other, inRest, areDots⟩
                  omega
          · simp

theorem along_of_noDots (noDots : ∀ segment ∈ segments, isDots segment = false) :
    walk.along segments = ⟨walk.up, walk.down ++ segments⟩ := by
  induction segments generalizing walk with
  | nil => simp [Walk.along]
  | cons segment rest inductionHypothesis =>
      obtain ⟨first, restNoDots⟩ := List.forall_mem_cons.mp noDots
      obtain ⟨noSingle, noDouble⟩ := Bool.or_eq_false_iff.mp first
      cases rest with
      | nil => rw [Walk.along, if_neg (by simp [noDouble]), if_neg (by simp [noSingle]), Walk.child]
      | cons next rest =>
          rw [Walk.along, if_neg (by simp [noDouble]), if_neg (by simp [noSingle]),
            inductionHypothesis restNoDots, Walk.child, List.append_assoc, List.singleton_append]
          simp

/-- A text with slashes for its backslashes. -/
def withSlashes (text : List Char) : List Char :=
  text.map fun char => if char = '\\' then '/' else char

theorem withSlashes_cons {char : Char} : withSlashes (char :: text) =
    (if char = '\\' then '/' else char) :: withSlashes text := rfl

theorem encode_slash (text : List Char) :
    encode inPathSet ('/' :: text) = '/' :: encode inPathSet text := rfl

/-- What segments are written to, of a text that was split into them. -/
theorem writeSegments_splitSegments (text : List Char) :
    writeSegments (splitSegments true text) = encode inPathSet ('/' :: withSlashes text) := by
  rw [encode_slash]
  unfold splitSegments
  induction text with
  | nil => rfl
  | cons char text inductionHypothesis =>
      rw [List.splitOnP_cons_eq_if_modifyHead]
      by_cases separates : isSeparator true char = true
      · have isSlash : (if char = '\\' then '/' else char) = '/' := by
          unfold isSeparator at separates
          simp only [Bool.true_and, Bool.or_eq_true, decide_eq_true_eq] at separates
          rcases separates with rfl | rfl <;> rfl
        rw [if_pos separates, List.map_cons, writeSegments_cons, inductionHypothesis,
          withSlashes_cons, isSlash, encode_slash]
        rfl
      · have isOther : (if char = '\\' then '/' else char) = char := by
          rw [if_neg]
          rintro rfl
          exact separates (by decide)
        obtain ⟨head, others, isText⟩ := List.exists_cons_of_ne_nil
          (List.splitOnP_ne_nil (isSeparator true) text)
        rw [isText, List.map_cons, writeSegments_cons, List.cons.injEq] at inductionHypothesis
        rw [if_neg separates, isText, List.modifyHead_cons, List.map_cons, writeSegments_cons,
          encode_cons, List.append_assoc, inductionHypothesis.2, withSlashes_cons, isOther,
          encode_cons]

theorem length_utf8_cons {char : Char} : (Utf8.encode (char :: text)).length =
    (String.utf8EncodeChar char).length + (Utf8.encode text).length := by
  rw [Utf8.encode, List.flatMap_cons, List.length_append]
  rfl

theorem length_utf8_withSlashes (text : List Char) :
    (Utf8.encode (withSlashes text)).length = (Utf8.encode text).length := by
  induction text with
  | nil => rfl
  | cons char text inductionHypothesis =>
      have sameLength : (String.utf8EncodeChar (if char = '\\' then '/' else char)).length =
          (String.utf8EncodeChar char).length := by
        split
        · rename_i isBackslash
          rw [isBackslash]
          rfl
        · rfl
      rw [withSlashes_cons, length_utf8_cons, length_utf8_cons, inductionHypothesis, sameLength]

theorem withSlashes_eq_self_iff : withSlashes text = text ↔ '\\' ∉ text := by
  unfold withSlashes
  induction text with
  | nil => simp
  | cons char text inductionHypothesis =>
      by_cases isBackslash : char = '\\'
      · rw [isBackslash]
        simp
      · simp [isBackslash, inductionHypothesis, Ne.symm isBackslash]

theorem length_utf8_le_of_sublist (isSublist : text.Sublist whole) :
    (Utf8.encode text).length ≤ (Utf8.encode whole).length :=
  (isSublist.flatMap _).length_le

/-- A part of a text that takes as many bytes is the text. -/
theorem eq_of_sublist_of_length (isSublist : text.Sublist whole)
    (same : (Utf8.encode whole).length ≤ (Utf8.encode text).length) : text = whole := by
  induction isSublist with
  | slnil => rfl
  | @cons text whole char isSublist _ =>
      have atMost := length_utf8_le_of_sublist isSublist
      have nonempty : String.utf8EncodeChar char ≠ [] := String.utf8EncodeChar_ne_nil
      have positive := List.length_pos_iff.mpr nonempty
      rw [length_utf8_cons] at same
      omega
  | cons_cons char _ inductionHypothesis =>
      rw [length_utf8_cons, length_utf8_cons] at same
      rw [inductionHypothesis (by omega)]

end Paths

section Forms

variable {byte : UInt8} {char : Char} {rest : List UInt8} {text name value : List Char}

def isFormPlain (byte : UInt8) : Bool :=
  byte < 0x80 && ((Char.ofNat byte.toNat).isAlphanum ||
    "*-._".toList.contains (Char.ofNat byte.toNat))

def formEncodeByte (byte : UInt8) : List Char :=
  if isFormPlain byte then [Char.ofNat byte.toNat]
  else if byte = 0x20 then ['+']
  else Text.percentEncodeByte byte

/-- A text as a name or a value in a form. -/
def formEncode (text : List Char) : List Char := (Utf8.encode text).flatMap formEncodeByte

def spaceOfPlus (byte : UInt8) : UInt8 := if byte = 0x2B then 0x20 else byte

def formDecode (text : List Char) : List UInt8 :=
  percentDecode ((Utf8.encode text).map spaceOfPlus)

/-- The pairs of names and values of a query. -/
def formPairs (query : List Char) : List (List UInt8 × List UInt8) :=
  ((query.splitOn '&').filter (· ≠ [])).map fun pair =>
    match Text.splitOnce ['='] pair with
    | some (name, value) => (formDecode name, formDecode value)
    | none => (formDecode pair, [])

/-- The value of the first pair of a name. -/
def formArgument (name query : List Char) : Option (List UInt8) :=
  ((formPairs query).find? fun pair => pair.1 = Utf8.encode name).map Prod.snd

def appendPair (query : Option (List Char)) (name value : List Char) : List Char :=
  (query.map (· ++ ['&'])).getD [] ++ formEncode name ++ '=' :: formEncode value

theorem spaceOfPlus_digit : ∀ digit < 16,
    spaceOfPlus (UInt8.ofNat (Text.hexDigit digit).toNat) =
      UInt8.ofNat (Text.hexDigit digit).toNat := by decide

theorem ofNat_plain (plain : isFormPlain byte = true) :
    (Char.ofNat byte.toNat).toNat < 0x80 ∧ UInt8.ofNat (Char.ofNat byte.toNat).toNat = byte ∧
      byte ≠ 0x25 ∧ byte ≠ 0x2B := by
  unfold isFormPlain at plain
  rw [Bool.and_eq_true, decide_eq_true_eq] at plain
  have small : byte.toNat < 0x80 := UInt8.lt_iff_toNat_lt.mp plain.1
  have isValid : byte.toNat.isValidChar := .inl (by omega)
  have sameCode : (Char.ofNat byte.toNat).toNat = byte.toNat := by
    rw [Char.ofNat, dif_pos isValid]
    rfl
  refine ⟨by rw [sameCode]; exact small, by rw [sameCode, UInt8.ofNat_toNat], ?_, ?_⟩
  · rintro rfl
    revert plain
    decide
  · rintro rfl
    revert plain
    decide

theorem formDecode_byte (byte : UInt8) (rest : List UInt8) :
    percentDecode ((Utf8.encode (formEncodeByte byte)).map spaceOfPlus ++ rest) =
      byte :: percentDecode rest := by
  unfold formEncodeByte
  by_cases plain : isFormPlain byte = true
  · obtain ⟨ascii, sameByte, noPercent, noPlus⟩ := ofNat_plain plain
    have isByte : spaceOfPlus byte = byte := if_neg noPlus
    rw [if_pos plain, utf8_of_ascii ascii, sameByte, List.map_cons, isByte]
    exact percentDecode_cons_of_ne noPercent
  · rw [if_neg plain]
    by_cases isSpace : byte = 0x20
    · rw [if_pos isSpace, isSpace]
      exact percentDecode_cons_of_ne (by decide)
    · have small := byte.toNat_lt
      rw [if_neg isSpace, utf8_percentEncodeByte, List.map_cons, List.map_cons, List.map_cons,
        spaceOfPlus_digit _ (by omega), spaceOfPlus_digit _ (by omega)]
      exact percentDecode_escape (escapeAt_digits byte rest)

/-- What was encoded for a form is read back. -/
theorem formDecode_formEncode (text : List Char) :
    formDecode (formEncode text) = Utf8.encode text := by
  unfold formDecode formEncode
  induction Utf8.encode text with
  | nil => rfl
  | cons byte bytes inductionHypothesis =>
      rw [List.flatMap_cons, Utf8.encode_append, List.map_append, formDecode_byte,
        inductionHypothesis]

theorem notMem_formEncode {mark : Char} (isMark : mark = '&' ∨ mark = '=') :
    mark ∉ formEncode text := by
  intro isMember
  obtain ⟨byte, -, isWritten⟩ := List.mem_flatMap.mp isMember
  unfold formEncodeByte at isWritten
  split at isWritten
  · rename_i plain
    obtain ⟨-, sameByte, -⟩ := ofNat_plain plain
    have isByte : UInt8.ofNat mark.toNat = byte := by
      rw [List.mem_singleton.mp isWritten, sameByte]
    rw [← isByte] at plain
    rcases isMark with rfl | rfl <;>
    · revert plain
      decide
  · split at isWritten
    · rw [List.mem_singleton.mp isWritten] at isMark
      revert isMark
      decide
    · have plain := @isPathChar_percentEncodeByte false mark byte isWritten
      have digits : mark = '%' ∨ mark ∈ "0123456789ABCDEF".toList := by
        simp only [Text.percentEncodeByte, List.mem_cons, List.not_mem_nil, or_false] at isWritten
        rcases isWritten with rfl | rfl | rfl
        · exact .inl rfl
        · exact .inr (Text.hexDigit_mem _)
        · exact .inr (Text.hexDigit_mem _)
      rcases isMark with rfl | rfl <;>
      · revert digits
        decide

theorem formArgument_appendPair (name value : List Char) :
    formArgument name (appendPair none name value) = some (Utf8.encode value) := by
  have isQuery : appendPair none name value = formEncode name ++ '=' :: formEncode value := rfl
  have noAnd : '&' ∉ formEncode name ++ '=' :: formEncode value := by
    rw [List.mem_append, List.mem_cons, not_or, not_or]
    exact ⟨notMem_formEncode (.inl rfl), by decide, notMem_formEncode (.inl rfl)⟩
  have isSplit : Text.splitOnce ['='] (formEncode name ++ '=' :: formEncode value) =
      some (formEncode name, formEncode value) :=
    Text.splitOnce_char_eq_some_iff.mpr ⟨rfl, notMem_formEncode (.inr rfl)⟩
  unfold formArgument formPairs
  rw [isQuery, List.splitOn_eq_singleton noAnd, List.filter_cons_of_pos (by simp), List.filter_nil,
    List.map_singleton, isSplit]
  simp [formDecode_formEncode]

end Forms

end Slate.Foundation.UrlStandard
