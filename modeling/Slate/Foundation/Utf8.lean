import Slate.Foundation.Text

/-!
# UTF-8

Bytes are read as text where they are the encoding of one. An encoding goes on with the
encoding of what the text goes on with.
-/

namespace Slate.Foundation.Utf8

def encode (text : List Char) : List UInt8 := text.flatMap String.utf8EncodeChar

/-- `str::from_utf8`. -/
def decode (bytes : List UInt8) : Option (List Char) :=
  (String.fromUTF8? bytes.toByteArray).map String.toList

variable {text start : List Char} {bytes rest : List UInt8}

theorem encode_append (text start : List Char) :
    encode (text ++ start) = encode text ++ encode start :=
  List.flatMap_append

theorem toByteArray_encode (text : List Char) : (encode text).toByteArray = text.utf8Encode := rfl

theorem toByteArray_injective {bytes others : List UInt8}
    (same : bytes.toByteArray = others.toByteArray) : bytes = others := by
  have sameData := congrArg (fun array => array.data.toList) same
  simpa only [List.toList_data_toByteArray] using sameData

theorem decode_eq_some_iff : decode bytes = some text ↔ bytes = encode text := by
  unfold decode
  rw [Option.map_eq_some_iff]
  constructor
  · rintro ⟨decoded, isDecoded, rfl⟩
    rw [String.fromUTF8?] at isDecoded
    split at isDecoded
    · obtain rfl := Option.some.inj isDecoded
      apply toByteArray_injective
      rw [toByteArray_encode, ← String.toByteArray_ofList, String.ofList_toList]
      rfl
    · cases isDecoded
  · rintro rfl
    refine ⟨String.ofList text, ?_, String.toList_ofList⟩
    have valid : (encode text).toByteArray.IsValidUTF8 := ByteArray.isValidUTF8_utf8Encode
    rw [String.fromUTF8?, dif_pos valid]
    rfl

theorem isPrefix_of_encode (same : encode start ++ rest = encode text) :
    ∃ behind, text = start ++ behind ∧ rest = encode behind := by
  have bytes := congrArg List.toByteArray same
  rw [List.toByteArray_append, toByteArray_encode, toByteArray_encode] at bytes
  obtain ⟨behind, rfl⟩ := List.isPrefix_of_utf8Encode_append_eq_utf8Encode _ bytes
  rw [encode_append] at same
  exact ⟨behind, rfl, List.append_cancel_left same⟩

section Ascii

variable {char : Char} {byte : UInt8}

theorem utf8EncodeChar_ascii (ascii : char.toNat < 0x80) :
    String.utf8EncodeChar char = [UInt8.ofNat char.toNat] := by
  have small : char.val.toNat ≤ 0x7F := Nat.le_of_lt_succ ascii
  unfold String.utf8EncodeChar
  rw [if_pos small]
  rfl

theorem utf8EncodeChar_nonascii (other : 0x80 ≤ char.toNat)
    (isByte : byte ∈ String.utf8EncodeChar char) : 0x80 ≤ byte.toNat := by
  have large : ¬char.val.toNat ≤ 0x7F := by
    have code : char.toNat = char.val.toNat := rfl
    omega
  unfold String.utf8EncodeChar at isByte
  simp only [if_neg large] at isByte
  split at isByte
  · simp only [List.mem_cons, List.not_mem_nil, or_false] at isByte
    rcases isByte with rfl | rfl <;> simp only [UInt8.toNat_ofNat'] <;> omega
  split at isByte
  · simp only [List.mem_cons, List.not_mem_nil, or_false] at isByte
    rcases isByte with rfl | rfl | rfl <;> simp only [UInt8.toNat_ofNat'] <;> omega
  · simp only [List.mem_cons, List.not_mem_nil, or_false] at isByte
    rcases isByte with rfl | rfl | rfl | rfl <;> simp only [UInt8.toNat_ofNat'] <;> omega

theorem flatMap_utf8EncodeChar (ascii : ∀ char ∈ text, char.toNat < 0x80) :
    text.flatMap String.utf8EncodeChar = text.map fun char => UInt8.ofNat char.toNat := by
  rw [List.map_eq_flatMap]
  apply List.flatMap_congr
  exact fun char isMember => utf8EncodeChar_ascii (ascii char isMember)

/-- A byte of ASCII stands for its character. -/
theorem not_mem_encode (ascii : byte.toNat < 0x80) (absent : Char.ofNat byte.toNat ∉ text) :
    byte ∉ encode text := by
  intro isMember
  obtain ⟨char, isChar, isByte⟩ := List.mem_flatMap.mp isMember
  by_cases isAscii : char.toNat < 0x80
  · rw [utf8EncodeChar_ascii isAscii, List.mem_singleton] at isByte
    apply absent
    have sameCode : byte.toNat = char.toNat := by
      rw [isByte, UInt8.toNat_ofNat']
      omega
    rwa [sameCode, Char.ofNat_toNat]
  · have large := utf8EncodeChar_nonascii (not_lt.mp isAscii) isByte
    omega

end Ascii

end Slate.Foundation.Utf8
