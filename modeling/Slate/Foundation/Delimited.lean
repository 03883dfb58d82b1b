import Slate.Foundation.Json

/-!
# Delimited text

Texts are joined with a delimiter between them. The pieces between the delimiters determine a
joined text; the texts it was joined from are determined only where they are free of the
delimiter.
-/

namespace Slate.Foundation.Text

def pieces (delimiter : Char) (text : String) : List (List Char) :=
  text.toList.splitOn delimiter

section Pieces

variable {delimiter : Char} {first second between text : String}

theorem pieces_injective (delimiter : Char) : Function.Injective (pieces delimiter) := by
  intro first second same
  have joined := congrArg [delimiter].intercalate same
  unfold pieces at joined
  rw [List.intercalate_splitOn, List.intercalate_splitOn] at joined
  exact String.toList_inj.mp joined

/-- Joining texts joins their pieces. -/
theorem pieces_append (isDelimiter : between.toList = [delimiter]) :
    pieces delimiter (first ++ between ++ second) =
      pieces delimiter first ++ pieces delimiter second := by
  unfold pieces
  rw [String.toList_append, String.toList_append, isDelimiter, List.append_assoc]
  exact List.splitOn_append_cons_self first.toList second.toList

theorem pieces_of_not_mem (free : delimiter ∉ text.toList) :
    pieces delimiter text = [text.toList] :=
  List.splitOn_eq_singleton free

end Pieces

section Integers

theorem toList_toString (value : Int) : (toString value).toList = Json.writeInteger value := by
  rw [Int.toString_eq_repr, Int.repr_eq_if, Json.writeInteger]
  by_cases negative : value < 0
  · rw [if_pos negative, if_neg (by omega), String.toList_append, Nat.toList_repr]
    have same : (-value).toNat = value.natAbs := by omega
    rw [same]
    rfl
  · rw [if_neg negative, if_pos (by omega), Nat.toList_repr]
    have same : value.toNat = value.natAbs := by omega
    rw [same]

theorem toString_injective : Function.Injective (toString : Int → String) := by
  intro first second same
  have written := congrArg String.toList same
  rw [toList_toString, toList_toString] at written
  have noDigit : Json.NoDigit [] := by simp [Json.NoDigit]
  have read := Json.readInteger_writeInteger first noDigit
  rw [written, Json.readInteger_writeInteger second noDigit] at read
  exact (congrArg Prod.fst (Option.some.inj read)).symm

theorem not_mem_toString {char : Char} (value : Int) (isSign : char ≠ '-')
    (noDigit : char.isDigit = false) : char ∉ (toString value).toList := by
  rw [toList_toString, Json.writeInteger]
  have digits : char ∉ Nat.toDigits 10 value.natAbs := by
    intro isMember
    have isDigit := Json.isDigit_of_mem_toDigits value.natAbs char isMember
    rw [noDigit] at isDigit
    cases isDigit
  split
  · exact List.not_mem_cons_of_ne_of_not_mem isSign digits
  · exact digits

end Integers

end Slate.Foundation.Text
