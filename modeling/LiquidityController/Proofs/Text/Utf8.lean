import Mathlib.Data.List.DropRight
import Mathlib.Tactic.Common

/-!
# The bytes of a text

A text is stored as its UTF-8 bytes. Texts are told apart by their bytes, and a zero byte stands
for the character NUL and for nothing else, so zeros at the end of the bytes are NULs at the end of
the text.
-/

namespace LiquidityController.Text

theorem toList_loop_eq (bytes : ByteArray) (index : Nat) (read : List UInt8) :
    ByteArray.toList.loop bytes index read = read.reverse ++ bytes.data.toList.drop index := by
  fun_induction ByteArray.toList.loop bytes index read with
  | case1 index read inside ih =>
    have inside' : index < bytes.data.toList.length := by simpa using inside
    rw [ih, List.drop_eq_getElem_cons inside']
    simp [ByteArray.get!, inside]
  | case2 index read outside =>
    rw [List.drop_eq_nil_of_le (by simpa using Nat.le_of_not_lt outside), List.append_nil]

theorem toList_eq_data (bytes : ByteArray) : bytes.toList = bytes.data.toList := by
  rw [ByteArray.toList, toList_loop_eq]
  rfl

/-- The bytes of a text are those of its characters, one after the other. -/
theorem toUTF8_toList (text : String) :
    text.toUTF8.toList = text.toList.flatMap String.utf8EncodeChar := by
  have characters : text.toUTF8 = text.toList.utf8Encode := by
    rw [← String.toByteArray_ofList, String.ofList_toList, String.toUTF8_eq_toByteArray]
  rw [toList_eq_data, characters, List.utf8Encode, List.toList_data_toByteArray]

theorem toUTF8_toList_injective {left right : String}
    (same : left.toUTF8.toList = right.toUTF8.toList) : left = right := by
  rw [toList_eq_data, toList_eq_data, Array.toList_inj] at same
  exact String.toByteArray_inj.mp (ByteArray.ext same)

theorem length_toUTF8 (text : String) : text.toUTF8.toList.length = text.utf8ByteSize := by
  rw [toList_eq_data, String.toUTF8_eq_toByteArray, Array.length_toList]
  rfl

/-- Bytes are read as the text that is written so, if there is one. -/
theorem fromUTF8?_eq_some_iff {bytes : List UInt8} {text : String} :
    String.fromUTF8? ⟨bytes.toArray⟩ = some text ↔ text.toUTF8.toList = bytes := by
  rw [toList_eq_data, String.toUTF8_eq_toByteArray]
  constructor
  · intro read
    rw [String.fromUTF8?] at read
    split at read
    next valid =>
      cases read
      rfl
    next => cases read
  · rintro rfl
    rw [String.fromUTF8?, dif_pos text.isValidUTF8]
    rfl

theorem exists_fromUTF8?_iff {bytes : ByteArray} :
    (∃ text, String.fromUTF8? bytes = some text) ↔ bytes.IsValidUTF8 := by
  rw [String.fromUTF8?]
  split
  next valid => simp [valid]
  next invalid => simp [invalid]

theorem zero_ne_ofNat {value : Nat} (positive : 0 < value) (fits : value < 256) :
    0 ≠ UInt8.ofNat value := by
  rw [ne_eq, ← UInt8.toNat_inj, UInt8.toNat_ofNat', Nat.mod_eq_of_lt fits, UInt8.toNat_zero]
  omega

/-- A character that takes several bytes sets the highest bit of each, so that only NUL has a zero
byte. -/
theorem zero_not_mem_utf8EncodeChar {c : Char} (visible : c ≠ '\x00') :
    0 ∉ String.utf8EncodeChar c := by
  have positive : 0 < c.val.toNat := by
    rw [Nat.pos_iff_ne_zero]
    intro zero
    exact visible (Char.ext (UInt32.toNat_inj.mp zero))
  simp only [String.utf8EncodeChar]
  split
  next short =>
    rw [List.mem_singleton]
    exact zero_ne_ofNat positive (by omega)
  next long =>
    split_ifs <;> simp only [List.mem_cons, List.not_mem_nil, or_false, not_or] <;>
      and_intros <;> exact zero_ne_ofNat (by omega) (by omega)

/-- A text without the NULs at its end. -/
def dropNuls (text : String) : String :=
  .ofList (text.toList.rdropWhile (· == '\x00'))

theorem dropNuls_eq_self_iff {text : String} :
    dropNuls text = text ↔ text.toList.getLast? ≠ some '\x00' := by
  rw [dropNuls, ← String.toList_inj, String.toList_ofList, List.rdropWhile_eq_self_iff]
  constructor
  · intro visible nul
    have nonempty : text.toList ≠ [] := by
      intro empty
      rw [empty] at nul
      cases nul
    rw [List.getLast?_eq_some_getLast nonempty, Option.some.injEq] at nul
    exact visible nonempty (by simp [nul])
  · intro visible nonempty nul
    exact visible (by simpa [List.getLast?_eq_some_getLast nonempty] using nul)

/-- Zeros at the end of the bytes of a text are NULs at its end. -/
theorem rdropWhile_flatMap_utf8EncodeChar (text : List Char) :
    (text.flatMap String.utf8EncodeChar).rdropWhile (· == 0) =
      (text.rdropWhile (· == '\x00')).flatMap String.utf8EncodeChar := by
  induction text using List.reverseRecOn with
  | nil => rfl
  | append_singleton text c ih =>
    rw [List.flatMap_append, List.flatMap_singleton, List.rdropWhile_concat]
    by_cases nul : c = '\x00'
    · subst nul
      have bytes : String.utf8EncodeChar '\x00' = [0] := by decide
      rw [bytes, List.rdropWhile_concat]
      exact ih
    · have nonzero := zero_not_mem_utf8EncodeChar nul
      obtain ⟨front, last, bytes⟩ :=
        (List.eq_nil_or_concat' _).resolve_left (String.utf8EncodeChar_ne_nil (c := c))
      rw [bytes] at nonzero
      have last_ne : last ≠ 0 := by
        rintro rfl
        exact nonzero (by simp)
      rw [if_neg (by simpa using nul), List.flatMap_append, List.flatMap_singleton, bytes,
        ← List.append_assoc, List.rdropWhile_concat, if_neg (by simpa using last_ne)]

theorem toUTF8_dropNuls (text : String) :
    (dropNuls text).toUTF8.toList = text.toUTF8.toList.rdropWhile (· == 0) := by
  rw [toUTF8_toList, toUTF8_toList, rdropWhile_flatMap_utf8EncodeChar, dropNuls,
    String.toList_ofList]

end LiquidityController.Text
