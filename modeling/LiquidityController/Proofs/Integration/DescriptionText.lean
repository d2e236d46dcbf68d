import LiquidityController.Integration.Description
import LiquidityController.Proofs.Text.Utf8

/-!
# Texts in descriptions

A text is put into the buffer of a description as its bytes, with zeros after them. So two texts
lie in the same buffer exactly if they are equal up to NULs at their ends.
-/

namespace LiquidityController.Description

variable {left right description : Description} {text text' : String}

/-- The buffer consists of the bytes of the text and of zeros. -/
def Holds (description : Description) (text : String) : Prop :=
  ∃ zeros, description.bytes = text.toUTF8.toList ++ List.replicate zeros 0

theorem ofText_eq_ok_iff : ofText text = .ok description ↔ description.Holds text := by
  constructor
  · intro held
    rw [ofText] at held
    split at held
    next fits =>
      cases held
      exact ⟨_, rfl⟩
    next => cases held
  · rintro ⟨zeros, bytes⟩
    have length := congrArg List.length bytes
    rw [description.length, List.length_append, List.length_replicate] at length
    have fits : text.toUTF8.toList.length ≤ descriptionLength := by omega
    have rest : zeros = descriptionLength - text.toUTF8.toList.length := by omega
    rw [ofText, dif_pos fits]
    obtain ⟨block⟩ := description
    exact congrArg (Except.ok ∘ mk) (Block.ext (by rw [bytes, rest]; rfl))

theorem exists_ofText_iff :
    (∃ description, ofText text = .ok description) ↔ text.utf8ByteSize ≤ descriptionLength := by
  rw [← Text.length_toUTF8, ofText]
  split
  next fits => exact iff_of_true ⟨_, rfl⟩ fits
  next long =>
    refine iff_of_false ?_ long
    rintro ⟨_, held⟩
    cases held

theorem ofText_of_long (long : descriptionLength < text.utf8ByteSize) :
    ofText text = .error (.descriptionTooLong text.utf8ByteSize) := by
  have large : ¬text.toUTF8.toList.length ≤ descriptionLength := by
    rw [Text.length_toUTF8]
    omega
  rw [ofText, dif_neg large, Text.length_toUTF8]

/-- The zeros fill the buffer up. -/
theorem Holds.bytes_eq (holds : description.Holds text) :
    description.bytes = text.toUTF8.toList ++
      List.replicate (descriptionLength - text.utf8ByteSize) 0 := by
  obtain ⟨zeros, bytes⟩ := holds
  have length := congrArg List.length bytes
  rw [description.length, List.length_append, List.length_replicate, Text.length_toUTF8] at length
  have rest : zeros = descriptionLength - text.utf8ByteSize := by omega
  rw [bytes, rest]

/-- Only zeros follow the content. -/
theorem bytes_eq_content_append (description : Description) :
    ∃ zeros, description.bytes = description.content ++ List.replicate zeros 0 := by
  have zeros : description.bytes.rtakeWhile (· == 0) =
      List.replicate (description.bytes.rtakeWhile (· == 0)).length 0 :=
    List.eq_replicate_of_mem fun byte member => by simpa using List.mem_rtakeWhile_imp member
  have parts := List.rdropWhile_append_rtakeWhile (p := (· == 0)) (l := description.bytes)
  rw [zeros] at parts
  exact ⟨_, parts.symm⟩

theorem content_injective (same : left.content = right.content) : left = right := by
  obtain ⟨zeros, bytes⟩ := left.bytes_eq_content_append
  obtain ⟨zeros', bytes'⟩ := right.bytes_eq_content_append
  have length := congrArg List.length bytes
  have length' := congrArg List.length bytes'
  rw [left.length, List.length_append, List.length_replicate, same] at length
  rw [right.length, List.length_append, List.length_replicate] at length'
  have sameZeros : zeros = zeros' := by omega
  obtain ⟨block⟩ := left
  obtain ⟨block'⟩ := right
  exact congrArg mk (Block.ext (by rw [bytes, bytes', same, sameZeros]))

theorem rdropWhile_append_zeros (bytes : List UInt8) (zeros : Nat) :
    (bytes ++ List.replicate zeros 0).rdropWhile (· == 0) = bytes.rdropWhile (· == 0) := by
  induction zeros with
  | zero => rw [List.replicate_zero, List.append_nil]
  | succ zeros ih =>
    rw [List.replicate_succ', ← List.append_assoc, List.rdropWhile_concat_pos _ _ _ rfl, ih]

theorem Holds.content_eq (holds : description.Holds text) :
    description.content = (Text.dropNuls text).toUTF8.toList := by
  obtain ⟨zeros, bytes⟩ := holds
  rw [Text.toUTF8_dropNuls, ← rdropWhile_append_zeros _ zeros, ← bytes]
  rfl

theorem text?_eq_some_iff :
    description.text? = some text ↔ text.toUTF8.toList = description.content :=
  Text.fromUTF8?_eq_some_iff

/-- What is read back is the text without the NULs, which cannot be told from the zeros. -/
theorem Holds.text?_eq (holds : description.Holds text) :
    description.text? = some (Text.dropNuls text) :=
  text?_eq_some_iff.mpr holds.content_eq.symm

theorem holds_of_text? (read : description.text? = some text) : description.Holds text := by
  obtain ⟨zeros, bytes⟩ := description.bytes_eq_content_append
  rw [← text?_eq_some_iff.mp read] at bytes
  exact ⟨zeros, bytes⟩

/-- Two texts lie in the same buffer exactly if they differ in NULs at their ends only. -/
theorem eq_iff_of_holds (holds : left.Holds text) (holds' : right.Holds text') :
    left = right ↔ Text.dropNuls text = Text.dropNuls text' := by
  constructor
  · rintro rfl
    apply Text.toUTF8_toList_injective
    rw [← holds.content_eq, holds'.content_eq]
  · intro same
    apply content_injective
    rw [holds.content_eq, holds'.content_eq, same]

end LiquidityController.Description
