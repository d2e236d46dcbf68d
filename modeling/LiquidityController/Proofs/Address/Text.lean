import LiquidityController.Address.Basic
import LiquidityController.Proofs.Bytes.Base58
import LiquidityController.Proofs.Text.Utf8
import Mathlib.Data.Option.Basic

/-!
# Addresses by name

A text names an address if it is at most forty-four characters that stand for thirty-two bytes in
base 58. The reader counts bytes instead of characters, which comes to the same for digits. No
address has a longer text, and none has two.
-/

namespace LiquidityController

namespace Base58

theorem utf8Size_of_digit {c : Char} {value : Nat} (digit : digit? c = some value) :
    c.utf8Size = 1 := by
  have member : c ∈ alphabet := by
    rw [← List.isSome_idxOf?, ← digit?, digit]
    rfl
  have ascii : alphabet.all (·.utf8Size == 1) = true := by decide +kernel
  exact beq_iff_eq.mp (List.all_eq_true.mp ascii c member)

/-- The digits are ASCII, so the length of a text of digits is the number of its bytes. -/
theorem utf8ByteSize_of_decode {text : String} {bytes : List UInt8}
    (decoded : decode text.toList = some bytes) : text.utf8ByteSize = text.length := by
  obtain ⟨digits, read, -⟩ := Option.bind_eq_some_iff.mp decoded
  have sizes : text.toList.map Char.utf8Size = text.toList.map fun _ => 1 := by
    refine List.map_congr_left fun c member => ?_
    obtain ⟨value, digit⟩ := exists_mapM_eq_some_iff.mp ⟨digits, read⟩ c member
    exact utf8Size_of_digit digit
  have length : text.toUTF8.toList.length = text.length := by
    rw [Text.toUTF8_toList, List.length_flatMap]
    simp only [String.length_utf8EncodeChar, sizes, List.map_const', List.sum_replicate_nat,
      Nat.mul_one, String.length_toList]
  rw [← length, Text.toList_eq_data, Array.length_toList, ByteArray.size_data,
    String.toUTF8_eq_toByteArray, String.size_toByteArray]

end Base58

theorem Block.ofList?_eq_some_iff {n : Nat} {bytes : List UInt8} {block : Block n} :
    Block.ofList? bytes = some block ↔ bytes = block.bytes := by
  rw [Block.ofList?]
  split
  next fits =>
    rw [Option.some.injEq]
    exact ⟨congrArg Block.bytes, fun same => Block.ext same⟩
  next misfit =>
    constructor
    · intro filled
      cases filled
    · intro same
      exact absurd (same ▸ block.length) misfit

theorem Address.ofText?_eq_some_iff {text : String} {address : Address} :
    Address.ofText? text = some address ↔
      text.length ≤ 44 ∧ Base58.decode text.toList = some address.bytes := by
  constructor
  · intro found
    simp only [Address.ofText?, Option.bind_eq_bind, Option.bind_eq_some_iff,
      Option.guard_eq_some', Option.pure_def, Option.some.injEq] at found
    obtain ⟨_, fits, bytes, decoded, block, filled, rfl⟩ := found
    rw [Block.ofList?_eq_some_iff] at filled
    rw [← Base58.utf8ByteSize_of_decode decoded, decoded, filled]
    exact ⟨fits, rfl⟩
  · rintro ⟨fits, decoded⟩
    rw [← Base58.utf8ByteSize_of_decode decoded] at fits
    have filled : Block.ofList? address.bytes = some address.toBlock :=
      Block.ofList?_eq_some_iff.mpr rfl
    simp [Address.ofText?, guard, Address.maxTextLength, fits, decoded, filled]

namespace Address

theorem length_text_le (address : Address) : address.text.length ≤ 44 := by
  rw [text, String.length_ofList]
  exact Base58.length_encode_le address.length

/-- A text that names an address is the one under which the address is written. -/
theorem ofText?_eq_some_iff_text {text : String} {address : Address} :
    ofText? text = some address ↔ text = address.text := by
  rw [ofText?_eq_some_iff, Base58.decode_eq_some_iff]
  constructor
  · rintro ⟨-, written⟩
    rw [Address.text, written, String.ofList_toList]
  · rintro rfl
    exact ⟨address.length_text_le, by rw [Address.text, String.toList_ofList]⟩

end Address

end LiquidityController
