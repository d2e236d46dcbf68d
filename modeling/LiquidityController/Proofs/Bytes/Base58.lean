import LiquidityController.Bytes.Base58
import LiquidityController.Proofs.Bytes.Digits
import LiquidityController.Proofs.Lists

/-!
# Base 58 text

Writing bytes and reading them back undo each other, in both orders: every byte string has one
text, and a text that can be read is the one that is written for its bytes.
-/

namespace LiquidityController.Base58

/-! ### Digits -/

theorem digit?_eq_some_iff {c : Char} {value : Nat} :
    digit? c = some value ↔ value < 58 ∧ digit value = c := by
  constructor
  · intro read
    have member : c ∈ alphabet := by
      rw [← List.isSome_idxOf?, ← digit?, read]
      rfl
    -- one look at every character of the alphabet
    have checked : alphabet.all fun c => ∀ value ∈ digit? c, value < 58 ∧ digit value = c := by
      decide +kernel
    exact of_decide_eq_true (List.all_eq_true.mp checked c member) value read
  · rintro ⟨small, rfl⟩
    have checked : ∀ value < 58, digit? (digit value) = some value := by decide +kernel
    exact checked value small

theorem mapM_digit?_eq_some_iff {text : List Char} {digits : List Nat} :
    text.mapM digit? = some digits ↔
      (∀ value ∈ digits, value < 58) ∧ digits.map digit = text :=
  mapM_eq_some_iff_of_inverse fun _ _ => digit?_eq_some_iff

/-! ### Bytes -/

theorem toNat_lt_of_mem {bytes : List UInt8} {value : Nat}
    (member : value ∈ bytes.map UInt8.toNat) : value < 256 := by
  obtain ⟨byte, -, rfl⟩ := List.mem_map.mp member
  exact byte.toNat_lt

theorem map_ofNat_toNat (bytes : List UInt8) :
    (bytes.map UInt8.toNat).map UInt8.ofNat = bytes := by
  rw [List.map_map]
  exact List.map_id'' (fun byte => UInt8.ofNat_toNat) bytes

theorem map_toNat_ofNat {values : List Nat} (small : ∀ value ∈ values, value < 256) :
    (values.map UInt8.ofNat).map UInt8.toNat = values := by
  rw [List.map_map]
  calc values.map (UInt8.toNat ∘ UInt8.ofNat)
      = values.map id :=
        List.map_congr_left fun value member => UInt8.toNat_ofNat_of_lt (small value member)
    _ = values := List.map_id values

/-! ### Texts -/

theorem encode_eq (bytes : List UInt8) :
    encode bytes = (rebase 256 58 (bytes.map UInt8.toNat)).map digit := by
  have zeros : ((bytes.map UInt8.toNat).takeWhile (· == 0)).length =
      (bytes.takeWhile (· == 0)).length := by
    have zero : (fun value => value == 0) ∘ UInt8.toNat = fun byte => byte == 0 := by
      funext byte
      rw [Function.comp_apply, Bool.eq_iff_iff, beq_iff_eq, beq_iff_eq, ← UInt8.toNat_inj]
      rfl
    rw [List.takeWhile_map, List.length_map, zero]
  rw [encode, rebase, List.map_append, List.map_replicate, zeros]
  rfl

theorem decode_eq (text : List Char) :
    decode text = (text.mapM digit?).map fun digits =>
      (rebase 58 256 digits).map UInt8.ofNat := by
  rw [decode]
  cases text.mapM digit? with
  | none => rfl
  | some digits => simp [rebase]

/-- A text that can be read is the one that is written for its bytes. -/
theorem decode_eq_some_iff {text : List Char} {bytes : List UInt8} :
    decode text = some bytes ↔ encode bytes = text := by
  rw [decode_eq, encode_eq, Option.map_eq_some_iff]
  constructor
  · rintro ⟨digits, read, rfl⟩
    obtain ⟨small, written⟩ := mapM_digit?_eq_some_iff.mp read
    have bytes_lt : ∀ value ∈ rebase 58 256 digits, value < 256 := fun value =>
      lt_of_mem_rebase (by decide)
    rw [map_toNat_ofNat bytes_lt, rebase_rebase (by decide) (by decide) small, written]
  · intro written
    have digits_lt : ∀ value ∈ rebase 256 58 (bytes.map UInt8.toNat), value < 58 := fun value =>
      lt_of_mem_rebase (by decide)
    refine ⟨_, mapM_digit?_eq_some_iff.mpr ⟨digits_lt, written⟩, ?_⟩
    rw [rebase_rebase (by decide) (by decide) fun value => toNat_lt_of_mem, map_ofNat_toNat]

/-- Thirty-two bytes take at most forty-four digits. -/
theorem length_encode_le {bytes : List UInt8} (length : bytes.length = 32) :
    (encode bytes).length ≤ 44 := by
  rw [encode_eq, List.length_map]
  refine length_rebase_le (by decide) (by decide) ?_ ?_ fun value => toNat_lt_of_mem
  · rw [List.length_map, length]
    decide
  · rw [List.length_map, length]
    decide

end LiquidityController.Base58
