import LiquidityController.Bytes.Number
import Mathlib.Algebra.Group.Nat.Defs

/-!
# Numbers and their bytes

Writing a number lowest byte first and reading it back undo each other as long as the number fits.
-/

namespace LiquidityController

theorem ofLittleEndian_lt (bytes : List UInt8) : ofLittleEndian bytes < 256 ^ bytes.length := by
  induction bytes with
  | nil => simp [ofLittleEndian]
  | cons byte rest ih =>
    have small := byte.toNat_lt
    simp only [ofLittleEndian, List.length_cons, Nat.pow_succ]
    omega

theorem ofLittleEndian_toLittleEndian (width n : Nat) (fits : n < 256 ^ width) :
    ofLittleEndian (toLittleEndian width n) = n := by
  induction width generalizing n with
  | zero =>
    have zero : n = 0 := by simpa using fits
    subst zero
    rfl
  | succ width ih =>
    have high : n / 256 < 256 ^ width := by
      rw [Nat.pow_succ] at fits
      omega
    simp only [toLittleEndian, ofLittleEndian, ih _ high, UInt8.toNat_ofNat']
    omega

theorem toLittleEndian_ofLittleEndian (bytes : List UInt8) :
    toLittleEndian bytes.length (ofLittleEndian bytes) = bytes := by
  induction bytes with
  | nil => rfl
  | cons byte rest ih =>
    -- the lowest digit is the first byte, and the higher ones are the other bytes
    have small := byte.toNat_lt
    have low : UInt8.ofNat (byte.toNat + 256 * ofLittleEndian rest) = byte := by
      apply UInt8.toNat_inj.mp
      rw [UInt8.toNat_ofNat']
      omega
    have high : (byte.toNat + 256 * ofLittleEndian rest) / 256 = ofLittleEndian rest := by omega
    simp only [List.length_cons, toLittleEndian, ofLittleEndian, low, high, ih]

namespace Block

variable {n : Nat}

theorem toNat_lt (block : Block n) : block.toNat < 256 ^ n := by
  have bound := ofLittleEndian_lt block.bytes
  rwa [block.length] at bound

theorem toNat_ofNat {value : Nat} (fits : value < 256 ^ n) : (ofNat n value).toNat = value :=
  ofLittleEndian_toLittleEndian n value fits

theorem ofNat_toNat (block : Block n) : ofNat n block.toNat = block := by
  have same := toLittleEndian_ofLittleEndian block.bytes
  rw [block.length] at same
  exact Block.ext same

end Block

end LiquidityController
