import LiquidityController.Bytes.Block

/-!
# Numbers as byte strings

Positional notation in base 256, in both byte orders, and the digits of a number in any base.
-/

namespace LiquidityController

/-- The `width` lowest base 256 digits of a number, lowest first. -/
def toLittleEndian : Nat → Nat → List UInt8
  | 0, _ => []
  | width + 1, n => UInt8.ofNat n :: toLittleEndian width (n / 256)

/-- The number whose base 256 digits, lowest first, are the given bytes. -/
def ofLittleEndian : List UInt8 → Nat
  | [] => 0
  | byte :: rest => byte.toNat + 256 * ofLittleEndian rest

@[simp] theorem length_toLittleEndian (width n : Nat) :
    (toLittleEndian width n).length = width := by
  induction width generalizing n with
  | zero => rfl
  | succ width ih => simp [toLittleEndian, ih]

def Block.ofNat (n value : Nat) : Block n :=
  ⟨toLittleEndian n value, length_toLittleEndian n value⟩

def Block.toNat {n : Nat} (block : Block n) : Nat :=
  ofLittleEndian block.bytes

/-- The number with the given digits, highest first. -/
def ofDigits (base : Nat) (digits : List Nat) : Nat :=
  digits.foldl (fun value digit => value * base + digit) 0

/-- The lowest digits of a number, lowest first, until nothing is left or `fuel` runs out. -/
def digitsUpTo (base : Nat) : Nat → Nat → List Nat
  | 0, _ => []
  | fuel + 1, n => if n = 0 then [] else n % base :: digitsUpTo base fuel (n / base)

/-- The digits of a number, highest first, with no leading zero; zero has no digits. -/
def toDigits (base n : Nat) : List Nat :=
  -- the bases in use are two or more, so no number has more digits than bits
  (digitsUpTo base (n.log2 + 1) n).reverse

end LiquidityController
