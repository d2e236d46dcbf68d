import LiquidityController.Bytes.Number

/-!
# Points of the signing curve

An address that is a point of the twisted Edwards curve `-x² + y² = 1 + d x² y²` over the field
of `2²⁵⁵ - 19` elements may have a private key. A byte string names a point by its `y`
coordinate and the sign of `x`, so it does name one exactly if `(y² - 1) / (d y² + 1)` has a
square root. The denominator is never zero, because `-1` is a square and `d` is not; the
quotient is therefore a square exactly if the product of its two sides is.
-/

namespace LiquidityController.Curve

def fieldSize : Nat := Nat.pow 2 255 - 19

def coefficient : Nat :=
  37095705934669439343138083508754565189542113879843219016388785533085940283555

/-- The product of a square-and-multiply chain over the low `bits` bits of an exponent. -/
def powMod (modulus : Nat) : Nat → Nat → Nat → Nat → Nat
  | 0, _, _, product => product
  | bits + 1, base, exponent, product =>
    powMod modulus bits (base * base % modulus) (exponent / 2)
      (if exponent % 2 = 1 then product * base % modulus else product)

/-- Whether a field element is a square, by Euler's criterion. -/
def isSquare (value : Nat) : Bool :=
  value % fieldSize == 0 || powMod fieldSize 254 (value % fieldSize) ((fieldSize - 1) / 2) 1 == 1

/-- Whether a byte string names a point: its low 255 bits are `y`, its top bit a sign. -/
def isPoint (block : Block 32) : Bool :=
  -- values of `y` that are not reduced are accepted
  let y := block.toNat % Nat.pow 2 255 % fieldSize
  let numerator := (y * y + fieldSize - 1) % fieldSize
  let denominator := (coefficient * (y * y) + 1) % fieldSize
  isSquare (numerator * denominator)

end LiquidityController.Curve
