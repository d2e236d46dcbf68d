import LiquidityController.Bytes.Number

/-!
# Base 58 text

A byte string is read as one big number, which is then written in base 58. Leading zero bytes
do not change the number, so each of them is written as a leading zero digit `1`, and text and
bytes determine each other.
-/

namespace LiquidityController.Base58

/-- The digits in order: letters and digits without `0`, `O`, `I` and `l`. -/
def alphabet : List Char :=
  "123456789ABCDEFGHJKLMNPQRSTUVWXYZabcdefghijkmnopqrstuvwxyz".toList

def digit? (c : Char) : Option Nat :=
  alphabet.idxOf? c

def digit (value : Nat) : Char :=
  alphabet.getD value '1'

def encode (bytes : List UInt8) : List Char :=
  -- leading zeros are lost in the number
  let zeros := (bytes.takeWhile (· == 0)).length
  let value := ofDigits 256 (bytes.map UInt8.toNat)
  List.replicate zeros '1' ++ (toDigits 58 value).map digit

/-- The byte string with a given text; none if a character is not a digit. -/
def decode (text : List Char) : Option (List UInt8) := do
  let digits ← text.mapM digit?
  let zeros := (digits.takeWhile (· == 0)).length
  some (List.replicate zeros 0 ++ (toDigits 256 (ofDigits 58 digits)).map UInt8.ofNat)

end LiquidityController.Base58
