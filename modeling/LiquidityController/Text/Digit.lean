/-!
# Digits

The digits of a positional notation: the ten decimal digits and then the letters of the English
alphabet, in either case.
-/

namespace LiquidityController.Text

/-- The value of a digit in a base of at most thirty-six. -/
def digit? (base : Nat) (c : Char) : Option Nat :=
  let value? :=
    if '0' ≤ c ∧ c ≤ '9' then some (c.toNat - '0'.toNat)
    else if 'a' ≤ c ∧ c ≤ 'z' then some (c.toNat - 'a'.toNat + 10)
    else if 'A' ≤ c ∧ c ≤ 'Z' then some (c.toNat - 'A'.toNat + 10)
    else none
  value?.filter (· < base)

def isDigit (base : Nat) (c : Char) : Bool :=
  (digit? base c).isSome

/-- The number that a string of digits denotes, highest digit first. -/
def number? (base : Nat) (digits : List Char) : Option Nat :=
  digits.foldlM (fun value c => (digit? base c).map (value * base + ·)) 0

/-- The character with a given number; surrogates have none. -/
def scalar? (number : Nat) : Option Char :=
  if number.isValidChar then some (.ofNat number) else none

end LiquidityController.Text
