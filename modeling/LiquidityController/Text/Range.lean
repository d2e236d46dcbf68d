/-!
# Ranges of characters

A property of characters is written down as a list of ranges of their numbers.
-/

namespace LiquidityController.Text

/-- The characters from one number to another, both included. -/
abbrev Range :=
  Nat × Nat

namespace Range

def covers (ranges : List Range) (c : Char) : Bool :=
  ranges.any fun (first, last) => first ≤ c.toNat && c.toNat ≤ last

end Range

end LiquidityController.Text
