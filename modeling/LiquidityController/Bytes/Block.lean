/-!
# Byte strings of a fixed length

Addresses, digests, descriptions and the padding of a stored config are all byte strings whose
length is part of their meaning, so the length is part of the type.
-/

namespace LiquidityController

/-- A string of exactly `n` bytes. -/
structure Block (n : Nat) where
  bytes : List UInt8
  length_bytes : bytes.length = n
  deriving DecidableEq

namespace Block

variable {n : Nat}

def zero (n : Nat) : Block n :=
  ⟨List.replicate n 0, List.length_replicate⟩

/-- A byte string as a block, if it has the right length. -/
def ofList? (bytes : List UInt8) : Option (Block n) :=
  if h : bytes.length = n then some ⟨bytes, h⟩ else none

/-- A byte string that fits, filled up with zero bytes. -/
def zeroFilled (bytes : List UInt8) (fits : bytes.length ≤ n) : Block n :=
  ⟨bytes ++ List.replicate (n - bytes.length) 0, by simp; omega⟩

def isZero (block : Block n) : Bool :=
  block.bytes.all (· == 0)

@[simp] theorem length (block : Block n) : block.bytes.length = n :=
  block.length_bytes

@[ext] theorem ext {left right : Block n} (same : left.bytes = right.bytes) : left = right := by
  cases left; cases right; cases same; rfl

end Block

end LiquidityController
