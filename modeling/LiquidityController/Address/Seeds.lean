import LiquidityController.Bytes.Number
import LiquidityController.Failure

/-!
# Seeds

The byte strings from which an address is derived. Their number and their lengths are bounded,
and the bounds are checked once, when a list of seeds is built.
-/

namespace LiquidityController

/-- A byte string that is short enough to be a seed. -/
structure Seed where
  bytes : List UInt8
  length_le : bytes.length ≤ maxSeedLength
  deriving DecidableEq

namespace Seed

def ofBlock {n : Nat} (block : Block n) (short : n ≤ maxSeedLength := by decide) : Seed :=
  ⟨block.bytes, by simpa using short⟩

def ofDigest (digest : Block 32) : Seed :=
  ofBlock digest

def ofAddress (address : Address) : Seed :=
  ofBlock address.toBlock

/-- A 16 bit number as a seed, lowest byte first. -/
def ofUInt16 (value : UInt16) : Seed :=
  ofBlock (Block.ofNat 2 value.toNat)

def ofByte (byte : UInt8) : Seed :=
  ⟨[byte], by simp [maxSeedLength]⟩

end Seed

/-- A list of seeds that is short enough to derive an address from. -/
structure Seeds where
  toList : List Seed
  length_le : toList.length ≤ maxSeeds
  deriving DecidableEq

namespace Seeds

/-- A list of byte strings as seeds. The number of strings is checked before their lengths, and
of the strings that are too long the first is reported. -/
def ofList (strings : List (List UInt8)) : Except Failure Seeds :=
  if few : strings.length ≤ maxSeeds then
    if short : ∀ string ∈ strings, string.length ≤ maxSeedLength then
      .ok ⟨strings.pmap Seed.mk short, by simpa using few⟩
    else
      let index := strings.findIdx (maxSeedLength < ·.length)
      .error (.seedTooLong index (strings.getD index []).length)
  else .error (.tooManySeeds strings.length)

def bytes (seeds : Seeds) : List UInt8 :=
  seeds.toList.flatMap Seed.bytes

end Seeds

end LiquidityController
