import LiquidityController.Address.Curve
import LiquidityController.Address.Seeds
import LiquidityController.Digest.Sha256

/-!
# Address derivation

An address is derived from a program and a list of seeds by hashing them together with one more
byte, the bump. The result must not be a point of the signing curve, so that no private key can
belong to it; bumps are tried from 255 downwards, and zero is not tried.
-/

namespace LiquidityController.Seeds

def marker : List UInt8 :=
  "ProgramDerivedAddress".toUTF8.toList

/-- The bytes whose digest is the address for a bump. -/
def preimage (program : Address) (seeds : Seeds) (bump : UInt8) : List UInt8 :=
  seeds.bytes ++ [bump] ++ program.bytes ++ marker

/-- The digest for a bump, which is an address if it lies off the curve. -/
def candidate (program : Address) (seeds : Seeds) (bump : UInt8) : Address :=
  ⟨sha256 (preimage program seeds bump)⟩

/-- The first address off the curve, with its bump, when bumps go down from `n` to one. -/
def search (program : Address) (seeds : Seeds) : Nat → Option (Address × UInt8)
  | 0 => none
  | n + 1 =>
    let bump := UInt8.ofNat (n + 1)
    let address := candidate program seeds bump
    if Curve.isPoint address.toBlock then search program seeds n else some (address, bump)

/-- The address that a program derives from seeds, with its bump. -/
def find (program : Address) (seeds : Seeds) : Except Failure (Address × UInt8) :=
  -- the bump is one more seed, for which a full list has no room
  if seeds.toList.length = maxSeeds then .error (.derivationExhausted program)
  else match search program seeds 255 with
    | some found => .ok found
    | none => .error (.derivationExhausted program)

def findOfList (program : Address) (strings : List (List UInt8)) :
    Except Failure (Address × UInt8) := do
  -- the strings are checked before anything is searched
  let seeds ← ofList strings
  seeds.find program

end LiquidityController.Seeds
