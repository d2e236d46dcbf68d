import LiquidityController.Address.Basic

/-!
# Failures

Every reason for which the library refuses to build an address, a record or an instruction, and
its wording.
-/

namespace LiquidityController

def maxSeeds : Nat := 16

def maxSeedLength : Nat := 32

def descriptionLength : Nat := 32

/-- The most reserves into which an obligation deposits. -/
def maxObligationDeposits : Nat := 8

/-- The most reserves from which an obligation borrows. -/
def maxObligationBorrows : Nat := 5

def maxObligationReserves : Nat := maxObligationDeposits + maxObligationBorrows

/-- A reason for refusing a request. -/
inductive Failure where
  | tooManySeeds (count : Nat)
  | seedTooLong (index length : Nat)
  | valueOutOfRange (field : String) (value : Nat)
  | descriptionTooLong (length : Nat)
  | nonCanonicalPadding
  | derivationExhausted (program : Address)
  | tooManyReserves (count : Nat)
  | unknownTokenProgram (program : Address)
  | invalidClear (field : String)
  | missingControllerId
  deriving DecidableEq

def Failure.message : Failure → String
  | tooManySeeds count => s!"{count} seeds provided, at most {maxSeeds} are allowed"
  | seedTooLong index length =>
    s!"seed {index} is {length} bytes long, at most {maxSeedLength} are allowed"
  | valueOutOfRange field value => s!"value {value} for `{field}` does not fit in a u64"
  | descriptionTooLong length =>
    s!"description is {length} bytes long, at most {descriptionLength} are allowed"
  | nonCanonicalPadding => "config padding contains non-zero bytes"
  | derivationExhausted program =>
    s!"no valid bump seed found for an address of program {program.text}"
  | tooManyReserves count =>
    s!"unsupported: an obligation references at most {maxObligationReserves} reserves, got {count}"
  | unknownTokenProgram program =>
    s!"{program.text} is neither the token program nor the token-2022 program"
  | invalidClear field => s!"field `{field}` cannot be cleared"
  | missingControllerId =>
    "the controller id is unknown, build from an id to initialize a controller"

end LiquidityController
