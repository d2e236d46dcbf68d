import LiquidityController.Address.Derived
import LiquidityController.Instruction.Basic
import LiquidityController.Logged

/-!
# The builder of instructions

A builder makes the instructions by which one authority runs one controller. The addresses that
nearly every instruction lists are derived once, when the builder is made, and the builder keeps
the evidence that they are the derived ones.
-/

namespace LiquidityController

/-- A maker of instructions for a controller, an authority and a payer. The number of the
controller is known only if the builder was made from it. -/
structure Builder where
  programs : Programs
  controller : Address
  id : Option UInt16
  controllerAuthority : Address
  authority : Address
  permission : Address
  payer : Address
  derive_controller : ∀ number ∈ id, programs.derive (.controller number) = .ok controller
  derive_controllerAuthority :
    programs.derive (.controllerAuthority controller) = .ok controllerAuthority
  derive_permission : programs.derive (.permission controller authority) = .ok permission

/-- The value of an attempt, with the evidence that the attempt gives it. -/
def evident {ε α : Type} : (attempt : Except ε α) → Except ε { value : α // attempt = .ok value }
  | .ok value => .ok ⟨value, rfl⟩
  | .error failure => .error failure

namespace Builder

/-- A builder for a controller of which the number may be known. The authority also pays. -/
def make (programs : Programs) (controller authority : Address) (id : Option UInt16)
    (derive_controller : ∀ number ∈ id, programs.derive (.controller number) = .ok controller) :
    Logged Failure Builder := do
  let ⟨controllerAuthority, derive_controllerAuthority⟩ ←
    evident (programs.derive (.controllerAuthority controller))
  let ⟨permission, derive_permission⟩ ←
    evident (programs.derive (.permission controller authority))
  .report (.builderReady controller controllerAuthority permission authority)
  return {
    programs, controller, id, controllerAuthority, authority, permission,
    payer := authority
    derive_controller, derive_controllerAuthority, derive_permission }

def new (programs : Programs) (controller authority : Address) : Logged Failure Builder :=
  make programs controller authority none nofun

def ofId (programs : Programs) (id : UInt16) (authority : Address) : Logged Failure Builder := do
  let ⟨controller, derived⟩ ← evident (programs.derive (.controller id))
  make programs controller authority id (by rintro _ ⟨⟩; exact derived)

def withPayer (builder : Builder) (payer : Address) : Builder :=
  { builder with payer }

/-- A token program, if it is one of the two that the controller works with. -/
def tokenProgram (builder : Builder) (program : Address) : Logged Failure Address :=
  if builder.programs.isTokenProgram program then pure program
  else .reject (.tokenProgramRejected program) (.unknownTokenProgram program)

/-- The associated token account of an owner. The token program is checked first. -/
def tokenAccount (builder : Builder) (owner mint tokenProgram : Address) :
    Logged Failure Address := do
  let tokenProgram ← builder.tokenProgram tokenProgram
  builder.programs.derive (.associatedToken owner mint tokenProgram)

def instruction (builder : Builder) (kind : Instruction.Kind) (accounts : kind.Accounts)
    (arguments : kind.Arguments) (remaining : List AccountMeta := []) : Instruction :=
  .make builder.programs.controller kind accounts arguments remaining

end Builder

end LiquidityController
