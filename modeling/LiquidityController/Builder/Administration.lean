import LiquidityController.Builder.Basic

/-!
# Running a controller

Creating a controller, suspending and resuming it, giving permissions to authorities and
collecting rent.
-/

namespace LiquidityController.Builder

/-- Creates the controller, which only a builder that knows its number can do. -/
def initializeController (builder : Builder) (status : Status) : Logged Failure Instruction :=
  match builder.id with
  | none => .reject (.controllerIdMissing builder.controller) .missingControllerId
  | some id => pure <| builder.instruction .initializeController
    { payer := builder.payer
      authority := builder.authority
      controller := builder.controller
      controllerAuthority := builder.controllerAuthority
      permission := builder.permission
      program := builder.programs.controller
      systemProgram := builder.programs.system }
    { id, status }

def manageController (builder : Builder) (status : Status) : Instruction :=
  builder.instruction .manageController
    { controller := builder.controller
      controllerAuthority := builder.controllerAuthority
      authority := builder.authority
      permission := builder.permission
      program := builder.programs.controller }
    { status }

/-- Creates or changes the permission of another authority, which does not sign. -/
def managePermission (builder : Builder) (subject : Address) (status : Status)
    (capabilities : Capabilities) : Logged Failure Instruction := do
  let permission ← builder.programs.derive (.permission builder.controller subject)
  .report (.permissionDerived subject permission)
  return builder.instruction .managePermission
    { payer := builder.payer
      controller := builder.controller
      controllerAuthority := builder.controllerAuthority
      superAuthority := builder.authority
      superPermission := builder.permission
      authority := subject
      permission
      program := builder.programs.controller
      systemProgram := builder.programs.system }
    { status, capabilities }

/-- Pays out rent that the controller authority does not need. -/
def claimRent (builder : Builder) (destination : Address) : Instruction :=
  builder.instruction .claimRent
    { controller := builder.controller
      controllerAuthority := builder.controllerAuthority
      authority := builder.authority
      permission := builder.permission
      destination
      systemProgram := builder.programs.system }
    ()

end LiquidityController.Builder
