import LiquidityController.Builder.Basic
import LiquidityController.Change

/-!
# Running reserves

A reserve is identified by the controller and a mint, and keeps its funds in a vault, the token
account of the controller authority.
-/

namespace LiquidityController

/-- The value that a change writes to a field that must not be emptied. -/
def Change.uncleared {α : Type} (change : Change α) (field : String) :
    Logged Failure (Option α) :=
  match change with
  | unchanged => pure none
  | cleared => .reject (.clearRejected field) (.invalidClear field)
  | set value => pure (some value)

structure ReserveUpdate where
  status : Change Status := .unchanged
  rateLimitSlope : Change UInt64 := .unchanged
  rateLimitMaxOutflow : Change UInt64 := .unchanged
  deriving DecidableEq

def ReserveUpdate.arguments (update : ReserveUpdate) : Logged Failure ManageReserve.Arguments := do
  let status ← update.status.uncleared "status"
  let rateLimitSlope ← update.rateLimitSlope.uncleared "rate_limit_slope"
  -- the cap is the only field that can be emptied, which lifts it
  let rateLimitMaxOutflow := update.rateLimitMaxOutflow.valueOr RateLimit.uncapped
  return { status, rateLimitSlope, rateLimitMaxOutflow }

namespace Builder

def reserveAddress (builder : Builder) (mint : Address) : Except Failure Address :=
  builder.programs.derive (.reserve builder.controller mint)

def reserveVault (builder : Builder) (mint tokenProgram : Address) : Logged Failure Address :=
  builder.tokenAccount builder.controllerAuthority mint tokenProgram

def initializeReserve (builder : Builder) (mint tokenProgram : Address) (status : Status)
    (rateLimit : RateLimit) : Logged Failure Instruction := do
  let reserve ← builder.reserveAddress mint
  let vault ← builder.reserveVault mint tokenProgram
  .report (.reserveDerived mint reserve vault)
  return builder.instruction .initializeReserve
    { payer := builder.payer
      controller := builder.controller
      controllerAuthority := builder.controllerAuthority
      authority := builder.authority
      permission := builder.permission
      reserve, mint, vault, tokenProgram
      associatedTokenProgram := builder.programs.associatedToken
      program := builder.programs.controller
      systemProgram := builder.programs.system }
    { status, rateLimit }

def manageReserve (builder : Builder) (mint : Address) (update : ReserveUpdate) :
    Logged Failure Instruction := do
  let reserve ← builder.reserveAddress mint
  let arguments ← update.arguments
  return builder.instruction .manageReserve
    { controller := builder.controller
      controllerAuthority := builder.controllerAuthority
      authority := builder.authority
      permission := builder.permission
      reserve
      program := builder.programs.controller }
    arguments

/-- Brings the reserve of a mint up to date with its vault. -/
def syncReserve (builder : Builder) (mint tokenProgram : Address) :
    Logged Failure Instruction := do
  let reserve ← builder.reserveAddress mint
  let vault ← builder.reserveVault mint tokenProgram
  return builder.instruction .syncReserve
    { controller := builder.controller
      controllerAuthority := builder.controllerAuthority
      reserve, vault }
    ()

end Builder

end LiquidityController
