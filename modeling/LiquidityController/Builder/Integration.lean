import LiquidityController.Builder.Reserve
import LiquidityController.Integration.Config

/-!
# Running integrations

The instructions that all protocols share. The accounts of a protocol come after those that the
controller program always reads.
-/

namespace LiquidityController

/-- What the parties agree on when an integration is created, whatever its protocol. -/
structure IntegrationTerms where
  description : String
  status : Status := .active
  rateLimit : RateLimit := .unlimited
  permitLiquidation : Bool := false
  deriving DecidableEq

/-- The buffer of the description. A text that does not fit is reported. -/
def IntegrationTerms.buffer (terms : IntegrationTerms) : Logged Failure Description :=
  match Description.ofText terms.description with
  | .ok description => pure description
  | .error failure => .reject (.descriptionRejected terms.description failure) failure

structure IntegrationUpdate where
  status : Change Status := .unchanged
  description : Change String := .unchanged
  rateLimitSlope : Change UInt64 := .unchanged
  rateLimitMaxOutflow : Change UInt64 := .unchanged
  deriving DecidableEq

def IntegrationUpdate.buffer (update : IntegrationUpdate) :
    Except Failure (Option Description) :=
  match update.description with
  | .unchanged => .ok none
  | .cleared => .ok (some .empty)
  | .set text => (Description.ofText text).map some

def IntegrationUpdate.arguments (update : IntegrationUpdate) :
    Logged Failure ManageIntegration.Arguments := do
  let description ← update.buffer
  let status ← update.status.uncleared "status"
  let rateLimitSlope ← update.rateLimitSlope.uncleared "rate_limit_slope"
  -- emptying the cap lifts it
  let rateLimitMaxOutflow := update.rateLimitMaxOutflow.valueOr RateLimit.uncapped
  return { status, description, rateLimitSlope, rateLimitMaxOutflow }

namespace Builder

def integrationAddress (builder : Builder) (config : Config) : Except Failure Address := do
  let hash ← config.hash
  builder.programs.derive (.integration builder.controller hash)

def initializeIntegration (builder : Builder) (protocol : Protocol) (config : Config)
    (terms : IntegrationTerms) (setup : Setup) (remaining : List AccountMeta) :
    Logged Failure Instruction := do
  let description ← terms.buffer
  let integration ← builder.integrationAddress config
  .report (.integrationDerived protocol integration)
  return builder.instruction .initializeIntegration
    { payer := builder.payer
      controller := builder.controller
      controllerAuthority := builder.controllerAuthority
      authority := builder.authority
      permission := builder.permission
      integration
      program := builder.programs.controller
      systemProgram := builder.programs.system }
    { protocol
      status := terms.status
      description
      rateLimit := terms.rateLimit
      permitLiquidation := terms.permitLiquidation
      setup }
    remaining

def manageIntegration (builder : Builder) (integration : Address) (update : IntegrationUpdate) :
    Logged Failure Instruction := do
  let arguments ← update.arguments
  return builder.instruction .manageIntegration
    { controller := builder.controller
      controllerAuthority := builder.controllerAuthority
      authority := builder.authority
      permission := builder.permission
      integration
      program := builder.programs.controller }
    arguments

/-- Brings an integration up to date with its protocol. -/
def syncIntegration (builder : Builder) (integration reserve : Address)
    (remaining : List AccountMeta) : Instruction :=
  builder.instruction .syncIntegration
    { controller := builder.controller
      controllerAuthority := builder.controllerAuthority
      payer := builder.payer
      integration, reserve }
    () remaining

def transferAccounts (builder : Builder) (integration reserve : Address) : TransferAccounts where
  controller := builder.controller
  controllerAuthority := builder.controllerAuthority
  authority := builder.authority
  permission := builder.permission
  integration := integration
  reserve := reserve
  program := builder.programs.controller

/-- Moves funds from a reserve into an integration. -/
def push (builder : Builder) (integration reserve : Address) (transfer : Push)
    (remaining : List AccountMeta) : Instruction :=
  builder.instruction .push (builder.transferAccounts integration reserve) transfer remaining

/-- Moves funds from an integration back into a reserve. -/
def pull (builder : Builder) (integration reserve : Address) (transfer : Pull)
    (remaining : List AccountMeta) : Instruction :=
  builder.instruction .pull (builder.transferAccounts integration reserve) transfer remaining

end Builder

end LiquidityController
