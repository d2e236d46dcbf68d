import LiquidityController.Builder.Integration

/-!
# Transfers to a recipient outside the controller
-/

namespace LiquidityController

/-- A recipient of one mint. Unless a token account is given, the recipient's associated token
account is used. -/
structure ExternalTransfer where
  mint : Address
  recipient : Address
  tokenProgram : Address
  tokenAccount : Option Address
  deriving DecidableEq

namespace Builder

def externalConfig (builder : Builder) (transfer : ExternalTransfer) :
    Logged Failure Config.SplTokenExternal := do
  let program ← builder.tokenProgram transfer.tokenProgram
  let tokenAccount ← match transfer.tokenAccount with
    | some account => pure account
    | none =>
      builder.programs.derive (.associatedToken transfer.recipient transfer.mint program)
  return { program, mint := transfer.mint, recipient := transfer.recipient, tokenAccount }

def initializeExternal (builder : Builder) (terms : IntegrationTerms)
    (transfer : ExternalTransfer) : Logged Failure Instruction := do
  let config ← builder.externalConfig transfer
  builder.initializeIntegration .splTokenExternal (.ofProtocol .splTokenExternal config) terms
    .splTokenExternal [
    .readonly config.mint,
    .readonly config.recipient,
    .writable config.tokenAccount,
    .readonly config.program,
    .readonly builder.programs.associatedToken]

def pushExternal (builder : Builder) (transfer : ExternalTransfer) (amount : UInt64) :
    Logged Failure Instruction := do
  let config ← builder.externalConfig transfer
  let integration ← builder.integrationAddress (.ofProtocol .splTokenExternal config)
  let reserve ← builder.reserveAddress config.mint
  let vault ← builder.reserveVault config.mint config.program
  return builder.push integration reserve (.splTokenExternal amount) [
    .readonly config.mint,
    .writable vault,
    .readonly config.recipient,
    .writable config.tokenAccount,
    .readonly config.program,
    .readonly builder.programs.associatedToken,
    .readonly builder.programs.system]

end Builder

end LiquidityController
