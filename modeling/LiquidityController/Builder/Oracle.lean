import LiquidityController.Builder.Basic

/-!
# Running oracles

An oracle is identified by a nonce and belongs to no controller, so anyone may refresh it.
-/

namespace LiquidityController

/-- Copies the latest price of a feed into an oracle. -/
def refreshOracle (program oracle priceFeed : Address) : Instruction :=
  .make program .refreshOracle { priceFeed, oracle } () []

namespace Builder

def initializeOracle (builder : Builder) (oracleType : UInt8)
    (nonce priceFeed baseMint quoteMint : Address) : Logged Failure Instruction := do
  let oracle ← builder.programs.derive (.oracle nonce)
  .report (.oracleDerived nonce oracle)
  -- the authority pays, whatever the payer of the builder
  return builder.instruction .initializeOracle
    { payer := builder.authority
      controller := builder.controller
      controllerAuthority := builder.controllerAuthority
      authority := builder.authority
      priceFeed, oracle
      systemProgram := builder.programs.system }
    { oracleType, nonce, baseMint, quoteMint }

/-- Changes the feed of an oracle, and passes the oracle on if a new authority is given. -/
def updateOracle (builder : Builder) (oracle priceFeed : Address) (feed : Option Feed)
    (newAuthority : Option Address) : Instruction :=
  builder.instruction .updateOracle
    { controller := builder.controller
      controllerAuthority := builder.controllerAuthority
      authority := builder.authority
      priceFeed, oracle, newAuthority
      program := builder.programs.controller }
    { feed }

def refreshOracle (builder : Builder) (oracle priceFeed : Address) : Instruction :=
  LiquidityController.refreshOracle builder.programs.controller oracle priceFeed

end Builder

end LiquidityController
