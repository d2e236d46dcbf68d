import LiquidityController.Builder.Integration

/-!
# Atomic swaps

Swaps between two reserves at the price of an oracle. The config lists the terms of the swap in
full, and the two mints and the oracle are also listed as accounts.
-/

namespace LiquidityController

/-- The terms of the swap that are not accounts of the instruction. -/
def Config.AtomicSwap.setup (swap : Config.AtomicSwap) : Setup :=
  .atomicSwap swap.maxSlippageBps swap.maxStaleness swap.expiryTimestamp swap.oraclePriceInverted

def Builder.initializeAtomicSwap (builder : Builder) (terms : IntegrationTerms)
    (swap : Config.AtomicSwap) : Logged Failure Instruction :=
  builder.initializeIntegration .atomicSwap (.ofProtocol .atomicSwap swap) terms swap.setup [
    .readonly swap.inputToken,
    .readonly swap.outputToken,
    .readonly swap.oracle]

end LiquidityController
