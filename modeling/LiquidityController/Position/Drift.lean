import LiquidityController.Builder.Integration

/-!
# Deposits in spot markets

The controller authority holds a numbered sub account at the exchange and deposits into one spot
market. The exchange also wants to read every market in which the sub account holds anything:
first all their oracles, then the markets themselves.
-/

namespace LiquidityController

structure DriftPosition extends Config.Drift where
  mint : Address
  deriving DecidableEq

/-- The config of the position, which does not depend on its mint. -/
def DriftPosition.config (position : DriftPosition) : Config :=
  .ofProtocol .drift position.toDrift

/-- A spot market that the exchange reads, and its oracle. -/
structure SpotMarket where
  market : Address
  oracle : Address
  deriving DecidableEq

/-- The oracles of all markets, then the markets, in the given order. -/
def SpotMarket.accounts (markets : List SpotMarket) : List AccountMeta :=
  markets.map (.readonly ·.oracle) ++ markets.map (.writable ·.market)

namespace Builder

def driftIntegration (builder : Builder) (position : DriftPosition) : Except Failure Address :=
  builder.integrationAddress position.config

/-- The sub account of the controller authority at the exchange. -/
def driftUser (builder : Builder) (position : DriftPosition) : Except Failure Address :=
  builder.programs.derive (.driftUser builder.controllerAuthority position.subAccountId)

/-- The statistics that the exchange keeps on the controller authority. -/
def driftUserStats (builder : Builder) : Except Failure Address :=
  builder.programs.derive (.driftUserStats builder.controllerAuthority)

def initializeDrift (builder : Builder) (terms : IntegrationTerms) (position : DriftPosition) :
    Logged Failure Instruction := do
  let user ← builder.driftUser position
  let userStats ← builder.driftUserStats
  let state ← builder.programs.derive .driftState
  let spotMarket ← builder.programs.derive (.driftSpotMarket position.spotMarketIndex)
  builder.initializeIntegration .drift position.config terms
    (.drift position.subAccountId position.spotMarketIndex) [
    .readonly position.mint,
    .writable user,
    .writable userStats,
    .writable state,
    .readonly spotMarket,
    .readonly rentSysvar,
    .readonly builder.programs.drift]

def pushDrift (builder : Builder) (position : DriftPosition) (tokenProgram : Address)
    (amount : UInt64) (reduceOnly : Bool) (markets : List SpotMarket) :
    Logged Failure Instruction := do
  let vault ← builder.reserveVault position.mint tokenProgram
  let state ← builder.programs.derive .driftState
  let user ← builder.driftUser position
  let userStats ← builder.driftUserStats
  let marketVault ← builder.programs.derive (.driftSpotMarketVault position.spotMarketIndex)
  let integration ← builder.driftIntegration position
  let reserve ← builder.reserveAddress position.mint
  return builder.push integration reserve (.drift position.spotMarketIndex amount reduceOnly) <| [
    .readonly state,
    .writable user,
    .writable userStats,
    .writable marketVault,
    .writable vault,
    .readonly tokenProgram,
    -- once more, to read back what is left
    .readonly vault,
    .readonly builder.programs.drift] ++ SpotMarket.accounts markets

def pullDrift (builder : Builder) (position : DriftPosition) (tokenProgram : Address)
    (amount : UInt64) (markets : List SpotMarket) : Logged Failure Instruction := do
  let signer ← builder.programs.derive .driftSigner
  let state ← builder.programs.derive .driftState
  let user ← builder.driftUser position
  let userStats ← builder.driftUserStats
  let marketVault ← builder.programs.derive (.driftSpotMarketVault position.spotMarketIndex)
  let vault ← builder.reserveVault position.mint tokenProgram
  let integration ← builder.driftIntegration position
  let reserve ← builder.reserveAddress position.mint
  -- the exchange finds the mint after the markets
  return builder.pull integration reserve (.drift position.spotMarketIndex amount) <| [
    .readonly state,
    .writable user,
    .writable userStats,
    .writable marketVault,
    .readonly signer,
    .writable vault,
    .readonly tokenProgram,
    .readonly builder.programs.drift] ++ SpotMarket.accounts markets ++ [.readonly position.mint]

def syncDrift (builder : Builder) (position : DriftPosition) : Logged Failure Instruction := do
  let marketVault ← builder.programs.derive (.driftSpotMarketVault position.spotMarketIndex)
  let spotMarket ← builder.programs.derive (.driftSpotMarket position.spotMarketIndex)
  let user ← builder.driftUser position
  let integration ← builder.driftIntegration position
  let reserve ← builder.reserveAddress position.mint
  return builder.syncIntegration integration reserve [
    .writable marketVault,
    .readonly spotMarket,
    .readonly user,
    .readonly builder.programs.drift]

end Builder

end LiquidityController
