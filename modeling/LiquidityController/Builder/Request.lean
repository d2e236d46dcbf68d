import LiquidityController.Builder.Administration
import LiquidityController.Builder.Oracle
import LiquidityController.Position.AtomicSwap
import LiquidityController.Position.Drift
import LiquidityController.Position.ExternalTransfer
import LiquidityController.Position.Kamino

/-!
# Requests

Everything that a builder can be asked for, as data. Laws that hold for all instructions are
stated for every request.
-/

namespace LiquidityController

inductive Request where
  | initializeController (status : Status)
  | manageController (status : Status)
  | managePermission (subject : Address) (status : Status) (capabilities : Capabilities)
  | claimRent (destination : Address)
  | initializeReserve (mint tokenProgram : Address) (status : Status) (rateLimit : RateLimit)
  | manageReserve (mint : Address) (update : ReserveUpdate)
  | syncReserve (mint tokenProgram : Address)
  | initializeOracle (oracleType : UInt8) (nonce priceFeed baseMint quoteMint : Address)
  | updateOracle (oracle priceFeed : Address) (feed : Option Feed) (newAuthority : Option Address)
  | refreshOracle (oracle priceFeed : Address)
  | refreshKaminoReserve (reserve market scopePrices : Address)
  | refreshKaminoObligation (market obligation : Address) (reserves : List Address)
  | initializeIntegration (protocol : Protocol) (config : Config) (terms : IntegrationTerms)
    (setup : Setup) (remaining : List AccountMeta)
  | manageIntegration (integration : Address) (update : IntegrationUpdate)
  | syncIntegration (integration reserve : Address) (remaining : List AccountMeta)
  | push (integration reserve : Address) (transfer : Push) (remaining : List AccountMeta)
  | pull (integration reserve : Address) (transfer : Pull) (remaining : List AccountMeta)
  | initializeAtomicSwap (terms : IntegrationTerms) (swap : Config.AtomicSwap)
  | initializeExternal (terms : IntegrationTerms) (transfer : ExternalTransfer)
  | pushExternal (transfer : ExternalTransfer) (amount : UInt64)
  | initializeDrift (terms : IntegrationTerms) (position : DriftPosition)
  | pushDrift (position : DriftPosition) (tokenProgram : Address) (amount : UInt64)
    (reduceOnly : Bool) (markets : List SpotMarket)
  | pullDrift (position : DriftPosition) (tokenProgram : Address) (amount : UInt64)
    (markets : List SpotMarket)
  | syncDrift (position : DriftPosition)
  | initializeKamino (terms : IntegrationTerms) (position : KaminoPosition)
  | pushKamino (position : KaminoPosition) (tokenProgram : Address) (amount : UInt64)
  | pullKamino (position : KaminoPosition) (tokenProgram : Address) (amount : UInt64)
  | syncKamino (position : KaminoPosition) (tokenProgram : Address)
    (harvest : Option RewardHarvest)

def Builder.perform (builder : Builder) : Request → Logged Failure Instruction
  | .initializeController status => builder.initializeController status
  | .manageController status => pure (builder.manageController status)
  | .managePermission subject status capabilities =>
    builder.managePermission subject status capabilities
  | .claimRent destination => pure (builder.claimRent destination)
  | .initializeReserve mint tokenProgram status rateLimit =>
    builder.initializeReserve mint tokenProgram status rateLimit
  | .manageReserve mint update => builder.manageReserve mint update
  | .syncReserve mint tokenProgram => builder.syncReserve mint tokenProgram
  | .initializeOracle oracleType nonce priceFeed baseMint quoteMint =>
    builder.initializeOracle oracleType nonce priceFeed baseMint quoteMint
  | .updateOracle oracle priceFeed feed newAuthority =>
    pure (builder.updateOracle oracle priceFeed feed newAuthority)
  | .refreshOracle oracle priceFeed => pure (builder.refreshOracle oracle priceFeed)
  | .refreshKaminoReserve reserve market scopePrices =>
    pure (builder.refreshKaminoReserve reserve market scopePrices)
  | .refreshKaminoObligation market obligation reserves =>
    builder.refreshKaminoObligation market obligation reserves
  | .initializeIntegration protocol config terms setup remaining =>
    builder.initializeIntegration protocol config terms setup remaining
  | .manageIntegration integration update => builder.manageIntegration integration update
  | .syncIntegration integration reserve remaining =>
    pure (builder.syncIntegration integration reserve remaining)
  | .push integration reserve transfer remaining =>
    pure (builder.push integration reserve transfer remaining)
  | .pull integration reserve transfer remaining =>
    pure (builder.pull integration reserve transfer remaining)
  | .initializeAtomicSwap terms swap => builder.initializeAtomicSwap terms swap
  | .initializeExternal terms transfer => builder.initializeExternal terms transfer
  | .pushExternal transfer amount => builder.pushExternal transfer amount
  | .initializeDrift terms position => builder.initializeDrift terms position
  | .pushDrift position tokenProgram amount reduceOnly markets =>
    builder.pushDrift position tokenProgram amount reduceOnly markets
  | .pullDrift position tokenProgram amount markets =>
    builder.pullDrift position tokenProgram amount markets
  | .syncDrift position => builder.syncDrift position
  | .initializeKamino terms position => builder.initializeKamino terms position
  | .pushKamino position tokenProgram amount => builder.pushKamino position tokenProgram amount
  | .pullKamino position tokenProgram amount => builder.pullKamino position tokenProgram amount
  | .syncKamino position tokenProgram harvest => builder.syncKamino position tokenProgram harvest

end LiquidityController
