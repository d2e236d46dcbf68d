import LiquidityController.Builder.Integration

/-!
# Deposits in lending reserves

The controller authority deposits into a reserve of a lending market through a numbered
obligation. A reserve may have a farm that pays rewards for collateral; one that has none gives
the zero address for it.
-/

namespace LiquidityController

/-- The bytes that select the refresh of a lending reserve. -/
def refreshReserveData : List UInt8 :=
  [2, 218, 138, 235, 79, 201, 25, 102]

/-- The bytes that select the refresh of an obligation. -/
def refreshObligationData : List UInt8 :=
  [33, 132, 147, 228, 151, 192, 72, 89]

/-- Updates the prices and the interest of a lending reserve. -/
def refreshKaminoReserve (program reserve market scopePrices : Address) : Instruction where
  program := program
  accounts := [
    .writable reserve,
    .readonly market,
    -- prices come from the last of four kinds of feeds; the program stands for a missing one
    .readonly program,
    .readonly program,
    .readonly program,
    .readonly scopePrices]
  data := refreshReserveData

/-- Updates the value of an obligation from its reserves, of which it has a limited number. -/
def refreshKaminoObligation (program market obligation : Address) (reserves : List Address) :
    Logged Failure Instruction :=
  if maxObligationReserves < reserves.length then
    .reject (.reservesRejected obligation reserves.length) (.tooManyReserves reserves.length)
  else pure {
    program
    accounts := .readonly market :: .writable obligation :: reserves.map .writable
    data := refreshObligationData }

structure KaminoPosition where
  market : Address
  reserve : Address
  reserveLiquidityMint : Address
  /-- The farm that pays rewards for collateral; the zero address if there is none. -/
  reserveFarmCollateral : Address
  /-- The farm that pays rewards for debt; the zero address if there is none. -/
  reserveFarmDebt : Address
  obligationId : UInt8
  /-- Who receives a share of the fees. -/
  referrer : Option Address
  deriving DecidableEq

structure RewardHarvest where
  rewardsMint : Address
  rewardsTokenProgram : Address
  globalConfig : Address
  scopePrices : Address
  deriving DecidableEq

namespace Builder

def refreshKaminoReserve (builder : Builder) (reserve market scopePrices : Address) :
    Instruction :=
  LiquidityController.refreshKaminoReserve builder.programs.kaminoLend reserve market scopePrices

def refreshKaminoObligation (builder : Builder) (market obligation : Address)
    (reserves : List Address) : Logged Failure Instruction :=
  LiquidityController.refreshKaminoObligation builder.programs.kaminoLend market obligation
    reserves

/-- The fields of the config of a position: those that were chosen, and the obligation. -/
def kaminoConfig (builder : Builder) (position : KaminoPosition) :
    Except Failure Config.Kamino := do
  let obligation ← builder.programs.derive
    (.kaminoObligation position.obligationId builder.controllerAuthority position.market)
  return {
    market := position.market
    reserve := position.reserve
    reserveFarmCollateral := position.reserveFarmCollateral
    reserveFarmDebt := position.reserveFarmDebt
    reserveLiquidityMint := position.reserveLiquidityMint
    obligation
    obligationId := position.obligationId }

def kaminoIntegration (builder : Builder) (config : Config.Kamino) : Except Failure Address :=
  builder.integrationAddress (.ofProtocol .kamino config)

/-- The account that the market keeps on the controller authority. -/
def kaminoUserMetadata (builder : Builder) : Except Failure Address :=
  builder.programs.derive (.kaminoUserMetadata builder.controllerAuthority)

/-- The account that a farm keeps on an obligation. -/
def obligationFarm (builder : Builder) (config : Config.Kamino) : Except Failure Address :=
  builder.programs.derive (.farmObligation config.reserveFarmCollateral config.obligation)

def initializeKamino (builder : Builder) (terms : IntegrationTerms) (position : KaminoPosition) :
    Logged Failure Instruction := do
  let config ← builder.kaminoConfig position
  let userMetadata ← builder.kaminoUserMetadata
  let obligationFarm ← builder.obligationFarm config
  let marketAuthority ← builder.programs.derive (.kaminoMarketAuthority config.market)
  builder.initializeIntegration .kamino (.ofProtocol .kamino config) terms
    (.kamino position.obligationId) [
    .writable config.obligation,
    .readonly config.reserveLiquidityMint,
    .writable userMetadata,
    .readonly (position.referrer.getD builder.programs.kaminoLend),
    .writable obligationFarm,
    .writable config.reserve,
    .writable config.reserveFarmCollateral,
    .readonly marketAuthority,
    .readonly config.market,
    .readonly builder.programs.kaminoLend,
    .readonly builder.programs.kaminoFarms,
    .readonly builder.programs.system,
    .readonly rentSysvar]

/-- The accounts that a transfer needs in either direction. -/
def kaminoTransferAccounts (builder : Builder) (config : Config.Kamino) (tokenProgram : Address) :
    Logged Failure (List AccountMeta) := do
  let mint := config.reserveLiquidityMint
  -- without a farm the lending program stands in for the account that it would keep
  let obligationFarm ←
    if config.reserveFarmCollateral = .zero then pure builder.programs.kaminoLend
    else builder.obligationFarm config
  let vault ← builder.reserveVault mint tokenProgram
  let liquiditySupply ← builder.programs.derive (.kaminoLiquiditySupply config.market mint)
  let collateralMint ← builder.programs.derive (.kaminoCollateralMint config.market mint)
  let collateralSupply ← builder.programs.derive (.kaminoCollateralSupply config.market mint)
  let marketAuthority ← builder.programs.derive (.kaminoMarketAuthority config.market)
  return [
    .writable vault,
    .writable config.obligation,
    .writable config.reserve,
    .readonly mint,
    .writable liquiditySupply,
    .writable collateralMint,
    .writable collateralSupply,
    .readonly marketAuthority,
    .readonly config.market,
    .readonly builder.programs.token,
    .readonly tokenProgram,
    .readonly instructionsSysvar,
    .writable obligationFarm,
    .writable config.reserveFarmCollateral,
    .readonly builder.programs.kaminoFarms,
    .readonly builder.programs.kaminoLend]

def pushKamino (builder : Builder) (position : KaminoPosition) (tokenProgram : Address)
    (amount : UInt64) : Logged Failure Instruction := do
  let config ← builder.kaminoConfig position
  let accounts ← builder.kaminoTransferAccounts config tokenProgram
  let userMetadata ← builder.kaminoUserMetadata
  let integration ← builder.kaminoIntegration config
  let reserve ← builder.reserveAddress config.reserveLiquidityMint
  -- the last accounts allow an obligation that a withdrawal has closed to be created again
  return builder.push integration reserve (.kamino amount) <| accounts ++ [
    .writable builder.controllerAuthority,
    .readonly userMetadata,
    .readonly builder.programs.system,
    .readonly rentSysvar]

def pullKamino (builder : Builder) (position : KaminoPosition) (tokenProgram : Address)
    (amount : UInt64) : Logged Failure Instruction := do
  let config ← builder.kaminoConfig position
  let accounts ← builder.kaminoTransferAccounts config tokenProgram
  let integration ← builder.kaminoIntegration config
  let reserve ← builder.reserveAddress config.reserveLiquidityMint
  return builder.pull integration reserve (.kamino amount) accounts

/-- The accounts through which the farm for collateral pays its rewards out. -/
def harvestAccounts (builder : Builder) (config : Config.Kamino) (harvest : RewardHarvest) :
    Logged Failure (List AccountMeta) := do
  let farm := config.reserveFarmCollateral
  let rewardsAccount ← builder.tokenAccount builder.controllerAuthority harvest.rewardsMint
    harvest.rewardsTokenProgram
  let obligationFarm ← builder.obligationFarm config
  let rewardsVault ← builder.programs.derive (.farmRewardsVault farm harvest.rewardsMint)
  let treasuryVault ← builder.programs.derive
    (.farmTreasuryVault harvest.globalConfig harvest.rewardsMint)
  let vaultsAuthority ← builder.programs.derive (.farmVaultsAuthority farm)
  return [
    .writable obligationFarm,
    .writable farm,
    .writable rewardsVault,
    .writable treasuryVault,
    .readonly vaultsAuthority,
    .readonly harvest.globalConfig,
    .writable rewardsAccount,
    .readonly harvest.rewardsMint,
    .readonly harvest.scopePrices,
    .readonly harvest.rewardsTokenProgram,
    .readonly builder.programs.kaminoFarms,
    .readonly builder.programs.system,
    .readonly builder.programs.associatedToken]

def syncKamino (builder : Builder) (position : KaminoPosition) (tokenProgram : Address)
    (harvest : Option RewardHarvest) : Logged Failure Instruction := do
  let config ← builder.kaminoConfig position
  let vault ← builder.reserveVault config.reserveLiquidityMint tokenProgram
  let rewards ← match harvest with
    | some harvest => builder.harvestAccounts config harvest
    | none => pure []
  let integration ← builder.kaminoIntegration config
  let reserve ← builder.reserveAddress config.reserveLiquidityMint
  return builder.syncIntegration integration reserve <| [
    .writable vault,
    .readonly config.reserve,
    .readonly config.obligation] ++ rewards

end Builder

end LiquidityController
