import LiquidityController.Address.Derivation
import LiquidityController.Program

/-!
# Derived addresses

Every address that the controller and the programs around it derive, each with the program that
owns it and the seeds that identify it. The order of the seeds is part of the address.
-/

namespace LiquidityController

/-- A fixed text that keeps the seeds of one kind of account apart from those of another. -/
inductive Tag where
  | controller
  | controllerAuthority
  | permission
  | reserve
  | integration
  | oracle
  | driftSigner
  | driftState
  | userStats
  | user
  | spotMarket
  | spotMarketVault
  | liquiditySupply
  | collateralMint
  | collateralSupply
  | marketAuthority
  | userMetadata
  | rewardsVault
  | treasuryVault
  | authority
  deriving DecidableEq, Repr

namespace Tag

def text : Tag → String
  | controller => "controller"
  | controllerAuthority => "controller_authority"
  | permission => "permission"
  | reserve => "reserve"
  | integration => "integration"
  | oracle => "oracle"
  | driftSigner => "drift_signer"
  | driftState => "drift_state"
  | userStats => "user_stats"
  | user => "user"
  | spotMarket => "spot_market"
  | spotMarketVault => "spot_market_vault"
  | liquiditySupply => "reserve_liq_supply"
  | collateralMint => "reserve_coll_mint"
  | collateralSupply => "reserve_coll_supply"
  | marketAuthority => "lma"
  | userMetadata => "user_meta"
  | rewardsVault => "rvault"
  | treasuryVault => "tvault"
  | authority => "authority"

def seed (tag : Tag) : Seed where
  bytes := tag.text.toUTF8.toList
  length_le := by cases tag <;> decide +kernel

end Tag

/-- An account whose address is derived, described by what identifies it. -/
inductive Derived where
  | controller (id : UInt16)
  | controllerAuthority (controller : Address)
  | permission (controller authority : Address)
  | reserve (controller mint : Address)
  | integration (controller : Address) (configHash : Block 32)
  | oracle (nonce : Address)
  | associatedToken (owner mint tokenProgram : Address)
  | driftSigner
  | driftState
  | driftUserStats (authority : Address)
  | driftUser (authority : Address) (subAccount : UInt16)
  | driftSpotMarket (market : UInt16)
  | driftSpotMarketVault (market : UInt16)
  | kaminoObligation (id : UInt8) (owner market : Address)
  | kaminoLiquiditySupply (market mint : Address)
  | kaminoCollateralMint (market mint : Address)
  | kaminoCollateralSupply (market mint : Address)
  | kaminoMarketAuthority (market : Address)
  | kaminoUserMetadata (owner : Address)
  | farmObligation (farm obligation : Address)
  | farmRewardsVault (farm mint : Address)
  | farmTreasuryVault (globalConfig mint : Address)
  | farmVaultsAuthority (farm : Address)
  | farmTreasuryAuthority (globalConfig : Address)
  deriving DecidableEq

namespace Derived

def owner : Derived → Program
  | controller .. | controllerAuthority .. | permission .. | reserve .. | integration ..
  | oracle .. => .controller
  | associatedToken .. => .associatedToken
  | driftSigner | driftState | driftUserStats .. | driftUser .. | driftSpotMarket ..
  | driftSpotMarketVault .. => .drift
  | kaminoObligation .. | kaminoLiquiditySupply .. | kaminoCollateralMint ..
  | kaminoCollateralSupply .. | kaminoMarketAuthority .. | kaminoUserMetadata .. => .kaminoLend
  | farmObligation .. | farmRewardsVault .. | farmTreasuryVault .. | farmVaultsAuthority ..
  | farmTreasuryAuthority .. => .kaminoFarms

def seedList : Derived → List Seed
  | controller id => [Tag.controller.seed, .ofUInt16 id]
  | controllerAuthority key => [Tag.controllerAuthority.seed, .ofAddress key]
  | permission key authority => [Tag.permission.seed, .ofAddress key, .ofAddress authority]
  | reserve key mint => [Tag.reserve.seed, .ofAddress key, .ofAddress mint]
  | integration key configHash => [Tag.integration.seed, .ofAddress key, .ofDigest configHash]
  | oracle nonce => [Tag.oracle.seed, .ofAddress nonce]
  | associatedToken owner mint tokenProgram =>
    [.ofAddress owner, .ofAddress tokenProgram, .ofAddress mint]
  | driftSigner => [Tag.driftSigner.seed]
  | driftState => [Tag.driftState.seed]
  | driftUserStats authority => [Tag.userStats.seed, .ofAddress authority]
  | driftUser authority subAccount =>
    [Tag.user.seed, .ofAddress authority, .ofUInt16 subAccount]
  | driftSpotMarket market => [Tag.spotMarket.seed, .ofUInt16 market]
  | driftSpotMarketVault market => [Tag.spotMarketVault.seed, .ofUInt16 market]
  | kaminoObligation id owner market =>
    [.ofByte 0, .ofByte id, .ofAddress owner, .ofAddress market, .ofAddress .zero,
      .ofAddress .zero]
  | kaminoLiquiditySupply market mint =>
    [Tag.liquiditySupply.seed, .ofAddress market, .ofAddress mint]
  | kaminoCollateralMint market mint =>
    [Tag.collateralMint.seed, .ofAddress market, .ofAddress mint]
  | kaminoCollateralSupply market mint =>
    [Tag.collateralSupply.seed, .ofAddress market, .ofAddress mint]
  | kaminoMarketAuthority market => [Tag.marketAuthority.seed, .ofAddress market]
  | kaminoUserMetadata owner => [Tag.userMetadata.seed, .ofAddress owner]
  | farmObligation farm obligation =>
    [Tag.user.seed, .ofAddress farm, .ofAddress obligation]
  | farmRewardsVault farm mint => [Tag.rewardsVault.seed, .ofAddress farm, .ofAddress mint]
  | farmTreasuryVault globalConfig mint =>
    [Tag.treasuryVault.seed, .ofAddress globalConfig, .ofAddress mint]
  | farmVaultsAuthority farm => [Tag.authority.seed, .ofAddress farm]
  | farmTreasuryAuthority globalConfig => [Tag.authority.seed, .ofAddress globalConfig]

theorem length_seedList_le (account : Derived) : account.seedList.length ≤ 6 := by
  cases account <;> simp [seedList]

def seeds (account : Derived) : Seeds :=
  ⟨account.seedList, Nat.le_trans account.length_seedList_le (by decide)⟩

def find (program : Address) (account : Derived) : Except Failure (Address × UInt8) :=
  account.seeds.find program

def address (program : Address) (account : Derived) : Except Failure Address :=
  (account.find program).map Prod.fst

end Derived

/-- The address of an account under the program that owns it. -/
def Programs.derive (programs : Programs) (account : Derived) : Except Failure Address :=
  account.address (programs.get account.owner)

end LiquidityController
