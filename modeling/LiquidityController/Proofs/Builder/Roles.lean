import LiquidityController.Proofs.Builder.Layout
import LiquidityController.Proofs.Builder.Lookups
import LiquidityController.Proofs.Position.Integration

/-!
# Roles of an instruction

Whatever addresses a request mentions and whatever the derivations find, an instruction gives its
accounts the roles that the table lists for the shape of the request. The accounts that a caller
supplies keep the roles they came with, and come last.
-/

namespace LiquidityController

namespace Instruction

/-- The roles of the accounts of an instruction, in order. -/
def roles (instruction : Instruction) : List Role :=
  instruction.accounts.map AccountMeta.role

/-- The instruction lists what the table says for the shape, and what the caller supplied at the
end. -/
structure Fits (shape : Request.Shape) (supplied : List AccountMeta) (instruction : Instruction) :
    Prop where
  roles : instruction.roles = shape.roles
  drop_own : instruction.accounts.drop shape.own = supplied

variable {instruction : Instruction} {program : Address} {kind : Kind} {accounts : kind.Accounts}
  {arguments : kind.Arguments} {remaining first protocol supplied : List AccountMeta}
  {shape : Request.Shape}

theorem Fits.of_parts (parts : instruction.accounts = first ++ (protocol ++ supplied))
    (row : first.map AccountMeta.role = shape.row.map Entry.role)
    (trailing : protocol.map AccountMeta.role = shape.trailing)
    (last : supplied.map AccountMeta.role = shape.suppliedRoles) :
    Fits shape supplied instruction := by
  constructor
  · rw [Instruction.roles, parts, List.map_append, List.map_append, row, trailing, last,
      ← List.append_assoc]
    rfl
  · have rows : first.length = shape.row.length := by simpa using congrArg List.length row
    have before : shape.own = (first ++ protocol).length := by
      rw [Request.Shape.own, ← trailing, List.length_map, List.length_append, rows]
    rw [parts, ← List.append_assoc, before, List.drop_left]

theorem fits_make (parts : remaining = protocol ++ supplied)
    (row : (kind.slots accounts).map AccountMeta.role = shape.row.map Entry.role)
    (trailing : protocol.map AccountMeta.role = shape.trailing)
    (last : supplied.map AccountMeta.role = shape.suppliedRoles) :
    Fits shape supplied (make program kind accounts arguments remaining) := by
  subst parts
  exact .of_parts accounts_make row trailing last

end Instruction

open Instruction (Fits fits_make)

theorem SpotMarket.roles_accounts (markets : List SpotMarket) :
    (accounts markets).map AccountMeta.role = Request.Shape.marketRoles markets.length := by
  rw [accounts, Request.Shape.marketRoles, List.map_append, List.map_map, List.map_map,
    ← List.map_const, ← List.map_const]
  rfl

theorem refreshKaminoObligation_fits {program market obligation : Address}
    {reserves : List Address} {instruction : Instruction}
    (built : (refreshKaminoObligation program market obligation reserves).Returns instruction) :
    Fits (.refreshKaminoObligation reserves.length) [] instruction := by
  rw [refreshKaminoObligation] at built
  split at built
  · cases built
  · cases Logged.returns_pure.mp built
    have parts : AccountMeta.readonly market :: .writable obligation :: reserves.map .writable =
        [.readonly market, .writable obligation] ++ (reserves.map .writable ++ []) := by simp
    refine .of_parts parts rfl ?_ rfl
    rw [List.map_map, Request.Shape.trailing, ← List.map_const]
    rfl

namespace Builder

variable {builder : Builder} {instruction : Instruction} {mint tokenProgram : Address}
  {terms : IntegrationTerms} {amount : UInt64}

/-! ### Administration -/

theorem initializeController_fits {status : Status}
    (built : (builder.initializeController status).Returns instruction) :
    Fits .initializeController [] instruction := by
  rw [initializeController] at built
  split at built
  · cases built
  · cases Logged.returns_pure.mp built
    exact ⟨rfl, rfl⟩

theorem managePermission_fits {subject : Address} {status : Status} {capabilities : Capabilities}
    (built : (builder.managePermission subject status capabilities).Returns instruction) :
    Fits .managePermission [] instruction := by
  simp only [managePermission, Logged.returns_bind, Logged.returns_liftM, Logged.returns_report,
    Logged.returns_pure, true_and, exists_const] at built
  obtain ⟨permission, -, rfl⟩ := built
  exact ⟨rfl, rfl⟩

/-! ### Reserves and oracles -/

theorem initializeReserve_fits {status : Status} {rateLimit : RateLimit}
    (built : (builder.initializeReserve mint tokenProgram status rateLimit).Returns instruction) :
    Fits .initializeReserve [] instruction := by
  simp only [initializeReserve, Logged.returns_bind, Logged.returns_liftM, Logged.returns_report,
    Logged.returns_pure, true_and, exists_const] at built
  obtain ⟨reserve, -, vault, -, rfl⟩ := built
  exact ⟨rfl, rfl⟩

theorem manageReserve_fits {update : ReserveUpdate}
    (built : (builder.manageReserve mint update).Returns instruction) :
    Fits .manageReserve [] instruction := by
  simp only [manageReserve, Logged.returns_bind, Logged.returns_liftM, Logged.returns_pure] at built
  obtain ⟨reserve, -, arguments, -, rfl⟩ := built
  exact ⟨rfl, rfl⟩

theorem syncReserve_fits (built : (builder.syncReserve mint tokenProgram).Returns instruction) :
    Fits .syncReserve [] instruction := by
  simp only [syncReserve, Logged.returns_bind, Logged.returns_liftM, Logged.returns_pure] at built
  obtain ⟨reserve, -, vault, -, rfl⟩ := built
  exact ⟨rfl, rfl⟩

theorem initializeOracle_fits {oracleType : UInt8} {nonce priceFeed baseMint quoteMint : Address}
    (built : (builder.initializeOracle oracleType nonce priceFeed baseMint quoteMint).Returns
      instruction) :
    Fits .initializeOracle [] instruction := by
  simp only [initializeOracle, Logged.returns_bind, Logged.returns_liftM, Logged.returns_report,
    Logged.returns_pure, true_and, exists_const] at built
  obtain ⟨oracle, -, rfl⟩ := built
  exact ⟨rfl, rfl⟩

theorem updateOracle_fits (oracle priceFeed : Address) (feed : Option Feed)
    (newAuthority : Option Address) :
    Fits (.updateOracle newAuthority.isSome) []
      (builder.updateOracle oracle priceFeed feed newAuthority) := by
  cases newAuthority <;> exact ⟨rfl, rfl⟩

/-! ### Integrations -/

theorem initializeIntegration_fits {protocol : Protocol} {config : Config} {setup : Setup}
    {remaining listed supplied : List AccountMeta} {shape : Request.Shape}
    (parts : remaining = listed ++ supplied)
    (row : shape.row = Request.Shape.row (.initializeIntegration []))
    (trailing : listed.map AccountMeta.role = shape.trailing)
    (last : supplied.map AccountMeta.role = shape.suppliedRoles)
    (built : (builder.initializeIntegration protocol config terms setup remaining).Returns
      instruction) :
    Fits shape supplied instruction := by
  obtain ⟨description, integration, -, -, rfl⟩ := initializeIntegration_returns built
  exact fits_make parts (by rw [row]; rfl) trailing last

theorem initializeExternal_fits {transfer : ExternalTransfer}
    (built : (builder.initializeExternal terms transfer).Returns instruction) :
    Fits .initializeExternal [] instruction := by
  simp only [initializeExternal, Logged.returns_bind] at built
  obtain ⟨config, -, built⟩ := built
  exact initializeIntegration_fits (List.append_nil _).symm rfl rfl rfl built

theorem initializeDrift_fits {position : DriftPosition}
    (built : (builder.initializeDrift terms position).Returns instruction) :
    Fits .initializeDrift [] instruction := by
  simp only [initializeDrift, Logged.returns_bind, Logged.returns_liftM] at built
  obtain ⟨user, -, userStats, -, state, -, spotMarket, -, built⟩ := built
  exact initializeIntegration_fits (List.append_nil _).symm rfl rfl rfl built

theorem initializeKamino_fits {position : KaminoPosition}
    (built : (builder.initializeKamino terms position).Returns instruction) :
    Fits .initializeKamino [] instruction := by
  simp only [initializeKamino, Logged.returns_bind, Logged.returns_liftM] at built
  obtain ⟨config, -, userMetadata, -, obligationFarm, -, marketAuthority, -, built⟩ := built
  exact initializeIntegration_fits (List.append_nil _).symm rfl rfl rfl built

theorem manageIntegration_fits {integration : Address} {update : IntegrationUpdate}
    (built : (builder.manageIntegration integration update).Returns instruction) :
    Fits .manageIntegration [] instruction := by
  simp only [manageIntegration, Logged.returns_bind, Logged.returns_pure] at built
  obtain ⟨arguments, -, rfl⟩ := built
  exact ⟨rfl, rfl⟩

/-! ### Transfers to a recipient -/

theorem pushExternal_fits {transfer : ExternalTransfer}
    (built : (builder.pushExternal transfer amount).Returns instruction) :
    Fits .pushExternal [] instruction := by
  simp only [pushExternal, Logged.returns_bind, Logged.returns_liftM, Logged.returns_pure] at built
  obtain ⟨config, -, integration, -, reserve, -, vault, -, rfl⟩ := built
  exact ⟨rfl, rfl⟩

/-! ### Deposits in spot markets -/

theorem pushDrift_fits {position : DriftPosition} {reduceOnly : Bool} {markets : List SpotMarket}
    (built : (builder.pushDrift position tokenProgram amount reduceOnly markets).Returns
      instruction) :
    Fits (.pushDrift markets.length) [] instruction := by
  simp only [pushDrift, Logged.returns_bind, Logged.returns_liftM, Logged.returns_pure] at built
  obtain ⟨vault, -, state, -, user, -, userStats, -, marketVault, -, integration, -, reserve, -,
    rfl⟩ := built
  refine fits_make (List.append_nil _).symm rfl ?_ rfl
  rw [List.map_append, SpotMarket.roles_accounts]
  rfl

theorem pullDrift_fits {position : DriftPosition} {markets : List SpotMarket}
    (built : (builder.pullDrift position tokenProgram amount markets).Returns instruction) :
    Fits (.pullDrift markets.length) [] instruction := by
  simp only [pullDrift, Logged.returns_bind, Logged.returns_liftM, Logged.returns_pure] at built
  obtain ⟨signer, -, state, -, user, -, userStats, -, marketVault, -, vault, -, integration, -,
    reserve, -, rfl⟩ := built
  refine fits_make (List.append_nil _).symm rfl ?_ rfl
  rw [List.map_append, List.map_append, SpotMarket.roles_accounts]
  rfl

theorem syncDrift_fits {position : DriftPosition}
    (built : (builder.syncDrift position).Returns instruction) :
    Fits .syncDrift [] instruction := by
  simp only [syncDrift, Logged.returns_bind, Logged.returns_liftM, Logged.returns_pure] at built
  obtain ⟨marketVault, -, spotMarket, -, user, -, integration, -, reserve, -, rfl⟩ := built
  exact ⟨rfl, rfl⟩

/-! ### Deposits in lending reserves -/

theorem kaminoTransferAccounts_roles {config : Config.Kamino} {accounts : List AccountMeta}
    (listed : (builder.kaminoTransferAccounts config tokenProgram).Returns accounts) :
    accounts.map AccountMeta.role = Request.Shape.lendingRoles := by
  simp only [kaminoTransferAccounts_eq, Logged.returns_bind, Logged.returns_liftM,
    Logged.returns_pure] at listed
  obtain ⟨obligationFarm, -, vault, -, liquiditySupply, -, collateralMint, -, collateralSupply, -,
    marketAuthority, -, rfl⟩ := listed
  rfl

theorem rewardAccounts_roles {config : Config.Kamino} {harvest : Option RewardHarvest}
    {accounts : List AccountMeta}
    (listed : (builder.rewardAccounts config harvest).Returns accounts) :
    accounts.map AccountMeta.role =
      if harvest.isSome then Request.Shape.harvestRoles else [] := by
  cases harvest with
  | none =>
    cases Logged.returns_pure.mp listed
    rfl
  | some harvest =>
    simp only [rewardAccounts, harvestAccounts, Logged.returns_bind, Logged.returns_liftM,
      Logged.returns_pure] at listed
    obtain ⟨rewardsAccount, -, obligationFarm, -, rewardsVault, -, treasuryVault, -,
      vaultsAuthority, -, rfl⟩ := listed
    rfl

theorem pushKamino_fits {position : KaminoPosition}
    (built : (builder.pushKamino position tokenProgram amount).Returns instruction) :
    Fits .pushKamino [] instruction := by
  simp only [pushKamino, Logged.returns_bind, Logged.returns_liftM, Logged.returns_pure] at built
  obtain ⟨config, -, accounts, listed, userMetadata, -, integration, -, reserve, -, rfl⟩ := built
  refine fits_make (List.append_nil _).symm rfl ?_ rfl
  rw [List.map_append, kaminoTransferAccounts_roles listed]
  rfl

theorem pullKamino_fits {position : KaminoPosition}
    (built : (builder.pullKamino position tokenProgram amount).Returns instruction) :
    Fits .pullKamino [] instruction := by
  simp only [pullKamino, Logged.returns_bind, Logged.returns_liftM, Logged.returns_pure] at built
  obtain ⟨config, -, accounts, listed, integration, -, reserve, -, rfl⟩ := built
  exact fits_make (List.append_nil _).symm rfl (kaminoTransferAccounts_roles listed) rfl

theorem syncKamino_fits {position : KaminoPosition} {harvest : Option RewardHarvest}
    (built : (builder.syncKamino position tokenProgram harvest).Returns instruction) :
    Fits (.syncKamino harvest.isSome) [] instruction := by
  simp only [syncKamino_eq, Logged.returns_bind, Logged.returns_liftM, Logged.returns_pure] at built
  obtain ⟨config, -, vault, -, rewards, listed, integration, -, reserve, -, rfl⟩ := built
  refine fits_make (List.append_nil _).symm rfl ?_ rfl
  rw [List.map_append, rewardAccounts_roles listed]
  rfl

/-! ### All requests -/

theorem perform_fits {request : Request}
    (built : (builder.perform request).Returns instruction) :
    Fits request.shape request.supplied instruction := by
  cases request with
  | initializeController status => exact initializeController_fits built
  | managePermission subject status capabilities => exact managePermission_fits built
  | initializeReserve mint tokenProgram status rateLimit => exact initializeReserve_fits built
  | manageReserve mint update => exact manageReserve_fits built
  | syncReserve mint tokenProgram => exact syncReserve_fits built
  | initializeOracle oracleType nonce priceFeed baseMint quoteMint =>
    exact initializeOracle_fits built
  | updateOracle oracle priceFeed feed newAuthority =>
    cases Logged.returns_pure.mp built
    exact updateOracle_fits oracle priceFeed feed newAuthority
  | refreshKaminoObligation market obligation reserves => exact refreshKaminoObligation_fits built
  | initializeIntegration protocol config terms setup remaining =>
    exact initializeIntegration_fits (List.nil_append _).symm rfl rfl rfl built
  | manageIntegration integration update => exact manageIntegration_fits built
  | initializeAtomicSwap terms swap =>
    exact initializeIntegration_fits (List.append_nil _).symm rfl rfl rfl built
  | initializeExternal terms transfer => exact initializeExternal_fits built
  | pushExternal transfer amount => exact pushExternal_fits built
  | initializeDrift terms position => exact initializeDrift_fits built
  | pushDrift position tokenProgram amount reduceOnly markets => exact pushDrift_fits built
  | pullDrift position tokenProgram amount markets => exact pullDrift_fits built
  | syncDrift position => exact syncDrift_fits built
  | initializeKamino terms position => exact initializeKamino_fits built
  | pushKamino position tokenProgram amount => exact pushKamino_fits built
  | pullKamino position tokenProgram amount => exact pullKamino_fits built
  | syncKamino position tokenProgram harvest => exact syncKamino_fits built
  | syncIntegration _ _ remaining | push _ _ _ remaining | pull _ _ _ remaining =>
    -- these cannot fail and end in what the caller supplies
    cases Logged.returns_pure.mp built
    exact fits_make (List.nil_append _).symm rfl rfl rfl
  | manageController _ | claimRent _ | refreshOracle _ _ | refreshKaminoReserve _ _ _ =>
    cases Logged.returns_pure.mp built
    exact ⟨rfl, rfl⟩

end Builder

end LiquidityController
