import LiquidityController.Proofs.Builder.Lookups
import LiquidityController.Proofs.Position.Operations

/-!
# The funds of a mint

The controller keeps its funds in a mint in one reserve and, for a token program, in one vault.
Every operation that touches them looks both up again and lists them at places of its own; a
deposit in a spot market lists the vault twice. Were two operations to disagree, funds would be
moved from an account into which none were paid.

## Main result

`Builder.funds_agree`: all operations on the funds of a mint list the reserve that is derived from
the controller and the mint, the associated token account of the controller authority, and next
to it the token program of that account.
-/

namespace LiquidityController

namespace Request

/-- The request touches the funds in the mint, and its instruction lists the reserve at the
slot. -/
inductive ListsReserve : Request → Address → Nat → Prop where
  | initializeReserve (mint tokenProgram : Address) (status : Status) (rateLimit : RateLimit) :
    ListsReserve (.initializeReserve mint tokenProgram status rateLimit) mint 5
  | manageReserve (mint : Address) (update : ReserveUpdate) :
    ListsReserve (.manageReserve mint update) mint 4
  | syncReserve (mint tokenProgram : Address) :
    ListsReserve (.syncReserve mint tokenProgram) mint 2
  | pushExternal (transfer : ExternalTransfer) (amount : UInt64) :
    ListsReserve (.pushExternal transfer amount) transfer.mint 5
  | pushDrift (position : DriftPosition) (tokenProgram : Address) (amount : UInt64)
    (reduceOnly : Bool) (markets : List SpotMarket) :
    ListsReserve (.pushDrift position tokenProgram amount reduceOnly markets) position.mint 5
  | pullDrift (position : DriftPosition) (tokenProgram : Address) (amount : UInt64)
    (markets : List SpotMarket) :
    ListsReserve (.pullDrift position tokenProgram amount markets) position.mint 5
  | syncDrift (position : DriftPosition) : ListsReserve (.syncDrift position) position.mint 4
  | pushKamino (position : KaminoPosition) (tokenProgram : Address) (amount : UInt64) :
    ListsReserve (.pushKamino position tokenProgram amount) position.reserveLiquidityMint 5
  | pullKamino (position : KaminoPosition) (tokenProgram : Address) (amount : UInt64) :
    ListsReserve (.pullKamino position tokenProgram amount) position.reserveLiquidityMint 5
  | syncKamino (position : KaminoPosition) (tokenProgram : Address)
    (harvest : Option RewardHarvest) :
    ListsReserve (.syncKamino position tokenProgram harvest) position.reserveLiquidityMint 4

/-- The request touches the vault of the mint under the token program, and its instruction lists
the vault at the first slot. Unless the request only reads the vault, the instruction lists the
token program as well, at the second slot. -/
inductive ListsVault : Request → Address → Address → Nat → Option Nat → Prop where
  | initializeReserve (mint tokenProgram : Address) (status : Status) (rateLimit : RateLimit) :
    ListsVault (.initializeReserve mint tokenProgram status rateLimit) mint tokenProgram 7 (some 8)
  | syncReserve (mint tokenProgram : Address) :
    ListsVault (.syncReserve mint tokenProgram) mint tokenProgram 3 none
  | pushExternal (transfer : ExternalTransfer) (amount : UInt64) :
    ListsVault (.pushExternal transfer amount) transfer.mint transfer.tokenProgram 8 (some 11)
  | pushDrift (position : DriftPosition) (tokenProgram : Address) (amount : UInt64)
    (reduceOnly : Bool) (markets : List SpotMarket) :
    ListsVault (.pushDrift position tokenProgram amount reduceOnly markets) position.mint
      tokenProgram 11 (some 12)
  | pushDriftAgain (position : DriftPosition) (tokenProgram : Address) (amount : UInt64)
    (reduceOnly : Bool) (markets : List SpotMarket) :
    ListsVault (.pushDrift position tokenProgram amount reduceOnly markets) position.mint
      tokenProgram 13 (some 12)
  | pullDrift (position : DriftPosition) (tokenProgram : Address) (amount : UInt64)
    (markets : List SpotMarket) :
    ListsVault (.pullDrift position tokenProgram amount markets) position.mint tokenProgram 12
      (some 13)
  | pushKamino (position : KaminoPosition) (tokenProgram : Address) (amount : UInt64) :
    ListsVault (.pushKamino position tokenProgram amount) position.reserveLiquidityMint
      tokenProgram 7 (some 17)
  | pullKamino (position : KaminoPosition) (tokenProgram : Address) (amount : UInt64) :
    ListsVault (.pullKamino position tokenProgram amount) position.reserveLiquidityMint
      tokenProgram 7 (some 17)
  | syncKamino (position : KaminoPosition) (tokenProgram : Address)
    (harvest : Option RewardHarvest) :
    ListsVault (.syncKamino position tokenProgram harvest) position.reserveLiquidityMint
      tokenProgram 5 none

end Request

namespace Builder

/-- The instruction lists the reserve of the mint at the slot. -/
def ReserveAt (builder : Builder) (mint : Address) (slot : Nat) (instruction : Instruction) :
    Prop :=
  ∃ reserve, builder.reserveAddress mint = .ok reserve ∧
    instruction.addresses[slot]? = some reserve

/-- The instruction lists the vault of the mint at the slot, and its token program at the paired
slot if there is one. -/
def VaultAt (builder : Builder) (mint tokenProgram : Address) (slot : Nat) (paired : Option Nat)
    (instruction : Instruction) : Prop :=
  ∃ vault, (builder.reserveVault mint tokenProgram).Returns vault ∧
    instruction.addresses[slot]? = some vault ∧
    ∀ other ∈ paired, instruction.addresses[other]? = some tokenProgram

section Operations

variable {builder : Builder} {instruction : Instruction} {mint tokenProgram : Address}
  {amount : UInt64}

/-! ### Reserves -/

theorem initializeReserve_funds {status : Status} {rateLimit : RateLimit}
    (built : (builder.initializeReserve mint tokenProgram status rateLimit).Returns instruction) :
    builder.ReserveAt mint 5 instruction ∧
      builder.VaultAt mint tokenProgram 7 (some 8) instruction := by
  simp only [initializeReserve, Logged.returns_bind, Logged.returns_liftM, Logged.returns_report,
    Logged.returns_pure, true_and, exists_const] at built
  obtain ⟨reserve, derived, vault, held, rfl⟩ := built
  exact ⟨⟨reserve, derived, rfl⟩, vault, held, rfl, by rintro _ ⟨⟩; rfl⟩

theorem manageReserve_funds {update : ReserveUpdate}
    (built : (builder.manageReserve mint update).Returns instruction) :
    builder.ReserveAt mint 4 instruction := by
  simp only [manageReserve, Logged.returns_bind, Logged.returns_liftM, Logged.returns_pure] at built
  obtain ⟨reserve, derived, arguments, -, rfl⟩ := built
  exact ⟨reserve, derived, rfl⟩

theorem syncReserve_funds (built : (builder.syncReserve mint tokenProgram).Returns instruction) :
    builder.ReserveAt mint 2 instruction ∧
      builder.VaultAt mint tokenProgram 3 none instruction := by
  simp only [syncReserve, Logged.returns_bind, Logged.returns_liftM, Logged.returns_pure] at built
  obtain ⟨reserve, derived, vault, held, rfl⟩ := built
  exact ⟨⟨reserve, derived, rfl⟩, vault, held, rfl, by rintro _ ⟨⟩⟩

/-! ### Transfers to a recipient -/

theorem pushExternal_funds {transfer : ExternalTransfer}
    (built : (builder.pushExternal transfer amount).Returns instruction) :
    builder.ReserveAt transfer.mint 5 instruction ∧
      builder.VaultAt transfer.mint transfer.tokenProgram 8 (some 11) instruction := by
  simp only [pushExternal, Logged.returns_bind, Logged.returns_liftM, Logged.returns_pure] at built
  obtain ⟨fields, resolved, integration, -, reserve, derived, vault, held, rfl⟩ := built
  -- the config repeats the mint and the token program of the transfer
  obtain ⟨-, tokenAccount, -, rfl⟩ := externalConfig_returns.mp resolved
  exact ⟨⟨reserve, derived, rfl⟩, vault, held, rfl, by rintro _ ⟨⟩; rfl⟩

/-! ### Deposits in spot markets -/

theorem pushDrift_funds {position : DriftPosition} {reduceOnly : Bool} {markets : List SpotMarket}
    (built : (builder.pushDrift position tokenProgram amount reduceOnly markets).Returns
      instruction) :
    builder.ReserveAt position.mint 5 instruction ∧
      builder.VaultAt position.mint tokenProgram 11 (some 12) instruction ∧
      builder.VaultAt position.mint tokenProgram 13 (some 12) instruction := by
  simp only [pushDrift, Logged.returns_bind, Logged.returns_liftM, Logged.returns_pure] at built
  obtain ⟨vault, held, state, -, user, -, userStats, -, marketVault, -, integration, -, reserve,
    derived, rfl⟩ := built
  exact ⟨⟨reserve, derived, rfl⟩, ⟨vault, held, rfl, by rintro _ ⟨⟩; rfl⟩,
    ⟨vault, held, rfl, by rintro _ ⟨⟩; rfl⟩⟩

theorem pullDrift_funds {position : DriftPosition} {markets : List SpotMarket}
    (built : (builder.pullDrift position tokenProgram amount markets).Returns instruction) :
    builder.ReserveAt position.mint 5 instruction ∧
      builder.VaultAt position.mint tokenProgram 12 (some 13) instruction := by
  simp only [pullDrift, Logged.returns_bind, Logged.returns_liftM, Logged.returns_pure] at built
  obtain ⟨signer, -, state, -, user, -, userStats, -, marketVault, -, vault, held, integration, -,
    reserve, derived, rfl⟩ := built
  exact ⟨⟨reserve, derived, rfl⟩, vault, held, rfl, by rintro _ ⟨⟩; rfl⟩

theorem syncDrift_funds {position : DriftPosition}
    (built : (builder.syncDrift position).Returns instruction) :
    builder.ReserveAt position.mint 4 instruction := by
  simp only [syncDrift, Logged.returns_bind, Logged.returns_liftM, Logged.returns_pure] at built
  obtain ⟨marketVault, -, spotMarket, -, user, -, integration, -, reserve, derived, rfl⟩ := built
  exact ⟨reserve, derived, rfl⟩

/-! ### Deposits in lending reserves -/

theorem pushKamino_funds {position : KaminoPosition}
    (built : (builder.pushKamino position tokenProgram amount).Returns instruction) :
    builder.ReserveAt position.reserveLiquidityMint 5 instruction ∧
      builder.VaultAt position.reserveLiquidityMint tokenProgram 7 (some 17) instruction := by
  simp only [pushKamino, kaminoTransferAccounts_eq, Logged.returns_bind, Logged.returns_liftM,
    Logged.returns_pure] at built
  obtain ⟨fields, chosen, accounts, ⟨obligationFarm, -, vault, held, liquiditySupply, -,
    collateralMint, -, collateralSupply, -, marketAuthority, -, rfl⟩, userMetadata, -,
    integration, -, reserve, derived, rfl⟩ := built
  -- whatever the obligation is, the config repeats the mint of the position
  obtain ⟨obligation, -, rfl⟩ := kaminoConfig_eq_ok.mp chosen
  exact ⟨⟨reserve, derived, rfl⟩, vault, held, rfl, by rintro _ ⟨⟩; rfl⟩

theorem pullKamino_funds {position : KaminoPosition}
    (built : (builder.pullKamino position tokenProgram amount).Returns instruction) :
    builder.ReserveAt position.reserveLiquidityMint 5 instruction ∧
      builder.VaultAt position.reserveLiquidityMint tokenProgram 7 (some 17) instruction := by
  simp only [pullKamino, kaminoTransferAccounts_eq, Logged.returns_bind, Logged.returns_liftM,
    Logged.returns_pure] at built
  obtain ⟨fields, chosen, accounts, ⟨obligationFarm, -, vault, held, liquiditySupply, -,
    collateralMint, -, collateralSupply, -, marketAuthority, -, rfl⟩, integration, -, reserve,
    derived, rfl⟩ := built
  obtain ⟨obligation, -, rfl⟩ := kaminoConfig_eq_ok.mp chosen
  exact ⟨⟨reserve, derived, rfl⟩, vault, held, rfl, by rintro _ ⟨⟩; rfl⟩

theorem syncKamino_funds {position : KaminoPosition} {harvest : Option RewardHarvest}
    (built : (builder.syncKamino position tokenProgram harvest).Returns instruction) :
    builder.ReserveAt position.reserveLiquidityMint 4 instruction ∧
      builder.VaultAt position.reserveLiquidityMint tokenProgram 5 none instruction := by
  simp only [syncKamino_eq, Logged.returns_bind, Logged.returns_liftM, Logged.returns_pure] at built
  obtain ⟨fields, chosen, vault, held, rewards, -, integration, -, reserve, derived, rfl⟩ := built
  obtain ⟨obligation, -, rfl⟩ := kaminoConfig_eq_ok.mp chosen
  exact ⟨⟨reserve, derived, rfl⟩, vault, held, rfl, by rintro _ ⟨⟩⟩

/-! ### All operations -/

theorem perform_reserveAt {request : Request} {slot : Nat} (lists : request.ListsReserve mint slot)
    (built : (builder.perform request).Returns instruction) :
    builder.ReserveAt mint slot instruction := by
  cases lists with
  | initializeReserve mint tokenProgram status rateLimit =>
    exact (initializeReserve_funds built).1
  | manageReserve mint update => exact manageReserve_funds built
  | syncReserve mint tokenProgram => exact (syncReserve_funds built).1
  | pushExternal transfer amount => exact (pushExternal_funds built).1
  | pushDrift position tokenProgram amount reduceOnly markets => exact (pushDrift_funds built).1
  | pullDrift position tokenProgram amount markets => exact (pullDrift_funds built).1
  | syncDrift position => exact syncDrift_funds built
  | pushKamino position tokenProgram amount => exact (pushKamino_funds built).1
  | pullKamino position tokenProgram amount => exact (pullKamino_funds built).1
  | syncKamino position tokenProgram harvest => exact (syncKamino_funds built).1

theorem perform_vaultAt {request : Request} {slot : Nat} {paired : Option Nat}
    (lists : request.ListsVault mint tokenProgram slot paired)
    (built : (builder.perform request).Returns instruction) :
    builder.VaultAt mint tokenProgram slot paired instruction := by
  cases lists with
  | initializeReserve mint tokenProgram status rateLimit =>
    exact (initializeReserve_funds built).2
  | syncReserve mint tokenProgram => exact (syncReserve_funds built).2
  | pushExternal transfer amount => exact (pushExternal_funds built).2
  | pushDrift position tokenProgram amount reduceOnly markets => exact (pushDrift_funds built).2.1
  | pushDriftAgain position tokenProgram amount reduceOnly markets =>
    exact (pushDrift_funds built).2.2
  | pullDrift position tokenProgram amount markets => exact (pullDrift_funds built).2
  | pushKamino position tokenProgram amount => exact (pushKamino_funds built).2
  | pullKamino position tokenProgram amount => exact (pullKamino_funds built).2
  | syncKamino position tokenProgram harvest => exact (syncKamino_funds built).2

end Operations

/-! ### Main theorem -/

/-- Whatever is done with the funds in a mint, the instruction lists the reserve that is derived
from the controller and the mint. If funds are moved under a token program or their vault is read,
the instruction lists the associated token account of the controller authority under that
program, and the program itself wherever it goes with the vault. -/
theorem funds_agree (builder : Builder) (mint : Address) :
    (∀ request slot instruction, request.ListsReserve mint slot →
      (builder.perform request).result = .ok instruction →
      ∃ reserve, builder.programs.derive (.reserve builder.controller mint) = .ok reserve ∧
        instruction.addresses[slot]? = some reserve) ∧
    (∀ tokenProgram request slot paired instruction,
      request.ListsVault mint tokenProgram slot paired →
      (builder.perform request).result = .ok instruction →
      builder.programs.isTokenProgram tokenProgram = true ∧
      ∃ vault, builder.programs.derive
          (.associatedToken builder.controllerAuthority mint tokenProgram) = .ok vault ∧
        instruction.addresses[slot]? = some vault ∧
        ∀ other ∈ paired, instruction.addresses[other]? = some tokenProgram) := by
  constructor
  · intro request slot instruction lists built
    exact perform_reserveAt lists built
  · intro tokenProgram request slot paired instruction lists built
    obtain ⟨vault, held, listed, beside⟩ := perform_vaultAt lists built
    obtain ⟨accepted, derived⟩ := reserveVault_returns.mp held
    exact ⟨accepted, vault, derived, listed, beside⟩

/-- Under the public deployments, the vault that is created for payouts is the one from which they
are paid, and both instructions list its reserve and its token program. -/
theorem funds_agree_on_payout : ∃ created pushed reserve vault,
    (ofZero.perform
      (.initializeReserve payout.mint payout.tokenProgram .active .unlimited)).result =
      .ok created ∧
    (ofZero.perform (.pushExternal payout 7)).result = .ok pushed ∧
    created.addresses[5]? = some reserve ∧ pushed.addresses[5]? = some reserve ∧
    created.addresses[7]? = some vault ∧ pushed.addresses[8]? = some vault ∧
    created.addresses[8]? = some payout.tokenProgram ∧
    pushed.addresses[11]? = some payout.tokenProgram := by
  obtain ⟨created, built⟩ : ∃ created, (ofZero.perform
      (.initializeReserve payout.mint payout.tokenProgram .active .unlimited)).result =
      .ok created := exists_eq_ok (by decide +kernel)
  obtain ⟨pushed, built'⟩ : ∃ pushed, (ofZero.perform (.pushExternal payout 7)).result =
      .ok pushed := exists_eq_ok (by decide +kernel)
  have reserves := (funds_agree ofZero payout.mint).1
  have vaults := (funds_agree ofZero payout.mint).2 payout.tokenProgram
  obtain ⟨reserve, derived, listed⟩ :=
    reserves _ 5 created (.initializeReserve _ payout.tokenProgram .active .unlimited) built
  obtain ⟨reserve', derived', listed'⟩ := reserves _ 5 pushed (.pushExternal payout 7) built'
  cases Except.ok.inj (derived.symm.trans derived')
  obtain ⟨-, vault, held, place, beside⟩ :=
    vaults _ 7 (some 8) created (.initializeReserve _ _ .active .unlimited) built
  obtain ⟨-, vault', held', place', beside'⟩ :=
    vaults _ 8 (some 11) pushed (.pushExternal payout 7) built'
  cases Except.ok.inj (held.symm.trans held')
  exact ⟨created, pushed, reserve, vault, built, built', listed, listed', place, place',
    beside 8 rfl, beside' 11 rfl⟩

end Builder

end LiquidityController
