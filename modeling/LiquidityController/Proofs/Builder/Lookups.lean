import LiquidityController.Builder.Request
import LiquidityController.Proofs.Logged
import LiquidityController.Proofs.Wire.Lawful

/-!
# Lookups of a builder

What the operations look up before they make an instruction. Three of them choose between an
account that is given and one that is derived. The choice is named here and each of the three is
written as one sequence of lookups, so that no proof about an operation has to split on it.
-/

namespace LiquidityController

/-- The fields of the config of a position with a given obligation. -/
def KaminoPosition.fields (position : KaminoPosition) (obligation : Address) : Config.Kamino where
  market := position.market
  reserve := position.reserve
  reserveFarmCollateral := position.reserveFarmCollateral
  reserveFarmDebt := position.reserveFarmDebt
  reserveLiquidityMint := position.reserveLiquidityMint
  obligation := obligation
  obligationId := position.obligationId

namespace Builder

/-- The token account into which a transfer pays, given or derived. -/
def recipientAccount (builder : Builder) (transfer : ExternalTransfer) (tokenProgram : Address) :
    Except Failure Address :=
  match transfer.tokenAccount with
  | some account => .ok account
  | none =>
    builder.programs.derive (.associatedToken transfer.recipient transfer.mint tokenProgram)

/-- What a transfer lists as the account that the farm for collateral keeps. -/
def farmAccount (builder : Builder) (config : Config.Kamino) : Except Failure Address :=
  if config.reserveFarmCollateral = .zero then .ok builder.programs.kaminoLend
  else builder.obligationFarm config

/-- The accounts that collect rewards, if any are asked for. -/
def rewardAccounts (builder : Builder) (config : Config.Kamino) :
    Option RewardHarvest → Logged Failure (List AccountMeta)
  | some harvest => builder.harvestAccounts config harvest
  | none => pure []

variable {builder : Builder}

/-! ### Choices as lookups -/

theorem externalConfig_eq (transfer : ExternalTransfer) :
    builder.externalConfig transfer = (do
      let program ← builder.tokenProgram transfer.tokenProgram
      let tokenAccount ← builder.recipientAccount transfer program
      return {
        program, mint := transfer.mint, recipient := transfer.recipient, tokenAccount }) := by
  simp only [externalConfig, recipientAccount]
  cases transfer.tokenAccount <;> rfl

theorem kaminoTransferAccounts_eq (config : Config.Kamino) (tokenProgram : Address) :
    builder.kaminoTransferAccounts config tokenProgram = (do
      let mint := config.reserveLiquidityMint
      let obligationFarm ← builder.farmAccount config
      let vault ← builder.reserveVault mint tokenProgram
      let liquiditySupply ← builder.programs.derive (.kaminoLiquiditySupply config.market mint)
      let collateralMint ← builder.programs.derive (.kaminoCollateralMint config.market mint)
      let collateralSupply ← builder.programs.derive (.kaminoCollateralSupply config.market mint)
      let marketAuthority ← builder.programs.derive (.kaminoMarketAuthority config.market)
      return [
        .writable vault,
        .writable config.obligation,
        .writable config.reserve,
        .readonly mint,
        .writable liquiditySupply,
        .writable collateralMint,
        .writable collateralSupply,
        .readonly marketAuthority,
        .readonly config.market,
        .readonly builder.programs.token,
        .readonly tokenProgram,
        .readonly instructionsSysvar,
        .writable obligationFarm,
        .writable config.reserveFarmCollateral,
        .readonly builder.programs.kaminoFarms,
        .readonly builder.programs.kaminoLend]) := by
  simp only [kaminoTransferAccounts, farmAccount]
  split <;> rfl

theorem syncKamino_eq (position : KaminoPosition) (tokenProgram : Address)
    (harvest : Option RewardHarvest) :
    builder.syncKamino position tokenProgram harvest = (do
      let config ← builder.kaminoConfig position
      let vault ← builder.reserveVault config.reserveLiquidityMint tokenProgram
      let rewards ← builder.rewardAccounts config harvest
      let integration ← builder.kaminoIntegration config
      let reserve ← builder.reserveAddress config.reserveLiquidityMint
      return builder.syncIntegration integration reserve <| [
        .writable vault,
        .readonly config.reserve,
        .readonly config.obligation] ++ rewards) := by
  cases harvest <;> rfl

/-! ### Token accounts -/

theorem tokenProgram_returns {program found : Address} :
    (builder.tokenProgram program).Returns found ↔
      builder.programs.isTokenProgram program = true ∧ program = found := by
  rw [tokenProgram]
  split
  next accepted => simp [accepted]
  next rejected => simp [Logged.reject, Logged.Returns, rejected]

theorem tokenAccount_returns {owner mint tokenProgram account : Address} :
    (builder.tokenAccount owner mint tokenProgram).Returns account ↔
      builder.programs.isTokenProgram tokenProgram = true ∧
        builder.programs.derive (.associatedToken owner mint tokenProgram) = .ok account := by
  simp only [tokenAccount, Logged.returns_bind, Logged.returns_liftM, tokenProgram_returns]
  constructor
  · rintro ⟨program, ⟨accepted, rfl⟩, derived⟩
    exact ⟨accepted, derived⟩
  · rintro ⟨accepted, derived⟩
    exact ⟨tokenProgram, ⟨accepted, rfl⟩, derived⟩

theorem reserveVault_returns {mint tokenProgram vault : Address} :
    (builder.reserveVault mint tokenProgram).Returns vault ↔
      builder.programs.isTokenProgram tokenProgram = true ∧
        builder.programs.derive
          (.associatedToken builder.controllerAuthority mint tokenProgram) = .ok vault :=
  tokenAccount_returns

/-! ### Configs -/

theorem externalConfig_returns {transfer : ExternalTransfer} {fields : Config.SplTokenExternal} :
    (builder.externalConfig transfer).Returns fields ↔
      builder.programs.isTokenProgram transfer.tokenProgram = true ∧
        ∃ tokenAccount, builder.recipientAccount transfer transfer.tokenProgram =
          .ok tokenAccount ∧
        ⟨transfer.tokenProgram, transfer.mint, transfer.recipient, tokenAccount⟩ = fields := by
  simp only [externalConfig_eq, Logged.returns_bind, Logged.returns_liftM, Logged.returns_pure,
    tokenProgram_returns]
  constructor
  · rintro ⟨program, ⟨accepted, rfl⟩, resolved⟩
    exact ⟨accepted, resolved⟩
  · rintro ⟨accepted, resolved⟩
    exact ⟨transfer.tokenProgram, ⟨accepted, rfl⟩, resolved⟩

theorem kaminoConfig_eq_ok {position : KaminoPosition} {fields : Config.Kamino} :
    builder.kaminoConfig position = .ok fields ↔
      ∃ obligation, builder.programs.derive (.kaminoObligation position.obligationId
          builder.controllerAuthority position.market) = .ok obligation ∧
        position.fields obligation = fields := by
  rw [kaminoConfig, bind_eq_ok]
  simp only [pure, Except.pure, Except.ok.injEq]
  rfl

/-! ### A builder under the public deployments -/

theorem eq_ok_of_toOption {ε α : Type} {attempt : Except ε α} {value : α}
    (found : attempt.toOption = some value) : attempt = .ok value := by
  cases attempt with
  | error failure => cases found
  | ok other => cases found; rfl

theorem exists_eq_ok {ε α : Type} {attempt : Except ε α} (succeeds : attempt.isOk) :
    ∃ value, attempt = .ok value := by
  cases attempt with
  | error failure => cases succeeds
  | ok value => exact ⟨value, rfl⟩

theorem derive_controllerAuthority_zero :
    Programs.mainnet.derive (.controllerAuthority .zero) =
      .ok (.ofText "75TMCc6XWxsQq5SwpKgRujKTLgCoh4GfXUzhooy2PvRG") :=
  eq_ok_of_toOption (by decide +kernel)

theorem derive_permission_zero :
    Programs.mainnet.derive (.permission .zero .zero) =
      .ok (.ofText "B9w9EqU6KNoAMyqYsQm4cvKaYvMx42QYSP6tiaHnYiV4") :=
  eq_ok_of_toOption (by decide +kernel)

/-- An address that is told from the zero address by its first byte. -/
def numbered (number : UInt8) : Address :=
  ⟨.zeroFilled [number] (Nat.le_add_left 1 31)⟩

/-- The builder of the zero address for a controller at the zero address. It was made without a
number, so it cannot create its controller. -/
def ofZero : Builder where
  programs := .mainnet
  controller := .zero
  id := none
  controllerAuthority := .ofText "75TMCc6XWxsQq5SwpKgRujKTLgCoh4GfXUzhooy2PvRG"
  authority := .zero
  permission := .ofText "B9w9EqU6KNoAMyqYsQm4cvKaYvMx42QYSP6tiaHnYiV4"
  payer := .zero
  derive_controller := by rintro _ ⟨⟩
  derive_controllerAuthority := derive_controllerAuthority_zero
  derive_permission := derive_permission_zero

theorem reserveAddress_ofZero : ∃ reserve, ofZero.reserveAddress (numbered 2) = .ok reserve :=
  exists_eq_ok (by decide +kernel)

theorem reserveVault_ofZero : ∃ vault, (ofZero.reserveVault (numbered 2)
    Program.token.mainnet).Returns vault :=
  exists_eq_ok (by decide +kernel)

end Builder

end LiquidityController
