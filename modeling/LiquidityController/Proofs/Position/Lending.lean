import LiquidityController.Proofs.Builder.Roles
import LiquidityController.Proofs.Position.Operations

/-!
# Deposits in lending reserves

The operations on a deposit put up to 27 accounts into lists of their own, at different places, and
derive most of them again each time. A deposit lists what a withdrawal lists, and then what it needs
to create the obligation again. An update that collects rewards lists what a plain one lists, and
then the accounts of the farm. So every fact about the longer list that concerns the shared part is
a fact about the shorter one.

## Main result

`Builder.lending_agrees`: the operations on a deposit list the same accounts of the market, among
them the obligation that the config of the integration names.
-/

namespace LiquidityController

namespace Instruction

variable {shorter longer : Instruction} {slot : Nat} {more : List AccountMeta}

/-- Accounts that follow the others do not change what is listed before them. -/
theorem getElem?_addresses_of_append {address : Address}
    (listed : shorter.addresses[slot]? = some address)
    (parts : longer.accounts = shorter.accounts ++ more) :
    longer.addresses[slot]? = some address := by
  have early : slot < shorter.addresses.length := (List.getElem?_eq_some_iff.mp listed).1
  have addresses : longer.addresses = shorter.addresses ++ more.map AccountMeta.address := by
    rw [Instruction.addresses, parts, List.map_append, ← Instruction.addresses]
  rw [addresses, List.getElem?_append_left early, listed]

theorem Lists.of_append {found : Except Failure Address} (listed : shorter.Lists found slot)
    (parts : longer.accounts = shorter.accounts ++ more) : longer.Lists found slot := by
  obtain ⟨address, derived, listed⟩ := listed
  exact ⟨address, derived, getElem?_addresses_of_append listed parts⟩

end Instruction

/-! ### Operations and accounts -/

namespace KaminoPosition

/-- An account of the market or of its farm that belongs to a deposit. -/
inductive Account where
  | obligation
  | market
  | marketAuthority
  | reserve
  | mint
  | collateralFarm
  | userMetadata
  | obligationFarm
  deriving DecidableEq, Repr

/-- The obligation of a deposit, one that is tied to no strategy, under the lending program that the
builder was given. -/
def obligation (builder : Builder) (position : KaminoPosition) : Except Failure Address :=
  (Derived.kaminoObligation position.obligationId builder.controllerAuthority
    position.market).address builder.programs.kaminoLend

/-- The address of an account, chosen or derived. -/
def Account.find (builder : Builder) (position : KaminoPosition) :
    Account → Except Failure Address
  | obligation => position.obligation builder
  | market => .ok position.market
  | marketAuthority =>
    (Derived.kaminoMarketAuthority position.market).address builder.programs.kaminoLend
  | reserve => .ok position.reserve
  | mint => .ok position.reserveLiquidityMint
  | collateralFarm => .ok position.reserveFarmCollateral
  | userMetadata =>
    (Derived.kaminoUserMetadata builder.controllerAuthority).address builder.programs.kaminoLend
  | obligationFarm => do
    let obligation ← position.obligation builder
    (Derived.farmObligation position.reserveFarmCollateral obligation).address
      builder.programs.kaminoFarms

inductive Operation where
  | create (terms : IntegrationTerms)
  | push (tokenProgram : Address) (amount : UInt64)
  | pull (tokenProgram : Address) (amount : UInt64)
  | sync (tokenProgram : Address) (harvest : Option RewardHarvest)

namespace Operation

def request (position : KaminoPosition) : Operation → Request
  | create terms => .initializeKamino terms position
  | push tokenProgram amount => .pushKamino position tokenProgram amount
  | pull tokenProgram amount => .pullKamino position tokenProgram amount
  | sync tokenProgram harvest => .syncKamino position tokenProgram harvest

/-- Where an operation lists an account. A transfer lists the account that the farm keeps only if
there is a farm. -/
def slot? (position : KaminoPosition) : Operation → Account → Option Nat
  | create _, .obligation => some 8
  | create _, .mint => some 9
  | create _, .userMetadata => some 10
  | create _, .obligationFarm => some 12
  | create _, .reserve => some 13
  | create _, .collateralFarm => some 14
  | create _, .marketAuthority => some 15
  | create _, .market => some 16
  | push .., .obligation | pull .., .obligation => some 8
  | push .., .reserve | pull .., .reserve => some 9
  | push .., .mint | pull .., .mint => some 10
  | push .., .marketAuthority | pull .., .marketAuthority => some 14
  | push .., .market | pull .., .market => some 15
  | push .., .obligationFarm | pull .., .obligationFarm =>
    if position.reserveFarmCollateral = .zero then none else some 19
  | push .., .collateralFarm | pull .., .collateralFarm => some 20
  | push .., .userMetadata => some 24
  | pull .., .userMetadata => none
  | sync .., .reserve => some 6
  | sync .., .obligation => some 7
  | sync _ (some _), .obligationFarm => some 8
  | sync _ (some _), .collateralFarm => some 9
  | sync _ none, .obligationFarm | sync _ none, .collateralFarm => none
  | sync .., .market | sync .., .marketAuthority | sync .., .mint | sync .., .userMetadata => none

variable {position : KaminoPosition} {tokenProgram : Address}

/-- A deposit needs one account that a withdrawal does not need, and lists the others alike. -/
theorem slot?_push {account : Account} (amount other : UInt64) (shared : account ≠ .userMetadata) :
    slot? position (push tokenProgram amount) account =
      slot? position (pull tokenProgram other) account := by
  cases account with
  | userMetadata => exact absurd rfl shared
  | _ => rfl

end Operation

end KaminoPosition

namespace Builder

section Operations

open KaminoPosition (Account Operation)

variable {builder : Builder} {position : KaminoPosition} {instruction : Instruction}
  {account : Account} {slot : Nat} {tokenProgram : Address} {amount : UInt64}
  {fields : Config.Kamino}

/-- The instruction lists the account, as it is found for the position. -/
def ListsLending (builder : Builder) (position : KaminoPosition) (account : Account) (slot : Nat)
    (instruction : Instruction) : Prop :=
  instruction.Lists (account.find builder position) slot

theorem kaminoConfig_returns : builder.kaminoConfig position = .ok fields ↔
    ∃ obligation, position.obligation builder = .ok obligation ∧
      position.fields obligation = fields :=
  kaminoConfig_eq_ok

theorem find_obligationFarm {obligation obligationFarm : Address}
    (derived : position.obligation builder = .ok obligation)
    (kept : builder.obligationFarm (position.fields obligation) = .ok obligationFarm) :
    Account.obligationFarm.find builder position = .ok obligationFarm :=
  bind_eq_ok.mpr ⟨obligation, derived, kept⟩

theorem farmAccount_of_farmed (farmed : position.reserveFarmCollateral ≠ .zero)
    (obligation : Address) : builder.farmAccount (position.fields obligation) =
      builder.obligationFarm (position.fields obligation) :=
  if_neg farmed

theorem farmAccount_of_farmless (farmless : position.reserveFarmCollateral = .zero)
    (obligation : Address) :
    builder.farmAccount (position.fields obligation) = .ok builder.programs.kaminoLend :=
  if_pos farmless

theorem initializeKamino_lists {terms : IntegrationTerms}
    (built : (builder.initializeKamino terms position).Returns instruction)
    (listed : Operation.slot? position (.create terms) account = some slot) :
    builder.ListsLending position account slot instruction := by
  simp only [initializeKamino, Logged.returns_bind, Logged.returns_liftM] at built
  obtain ⟨fields, chosen, userMetadata, ofUser, obligationFarm, kept, marketAuthority, ofMarket,
    built⟩ := built
  obtain ⟨obligation, derived, rfl⟩ := kaminoConfig_returns.mp chosen
  obtain ⟨description, integration, -, -, rfl⟩ := initializeIntegration_returns built
  cases account with
  | obligation => cases listed; exact ⟨obligation, derived, rfl⟩
  | market => cases listed; exact ⟨position.market, rfl, rfl⟩
  | marketAuthority => cases listed; exact ⟨marketAuthority, ofMarket, rfl⟩
  | reserve => cases listed; exact ⟨position.reserve, rfl, rfl⟩
  | mint => cases listed; exact ⟨position.reserveLiquidityMint, rfl, rfl⟩
  | collateralFarm => cases listed; exact ⟨position.reserveFarmCollateral, rfl, rfl⟩
  | userMetadata => cases listed; exact ⟨userMetadata, ofUser, rfl⟩
  | obligationFarm =>
    cases listed
    exact ⟨obligationFarm, find_obligationFarm derived kept, rfl⟩

/-! ### Transfers -/

/-- Only the place for the account that the farm keeps depends on whether there is a farm. -/
theorem pullKamino_lists
    (built : (builder.pullKamino position tokenProgram amount).Returns instruction) :
    (∀ account slot, Operation.slot? position (.pull tokenProgram amount) account = some slot →
      builder.ListsLending position account slot instruction) ∧
    (position.reserveFarmCollateral = .zero →
      instruction.addresses[19]? = some builder.programs.kaminoLend) := by
  simp only [pullKamino, kaminoTransferAccounts_eq, Logged.returns_bind, Logged.returns_liftM,
    Logged.returns_pure] at built
  obtain ⟨fields, chosen, accounts, ⟨farmAccount, kept, vault, -, liquiditySupply, -,
    collateralMint, -, collateralSupply, -, marketAuthority, ofMarket, rfl⟩, integration, -,
    reserve, -, rfl⟩ := built
  obtain ⟨obligation, derived, rfl⟩ := kaminoConfig_returns.mp chosen
  constructor
  · intro account slot listed
    cases account with
    | obligation => cases listed; exact ⟨obligation, derived, rfl⟩
    | market => cases listed; exact ⟨position.market, rfl, rfl⟩
    | marketAuthority => cases listed; exact ⟨marketAuthority, ofMarket, rfl⟩
    | reserve => cases listed; exact ⟨position.reserve, rfl, rfl⟩
    | mint => cases listed; exact ⟨position.reserveLiquidityMint, rfl, rfl⟩
    | collateralFarm => cases listed; exact ⟨position.reserveFarmCollateral, rfl, rfl⟩
    | userMetadata => cases listed
    | obligationFarm =>
      -- the table has a slot only if there is a farm, and then the account was looked up
      obtain ⟨farmed, rfl⟩ : position.reserveFarmCollateral ≠ .zero ∧ 19 = slot := by
        simpa [Operation.slot?] using listed
      rw [farmAccount_of_farmed farmed] at kept
      exact ⟨farmAccount, find_obligationFarm derived kept, rfl⟩
  · intro farmless
    cases (farmAccount_of_farmless farmless obligation).symm.trans kept
    rfl

/-- A deposit lists what a withdrawal of any amount lists, and four accounts more. -/
theorem pushKamino_extends (other : UInt64)
    (built : (builder.pushKamino position tokenProgram amount).Returns instruction) :
    ∃ pulled userMetadata, (builder.pullKamino position tokenProgram other).Returns pulled ∧
      Account.userMetadata.find builder position = .ok userMetadata ∧
      pulled.accounts.length = 23 ∧
      instruction.accounts = pulled.accounts ++ [.writable builder.controllerAuthority,
        .readonly userMetadata, .readonly builder.programs.system, .readonly rentSysvar] := by
  simp only [pushKamino, Logged.returns_bind, Logged.returns_liftM, Logged.returns_pure] at built
  obtain ⟨fields, chosen, accounts, listed, userMetadata, ofUser, integration, derived, reserve,
    derived', rfl⟩ := built
  -- seven accounts of the kind and these make twenty-three
  have sixteen : accounts.length = 16 := by
    rw [← List.length_map AccountMeta.role, kaminoTransferAccounts_roles listed]
    rfl
  refine ⟨builder.pull integration reserve (.kamino other) accounts, userMetadata, ?_, ofUser, ?_,
    ?_⟩
  · simp only [pullKamino, Logged.returns_bind, Logged.returns_liftM, Logged.returns_pure]
    exact ⟨fields, chosen, accounts, listed, integration, derived, reserve, derived', rfl⟩
  · rw [pull, Builder.instruction, Instruction.accounts_make, List.length_append, sixteen]
    rfl
  · simp only [push, pull, Builder.instruction, Instruction.accounts_make, List.append_assoc]
    rfl

theorem pushKamino_lists
    (built : (builder.pushKamino position tokenProgram amount).Returns instruction) :
    (∀ account slot, Operation.slot? position (.push tokenProgram amount) account = some slot →
      builder.ListsLending position account slot instruction) ∧
    (position.reserveFarmCollateral = .zero →
      instruction.addresses[19]? = some builder.programs.kaminoLend) := by
  obtain ⟨pulled, userMetadata, built', ofUser, length, parts⟩ := pushKamino_extends amount built
  obtain ⟨lists, substitute⟩ := pullKamino_lists built'
  constructor
  · intro account slot listed
    by_cases user : account = .userMetadata
    · -- the only account of the table that a withdrawal does not list
      subst user
      cases listed
      refine ⟨userMetadata, ofUser, ?_⟩
      rw [Instruction.addresses, parts, List.getElem?_map,
        List.getElem?_append_right (by omega), length]
      rfl
    · rw [Operation.slot?_push amount amount user] at listed
      exact (lists account slot listed).of_append parts
  · intro farmless
    exact Instruction.getElem?_addresses_of_append (substitute farmless) parts

/-! ### Updates -/

/-- The account that the farm keeps comes first, then the farm, then eleven more. -/
theorem harvestAccounts_returns {harvest : RewardHarvest} {rewards : List AccountMeta}
    (listed : (builder.harvestAccounts fields harvest).Returns rewards) :
    ∃ obligationFarm more, builder.obligationFarm fields = .ok obligationFarm ∧
      more.length = 11 ∧
      rewards = .writable obligationFarm :: .writable fields.reserveFarmCollateral :: more := by
  simp only [harvestAccounts, Logged.returns_bind, Logged.returns_liftM, Logged.returns_pure]
    at listed
  obtain ⟨rewardsAccount, -, obligationFarm, kept, rewardsVault, -, treasuryVault, -,
    vaultsAuthority, -, rfl⟩ := listed
  exact ⟨obligationFarm, _, kept, rfl, rfl⟩

theorem syncKamino_lists {harvest : Option RewardHarvest}
    (built : (builder.syncKamino position tokenProgram harvest).Returns instruction)
    (listed : Operation.slot? position (.sync tokenProgram harvest) account = some slot) :
    builder.ListsLending position account slot instruction := by
  simp only [syncKamino_eq, Logged.returns_bind, Logged.returns_liftM, Logged.returns_pure] at built
  obtain ⟨fields, chosen, vault, -, rewards, collected, integration, -, reserve, -, rfl⟩ := built
  obtain ⟨obligation, derived, rfl⟩ := kaminoConfig_returns.mp chosen
  -- the rewards come last, so the reserve and the obligation are listed before them either way
  cases harvest with
  | none =>
    cases account with
    | obligation => cases listed; exact ⟨obligation, derived, rfl⟩
    | reserve => cases listed; exact ⟨position.reserve, rfl, rfl⟩
    | _ => cases listed
  | some harvest =>
    obtain ⟨obligationFarm, more, kept, -, rfl⟩ := harvestAccounts_returns collected
    cases account with
    | obligation => cases listed; exact ⟨obligation, derived, rfl⟩
    | reserve => cases listed; exact ⟨position.reserve, rfl, rfl⟩
    | collateralFarm => cases listed; exact ⟨position.reserveFarmCollateral, rfl, rfl⟩
    | obligationFarm =>
      cases listed
      exact ⟨obligationFarm, find_obligationFarm derived kept, rfl⟩
    | _ => cases listed

/-- An update that collects rewards lists what a plain update lists, and thirteen accounts more. -/
theorem syncKamino_extends {harvest : RewardHarvest}
    (built : (builder.syncKamino position tokenProgram (some harvest)).Returns instruction) :
    ∃ plain rewards, (builder.syncKamino position tokenProgram none).Returns plain ∧
      instruction.data = plain.data ∧ plain.accounts.length = 8 ∧ rewards.length = 13 ∧
      instruction.accounts = plain.accounts ++ rewards := by
  simp only [syncKamino_eq, Logged.returns_bind, Logged.returns_liftM, Logged.returns_pure] at built
  obtain ⟨fields, chosen, vault, held, rewards, collected, integration, derived, reserve, derived',
    rfl⟩ := built
  obtain ⟨obligationFarm, more, -, eleven, parts⟩ := harvestAccounts_returns collected
  refine ⟨builder.syncIntegration integration reserve [.writable vault, .readonly fields.reserve,
    .readonly fields.obligation], rewards, ?_, rfl, rfl, ?_, ?_⟩
  · simp only [syncKamino_eq, rewardAccounts, Logged.returns_bind, Logged.returns_liftM,
      Logged.returns_pure]
    exact ⟨fields, chosen, vault, held, [], rfl, integration, derived, reserve, derived', rfl⟩
  · rw [parts, List.length_cons, List.length_cons, eleven]
  · simp only [syncIntegration, Builder.instruction, Instruction.accounts_make, List.append_assoc]

theorem perform_lists_lending {operation : Operation}
    (built : (builder.perform (operation.request position)).Returns instruction)
    (listed : operation.slot? position account = some slot) :
    builder.ListsLending position account slot instruction := by
  cases operation with
  | create terms => exact initializeKamino_lists built listed
  | push tokenProgram amount => exact (pushKamino_lists built).1 account slot listed
  | pull tokenProgram amount => exact (pullKamino_lists built).1 account slot listed
  | sync tokenProgram harvest => exact syncKamino_lists built listed

/-- The integration that an operation lists has a config that names the obligation. -/
theorem perform_hashes_obligation {request : Request}
    (acts : request.ActsOn (.kamino position) slot)
    (built : (builder.perform request).Returns instruction) :
    ∃ obligation integration, position.obligation builder = .ok obligation ∧
      builder.integrationAddress (.ofProtocol .kamino (position.fields obligation)) =
        .ok integration ∧
      instruction.addresses[slot]? = some integration := by
  obtain ⟨kind, arguments, handles⟩ := perform_handles acts built
  obtain ⟨integration, derived, listed⟩ := handles.lists
  obtain ⟨config, configured, hashed⟩ := integration_returns.mp derived
  cases configured with
  | kamino chosen =>
    obtain ⟨obligation, ofPosition, rfl⟩ := kaminoConfig_returns.mp chosen
    exact ⟨obligation, integration, ofPosition, hashed, listed⟩

end Operations

/-! ### Main theorem -/

/-- All operations on a deposit list the same accounts of the market, those that were chosen and
those that are derived for the controller authority under the configured programs, and an
integration whose config names the obligation that they list. They agree on the account that the
farm keeps as well, except that transfers list the lending program in its place if there is no farm.
A withdrawal lists the first twenty-three accounts of a deposit, whatever the two amounts are. An
update that collects rewards carries the data of a plain one, and lists its eight accounts and
thirteen more. -/
theorem lending_agrees (builder : Builder) (position : KaminoPosition) :
    (∀ (operation : KaminoPosition.Operation) account slot instruction,
      operation.slot? position account = some slot →
      (builder.perform (operation.request position)).result = .ok instruction →
      ∃ address, account.find builder position = .ok address ∧
        instruction.addresses[slot]? = some address) ∧
    (∀ (operation : KaminoPosition.Operation) slot instruction,
      (operation.request position).ActsOn (.kamino position) slot →
      (builder.perform (operation.request position)).result = .ok instruction →
      ∃ obligation integration, position.obligation builder = .ok obligation ∧
        builder.integrationAddress (.ofProtocol .kamino (position.fields obligation)) =
          .ok integration ∧
        instruction.addresses[slot]? = some integration) ∧
    (∀ tokenProgram amount instruction, position.reserveFarmCollateral = .zero →
      (builder.pushKamino position tokenProgram amount).result = .ok instruction ∨
        (builder.pullKamino position tokenProgram amount).result = .ok instruction →
      instruction.addresses[19]? = some builder.programs.kaminoLend) ∧
    (∀ tokenProgram amount amount' pushed,
      (builder.pushKamino position tokenProgram amount).result = .ok pushed →
      ∃ pulled userMetadata,
        (builder.pullKamino position tokenProgram amount').result = .ok pulled ∧
        KaminoPosition.Account.userMetadata.find builder position = .ok userMetadata ∧
        pulled.accounts.length = 23 ∧
        pushed.accounts = pulled.accounts ++ [.writable builder.controllerAuthority,
          .readonly userMetadata, .readonly builder.programs.system, .readonly rentSysvar]) ∧
    (∀ tokenProgram harvest harvested,
      (builder.syncKamino position tokenProgram (some harvest)).result = .ok harvested →
      ∃ plain rewards, (builder.syncKamino position tokenProgram none).result = .ok plain ∧
        harvested.data = plain.data ∧ plain.accounts.length = 8 ∧ rewards.length = 13 ∧
        harvested.accounts = plain.accounts ++ rewards) := by
  refine ⟨?_, ?_, ?_, ?_, ?_⟩
  · intro operation account slot instruction listed built
    exact perform_lists_lending built listed
  · intro operation slot instruction acts built
    exact perform_hashes_obligation acts built
  · rintro tokenProgram amount instruction farmless (built | built)
    · exact (pushKamino_lists built).2 farmless
    · exact (pullKamino_lists built).2 farmless
  · intro tokenProgram amount amount' pushed built
    exact pushKamino_extends amount' built
  · intro tokenProgram harvest harvested built
    exact syncKamino_extends built

/-- A deposit in a reserve that has the given farm. -/
def loan (farm : Address) : KaminoPosition where
  market := numbered 1
  reserve := numbered 3
  reserveLiquidityMint := numbered 2
  reserveFarmCollateral := farm
  reserveFarmDebt := .zero
  obligationId := 0
  referrer := none

/-- The rewards of a farm that pays in the token of the deposit. -/
def loanRewards : RewardHarvest where
  rewardsMint := numbered 2
  rewardsTokenProgram := Program.token.mainnet
  globalConfig := .zero
  scopePrices := .zero

/-- The obligation of the deposit, which does not depend on the farm. -/
def loanObligation : Address :=
  .ofText "CVZEcenJo2GLbuEo8VTa5n7S76ZarLtL6HHDUYDfkLVd"

theorem kaminoConfig_loan (farm : Address) :
    ofZero.kaminoConfig (loan farm) = .ok ((loan farm).fields loanObligation) := by
  have derived : ofZero.programs.derive (.kaminoObligation 0 ofZero.controllerAuthority
      (numbered 1)) = .ok loanObligation := eq_ok_of_toOption (by decide +kernel)
  exact kaminoConfig_eq_ok.mpr ⟨loanObligation, derived, rfl⟩

/-- What a transfer looks up, apart from the account of the farm, is found. -/
theorem transferAccounts_loan {farm account : Address}
    (kept : ofZero.farmAccount ((loan farm).fields loanObligation) = .ok account) :
    ∃ accounts, (ofZero.kaminoTransferAccounts ((loan farm).fields loanObligation)
      Program.token.mainnet).Returns accounts := by
  obtain ⟨vault, held⟩ := reserveVault_ofZero
  obtain ⟨supply, ofSupply⟩ : ∃ supply, ofZero.programs.derive (.kaminoLiquiditySupply
      (numbered 1) (numbered 2)) = .ok supply := exists_eq_ok (by decide +kernel)
  obtain ⟨mint, ofMint⟩ : ∃ mint, ofZero.programs.derive (.kaminoCollateralMint (numbered 1)
      (numbered 2)) = .ok mint := exists_eq_ok (by decide +kernel)
  obtain ⟨collateral, ofCollateral⟩ : ∃ collateral, ofZero.programs.derive
      (.kaminoCollateralSupply (numbered 1) (numbered 2)) = .ok collateral :=
    exists_eq_ok (by decide +kernel)
  obtain ⟨market, ofMarket⟩ : ∃ market, ofZero.programs.derive
      (.kaminoMarketAuthority (numbered 1)) = .ok market := exists_eq_ok (by decide +kernel)
  simp only [kaminoTransferAccounts_eq, Logged.returns_bind, Logged.returns_liftM,
    Logged.returns_pure]
  exact ⟨_, account, kept, vault, held, supply, ofSupply, mint, ofMint, collateral, ofCollateral,
    market, ofMarket, rfl⟩

/-- Collecting the rewards of the farm looks up its own accounts, and these are found. -/
theorem harvestAccounts_loan {account : Address}
    (kept : ofZero.obligationFarm ((loan (numbered 5)).fields loanObligation) = .ok account) :
    ∃ rewards, (ofZero.harvestAccounts ((loan (numbered 5)).fields loanObligation)
      loanRewards).Returns rewards := by
  obtain ⟨vault, held⟩ := reserveVault_ofZero
  obtain ⟨rewards, ofRewards⟩ : ∃ vault, ofZero.programs.derive (.farmRewardsVault (numbered 5)
      (numbered 2)) = .ok vault := exists_eq_ok (by decide +kernel)
  obtain ⟨treasury, ofTreasury⟩ : ∃ vault, ofZero.programs.derive (.farmTreasuryVault .zero
      (numbered 2)) = .ok vault := exists_eq_ok (by decide +kernel)
  obtain ⟨authority, ofAuthority⟩ : ∃ authority, ofZero.programs.derive
      (.farmVaultsAuthority (numbered 5)) = .ok authority := exists_eq_ok (by decide +kernel)
  simp only [harvestAccounts, Logged.returns_bind, Logged.returns_liftM, Logged.returns_pure]
  exact ⟨_, vault, held, account, kept, rewards, ofRewards, treasury, ofTreasury, authority,
    ofAuthority, rfl⟩

/-- Under the public deployments, a deposit in a reserve with a farm and the collection of its
rewards list the same obligation, which is that of the config, and the same account of the farm. A
withdrawal from a reserve without one lists the lending program. -/
theorem lending_agrees_on_loan : ∃ pushed pulled plain harvested pulled' obligation integration
    farmAccount,
    (ofZero.pushKamino (loan (numbered 5)) Program.token.mainnet 7).result = .ok pushed ∧
    (ofZero.pullKamino (loan (numbered 5)) Program.token.mainnet 5).result = .ok pulled ∧
    (ofZero.syncKamino (loan (numbered 5)) Program.token.mainnet none).result = .ok plain ∧
    (ofZero.syncKamino (loan (numbered 5)) Program.token.mainnet (some loanRewards)).result =
      .ok harvested ∧
    (ofZero.pullKamino (loan .zero) Program.token.mainnet 7).result = .ok pulled' ∧
    pushed.addresses[8]? = some obligation ∧ harvested.addresses[7]? = some obligation ∧
    ofZero.integrationAddress (.ofProtocol .kamino ((loan (numbered 5)).fields obligation)) =
      .ok integration ∧ pushed.addresses[4]? = some integration ∧
    pushed.addresses[19]? = some farmAccount ∧ harvested.addresses[8]? = some farmAccount ∧
    pulled.accounts = pushed.accounts.take 23 ∧ plain.accounts = harvested.accounts.take 8 ∧
    pulled'.addresses[19]? = some ofZero.programs.kaminoLend := by
  have farmed : (loan (numbered 5)).reserveFarmCollateral ≠ .zero := by decide
  obtain ⟨account, kept⟩ : ∃ account, ofZero.obligationFarm
      ((loan (numbered 5)).fields loanObligation) = .ok account := exists_eq_ok (by decide +kernel)
  obtain ⟨integration, derived⟩ : ∃ integration, ofZero.kaminoIntegration
      ((loan (numbered 5)).fields loanObligation) = .ok integration :=
    exists_eq_ok (by decide +kernel)
  obtain ⟨integration', derived'⟩ : ∃ integration, ofZero.kaminoIntegration
      ((loan .zero).fields loanObligation) = .ok integration := exists_eq_ok (by decide +kernel)
  obtain ⟨user, ofUser⟩ : ∃ user, ofZero.kaminoUserMetadata = .ok user :=
    exists_eq_ok (by decide +kernel)
  obtain ⟨reserve, ofReserve⟩ := reserveAddress_ofZero
  obtain ⟨vault, held⟩ := reserveVault_ofZero
  -- the three instructions of which the theorem asks that they are made
  obtain ⟨pushed, built⟩ : ∃ pushed, (ofZero.pushKamino (loan (numbered 5))
      Program.token.mainnet 7).Returns pushed := by
    obtain ⟨accounts, listed⟩ := transferAccounts_loan
      ((farmAccount_of_farmed farmed loanObligation).trans kept)
    simp only [pushKamino, Logged.returns_bind, Logged.returns_liftM, Logged.returns_pure]
    exact ⟨_, _, kaminoConfig_loan _, accounts, listed, user, ofUser, integration, derived,
      reserve, ofReserve, rfl⟩
  obtain ⟨harvested, built'⟩ : ∃ harvested, (ofZero.syncKamino (loan (numbered 5))
      Program.token.mainnet (some loanRewards)).Returns harvested := by
    obtain ⟨rewards, collected⟩ := harvestAccounts_loan kept
    simp only [syncKamino_eq, Logged.returns_bind, Logged.returns_liftM, Logged.returns_pure]
    exact ⟨_, _, kaminoConfig_loan _, vault, held, rewards, collected, integration, derived,
      reserve, ofReserve, rfl⟩
  obtain ⟨pulled', built''⟩ : ∃ pulled, (ofZero.pullKamino (loan .zero) Program.token.mainnet
      7).Returns pulled := by
    obtain ⟨accounts, listed⟩ := transferAccounts_loan (farmAccount_of_farmless rfl loanObligation)
    simp only [pullKamino, Logged.returns_bind, Logged.returns_liftM, Logged.returns_pure]
    exact ⟨_, _, kaminoConfig_loan _, accounts, listed, integration', derived', reserve,
      ofReserve, rfl⟩
  obtain ⟨lists, hashes, -, extends_pull, extends_plain⟩ :=
    lending_agrees ofZero (loan (numbered 5))
  obtain ⟨pulled, userMetadata, ofPull, -, length, parts⟩ := extends_pull _ 7 5 pushed built
  obtain ⟨plain, more, ofPlain, -, length', -, parts'⟩ := extends_plain _ _ harvested built'
  have onPush := lists (.push Program.token.mainnet 7)
  have onHarvest := lists (.sync Program.token.mainnet (some loanRewards))
  obtain ⟨obligation, found, at_push⟩ := onPush .obligation 8 pushed rfl built
  obtain ⟨obligation', found', at_harvest⟩ := onHarvest .obligation 7 harvested rfl built'
  cases Except.ok.inj (found.symm.trans found')
  obtain ⟨hashed, integration'', found'', ofConfig, at_four⟩ := hashes
    (.push Program.token.mainnet 7) 4 pushed (.pushKamino _ _ _) built
  cases Except.ok.inj (found.symm.trans found'')
  obtain ⟨farm, kept', at_push'⟩ := onPush .obligationFarm 19 pushed (by decide) built
  obtain ⟨farm', kept'', at_harvest'⟩ := onHarvest .obligationFarm 8 harvested rfl built'
  cases Except.ok.inj (kept'.symm.trans kept'')
  have farmless := (lending_agrees ofZero (loan .zero)).2.2.1 _ 7 pulled' rfl (.inr built'')
  refine ⟨pushed, pulled, plain, harvested, pulled', obligation, integration'', farm, built, ofPull,
    ofPlain, built', built'', at_push, at_harvest, ofConfig, at_four, at_push', at_harvest', ?_, ?_,
    farmless⟩
  · rw [parts, List.take_left' length]
  · rw [parts', List.take_left' length']

end Builder

end LiquidityController
