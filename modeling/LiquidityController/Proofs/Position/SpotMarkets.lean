import LiquidityController.Proofs.Builder.Lookups
import LiquidityController.Proofs.Position.Integration

/-!
# Deposits in spot markets

Every operation on a deposit derives the accounts of the exchange again, and lists them at places of
its own. A transfer also lists all markets that the exchange has to read, first their oracles and
then the markets. Nothing marks where one segment ends and the next begins, so the exchange has to
find the boundary from the length of the list.

## Main result

`Builder.deposit_agrees`: the operations on a deposit list the same accounts of the exchange, and
the markets of a transfer are read back from its accounts.
-/

namespace LiquidityController

/-! ### Operations and accounts -/

namespace DriftPosition

/-- An account of the exchange that belongs to a deposit. -/
inductive Account where
  | state
  | user
  | userStats
  | spotMarket
  | spotMarketVault
  deriving DecidableEq, Repr

/-- What identifies an account of the exchange. -/
def Account.derived (authority : Address) (position : DriftPosition) : Account → Derived
  | state => .driftState
  | user => .driftUser authority position.subAccountId
  | userStats => .driftUserStats authority
  | spotMarket => .driftSpotMarket position.spotMarketIndex
  | spotMarketVault => .driftSpotMarketVault position.spotMarketIndex

inductive Operation where
  | create (terms : IntegrationTerms)
  | push (tokenProgram : Address) (amount : UInt64) (reduceOnly : Bool)
    (markets : List SpotMarket)
  | pull (tokenProgram : Address) (amount : UInt64) (markets : List SpotMarket)
  | sync

namespace Operation

def request (position : DriftPosition) : Operation → Request
  | create terms => .initializeDrift terms position
  | push tokenProgram amount reduceOnly markets =>
    .pushDrift position tokenProgram amount reduceOnly markets
  | pull tokenProgram amount markets => .pullDrift position tokenProgram amount markets
  | sync => .syncDrift position

/-- Where an operation lists an account of the exchange. -/
def slot? : Operation → Account → Option Nat
  | create _, .user => some 9
  | create _, .userStats => some 10
  | create _, .state => some 11
  | create _, .spotMarket => some 12
  | create _, .spotMarketVault => none
  | push .., .state | pull .., .state => some 7
  | push .., .user | pull .., .user => some 8
  | push .., .userStats | pull .., .userStats => some 9
  | push .., .spotMarketVault | pull .., .spotMarketVault => some 10
  | push .., .spotMarket | pull .., .spotMarket => none
  | sync, .spotMarketVault => some 5
  | sync, .spotMarket => some 6
  | sync, .user => some 7
  | sync, .state | sync, .userStats => none

end Operation

end DriftPosition

/-! ### Lists of markets -/

namespace SpotMarket

/-- The markets that a transfer lists. The fifteen accounts in front are the same for all transfers,
and at most one account follows the markets. -/
def ofAccounts (accounts : List AccountMeta) : List SpotMarket :=
  let count := (accounts.length - 15) / 2
  List.zipWith (fun market oracle => ⟨market.address, oracle.address⟩)
    ((accounts.drop (15 + count)).take count) ((accounts.drop 15).take count)

/-- After fifteen accounts come the oracles of the markets, which are only read, and after these the
markets themselves, which may change, both in the order of the list. -/
def PlacedIn (markets : List SpotMarket) (accounts : List AccountMeta) : Prop :=
  ∀ (index : Nat) (market : SpotMarket), markets[index]? = some market →
    accounts[15 + index]? = some (.readonly market.oracle) ∧
    accounts[15 + markets.length + index]? = some (.writable market.market)

/-- The accounts list the markets after fifteen others, and before the given ones. -/
def ListedIn (markets : List SpotMarket) (accounts last : List AccountMeta) : Prop :=
  ∃ first : List AccountMeta, first.length = 15 ∧
    accounts = first ++ (SpotMarket.accounts markets ++ last)

variable {markets : List SpotMarket} {accounts last : List AccountMeta}

theorem length_accounts (markets : List SpotMarket) :
    (SpotMarket.accounts markets).length = 2 * markets.length := by
  rw [SpotMarket.accounts, List.length_append, List.length_map, List.length_map, Nat.two_mul]

theorem listedIn_make {program : Address} {kind : Instruction.Kind} {first : kind.Accounts}
    {arguments : kind.Arguments} {own remaining : List AccountMeta}
    (parts : remaining = own ++ (SpotMarket.accounts markets ++ last))
    (fifteen : (kind.slots first ++ own).length = 15) :
    ListedIn markets (Instruction.make program kind first arguments remaining).accounts last :=
  ⟨_, fifteen, by rw [Instruction.accounts_make, parts, List.append_assoc]⟩

namespace ListedIn

theorem length_eq (listed : ListedIn markets accounts last) :
    accounts.length = 15 + 2 * markets.length + last.length := by
  obtain ⟨first, fifteen, rfl⟩ := listed
  rw [List.length_append, List.length_append, fifteen, length_accounts, Nat.add_assoc]

theorem drop_eq (listed : ListedIn markets accounts last) : accounts.drop 15 =
    markets.map (.readonly ·.oracle) ++ (markets.map (.writable ·.market) ++ last) := by
  obtain ⟨first, fifteen, rfl⟩ := listed
  rw [← fifteen, List.drop_left, SpotMarket.accounts, List.append_assoc]

theorem drop_eq' (listed : ListedIn markets accounts last) :
    accounts.drop (15 + markets.length) = markets.map (.writable ·.market) ++ last := by
  have oracles : markets.length =
      (markets.map fun market => AccountMeta.readonly market.oracle).length :=
    (List.length_map _).symm
  rw [← List.drop_drop, listed.drop_eq, oracles, List.drop_left]

theorem placedIn (listed : ListedIn markets accounts last) : PlacedIn markets accounts := by
  intro index market found
  have inside : index < markets.length := (List.getElem?_eq_some_iff.mp found).1
  constructor
  · rw [← List.getElem?_drop, listed.drop_eq, List.getElem?_append_left (by simpa using inside),
      List.getElem?_map, found]
    rfl
  · rw [← List.getElem?_drop, listed.drop_eq', List.getElem?_append_left (by simpa using inside),
      List.getElem?_map, found]
    rfl

theorem getLast?_eq {account : AccountMeta} (listed : ListedIn markets accounts [account]) :
    accounts.getLast? = some account := by
  obtain ⟨first, -, rfl⟩ := listed
  rw [← List.append_assoc, List.getLast?_concat]

/-- The boundary between the segments is found from the length of the list. -/
theorem ofAccounts_eq (listed : ListedIn markets accounts last) (short : last.length ≤ 1) :
    ofAccounts accounts = markets := by
  -- an account after the markets is lost in the division
  have count : (accounts.length - 15) / 2 = markets.length := by
    have length := listed.length_eq
    omega
  have oracles : (accounts.drop 15).take markets.length = markets.map (.readonly ·.oracle) := by
    rw [listed.drop_eq, List.take_left' (List.length_map _)]
  have others : (accounts.drop (15 + markets.length)).take markets.length =
      markets.map (.writable ·.market) := by
    rw [listed.drop_eq', List.take_left' (List.length_map _)]
  rw [ofAccounts, count, oracles, others, List.zipWith_map, List.zipWith_self]
  exact List.map_id markets

end ListedIn

end SpotMarket

namespace Builder

section Operations

variable {builder : Builder} {position : DriftPosition} {instruction : Instruction}
  {account : DriftPosition.Account} {slot : Nat}

/-- The instruction lists the account of the exchange, as it is derived for the deposit. -/
def ListsDrift (builder : Builder) (position : DriftPosition) (account : DriftPosition.Account)
    (slot : Nat) (instruction : Instruction) : Prop :=
  instruction.Lists ((account.derived builder.controllerAuthority position).address
    builder.programs.drift) slot

theorem initializeDrift_lists {terms : IntegrationTerms}
    (built : (builder.initializeDrift terms position).Returns instruction)
    (listed : DriftPosition.Operation.slot? (.create terms) account = some slot) :
    builder.ListsDrift position account slot instruction := by
  simp only [initializeDrift, Logged.returns_bind, Logged.returns_liftM] at built
  obtain ⟨user, ofUser, userStats, ofUserStats, state, ofState, spotMarket, ofSpotMarket, built⟩ :=
    built
  obtain ⟨description, integration, -, -, rfl⟩ := initializeIntegration_returns built
  cases account with
  | state => cases listed; exact ⟨state, ofState, rfl⟩
  | user => cases listed; exact ⟨user, ofUser, rfl⟩
  | userStats => cases listed; exact ⟨userStats, ofUserStats, rfl⟩
  | spotMarket => cases listed; exact ⟨spotMarket, ofSpotMarket, rfl⟩
  | spotMarketVault => cases listed

theorem pushDrift_lists {tokenProgram : Address} {amount : UInt64} {reduceOnly : Bool}
    {markets : List SpotMarket}
    (built : (builder.pushDrift position tokenProgram amount reduceOnly markets).Returns
      instruction) :
    (∀ account slot, DriftPosition.Operation.slot? (.push tokenProgram amount reduceOnly markets)
      account = some slot → builder.ListsDrift position account slot instruction) ∧
    SpotMarket.ListedIn markets instruction.accounts [] := by
  simp only [pushDrift, Logged.returns_bind, Logged.returns_liftM, Logged.returns_pure] at built
  obtain ⟨vault, -, state, ofState, user, ofUser, userStats, ofUserStats, marketVault,
    ofMarketVault, integration, -, reserve, -, rfl⟩ := built
  constructor
  · intro account slot listed
    cases account with
    | state => cases listed; exact ⟨state, ofState, rfl⟩
    | user => cases listed; exact ⟨user, ofUser, rfl⟩
    | userStats => cases listed; exact ⟨userStats, ofUserStats, rfl⟩
    | spotMarket => cases listed
    | spotMarketVault => cases listed; exact ⟨marketVault, ofMarketVault, rfl⟩
  · exact SpotMarket.listedIn_make (congrArg _ (List.append_nil _).symm) rfl

theorem pullDrift_lists {tokenProgram : Address} {amount : UInt64} {markets : List SpotMarket}
    (built : (builder.pullDrift position tokenProgram amount markets).Returns instruction) :
    (∀ account slot, DriftPosition.Operation.slot? (.pull tokenProgram amount markets) account =
      some slot → builder.ListsDrift position account slot instruction) ∧
    SpotMarket.ListedIn markets instruction.accounts [.readonly position.mint] := by
  simp only [pullDrift, Logged.returns_bind, Logged.returns_liftM, Logged.returns_pure] at built
  obtain ⟨signer, -, state, ofState, user, ofUser, userStats, ofUserStats, marketVault,
    ofMarketVault, vault, -, integration, -, reserve, -, rfl⟩ := built
  constructor
  · intro account slot listed
    cases account with
    | state => cases listed; exact ⟨state, ofState, rfl⟩
    | user => cases listed; exact ⟨user, ofUser, rfl⟩
    | userStats => cases listed; exact ⟨userStats, ofUserStats, rfl⟩
    | spotMarket => cases listed
    | spotMarketVault => cases listed; exact ⟨marketVault, ofMarketVault, rfl⟩
  · exact SpotMarket.listedIn_make (List.append_assoc _ _ _) rfl

theorem syncDrift_lists (built : (builder.syncDrift position).Returns instruction)
    (listed : DriftPosition.Operation.slot? .sync account = some slot) :
    builder.ListsDrift position account slot instruction := by
  simp only [syncDrift, Logged.returns_bind, Logged.returns_liftM, Logged.returns_pure] at built
  obtain ⟨marketVault, ofMarketVault, spotMarket, ofSpotMarket, user, ofUser, integration, -,
    reserve, -, rfl⟩ := built
  cases account with
  | state => cases listed
  | user => cases listed; exact ⟨user, ofUser, rfl⟩
  | userStats => cases listed
  | spotMarket => cases listed; exact ⟨spotMarket, ofSpotMarket, rfl⟩
  | spotMarketVault => cases listed; exact ⟨marketVault, ofMarketVault, rfl⟩

theorem perform_lists_drift {operation : DriftPosition.Operation}
    (built : (builder.perform (operation.request position)).Returns instruction)
    (listed : operation.slot? account = some slot) :
    builder.ListsDrift position account slot instruction := by
  cases operation with
  | create terms => exact initializeDrift_lists built listed
  | push tokenProgram amount reduceOnly markets =>
    exact (pushDrift_lists built).1 account slot listed
  | pull tokenProgram amount markets => exact (pullDrift_lists built).1 account slot listed
  | sync => exact syncDrift_lists built listed

end Operations

/-! ### Main theorem -/

/-- All operations on a deposit list the same accounts of the exchange, those that are derived for
the controller authority, the sub account and the market of the deposit. A transfer lists all
oracles, then all markets, and a withdrawal last of all the mint. The markets are read back from the
accounts alone, in order and with repetitions, so transfers with different markets are different
instructions. -/
theorem deposit_agrees (builder : Builder) (position : DriftPosition) :
    (∀ (operation : DriftPosition.Operation) account slot instruction,
      operation.slot? account = some slot →
      (builder.perform (operation.request position)).result = .ok instruction →
      ∃ address, (account.derived builder.controllerAuthority position).address
          builder.programs.drift = .ok address ∧
        instruction.addresses[slot]? = some address) ∧
    (∀ tokenProgram amount reduceOnly markets pushed,
      (builder.pushDrift position tokenProgram amount reduceOnly markets).result = .ok pushed →
      pushed.accounts.length = 15 + 2 * markets.length ∧
      SpotMarket.PlacedIn markets pushed.accounts ∧
      SpotMarket.ofAccounts pushed.accounts = markets ∧
      ∀ markets' pushed',
        (builder.pushDrift position tokenProgram amount reduceOnly markets').result = .ok pushed' →
        markets ≠ markets' → pushed ≠ pushed') ∧
    (∀ tokenProgram amount markets pulled,
      (builder.pullDrift position tokenProgram amount markets).result = .ok pulled →
      pulled.accounts.length = 16 + 2 * markets.length ∧
      SpotMarket.PlacedIn markets pulled.accounts ∧
      pulled.accounts.getLast? = some (.readonly position.mint) ∧
      SpotMarket.ofAccounts pulled.accounts = markets ∧
      ∀ markets' pulled',
        (builder.pullDrift position tokenProgram amount markets').result = .ok pulled' →
        markets ≠ markets' → pulled ≠ pulled') := by
  refine ⟨?_, ?_, ?_⟩
  · intro operation account slot instruction listed built
    exact perform_lists_drift built listed
  · intro tokenProgram amount reduceOnly markets pushed built
    have listed := (pushDrift_lists built).2
    have read := listed.ofAccounts_eq (Nat.zero_le 1)
    refine ⟨listed.length_eq, listed.placedIn, read, fun markets' pushed' built' differ same => ?_⟩
    have read' := (pushDrift_lists built').2.ofAccounts_eq (Nat.zero_le 1)
    exact differ (by rw [← read, ← read', same])
  · intro tokenProgram amount markets pulled built
    have listed := (pullDrift_lists built).2
    have length := listed.length_eq
    have read := listed.ofAccounts_eq (Nat.le_refl 1)
    refine ⟨?_, listed.placedIn, listed.getLast?_eq, read,
      fun markets' pulled' built' differ same => ?_⟩
    · rw [List.length_singleton] at length
      omega
    · have read' := (pullDrift_lists built').2.ofAccounts_eq (Nat.le_refl 1)
      exact differ (by rw [← read, ← read', same])

/-- A deposit in the second market, held in the third sub account. -/
def savings : DriftPosition where
  mint := numbered 2
  subAccountId := 2
  spotMarketIndex := 1

/-- A market that is its own oracle. -/
def selfPricedMarket : SpotMarket where
  market := .zero
  oracle := .zero

/-- Under the public deployments, transfers to and from a deposit list the same sub account, and it
shows whether they list a market once or twice. -/
theorem deposit_agrees_on_repeated_market : ∃ pushed pushed' pulled user,
    (ofZero.pushDrift savings Program.token.mainnet 7 true [selfPricedMarket]).result =
      .ok pushed ∧
    (ofZero.pushDrift savings Program.token.mainnet 7 true
      [selfPricedMarket, selfPricedMarket]).result = .ok pushed' ∧
    (ofZero.pullDrift savings Program.token.mainnet 7 [selfPricedMarket]).result = .ok pulled ∧
    pushed.addresses[8]? = some user ∧ pulled.addresses[8]? = some user ∧
    pushed ≠ pushed' ∧ SpotMarket.ofAccounts pulled.accounts = [selfPricedMarket] ∧
    pulled.accounts.getLast? = some (.readonly savings.mint) := by
  -- the lookups are made once for all three instructions
  obtain ⟨vault, held⟩ := reserveVault_ofZero
  obtain ⟨signer, ofSigner⟩ : ∃ signer, ofZero.programs.derive .driftSigner = .ok signer :=
    exists_eq_ok (by decide +kernel)
  obtain ⟨state, ofState⟩ : ∃ state, ofZero.programs.derive .driftState = .ok state :=
    exists_eq_ok (by decide +kernel)
  obtain ⟨user, ofUser⟩ : ∃ user, ofZero.driftUser savings = .ok user :=
    exists_eq_ok (by decide +kernel)
  obtain ⟨userStats, ofUserStats⟩ : ∃ userStats, ofZero.driftUserStats = .ok userStats :=
    exists_eq_ok (by decide +kernel)
  obtain ⟨marketVault, ofMarketVault⟩ : ∃ marketVault, ofZero.programs.derive
      (.driftSpotMarketVault savings.spotMarketIndex) = .ok marketVault :=
    exists_eq_ok (by decide +kernel)
  obtain ⟨integration, derived⟩ : ∃ integration, ofZero.driftIntegration savings =
      .ok integration := exists_eq_ok (by decide +kernel)
  obtain ⟨reserve, derived'⟩ := reserveAddress_ofZero
  have pushes : ∀ markets, ∃ pushed, (ofZero.pushDrift savings Program.token.mainnet 7 true
      markets).Returns pushed := by
    intro markets
    simp only [pushDrift, Logged.returns_bind, Logged.returns_liftM, Logged.returns_pure]
    exact ⟨_, vault, held, state, ofState, user, ofUser, userStats, ofUserStats, marketVault,
      ofMarketVault, integration, derived, reserve, derived', rfl⟩
  have pulls : ∀ markets, ∃ pulled, (ofZero.pullDrift savings Program.token.mainnet 7
      markets).Returns pulled := by
    intro markets
    simp only [pullDrift, Logged.returns_bind, Logged.returns_liftM, Logged.returns_pure]
    exact ⟨_, signer, ofSigner, state, ofState, user, ofUser, userStats, ofUserStats, marketVault,
      ofMarketVault, vault, held, integration, derived, reserve, derived', rfl⟩
  obtain ⟨pushed, built⟩ := pushes [selfPricedMarket]
  obtain ⟨pushed', built'⟩ := pushes [selfPricedMarket, selfPricedMarket]
  obtain ⟨pulled, built''⟩ := pulls [selfPricedMarket]
  obtain ⟨lists, ofPush, ofPull⟩ := deposit_agrees ofZero savings
  obtain ⟨user', found, listed⟩ := lists (.push Program.token.mainnet 7 true [selfPricedMarket])
    .user 8 pushed rfl built
  obtain ⟨user'', found', listed'⟩ := lists (.pull Program.token.mainnet 7 [selfPricedMarket])
    .user 8 pulled rfl built''
  cases Except.ok.inj (found.symm.trans found')
  obtain ⟨-, -, -, differ⟩ := ofPush _ _ _ _ pushed built
  obtain ⟨-, -, last, read, -⟩ := ofPull _ _ _ pulled built''
  exact ⟨pushed, pushed', pulled, user', built, built', built'', listed, listed',
    differ _ pushed' built' (by simp), read, last⟩

end Builder

end LiquidityController
