import LiquidityController.Builder.Request
import LiquidityController.Proofs.Position.Integration

/-!
# Operations on a position

A position is created, deposited into, withdrawn from and brought up to date by instructions that
are built independently of each other. Each of them puts the config together again, derives the
integration from it and lists it at a place of its own, and each transfer repeats in its arguments
what the config says about the market.

## Main result

`Builder.operations_agree`: all operations on a position list the same integration, and what a
transfer carries names the protocol of the position and the amount that the caller asked for.
-/

namespace LiquidityController

/-! ### What a transfer says -/

/-- Whether a deposit may only reduce what is borrowed, for a protocol that knows the difference. -/
def Push.reduceOnly? : Push → Option Bool
  | drift _ _ reduceOnly => some reduceOnly
  | splTokenExternal .. | cctpBridge .. | lzBridge .. | kamino .. => none

/-- The spot market into which funds are moved, for a protocol that has one. -/
def Push.spotMarket? : Push → Option UInt16
  | drift market _ _ => some market
  | splTokenExternal .. | cctpBridge .. | lzBridge .. | kamino .. => none

/-- The spot market from which funds are moved, for a protocol that has one. -/
def Pull.spotMarket? : Pull → Option UInt16
  | drift market _ => some market
  | splTokenExternal | cctpBridge | lzBridge | kamino .. => none

/-- The spot market that a config names, if it is that of a deposit in one. -/
def Config.spotMarket? (config : Config) : Option UInt16 :=
  match config with
  | ⟨.of .drift, payload⟩ => some payload.fields.spotMarketIndex
  | _ => none

/-- The spot market of a position, if it is a deposit in one. -/
def Position.spotMarket? : Position → Option UInt16
  | drift position => some position.spotMarketIndex
  | atomicSwap .. | external .. | kamino .. => none

/-! ### Requests on a position -/

namespace Request

/-- The request is about the position, and its instruction lists the integration at the slot. -/
inductive ActsOn : Request → Position → Nat → Prop where
  | initializeAtomicSwap (terms : IntegrationTerms) (swap : Config.AtomicSwap) :
    ActsOn (.initializeAtomicSwap terms swap) (.atomicSwap swap) 5
  | initializeExternal (terms : IntegrationTerms) (transfer : ExternalTransfer) :
    ActsOn (.initializeExternal terms transfer) (.external transfer) 5
  | pushExternal (transfer : ExternalTransfer) (amount : UInt64) :
    ActsOn (.pushExternal transfer amount) (.external transfer) 4
  | initializeDrift (terms : IntegrationTerms) (position : DriftPosition) :
    ActsOn (.initializeDrift terms position) (.drift position) 5
  | pushDrift (position : DriftPosition) (tokenProgram : Address) (amount : UInt64)
    (reduceOnly : Bool) (markets : List SpotMarket) :
    ActsOn (.pushDrift position tokenProgram amount reduceOnly markets) (.drift position) 4
  | pullDrift (position : DriftPosition) (tokenProgram : Address) (amount : UInt64)
    (markets : List SpotMarket) :
    ActsOn (.pullDrift position tokenProgram amount markets) (.drift position) 4
  | syncDrift (position : DriftPosition) : ActsOn (.syncDrift position) (.drift position) 3
  | initializeKamino (terms : IntegrationTerms) (position : KaminoPosition) :
    ActsOn (.initializeKamino terms position) (.kamino position) 5
  | pushKamino (position : KaminoPosition) (tokenProgram : Address) (amount : UInt64) :
    ActsOn (.pushKamino position tokenProgram amount) (.kamino position) 4
  | pullKamino (position : KaminoPosition) (tokenProgram : Address) (amount : UInt64) :
    ActsOn (.pullKamino position tokenProgram amount) (.kamino position) 4
  | syncKamino (position : KaminoPosition) (tokenProgram : Address)
    (harvest : Option RewardHarvest) :
    ActsOn (.syncKamino position tokenProgram harvest) (.kamino position) 3

/-- The request moves an amount into the position. Only the exchange takes the flag. -/
inductive Pushes : Request → Position → UInt64 → Option Bool → Prop where
  | external (transfer : ExternalTransfer) (amount : UInt64) :
    Pushes (.pushExternal transfer amount) (.external transfer) amount none
  | drift (position : DriftPosition) (tokenProgram : Address) (amount : UInt64)
    (reduceOnly : Bool) (markets : List SpotMarket) :
    Pushes (.pushDrift position tokenProgram amount reduceOnly markets) (.drift position) amount
      (some reduceOnly)
  | kamino (position : KaminoPosition) (tokenProgram : Address) (amount : UInt64) :
    Pushes (.pushKamino position tokenProgram amount) (.kamino position) amount none

/-- The request moves an amount out of the position. -/
inductive Pulls : Request → Position → UInt64 → Prop where
  | drift (position : DriftPosition) (tokenProgram : Address) (amount : UInt64)
    (markets : List SpotMarket) :
    Pulls (.pullDrift position tokenProgram amount markets) (.drift position) amount
  | kamino (position : KaminoPosition) (tokenProgram : Address) (amount : UInt64) :
    Pulls (.pullKamino position tokenProgram amount) (.kamino position) amount

end Request

namespace Builder

section Operations

variable {builder : Builder} {instruction : Instruction} {tokenProgram : Address} {amount : UInt64}

theorem pushExternal_handles {transfer : ExternalTransfer}
    (built : (builder.pushExternal transfer amount).Returns instruction) :
    builder.Handles (.external transfer) .push (.splTokenExternal amount) 4 instruction := by
  -- of the accounts that are looked up on the way, only the integration is of interest
  simp only [pushExternal, Logged.returns_bind, Logged.returns_liftM, Logged.returns_pure] at built
  obtain ⟨fields, resolved, integration, derived, reserve, -, vault, -, rfl⟩ := built
  exact ⟨integration, _, _, ConfigOf.integration_returns (.external resolved) derived, rfl, rfl⟩

theorem pushDrift_handles {position : DriftPosition} {reduceOnly : Bool}
    {markets : List SpotMarket}
    (built : (builder.pushDrift position tokenProgram amount reduceOnly markets).Returns
      instruction) :
    builder.Handles (.drift position) .push (.drift position.spotMarketIndex amount reduceOnly) 4
      instruction := by
  simp only [pushDrift, Logged.returns_bind, Logged.returns_liftM, Logged.returns_pure] at built
  obtain ⟨vault, -, state, -, user, -, userStats, -, marketVault, -, integration, derived, reserve,
    -, rfl⟩ := built
  exact ⟨integration, _, _, ConfigOf.integration_returns (.drift position) derived, rfl, rfl⟩

theorem pullDrift_handles {position : DriftPosition} {markets : List SpotMarket}
    (built : (builder.pullDrift position tokenProgram amount markets).Returns instruction) :
    builder.Handles (.drift position) .pull (.drift position.spotMarketIndex amount) 4
      instruction := by
  simp only [pullDrift, Logged.returns_bind, Logged.returns_liftM, Logged.returns_pure] at built
  obtain ⟨signer, -, state, -, user, -, userStats, -, marketVault, -, vault, -, integration,
    derived, reserve, -, rfl⟩ := built
  exact ⟨integration, _, _, ConfigOf.integration_returns (.drift position) derived, rfl, rfl⟩

theorem syncDrift_handles {position : DriftPosition}
    (built : (builder.syncDrift position).Returns instruction) :
    builder.Handles (.drift position) .syncIntegration () 3 instruction := by
  simp only [syncDrift, Logged.returns_bind, Logged.returns_liftM, Logged.returns_pure] at built
  obtain ⟨marketVault, -, spotMarket, -, user, -, integration, derived, reserve, -, rfl⟩ := built
  exact ⟨integration, _, _, ConfigOf.integration_returns (.drift position) derived, rfl, rfl⟩

theorem pushKamino_handles {position : KaminoPosition}
    (built : (builder.pushKamino position tokenProgram amount).Returns instruction) :
    builder.Handles (.kamino position) .push (.kamino amount) 4 instruction := by
  simp only [pushKamino, Logged.returns_bind, Logged.returns_liftM, Logged.returns_pure] at built
  obtain ⟨fields, chosen, accounts, -, userMetadata, -, integration, derived, reserve, -, rfl⟩ :=
    built
  exact ⟨integration, _, _, ConfigOf.integration_returns (.kamino chosen) derived, rfl, rfl⟩

theorem pullKamino_handles {position : KaminoPosition}
    (built : (builder.pullKamino position tokenProgram amount).Returns instruction) :
    builder.Handles (.kamino position) .pull (.kamino amount) 4 instruction := by
  simp only [pullKamino, Logged.returns_bind, Logged.returns_liftM, Logged.returns_pure] at built
  obtain ⟨fields, chosen, accounts, -, integration, derived, reserve, -, rfl⟩ := built
  exact ⟨integration, _, _, ConfigOf.integration_returns (.kamino chosen) derived, rfl, rfl⟩

theorem syncKamino_handles {position : KaminoPosition} {harvest : Option RewardHarvest}
    (built : (builder.syncKamino position tokenProgram harvest).Returns instruction) :
    builder.Handles (.kamino position) .syncIntegration () 3 instruction := by
  simp only [syncKamino, Logged.returns_bind, Logged.returns_liftM] at built
  obtain ⟨fields, chosen, vault, -, built⟩ := built
  -- the rewards only lengthen the list of accounts
  cases harvest with
  | none =>
    simp only [Logged.returns_bind, Logged.returns_liftM, Logged.returns_pure] at built
    obtain ⟨rewards, -, integration, derived, reserve, -, rfl⟩ := built
    exact ⟨integration, _, _, ConfigOf.integration_returns (.kamino chosen) derived, rfl, rfl⟩
  | some harvest =>
    simp only [Logged.returns_bind, Logged.returns_liftM, Logged.returns_pure] at built
    obtain ⟨rewards, -, integration, derived, reserve, -, rfl⟩ := built
    exact ⟨integration, _, _, ConfigOf.integration_returns (.kamino chosen) derived, rfl, rfl⟩

variable {position : Position}

theorem ConfigOf.spotMarket?_eq {config : Config}
    (configured : builder.ConfigOf position config) :
    config.spotMarket? = position.spotMarket? := by
  cases configured <;> rfl

/-! ### All operations -/

theorem perform_handles {request : Request} {slot : Nat} (acts : request.ActsOn position slot)
    (built : (builder.perform request).Returns instruction) :
    ∃ kind arguments, builder.Handles position kind arguments slot instruction := by
  cases acts with
  | initializeAtomicSwap terms swap => exact ⟨_, create_handles (.atomicSwap swap) built⟩
  | initializeExternal terms transfer => exact ⟨_, create_handles (.external transfer) built⟩
  | initializeDrift terms position => exact ⟨_, create_handles (.drift position) built⟩
  | initializeKamino terms position => exact ⟨_, create_handles (.kamino position) built⟩
  | pushExternal transfer amount => exact ⟨_, _, pushExternal_handles built⟩
  | pushDrift position tokenProgram amount reduceOnly markets =>
    exact ⟨_, _, pushDrift_handles built⟩
  | pullDrift position tokenProgram amount markets => exact ⟨_, _, pullDrift_handles built⟩
  | syncDrift position => exact ⟨_, _, syncDrift_handles built⟩
  | pushKamino position tokenProgram amount => exact ⟨_, _, pushKamino_handles built⟩
  | pullKamino position tokenProgram amount => exact ⟨_, _, pullKamino_handles built⟩
  | syncKamino position tokenProgram harvest => exact ⟨_, _, syncKamino_handles built⟩

theorem perform_handles_push {request : Request} {reduceOnly : Option Bool}
    (pushes : request.Pushes position amount reduceOnly)
    (built : (builder.perform request).Returns instruction) :
    ∃ transfer, builder.Handles position .push transfer 4 instruction ∧
      transfer.protocol = position.protocol ∧ transfer.amount = amount ∧
      transfer.reduceOnly? = reduceOnly ∧ transfer.spotMarket? = position.spotMarket? := by
  cases pushes with
  | external transfer amount => exact ⟨_, pushExternal_handles built, rfl, rfl, rfl, rfl⟩
  | drift position tokenProgram amount reduceOnly markets =>
    exact ⟨_, pushDrift_handles built, rfl, rfl, rfl, rfl⟩
  | kamino position tokenProgram amount =>
    exact ⟨_, pushKamino_handles built, rfl, rfl, rfl, rfl⟩

theorem perform_handles_pull {request : Request} (pulls : request.Pulls position amount)
    (built : (builder.perform request).Returns instruction) :
    ∃ transfer, builder.Handles position .pull transfer 4 instruction ∧
      transfer.protocol = position.protocol ∧ transfer.amount? = some amount ∧
      transfer.spotMarket? = position.spotMarket? := by
  cases pulls with
  | drift position tokenProgram amount markets =>
    exact ⟨_, pullDrift_handles built, rfl, rfl, rfl⟩
  | kamino position tokenProgram amount => exact ⟨_, pullKamino_handles built, rfl, rfl, rfl⟩

end Operations

/-! ### Main theorem -/

/-- Whatever is done with a position, the instruction lists the integration of the position, and
so the same one each time. A transfer carries the protocol of the position, the amount that was
asked for, the flag where there is one, and the market that the config of the integration names. -/
theorem operations_agree (builder : Builder) (position : Position) :
    (∀ request slot instruction request' slot' instruction',
      request.ActsOn position slot → (builder.perform request).result = .ok instruction →
      request'.ActsOn position slot' → (builder.perform request').result = .ok instruction' →
      ∃ integration, (builder.integration position).result = .ok integration ∧
        instruction.addresses[slot]? = some integration ∧
        instruction'.addresses[slot']? = some integration) ∧
    (∀ request amount reduceOnly instruction,
      request.Pushes position amount reduceOnly →
      (builder.perform request).result = .ok instruction →
      ∃ config transfer, (builder.config position).result = .ok config ∧
        instruction.data.head? = some Opcode.push.discriminator ∧
        Push.codec.decodeAll instruction.data.tail = .ok transfer ∧
        transfer.protocol = position.protocol ∧ config.kind = .of position.protocol ∧
        transfer.amount = amount ∧ transfer.reduceOnly? = reduceOnly ∧
        transfer.spotMarket? = config.spotMarket?) ∧
    (∀ request amount instruction,
      request.Pulls position amount →
      (builder.perform request).result = .ok instruction →
      ∃ config transfer, (builder.config position).result = .ok config ∧
        instruction.data.head? = some Opcode.pull.discriminator ∧
        Pull.codec.decodeAll instruction.data.tail = .ok transfer ∧
        transfer.protocol = position.protocol ∧ config.kind = .of position.protocol ∧
        transfer.amount? = some amount ∧ transfer.spotMarket? = config.spotMarket?) := by
  refine ⟨?_, ?_, ?_⟩
  · intro request slot instruction request' slot' instruction' acts built acts' built'
    obtain ⟨kind, arguments, handles⟩ := perform_handles acts built
    obtain ⟨kind', arguments', handles'⟩ := perform_handles acts' built'
    obtain ⟨integration, derived, listed⟩ := handles.lists
    obtain ⟨integration', derived', listed'⟩ := handles'.lists
    -- however the two were built, each derives the integration of this one position
    cases Except.ok.inj (derived.symm.trans derived')
    exact ⟨integration, derived, listed, listed'⟩
  · intro request amount reduceOnly instruction pushes built
    obtain ⟨transfer, handles, protocol, moved, flag, market⟩ := perform_handles_push pushes built
    obtain ⟨integration, derived, -⟩ := handles.lists
    obtain ⟨config, configured, -⟩ := integration_returns.mp derived
    obtain ⟨opcode, read⟩ := handles.read
    exact ⟨config, transfer, config_returns.mpr configured, opcode, read, protocol,
      configured.kind_eq, moved, flag, market.trans configured.spotMarket?_eq.symm⟩
  · intro request amount instruction pulls built
    obtain ⟨transfer, handles, protocol, moved, market⟩ := perform_handles_pull pulls built
    obtain ⟨integration, derived, -⟩ := handles.lists
    obtain ⟨config, configured, -⟩ := integration_returns.mp derived
    obtain ⟨opcode, read⟩ := handles.read
    exact ⟨config, transfer, config_returns.mpr configured, opcode, read, protocol,
      configured.kind_eq, moved, market.trans configured.spotMarket?_eq.symm⟩

/-- Payouts of a token to an account of its own. -/
def payout : ExternalTransfer where
  mint := .ofText "EPjFWdd5AufqSSqeM2qN1xzybapC8G4wEGGkZwyTDt1v"
  recipient := .zero
  tokenProgram := Program.token.mainnet
  tokenAccount := some .zero

/-- Under the public deployments, an integration for payouts is created and paid into, and both
instructions list it. -/
theorem operations_agree_on_payout : ∃ builder created pushed integration transfer,
    (Builder.new .mainnet .zero .zero).result = .ok builder ∧
    (builder.perform (.initializeExternal { description := "payout" } payout)).result =
      .ok created ∧
    (builder.perform (.pushExternal payout 7)).result = .ok pushed ∧
    created.addresses[5]? = some integration ∧ pushed.addresses[4]? = some integration ∧
    Push.codec.decodeAll pushed.data.tail = .ok transfer ∧
    transfer.protocol = .splTokenExternal ∧ transfer.amount = 7 := by
  have succeeds : ((Builder.new .mainnet .zero .zero).result >>= fun builder =>
      (builder.perform (.initializeExternal { description := "payout" } payout)).result >>=
        fun _ => (builder.perform (.pushExternal payout 7)).result).isOk := by
    decide +kernel
  cases attempt : (Builder.new .mainnet .zero .zero).result >>= fun builder =>
      (builder.perform (.initializeExternal { description := "payout" } payout)).result >>=
        fun _ => (builder.perform (.pushExternal payout 7)).result with
  | error failure => rw [attempt] at succeeds; cases succeeds
  | ok pushed =>
    obtain ⟨builder, made, attempt⟩ := bind_eq_ok.mp attempt
    obtain ⟨created, built, built'⟩ := bind_eq_ok.mp attempt
    obtain ⟨integration, -, listed, listed'⟩ := (operations_agree builder (.external payout)).1
      _ 5 created _ 4 pushed (.initializeExternal _ payout) built (.pushExternal payout 7) built'
    obtain ⟨config, transfer, -, -, read, protocol, -, amount, -⟩ :=
      (operations_agree builder (.external payout)).2.1 _ 7 none pushed (.external payout 7) built'
    exact ⟨builder, created, pushed, integration, transfer, made, built, built', listed, listed',
      read, protocol, amount⟩

end Builder

end LiquidityController
