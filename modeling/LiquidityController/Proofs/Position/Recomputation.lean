import LiquidityController.Position.AtomicSwap
import LiquidityController.Position.Drift
import LiquidityController.Position.ExternalTransfer
import LiquidityController.Position.Kamino
import LiquidityController.Proofs.Instruction.ArgumentCodecs
import LiquidityController.Proofs.Integration.CanonicalForm
import LiquidityController.Proofs.Logged

/-!
# Recomputing the address of a new integration

The program that creates an integration does not receive the config of the position. It finds the
fields in the accounts and in the arguments of the instruction, puts the config together again
and derives the address from its digest. The instruction lists that same address, so all three
copies of the fields have to agree.

## Main result

`Builder.create_recomputable`: for every position, what an instruction carries is read back in
full, names one protocol throughout, and leads to the address that the instruction lists.
-/

namespace LiquidityController

/-- The accounts of an instruction without their roles. -/
def Instruction.addresses (instruction : Instruction) : List Address :=
  instruction.accounts.map AccountMeta.address

/-- The fields of a config that an instruction does not carry. -/
inductive Unlisted where
  | nothing
  | mintDecimals (input output : UInt8)
  | debtFarm (farm : Address)

/-- The config of the integration that an instruction creates, from what the instruction carries.
The accounts before the eighth are the same for all protocols. -/
def Setup.rebuild (setup : Setup) (accounts : List Address) : Unlisted → Option Config
  | .nothing =>
    match setup with
    | .splTokenExternal => do
      return .ofProtocol .splTokenExternal {
        program := ← accounts[11]?
        mint := ← accounts[8]?
        recipient := ← accounts[9]?
        tokenAccount := ← accounts[10]? }
    | .drift subAccountId spotMarketIndex =>
      some (.ofProtocol .drift { subAccountId, spotMarketIndex })
    | _ => none
  | .mintDecimals inputMintDecimals outputMintDecimals =>
    match setup with
    | .atomicSwap maxSlippageBps maxStaleness expiryTimestamp oraclePriceInverted => do
      return .ofProtocol .atomicSwap {
        inputToken := ← accounts[8]?
        outputToken := ← accounts[9]?
        oracle := ← accounts[10]?
        maxSlippageBps, maxStaleness, inputMintDecimals, outputMintDecimals, expiryTimestamp,
        oraclePriceInverted }
    | _ => none
  | .debtFarm reserveFarmDebt =>
    match setup with
    | .kamino obligationId => do
      return .ofProtocol .kamino {
        market := ← accounts[16]?
        reserve := ← accounts[13]?
        reserveFarmCollateral := ← accounts[14]?
        reserveFarmDebt
        reserveLiquidityMint := ← accounts[9]?
        obligation := ← accounts[8]?
        obligationId }
    | _ => none

/-- A position for which an integration can be created. -/
inductive Position where
  | atomicSwap (swap : Config.AtomicSwap)
  | external (transfer : ExternalTransfer)
  | drift (position : DriftPosition)
  | kamino (position : KaminoPosition)

namespace Position

def protocol : Position → Protocol
  | atomicSwap _ => .atomicSwap
  | external _ => .splTokenExternal
  | drift _ => .drift
  | kamino _ => .kamino

/-- The fields of a position that its instruction does not carry. -/
def unlisted : Position → Unlisted
  | atomicSwap swap => .mintDecimals swap.inputMintDecimals swap.outputMintDecimals
  | external _ => .nothing
  | drift _ => .nothing
  | kamino position => .debtFarm position.reserveFarmDebt

end Position

namespace Builder

def create (builder : Builder) (terms : IntegrationTerms) :
    Position → Logged Failure Instruction
  | .atomicSwap swap => builder.initializeAtomicSwap terms swap
  | .external transfer => builder.initializeExternal terms transfer
  | .drift position => builder.initializeDrift terms position
  | .kamino position => builder.initializeKamino terms position

/-! ### The shared instruction -/

/-- The accounts of an instruction that creates an integration at an address. -/
def newIntegrationAccounts (builder : Builder) (integration : Address) :
    InitializeIntegration.Accounts where
  payer := builder.payer
  controller := builder.controller
  controllerAuthority := builder.controllerAuthority
  authority := builder.authority
  permission := builder.permission
  integration := integration
  program := builder.programs.controller
  systemProgram := builder.programs.system

theorem integrationAddress_eq_ok {builder : Builder} {config : Config} {address : Address} :
    builder.integrationAddress config = .ok address ↔
      ∃ bytes, config.canonicalBytes = .ok bytes ∧
        builder.programs.derive (.integration builder.controller (keccak256 bytes)) =
          .ok address := by
  constructor
  · intro derived
    obtain ⟨digest, hashed, derived⟩ := bind_eq_ok.mp derived
    obtain ⟨bytes, canonical, rfl⟩ := Config.hash_eq_ok_iff.mp hashed
    exact ⟨bytes, canonical, derived⟩
  · rintro ⟨bytes, canonical, derived⟩
    exact bind_eq_ok.mpr ⟨_, Config.hash_eq_ok_iff.mpr ⟨bytes, canonical, rfl⟩, derived⟩

theorem initializeIntegration_returns {builder : Builder} {protocol : Protocol} {config : Config}
    {terms : IntegrationTerms} {setup : Setup} {remaining : List AccountMeta}
    {instruction : Instruction}
    (built : (builder.initializeIntegration protocol config terms setup remaining).Returns
      instruction) :
    ∃ description integration,
      terms.buffer.Returns description ∧
      builder.integrationAddress config = .ok integration ∧
      instruction = builder.instruction .initializeIntegration
        (builder.newIntegrationAccounts integration)
        { protocol
          status := terms.status
          description
          rateLimit := terms.rateLimit
          permitLiquidation := terms.permitLiquidation
          setup }
        remaining := by
  simp only [initializeIntegration, Logged.returns_bind, Logged.returns_liftM,
    Logged.returns_report, Logged.returns_pure, true_and, exists_const] at built
  obtain ⟨description, described, integration, derived, rfl⟩ := built
  exact ⟨description, integration, described, derived, rfl⟩

/-- What an instruction carries is read back as the given arguments and leads, over the given
config, to the address that the instruction lists. -/
structure Recomputed (builder : Builder) (protocol : Protocol) (unlisted : Unlisted)
    (instruction : Instruction) (arguments : InitializeIntegration.Arguments)
    (config : Config) : Prop where
  opcode : instruction.data.head? = some Opcode.initializeIntegration.discriminator
  read : InitializeIntegration.Arguments.codec.decodeAll instruction.data.tail = .ok arguments
  rebuilt : arguments.setup.rebuild instruction.addresses unlisted = some config
  protocol_arguments : arguments.protocol = protocol
  protocol_setup : arguments.setup.protocol = protocol
  protocol_config : config.kind = .of protocol
  program : instruction.program = builder.programs.controller
  controller : instruction.addresses[1]? = some builder.controller
  address : ∃ bytes integration,
    config.canonicalBytes = .ok bytes ∧
    Derived.address builder.programs.controller
      (.integration builder.controller (keccak256 bytes)) = .ok integration ∧
    instruction.addresses[5]? = some integration

/-- An instruction is recomputed as soon as its own accounts and its setup give the config back,
whatever the eight accounts in front are. -/
theorem initializeIntegration_recomputed {builder : Builder} {protocol : Protocol}
    {fields : (Config.Kind.of protocol).Fields} {terms : IntegrationTerms} {setup : Setup}
    {remaining : List AccountMeta} {instruction : Instruction} {unlisted : Unlisted}
    (built : (builder.initializeIntegration protocol (.ofProtocol protocol fields) terms setup
      remaining).Returns instruction)
    (agrees : setup.protocol = protocol)
    (listed : ∀ front, front.length = 8 →
      setup.rebuild (front ++ remaining.map AccountMeta.address) unlisted =
        some (.ofProtocol protocol fields)) :
    ∃ arguments config, builder.Recomputed protocol unlisted instruction arguments config := by
  obtain ⟨description, integration, -, derived, rfl⟩ := initializeIntegration_returns built
  obtain ⟨bytes, canonical, derived⟩ := integrationAddress_eq_ok.mp derived
  -- the arguments are lawful, so the reader gets back what the builder wrote
  have read := InitializeIntegration.Arguments.codec.decodeAll_encode
    ⟨protocol, terms.status, description, terms.rateLimit, terms.permitLiquidation, setup⟩
  have rebuilt := listed ((builder.newIntegrationAccounts integration).slots.map
    AccountMeta.address) rfl
  rw [← List.map_append] at rebuilt
  exact ⟨_, .ofProtocol protocol fields, {
    opcode := rfl
    read := read
    rebuilt := rebuilt
    protocol_arguments := rfl
    protocol_setup := agrees
    protocol_config := rfl
    program := rfl
    controller := rfl
    address := ⟨bytes, integration, canonical, derived, rfl⟩ }⟩

/-! ### The four protocols -/

theorem initializeAtomicSwap_recomputed {builder : Builder} {terms : IntegrationTerms}
    {swap : Config.AtomicSwap} {instruction : Instruction}
    (built : (builder.initializeAtomicSwap terms swap).Returns instruction) :
    ∃ arguments config, builder.Recomputed .atomicSwap
      (.mintDecimals swap.inputMintDecimals swap.outputMintDecimals) instruction arguments
        config := by
  refine initializeIntegration_recomputed built rfl ?_
  intro front eight
  simp [Setup.rebuild, Config.AtomicSwap.setup, AccountMeta.readonly, eight]

theorem initializeExternal_recomputed {builder : Builder} {terms : IntegrationTerms}
    {transfer : ExternalTransfer} {instruction : Instruction}
    (built : (builder.initializeExternal terms transfer).Returns instruction) :
    ∃ arguments config,
      builder.Recomputed .splTokenExternal .nothing instruction arguments config := by
  simp only [initializeExternal, Logged.returns_bind] at built
  obtain ⟨fields, -, built⟩ := built
  refine initializeIntegration_recomputed built rfl ?_
  intro front eight
  simp [Setup.rebuild, AccountMeta.readonly, AccountMeta.writable, eight]

theorem initializeDrift_recomputed {builder : Builder} {terms : IntegrationTerms}
    {position : DriftPosition} {instruction : Instruction}
    (built : (builder.initializeDrift terms position).Returns instruction) :
    ∃ arguments config, builder.Recomputed .drift .nothing instruction arguments config := by
  simp only [initializeDrift, Logged.returns_bind] at built
  obtain ⟨user, -, userStats, -, state, -, spotMarket, -, built⟩ := built
  refine initializeIntegration_recomputed built rfl ?_
  intro front eight
  -- the setup repeats both fields of the config, so no account is read
  rfl

theorem initializeKamino_recomputed {builder : Builder} {terms : IntegrationTerms}
    {position : KaminoPosition} {instruction : Instruction}
    (built : (builder.initializeKamino terms position).Returns instruction) :
    ∃ arguments config, builder.Recomputed .kamino (.debtFarm position.reserveFarmDebt) instruction
      arguments config := by
  simp only [initializeKamino, Logged.returns_bind, Logged.returns_liftM] at built
  obtain ⟨fields, configured, userMetadata, -, obligationFarm, -, marketAuthority, -, built⟩ :=
    built
  -- the obligation is derived, but it is also listed, so it is not derived again
  obtain ⟨obligation, -, configured⟩ := bind_eq_ok.mp configured
  cases configured
  refine initializeIntegration_recomputed built rfl ?_
  intro front eight
  simp [Setup.rebuild, AccountMeta.readonly, AccountMeta.writable, eight]

/-! ### Main theorem -/

/-- The instruction that creates an integration carries enough, and in agreement with itself, for
the address of the integration to be computed again. -/
theorem create_recomputable {builder : Builder} {terms : IntegrationTerms} {position : Position}
    {instruction : Instruction}
    (built : (builder.create terms position).result = .ok instruction) :
    ∃ arguments config,
      builder.Recomputed position.protocol position.unlisted instruction arguments config := by
  cases position with
  | atomicSwap swap => exact initializeAtomicSwap_recomputed built
  | external transfer => exact initializeExternal_recomputed built
  | drift position => exact initializeDrift_recomputed built
  | kamino position => exact initializeKamino_recomputed built

/-- A swap that accepts prices of any age and has expired before it was made. -/
def anyAgeSwap : Config.AtomicSwap where
  inputToken := .zero
  outputToken := .zero
  oracle := .zero
  maxSlippageBps := 50
  maxStaleness := 0xffffffffffffffff
  inputMintDecimals := 6
  outputMintDecimals := 9
  expiryTimestamp := -1
  oraclePriceInverted := true

/-- Under the public deployments, the integration of a swap is created and recomputed. -/
theorem create_recomputable_of_swap : ∃ builder instruction,
    (Builder.new .mainnet .zero .zero).result = .ok builder ∧
    (builder.create { description := "swap" } (.atomicSwap anyAgeSwap)).result = .ok instruction ∧
    ∃ arguments config, builder.Recomputed .atomicSwap (.mintDecimals 6 9) instruction arguments
      config := by
  have succeeds : ((Builder.new .mainnet .zero .zero).result >>= fun builder =>
      (builder.create { description := "swap" } (.atomicSwap anyAgeSwap)).result).isOk := by
    decide +kernel
  cases attempt : (Builder.new .mainnet .zero .zero).result >>= fun builder =>
    (builder.create { description := "swap" } (.atomicSwap anyAgeSwap)).result with
  | error failure => rw [attempt] at succeeds; cases succeeds
  | ok instruction =>
    obtain ⟨builder, made, built⟩ := bind_eq_ok.mp attempt
    exact ⟨builder, instruction, made, built, create_recomputable built⟩

end Builder

end LiquidityController
