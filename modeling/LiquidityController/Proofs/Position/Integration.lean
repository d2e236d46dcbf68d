import LiquidityController.Proofs.Position.Recomputation

/-!
# The integration of a position

Every operation on a position puts the config together again and derives the integration from it.
`Builder.config` and `Builder.integration` say once which config and which integration that is, and
`Builder.Handles` what an instruction says about them, whatever operation it belongs to: it lists
the integration of the position at a place that its kind fixes, and carries arguments that the
program reads back.
-/

namespace LiquidityController

theorem Config.ofProtocol_inj {protocol : Protocol} {fields fields' : (Kind.of protocol).Fields} :
    ofProtocol protocol fields = ofProtocol protocol fields' ↔ fields = fields' := by
  constructor
  · intro same
    have payloads := eq_of_heq (Config.mk.inj same).2
    exact congrArg Payload.fields payloads
  · rintro rfl
    rfl

namespace Instruction

/-- The instruction lists what a lookup finds at the slot. -/
def Lists (instruction : Instruction) (found : Except Failure Address) (slot : Nat) : Prop :=
  ∃ address, found = .ok address ∧ instruction.addresses[slot]? = some address

variable {program : Address} {kind : Kind} {accounts : kind.Accounts} {arguments : kind.Arguments}
  {remaining : List AccountMeta}

/-- The accounts of the kind come first, and those of the caller after them. -/
theorem accounts_make : (make program kind accounts arguments remaining).accounts =
    kind.slots accounts ++ remaining := by
  simp [make, Kind.metas, AccountMeta.withSigning]

theorem addresses_make : (make program kind accounts arguments remaining).addresses =
    (kind.slots accounts).map AccountMeta.address ++ remaining.map AccountMeta.address := by
  rw [addresses, accounts_make, List.map_append]

end Instruction

namespace Builder

def config (builder : Builder) : Position → Logged Failure Config
  | .atomicSwap swap => pure (.ofProtocol .atomicSwap swap)
  | .external transfer => do
    let fields ← builder.externalConfig transfer
    return .ofProtocol .splTokenExternal fields
  | .drift position => pure position.config
  | .kamino position => do
    let fields ← builder.kaminoConfig position
    return .ofProtocol .kamino fields

def integration (builder : Builder) (position : Position) : Logged Failure Address := do
  let config ← builder.config position
  builder.integrationAddress config

/-- What the config of a position can be. Only two protocols look something up for it. -/
inductive ConfigOf (builder : Builder) : Position → Config → Prop where
  | atomicSwap (swap : Config.AtomicSwap) :
    ConfigOf builder (.atomicSwap swap) (.ofProtocol .atomicSwap swap)
  | external {transfer : ExternalTransfer} {fields : Config.SplTokenExternal}
    (resolved : (builder.externalConfig transfer).Returns fields) :
    ConfigOf builder (.external transfer) (.ofProtocol .splTokenExternal fields)
  | drift (position : DriftPosition) : ConfigOf builder (.drift position) position.config
  | kamino {position : KaminoPosition} {fields : Config.Kamino}
    (chosen : builder.kaminoConfig position = .ok fields) :
    ConfigOf builder (.kamino position) (.ofProtocol .kamino fields)

/-- The instruction is of the kind, carries the arguments, and lists the integration of the
position at the slot. -/
def Handles (builder : Builder) (position : Position) (kind : Instruction.Kind)
    (arguments : kind.Arguments) (slot : Nat) (instruction : Instruction) : Prop :=
  ∃ integration accounts remaining, (builder.integration position).Returns integration ∧
    ((kind.slots accounts).map AccountMeta.address)[slot]? = some integration ∧
    instruction = builder.instruction kind accounts arguments remaining

variable {builder : Builder} {position : Position} {config : Config} {integration : Address}
  {instruction : Instruction}

/-! ### Configs -/

theorem config_returns :
    (builder.config position).Returns config ↔ builder.ConfigOf position config := by
  constructor
  · intro configured
    cases position with
    | atomicSwap swap =>
      cases Logged.returns_pure.mp configured
      exact .atomicSwap swap
    | external transfer =>
      obtain ⟨fields, resolved, configured⟩ := Logged.returns_bind.mp configured
      cases Logged.returns_pure.mp configured
      exact .external resolved
    | drift position =>
      cases Logged.returns_pure.mp configured
      exact .drift position
    | kamino position =>
      obtain ⟨fields, chosen, configured⟩ := Logged.returns_bind.mp configured
      cases Logged.returns_pure.mp configured
      exact .kamino (Logged.returns_liftM.mp chosen)
  · intro configured
    cases configured with
    | atomicSwap swap => exact Logged.returns_pure.mpr rfl
    | external resolved =>
      exact Logged.returns_bind.mpr ⟨_, resolved, Logged.returns_pure.mpr rfl⟩
    | drift position => exact Logged.returns_pure.mpr rfl
    | kamino chosen =>
      exact Logged.returns_bind.mpr
        ⟨_, Logged.returns_liftM.mpr chosen, Logged.returns_pure.mpr rfl⟩

theorem ConfigOf.kind_eq (configured : builder.ConfigOf position config) :
    config.kind = .of position.protocol := by
  cases configured <;> rfl

/-! ### Integrations -/

theorem integration_returns : (builder.integration position).Returns integration ↔
    ∃ config, builder.ConfigOf position config ∧
      builder.integrationAddress config = .ok integration := by
  simp only [Builder.integration, Logged.returns_bind, Logged.returns_liftM, config_returns]

/-- Deriving the address of a config of the position is deriving the integration. -/
theorem ConfigOf.integration_returns (configured : builder.ConfigOf position config)
    (derived : builder.integrationAddress config = .ok integration) :
    (builder.integration position).Returns integration :=
  Builder.integration_returns.mpr ⟨config, configured, derived⟩

/-! ### Instructions on an integration -/

namespace Handles

variable {kind : Instruction.Kind} {arguments : kind.Arguments} {slot : Nat}

theorem lists (handles : builder.Handles position kind arguments slot instruction) :
    ∃ integration, (builder.integration position).Returns integration ∧
      instruction.addresses[slot]? = some integration := by
  obtain ⟨integration, accounts, remaining, derived, listed, rfl⟩ := handles
  have early : slot < ((kind.slots accounts).map AccountMeta.address).length :=
    (List.getElem?_eq_some_iff.mp listed).1
  refine ⟨integration, derived, ?_⟩
  -- the accounts that follow those of the kind leave the slot alone
  rw [Builder.instruction, Instruction.addresses_make, List.getElem?_append_left early, listed]

/-- The program reads back the arguments that were written. -/
theorem read (handles : builder.Handles position kind arguments slot instruction) :
    instruction.data.head? = some kind.opcode.discriminator ∧
      kind.codec.decodeAll instruction.data.tail = .ok arguments := by
  obtain ⟨integration, accounts, remaining, -, -, rfl⟩ := handles
  exact ⟨rfl, kind.codec.decodeAll_encode arguments⟩

end Handles

theorem initializeIntegration_handles {protocol : Protocol} {terms : IntegrationTerms}
    {setup : Setup} {remaining : List AccountMeta}
    (configured : builder.ConfigOf position config)
    (built : (builder.initializeIntegration protocol config terms setup remaining).Returns
      instruction) :
    ∃ arguments, builder.Handles position .initializeIntegration arguments 5 instruction := by
  obtain ⟨description, integration, -, derived, rfl⟩ := initializeIntegration_returns built
  exact ⟨_, integration, _, remaining, configured.integration_returns derived, rfl, rfl⟩

/-- An instruction that creates an integration lists the integration of its position, whatever the
terms are. -/
theorem create_handles (position : Position) {terms : IntegrationTerms}
    (built : (builder.create terms position).Returns instruction) :
    ∃ arguments, builder.Handles position .initializeIntegration arguments 5 instruction := by
  cases position with
  | atomicSwap swap => exact initializeIntegration_handles (.atomicSwap swap) built
  | external transfer =>
    obtain ⟨fields, resolved, built⟩ := Logged.returns_bind.mp built
    exact initializeIntegration_handles (.external resolved) built
  | drift position =>
    simp only [create, initializeDrift, Logged.returns_bind] at built
    obtain ⟨user, -, userStats, -, state, -, spotMarket, -, built⟩ := built
    exact initializeIntegration_handles (.drift position) built
  | kamino position =>
    simp only [create, initializeKamino, Logged.returns_bind, Logged.returns_liftM] at built
    obtain ⟨fields, chosen, userMetadata, -, obligationFarm, -, marketAuthority, -, built⟩ := built
    exact initializeIntegration_handles (.kamino chosen) built

end Builder

end LiquidityController
