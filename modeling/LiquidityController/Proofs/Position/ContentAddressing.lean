import LiquidityController.Proofs.Address.Separation
import LiquidityController.Proofs.Position.Integration

/-!
# Integrations are addressed by what they are

The address of an integration is derived from its controller and from the digest of its config.
Two integrations can therefore share an address only if they agree in both, or by a collision of
one of the two digests. What a config leaves out, such as the referrer of a deposit or the terms
under which an integration is created, has no influence on the address.

A collision is always a pair of different byte strings that belong to the two integrations in
question. That some pair exists for every digest is true and says nothing.

## Main result

`Builder.integration_content_addressed`: equal addresses mean equal contents, up to collisions,
and conversely.
-/

namespace LiquidityController

/-! ### Configs -/

namespace Config

/-- Two integrations under one program have different forms with the same digest: either their
configs, or the preimages of their addresses. -/
inductive Collision (program controller : Address) (config : Config) (controller' : Address)
    (config' : Config) : Prop where
  | encodings {bytes bytes' : List UInt8} (canonical : config.canonicalBytes = .ok bytes)
    (canonical' : config'.canonicalBytes = .ok bytes') (length : bytes.length = 225)
    (length' : bytes'.length = 225) (different : bytes ≠ bytes')
    (same : keccak256 bytes = keccak256 bytes') :
    Collision program controller config controller' config'
  | preimages {digest digest' : Block 32} {address : Address} {bump bump' : UInt8}
    (hashed : config.hash = .ok digest) (hashed' : config'.hash = .ok digest')
    (found : (Derived.integration controller digest).find program = .ok (address, bump))
    (found' : (Derived.integration controller' digest').find program = .ok (address, bump'))
    (different : (Derived.integration controller digest).seeds.preimage program bump ≠
      (Derived.integration controller' digest').seeds.preimage program bump')
    (same : sha256 ((Derived.integration controller digest).seeds.preimage program bump) =
      sha256 ((Derived.integration controller' digest').seeds.preimage program bump')) :
    Collision program controller config controller' config'

theorem canonicalBytes_injective {config config' : Config} {bytes : List UInt8}
    (canonical : config.canonicalBytes = .ok bytes)
    (canonical' : config'.canonicalBytes = .ok bytes) : config = config' := by
  have read := (canonicalBytes_eq_ok_iff.mp canonical).read
  have read' := (canonicalBytes_eq_ok_iff.mp canonical').read
  exact Except.ok.inj (read.symm.trans read')

/-- A digest belongs to one config, or to two with different canonical forms. -/
theorem eq_or_collision_of_hash {program controller controller' : Address} {config config' : Config}
    {digest : Block 32} (hashed : config.hash = .ok digest) (hashed' : config'.hash = .ok digest) :
    config = config' ∨ Collision program controller config controller' config' := by
  obtain ⟨bytes, canonical, kept⟩ := hash_eq_ok_iff.mp hashed
  obtain ⟨bytes', canonical', kept'⟩ := hash_eq_ok_iff.mp hashed'
  by_cases same : bytes = bytes'
  · subst same
    exact .inl (canonicalBytes_injective canonical canonical')
  · -- there is only one length for all configs, so the digests are of equally long strings
    have length := (canonicalBytes_eq_ok_iff.mp canonical).length
    have length' := (canonicalBytes_eq_ok_iff.mp canonical').length
    exact .inr (.encodings canonical canonical' length length' same (kept.symm.trans kept'))

theorem eq_or_collision_of_address {program controller controller' : Address}
    {config config' : Config} {digest digest' : Block 32} {address : Address}
    (hashed : config.hash = .ok digest) (hashed' : config'.hash = .ok digest')
    (derived : (Derived.integration controller digest).address program = .ok address)
    (derived' : (Derived.integration controller' digest').address program = .ok address) :
    controller = controller' ∧ config = config' ∨
      Collision program controller config controller' config' := by
  obtain ⟨bump, found⟩ := Derived.exists_find_of_address derived
  obtain ⟨bump', found'⟩ := Derived.exists_find_of_address derived'
  by_cases same : (Derived.integration controller digest).seeds.preimage program bump =
      (Derived.integration controller' digest').seeds.preimage program bump'
  · -- the searches agree, so controllers and digests do, and only the configs can differ
    obtain ⟨accounts, -, -⟩ := Derived.preimage_eq_iff.mp same
    cases accounts
    rcases eq_or_collision_of_hash hashed hashed' with configs | collision
    · exact .inl ⟨rfl, configs⟩
    · exact .inr collision
  · -- each search stops at a string whose digest is the address, whatever its bump
    have image := Seeds.find_eq_ok found
    have image' := Seeds.find_eq_ok found'
    have shared := congrArg Address.toBlock (image.symm.trans image')
    exact .inr (.preimages hashed hashed' found found' same shared)

end Config

/-! ### Positions -/

namespace Builder

/-- Two positions with the same config. The config of a transfer names the token account to which
it pays, whether that was chosen or derived; the mint of a deposit in a spot market and the
referrer of a deposit in a lending reserve are in no config. -/
inductive SameContent (builder : Builder) : Position → Position → Prop where
  | atomicSwap (swap : Config.AtomicSwap) :
    SameContent builder (.atomicSwap swap) (.atomicSwap swap)
  | external {transfer transfer' : ExternalTransfer}
    (same : (builder.externalConfig transfer).result = (builder.externalConfig transfer').result) :
    SameContent builder (.external transfer) (.external transfer')
  | drift {position position' : DriftPosition} (same : position.toDrift = position'.toDrift) :
    SameContent builder (.drift position) (.drift position')
  | kamino {position position' : KaminoPosition}
    (same : { position with referrer := none } = { position' with referrer := none }) :
    SameContent builder (.kamino position) (.kamino position')

/-- The configs of two positions, or the preimages of their addresses, are different and have the
same digest. -/
def Collision (builder : Builder) (left right : Position) : Prop :=
  ∃ config config', (builder.config left).result = .ok config ∧
    (builder.config right).result = .ok config' ∧
    Config.Collision builder.programs.controller builder.controller config builder.controller
      config'

section Lemmas

variable {builder : Builder} {left right : Position} {config config' : Config}
  {address : Address}

/-- The config of a deposit in a lending reserve repeats every choice but the referrer. -/
theorem kaminoConfig_injective {position position' : KaminoPosition} {fields : Config.Kamino}
    (configured : builder.kaminoConfig position = .ok fields)
    (configured' : builder.kaminoConfig position' = .ok fields) :
    { position with referrer := none } = { position' with referrer := none } := by
  -- the obligation is looked up, and the other fields are copied from the position
  obtain ⟨obligation, -, packed⟩ := bind_eq_ok.mp configured
  obtain ⟨obligation', -, packed'⟩ := bind_eq_ok.mp configured'
  have same := packed.trans packed'.symm
  simp only [pure, Except.pure, Except.ok.injEq, Config.Kamino.mk.injEq] at same
  simp only [same]

theorem SameContent.symm (same : builder.SameContent left right) :
    builder.SameContent right left := by
  cases same with
  | atomicSwap swap => exact .atomicSwap swap
  | external same => exact .external same.symm
  | drift same => exact .drift same.symm
  | kamino same => exact .kamino same.symm

theorem ConfigOf.congr (same : builder.SameContent left right)
    (configured : builder.ConfigOf left config) : builder.ConfigOf right config := by
  cases same with
  | atomicSwap swap => exact configured
  | external same =>
    cases configured with
    | external resolved => exact .external (same.symm.trans resolved)
  | @drift position position' same =>
    cases configured
    have configs : position.config = position'.config := by
      rw [DriftPosition.config, DriftPosition.config, same]
    exact configs ▸ .drift position'
  | @kamino position position' same =>
    cases configured with
    | kamino chosen =>
      have configs : builder.kaminoConfig position = builder.kaminoConfig position' := calc
        builder.kaminoConfig position
        _ = builder.kaminoConfig { position with referrer := none } := rfl
        _ = builder.kaminoConfig { position' with referrer := none } := by rw [same]
        _ = builder.kaminoConfig position' := rfl
      exact .kamino (configs.symm.trans chosen)

theorem sameContent_of_config (configured : builder.ConfigOf left config)
    (configured' : builder.ConfigOf right config') (same : config = config') :
    builder.SameContent left right := by
  have kinds : Config.Kind.of left.protocol = .of right.protocol := calc
    Config.Kind.of left.protocol
    _ = config.kind := configured.kind_eq.symm
    _ = config'.kind := by rw [same]
    _ = .of right.protocol := configured'.kind_eq
  -- positions of two protocols are out, and those of one repeat every choice in their configs
  cases configured with
  | atomicSwap swap =>
    cases configured' with
    | atomicSwap swap' => exact Config.ofProtocol_inj.mp same ▸ .atomicSwap swap
    | _ => cases kinds
  | external resolved =>
    cases configured' with
    | external resolved' =>
      cases Config.ofProtocol_inj.mp same
      exact .external (resolved.trans resolved'.symm)
    | _ => cases kinds
  | drift position =>
    cases configured' with
    | drift position' => exact .drift (Config.ofProtocol_inj.mp same)
    | _ => cases kinds
  | kamino chosen =>
    cases configured' with
    | kamino chosen' =>
      cases Config.ofProtocol_inj.mp same
      exact .kamino (kaminoConfig_injective chosen chosen')
    | _ => cases kinds

theorem integration_of_sameContent (same : builder.SameContent left right)
    (derived : (builder.integration left).Returns address) :
    (builder.integration right).Returns address := by
  obtain ⟨config, configured, derived⟩ := integration_returns.mp derived
  exact (configured.congr same).integration_returns derived

theorem integration_returns_congr (same : builder.SameContent left right) :
    (builder.integration left).Returns address ↔ (builder.integration right).Returns address :=
  ⟨integration_of_sameContent same, integration_of_sameContent same.symm⟩

theorem sameContent_or_collision (derived : (builder.integration left).Returns address)
    (derived' : (builder.integration right).Returns address) :
    builder.SameContent left right ∨ builder.Collision left right := by
  obtain ⟨config, configured, derived⟩ := integration_returns.mp derived
  obtain ⟨config', configured', derived'⟩ := integration_returns.mp derived'
  obtain ⟨digest, hashed, derived⟩ := bind_eq_ok.mp derived
  obtain ⟨digest', hashed', derived'⟩ := bind_eq_ok.mp derived'
  rcases Config.eq_or_collision_of_address hashed hashed' derived derived' with
    ⟨-, same⟩ | collision
  · exact .inl (sameContent_of_config configured configured' same)
  · exact .inr ⟨config, config', config_returns.mpr configured, config_returns.mpr configured',
      collision⟩

end Lemmas

/-! ### Main theorem -/

/-- Two integrations with one address belong to one controller and have one config, and two
positions with one integration have the same content, unless a digest collides. Conversely
positions with the same content have the same integration, and that is the one which the
instructions list that create it, under any terms. -/
theorem integration_content_addressed :
    (∀ program controller controller' config config' digest digest' address,
      Config.hash config = .ok digest → Config.hash config' = .ok digest' →
      (Derived.integration controller digest).address program = .ok address →
      (Derived.integration controller' digest').address program = .ok address →
      controller = controller' ∧ config = config' ∨
        Config.Collision program controller config controller' config') ∧
    (∀ (builder : Builder) left right address,
      (builder.integration left).result = .ok address →
      (builder.integration right).result = .ok address →
      builder.SameContent left right ∨ builder.Collision left right) ∧
    (∀ (builder : Builder) left right, builder.SameContent left right →
      (∀ address, (builder.integration left).result = .ok address ↔
        (builder.integration right).result = .ok address) ∧
      ∀ terms terms' instruction instruction',
        (builder.create terms left).result = .ok instruction →
        (builder.create terms' right).result = .ok instruction' →
        ∃ address, (builder.integration left).result = .ok address ∧
          instruction.addresses[5]? = some address ∧
          instruction'.addresses[5]? = some address) := by
  refine ⟨?_, ?_, ?_⟩
  · intro program controller controller' config config' digest digest' address
    exact Config.eq_or_collision_of_address
  · intro builder left right address
    exact sameContent_or_collision
  · intro builder left right same
    refine ⟨fun address => integration_returns_congr same, ?_⟩
    intro terms terms' instruction instruction' built built'
    obtain ⟨arguments, created⟩ := create_handles left built
    obtain ⟨arguments', created'⟩ := create_handles right built'
    obtain ⟨address, derived, listed⟩ := created.lists
    obtain ⟨address', derived', listed'⟩ := created'.lists
    -- both are the integration of the left position, which has only one
    have shared := derived.symm.trans ((integration_returns_congr same).mpr derived')
    cases Except.ok.inj shared
    exact ⟨address, derived, listed, listed'⟩

/-- A deposit of a mint in the second spot market. -/
def depositOf (mint : Address) : DriftPosition where
  subAccountId := 0
  spotMarketIndex := 1
  mint := mint

/-- Under the public deployments, deposits of two mints in one spot market share an integration, as
their configs are the same. -/
theorem integration_content_addressed_of_two_mints : ∃ builder address,
    (Builder.new .mainnet .zero .zero).result = .ok builder ∧
    (builder.integration (.drift (depositOf .zero))).result = .ok address ∧
    (builder.integration (.drift (depositOf rentSysvar))).result = .ok address ∧
    (builder.SameContent (.drift (depositOf .zero)) (.drift (depositOf rentSysvar)) ∨
      builder.Collision (.drift (depositOf .zero)) (.drift (depositOf rentSysvar))) := by
  have succeeds : ((Builder.new .mainnet .zero .zero).result >>= fun builder =>
      (builder.integration (.drift (depositOf .zero))).result).isOk := by
    decide +kernel
  cases attempt : (Builder.new .mainnet .zero .zero).result >>= fun builder =>
    (builder.integration (.drift (depositOf .zero))).result with
  | error failure => rw [attempt] at succeeds; cases succeeds
  | ok address =>
    obtain ⟨builder, made, derived⟩ := bind_eq_ok.mp attempt
    have content : builder.SameContent (.drift (depositOf .zero)) (.drift (depositOf rentSysvar)) :=
      .drift rfl
    have derived' := ((integration_content_addressed.2.2 builder _ _ content).1 address).mp derived
    have shared := integration_content_addressed.2.1 builder _ _ address derived derived'
    exact ⟨builder, address, made, derived, derived', shared⟩

end Builder

end LiquidityController
