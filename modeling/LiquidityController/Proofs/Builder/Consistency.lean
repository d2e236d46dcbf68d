import LiquidityController.Environment.Basic
import LiquidityController.Proofs.Builder.Deployments
import LiquidityController.Proofs.Builder.Reissue
import LiquidityController.Proofs.Instruction.Payloads

/-!
# What a builder keeps

A builder derives the accounts of its controller and of its authority once and lists what it has
kept from then on. So what it keeps must be what would be derived again, however it was made, and
what one builder derives for another authority must be what the builder of that authority keeps.

## Main result

`Builder.made_consistent`: what a builder keeps after any steps that make one, how a builder made
from the number of a controller differs from one made from its address, and the permission that one
authority gives to another.
-/

namespace LiquidityController

/-! ### What a recipe asks for -/

namespace Recipe

/-- The authority that is named when the builder is first made. -/
def authority : Recipe → Address
  | new _ authority | ofId _ authority => authority
  | withPayer recipe _ => recipe.authority

/-- The number of the controller, if the builder is made from it. -/
def id : Recipe → Option UInt16
  | new _ _ => none
  | ofId id _ => some id
  | withPayer recipe _ => recipe.id

/-- The address of the controller, if the builder is made from it. -/
def controller : Recipe → Option Address
  | new controller _ => some controller
  | ofId _ _ => none
  | withPayer recipe _ => recipe.controller

/-- The payers that are named, in order. -/
def payers : Recipe → List Address
  | new _ _ | ofId _ _ => []
  | withPayer recipe payer => recipe.payers ++ [payer]

end Recipe

theorem Programs.derive_own (programs : Programs) {account : Derived}
    (own : account.owner = .controller) :
    programs.derive account = Derived.address programs.controller account := by
  rw [derive, own]
  rfl

namespace Builder

variable {programs : Programs} {controller authority : Address} {id : Option UInt16}

/-- The builder keeps what the recipe names, and what is derived from that. -/
structure Consistent (recipe : Recipe) (programs : Programs) (builder : Builder) : Prop where
  targets : builder.programs = programs
  authority : builder.authority = recipe.authority
  payer : builder.payer = recipe.payers.getLast?.getD builder.authority
  id : builder.id = recipe.id
  controller : ∀ controller ∈ recipe.controller, builder.controller = controller
  derives_controller : ∀ number ∈ builder.id,
    Derived.address programs.controller (.controller number) = .ok builder.controller
  derives_controllerAuthority :
    Derived.address programs.controller (.controllerAuthority builder.controller) =
      .ok builder.controllerAuthority
  derives_permission :
    Derived.address programs.controller (.permission builder.controller builder.authority) =
      .ok builder.permission

theorem consistent_new {builder : Builder}
    (made : (Builder.new programs controller authority).Returns builder) :
    Consistent (.new controller authority) programs builder := by
  obtain ⟨controllerAuthority, permission, found, found', rfl⟩ := eq_of_make made
  refine ⟨rfl, rfl, rfl, rfl, ?_, nofun, ?_, ?_⟩
  · rintro _ ⟨⟩
    rfl
  · rw [← found, programs.derive_own rfl]
  · rw [← found', programs.derive_own rfl]

theorem consistent_ofId {id : UInt16} {builder : Builder}
    (made : (Builder.ofId programs id authority).Returns builder) :
    Consistent (.ofId id authority) programs builder := by
  -- the controller is derived first and then taken like a given one
  obtain ⟨⟨controller, derived⟩, -, made⟩ := Logged.returns_bind.mp made
  obtain ⟨controllerAuthority, permission, found, found', rfl⟩ := eq_of_make made
  refine ⟨rfl, rfl, rfl, rfl, nofun, ?_, ?_, ?_⟩
  · rintro _ ⟨⟩
    rw [← derived, programs.derive_own rfl]
  · rw [← found, programs.derive_own rfl]
  · rw [← found', programs.derive_own rfl]

theorem Consistent.withPayer {recipe : Recipe} {builder : Builder}
    (consistent : Consistent recipe programs builder) (payer : Address) :
    Consistent (.withPayer recipe payer) programs (builder.withPayer payer) where
  targets := consistent.targets
  authority := consistent.authority
  payer := by rw [Recipe.payers, List.getLast?_concat]; rfl
  id := consistent.id
  controller := consistent.controller
  derives_controller := consistent.derives_controller
  derives_controllerAuthority := consistent.derives_controllerAuthority
  derives_permission := consistent.derives_permission

theorem consistent_of_build {recipe : Recipe} {builder : Builder}
    (made : (recipe.build programs).Returns builder) : Consistent recipe programs builder := by
  -- by induction on the steps, since naming a payer leaves everything else as it is
  induction recipe generalizing builder with
  | new controller authority => exact consistent_new made
  | ofId id authority => exact consistent_ofId made
  | withPayer recipe payer ih =>
    obtain ⟨before, first, changed⟩ := Logged.returns_bind.mp made
    obtain rfl := Logged.returns_pure.mp changed
    exact (ih first).withPayer payer

/-! ### With and without the number -/

/-- The same builder without the number of its controller. -/
def withoutId (builder : Builder) : Builder :=
  { builder with id := none, derive_controller := nofun }

/-- The number of the controller matters to its creation only. -/
theorem answer_withoutId (builder : Builder) {call : Call}
    (other : ∀ status, call ≠ .perform (.initializeController status)) :
    builder.withoutId.answer call = builder.answer call := by
  cases call with
  | perform request =>
    cases request with
    | initializeController status => exact absurd rfl (other status)
    | _ => rfl
  | _ => rfl

theorem make_eq_withoutId_map
    (derive_controller : ∀ number ∈ id, programs.derive (.controller number) = .ok controller) :
    make programs controller authority none nofun =
      withoutId <$> make programs controller authority id derive_controller := by
  -- neither search is about the number, so both builders are refused for the same one
  cases attempt : programs.derive (.controllerAuthority controller) with
  | error failure =>
    rw [make_of_error attempt, make_of_error attempt]
    rfl
  | ok controllerAuthority =>
    cases attempt' : programs.derive (.permission controller authority) with
    | error failure =>
      rw [make_of_ok_of_error attempt attempt', make_of_ok_of_error attempt attempt']
      rfl
    | ok permission =>
      rw [make_of_ok_of_ok attempt attempt', make_of_ok_of_ok attempt attempt']
      rfl

theorem new_eq_withoutId_map {id : UInt16}
    (derived : programs.derive (.controller id) = .ok controller) :
    Builder.new programs controller authority =
      withoutId <$> Builder.ofId programs id authority := by
  rw [Builder.ofId, evident_bind_of_ok derived]
  exact make_eq_withoutId_map _

/-- The builders answer every call alike but for the creation of the controller, for which only the
first knows the number. -/
structure DifferInId (id : UInt16) (builder other : Builder) : Prop where
  fields : other = builder.withoutId
  answers : ∀ call, (∀ status, call ≠ .perform (.initializeController status)) →
    other.answer call = builder.answer call
  refuses : ∀ status, (other.perform (.initializeController status)).result =
    .error .missingControllerId
  creates : ∀ status, ∃ instruction,
    (builder.perform (.initializeController status)).result = .ok instruction ∧
    instruction.data.head? = some Opcode.initializeController.discriminator ∧
    InitializeController.Arguments.codec.decodeAll instruction.data.tail = .ok ⟨id, status⟩ ∧
    instruction.addresses[2]? = some builder.controller

theorem differInId_withoutId {builder : Builder} {id : UInt16} (known : builder.id = some id) :
    DifferInId id builder builder.withoutId where
  fields := rfl
  answers _ other := builder.answer_withoutId other
  refuses _ := rfl
  creates status := by
    have built : (builder.perform (.initializeController status)).Returns
        (builder.instruction .initializeController
          ⟨builder.payer, builder.authority, builder.controller, builder.controllerAuthority,
            builder.permission, builder.programs.controller, builder.programs.system⟩
          ⟨id, status⟩) := by
      rw [perform, initializeController, known]
      rfl
    obtain ⟨first, read⟩ := Instruction.Kind.data_eq_iff.mp
      (rfl : Instruction.Kind.initializeController.data ⟨id, status⟩ = _)
    exact ⟨_, built, first, read, rfl⟩

/-! ### Permissions for others -/

section Permissions

variable {builder other : Builder}

theorem derive_permission_of_other
    (program : other.programs.controller = builder.programs.controller)
    (same : other.controller = builder.controller) :
    builder.programs.derive (.permission builder.controller other.authority) =
      .ok other.permission := by
  -- the other programs may differ, since the permission belongs to the controller program
  have derived := other.derive_permission
  rw [other.programs.derive_own rfl, program, same] at derived
  rw [builder.programs.derive_own rfl, derived]

theorem managePermission_returns {subject permission : Address} {status : Status}
    {capabilities : Capabilities}
    (derived : builder.programs.derive (.permission builder.controller subject) =
      .ok permission) :
    (builder.managePermission subject status capabilities).Returns
      (builder.instruction .managePermission
        ⟨builder.payer, builder.controller, builder.controllerAuthority, builder.authority,
          builder.permission, subject, permission, builder.programs.controller,
          builder.programs.system⟩ ⟨status, capabilities⟩) := by
  simp only [managePermission, Logged.returns_bind, Logged.returns_liftM, Logged.returns_report,
    Logged.returns_pure, true_and, exists_const]
  exact ⟨permission, derived, rfl⟩

end Permissions

/-! ### Main theorem -/

/-- Whatever steps have made it, a builder keeps what would be derived again, and the last payer
that was named or else its authority pays. An environment makes builders from numbers. A builder
made from the number of a controller and one made from its address are made or refused alike, and
differ only in that the second cannot create the controller. If one authority manages the permission
of another, it writes to the permission that the builder of the other keeps and lists wherever it
asks for one. -/
theorem made_consistent :
    (∀ (recipe : Recipe) programs builder, (recipe.build programs).result = .ok builder →
      Consistent recipe programs builder) ∧
    (∀ (environment : Environment) id authority,
      environment.builder id authority = (Recipe.ofId id authority).build environment.programs) ∧
    (∀ (programs : Programs) id controller authority,
      Derived.address programs.controller (.controller id) = .ok controller →
      refusal (Builder.new programs controller authority).result =
        refusal (Builder.ofId programs id authority).result ∧
      ∀ builder other, (Builder.ofId programs id authority).result = .ok builder →
        (Builder.new programs controller authority).result = .ok other →
        builder.controller = controller ∧ DifferInId id builder other) ∧
    ∀ builder other : Builder, other.programs.controller = builder.programs.controller →
      other.controller = builder.controller → ∀ status capabilities, ∃ instruction,
      (builder.managePermission other.authority status capabilities).result = .ok instruction ∧
      instruction.accounts[3]? = some (.signer builder.authority) ∧
      instruction.accounts[5]? = some (.readonly other.authority) ∧
      instruction.accounts[6]? = some (.writable other.permission) ∧
      ∀ request slot instruction', request.shape.principal? slot = some .permission →
        (other.perform request).result = .ok instruction' →
        instruction'.addresses[slot]? = instruction.addresses[6]? := by
  refine ⟨?_, ?_, ?_, ?_⟩
  · intro recipe programs builder made
    exact consistent_of_build made
  · intro environment id authority
    rfl
  · intro programs id controller authority derived
    have without : Builder.new programs controller authority =
        withoutId <$> Builder.ofId programs id authority :=
      new_eq_withoutId_map (by rw [programs.derive_own rfl, derived])
    rw [without, Logged.result_map]
    refine ⟨refusal_map _ _, ?_⟩
    intro builder other made made'
    have consistent := consistent_ofId made
    have found : builder.controller = controller :=
      Except.ok.inj ((consistent.derives_controller id consistent.id).symm.trans derived)
    rw [made] at made'
    obtain rfl : builder.withoutId = other := Except.ok.inj made'
    exact ⟨found, differInId_withoutId consistent.id⟩
  · intro builder other program same status capabilities
    have derived := derive_permission_of_other program same
    refine ⟨_, managePermission_returns derived, rfl, rfl, rfl, ?_⟩
    intro request slot instruction' owner built
    exact address_of_principal built owner

/-- Under the public deployments there is a first controller. Its builder can be given another
payer, can be made from the address as well, and finds the same reserves then. Of two authorities of
one controller, the first grants the permission under which the second collects rent. -/
theorem made_consistent_of_first_controller : ∃ paid builder other granted claimed,
    (((Recipe.ofId 0 .zero).withPayer (numbered 1)).build .mainnet).result = .ok paid ∧
    paid.payer = numbered 1 ∧
    (Builder.ofId .mainnet 0 .zero).result = .ok builder ∧
    Derived.address Programs.mainnet.controller (.controller 0) = .ok builder.controller ∧
    (Builder.new .mainnet builder.controller .zero).result = .ok other ∧
    (∀ mint, other.answer (.reserveAddress mint) = builder.answer (.reserveAddress mint)) ∧
    (other.perform (.initializeController .active)).result = .error .missingControllerId ∧
    (ofZero.managePermission ofSysvar.authority .active .none).result = .ok granted ∧
    granted.accounts[6]? = some (.writable ofSysvar.permission) ∧
    (ofSysvar.perform (.claimRent .zero)).result = .ok claimed ∧
    claimed.addresses[3]? = granted.addresses[6]? := by
  obtain ⟨kept, -, numbers, grants⟩ := made_consistent
  obtain ⟨builder, made⟩ : ∃ builder, (Builder.ofId .mainnet 0 .zero).result = .ok builder :=
    exists_eq_ok (by decide +kernel)
  have paid : (((Recipe.ofId 0 .zero).withPayer (numbered 1)).build .mainnet).Returns
      (builder.withPayer (numbered 1)) :=
    Logged.returns_bind.mpr ⟨builder, made, rfl⟩
  have found : Derived.address Programs.mainnet.controller (.controller 0) =
      .ok builder.controller := by
    have consistent := kept (.ofId 0 .zero) .mainnet builder made
    exact consistent.derives_controller 0 consistent.id
  obtain ⟨alike, differ⟩ := numbers .mainnet 0 builder.controller .zero found
  obtain ⟨other, made'⟩ : ∃ other,
      (Builder.new .mainnet builder.controller .zero).result = .ok other := by
    apply exists_eq_ok
    cases attempt : (Builder.new .mainnet builder.controller .zero).result with
    | error failure =>
      rw [attempt, made] at alike
      cases alike
    | ok other => rfl
  obtain ⟨-, answers⟩ := differ builder other made made'
  obtain ⟨granted, grant, -, -, permission, listed⟩ := grants ofZero ofSysvar rfl rfl .active .none
  refine ⟨_, builder, other, granted, _, paid, (kept _ _ _ paid).payer, made, found, made',
    fun mint => answers.answers _ nofun, answers.refuses .active, grant, permission, rfl, ?_⟩
  exact listed (.claimRent .zero) 3 _ rfl rfl

end Builder

end LiquidityController
