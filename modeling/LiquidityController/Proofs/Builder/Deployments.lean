import LiquidityController.Proofs.Builder.Recipes
import LiquidityController.Proofs.Builder.Requirements

/-!
# What operations take from a deployment

The addresses of the programs are configured one by one, so a staging deployment of one protocol
must not reach into the operations of another. `Call.programs` lists for every operation the
programs whose addresses it lists or derives accounts under. Builders that are made alike under
two deployments answer a call alike if the deployments agree on these programs.

All operations but three belong to the controller program. The other three, the two refreshes of a
lending market and the config of a transfer, use nothing of a builder but its programs.

## Main result

`Builder.programs_confined`: the address of a program matters to the operations of its protocol
only.
-/

namespace LiquidityController

/-! ### The programs of an operation -/

/-- The programs whose addresses matter to a request. -/
def Request.programs : Request → List Program
  | refreshKaminoReserve _ _ _ | refreshKaminoObligation _ _ _ => [.kaminoLend]
  | manageController _ | updateOracle _ _ _ _ | refreshOracle _ _ | manageReserve _ _
  | manageIntegration _ _ | syncIntegration _ _ _ | push _ _ _ _ | pull _ _ _ _ => [.controller]
  | initializeController _ | managePermission _ _ _ | claimRent _ | initializeOracle _ _ _ _ _
  | initializeIntegration _ _ _ _ _ | initializeAtomicSwap _ _ => [.controller, .system]
  | syncReserve _ _ => [.controller, .token, .token2022, .associatedToken]
  | initializeReserve _ _ _ _ | initializeExternal _ _ | pushExternal _ _ =>
    [.controller, .token, .token2022, .associatedToken, .system]
  | initializeDrift _ _ => [.controller, .system, .drift]
  | pushDrift _ _ _ _ _ | pullDrift _ _ _ _ =>
    [.controller, .token, .token2022, .associatedToken, .drift]
  | syncDrift _ => [.controller, .drift]
  | initializeKamino _ _ => [.controller, .system, .kaminoLend, .kaminoFarms]
  | pushKamino _ _ _ =>
    [.controller, .token, .token2022, .associatedToken, .system, .kaminoLend, .kaminoFarms]
  | pullKamino _ _ _ =>
    [.controller, .token, .token2022, .associatedToken, .kaminoLend, .kaminoFarms]
  | syncKamino _ _ none => [.controller, .token, .token2022, .associatedToken, .kaminoLend]
  | syncKamino _ _ (some _) =>
    [.controller, .token, .token2022, .associatedToken, .system, .kaminoLend, .kaminoFarms]

namespace Call

def programs : Call → List Program
  | perform request => request.programs
  | reserveAddress _ | integrationAddress _ => [.controller]
  | reserveVault _ _ => [.controller, .token, .token2022, .associatedToken]
  | externalConfig transfer =>
    if transfer.tokenAccount.isSome then [.token, .token2022]
    else [.token, .token2022, .associatedToken]
  | kaminoConfig _ => [.controller, .kaminoLend]

/-- The operations on a position at the exchange. -/
def isDrift : Call → Bool
  | perform (.initializeDrift _ _) | perform (.pushDrift _ _ _ _ _)
  | perform (.pullDrift _ _ _ _) | perform (.syncDrift _) => true
  | _ => false

/-- The operations on a lending market. -/
def isKamino : Call → Bool
  | kaminoConfig _ | perform (.initializeKamino _ _) | perform (.pushKamino _ _ _)
  | perform (.pullKamino _ _ _) | perform (.syncKamino _ _ _)
  | perform (.refreshKaminoReserve _ _ _) | perform (.refreshKaminoObligation _ _ _) => true
  | _ => false

/-- The operations that derive a token account or list the program that owns it. -/
def usesTokenAccounts : Call → Bool
  | reserveVault _ _ | perform (.initializeReserve _ _ _ _) | perform (.syncReserve _ _)
  | perform (.initializeExternal _ _) | perform (.pushExternal _ _)
  | perform (.pushDrift _ _ _ _ _) | perform (.pullDrift _ _ _ _)
  | perform (.pushKamino _ _ _) | perform (.pullKamino _ _ _)
  | perform (.syncKamino _ _ _) => true
  | externalConfig transfer => transfer.tokenAccount.isNone
  | _ => false

variable {call : Call}

theorem isDrift_iff : call.isDrift = true ↔ .drift ∈ call.programs := by
  cases call with
  | perform request =>
    cases request with
    | syncKamino position tokenProgram harvest =>
      cases harvest <;> simp [isDrift, programs, Request.programs]
    | _ => simp [isDrift, programs, Request.programs]
  | externalConfig transfer =>
    rw [programs]
    split <;> simp [isDrift]
  | _ => simp [isDrift, programs]

theorem isKamino_iff :
    call.isKamino = true ↔ .kaminoLend ∈ call.programs ∨ .kaminoFarms ∈ call.programs := by
  cases call with
  | perform request =>
    cases request with
    | syncKamino position tokenProgram harvest =>
      cases harvest <;> simp [isKamino, programs, Request.programs]
    | _ => simp [isKamino, programs, Request.programs]
  | externalConfig transfer =>
    rw [programs]
    split <;> simp [isKamino]
  | _ => simp [isKamino, programs]

theorem usesTokenAccounts_iff :
    call.usesTokenAccounts = true ↔ .associatedToken ∈ call.programs := by
  cases call with
  | perform request =>
    cases request with
    | syncKamino position tokenProgram harvest =>
      cases harvest <;> simp [usesTokenAccounts, programs, Request.programs]
    | _ => simp [usesTokenAccounts, programs, Request.programs]
  | externalConfig transfer =>
    rw [programs, usesTokenAccounts]
    cases transfer.tokenAccount <;> simp
  | _ => simp [usesTokenAccounts, programs]

abbrev Answer : Call → Type
  | perform _ => Instruction
  | reserveAddress _ | reserveVault _ _ | integrationAddress _ => Address
  | externalConfig _ => Config.SplTokenExternal
  | kaminoConfig _ => Config.Kamino

end Call

/-- The answer to a call, with the events that are reported on the way. -/
def Builder.answer (builder : Builder) : (call : Call) → Logged Failure call.Answer
  | .perform request => builder.perform request
  | .reserveAddress mint => liftM (builder.reserveAddress mint)
  | .reserveVault mint tokenProgram => builder.reserveVault mint tokenProgram
  | .integrationAddress config => liftM (builder.integrationAddress config)
  | .externalConfig transfer => builder.externalConfig transfer
  | .kaminoConfig position => liftM (builder.kaminoConfig position)

/-! ### Deployments that differ -/

namespace Programs

variable {programs replacement : Programs}

/-- No program has another address but those of a list. -/
def DifferOnlyIn (programs replacement : Programs) (differing : List Program) : Prop :=
  ∀ program ∉ differing, programs.get program = replacement.get program

/-- The programs with the exchange at another address. -/
def moveExchange (programs : Programs) (address : Address) : Programs :=
  { programs with drift := address }

theorem differOnlyIn_moveExchange (programs : Programs) (address : Address) :
    programs.DifferOnlyIn (programs.moveExchange address) [.drift] := by
  intro program other
  cases program with
  | drift => exact absurd List.mem_cons_self other
  | _ => rfl

/-- The programs of a list at their addresses and the others at those of a replacement. -/
def replaceExcept (programs replacement : Programs) (kept : List Program) : Programs :=
  ofFn fun program =>
    if kept.contains program then programs.get program else replacement.get program

theorem replaceExcept_eq {kept : List Program}
    (same : ∀ program ∈ kept, programs.get program = replacement.get program) :
    programs.replaceExcept replacement kept = replacement := by
  have pointwise : (fun program => if kept.contains program then programs.get program
      else replacement.get program) = replacement.get := by
    funext program
    split
    next member => exact same program (List.contains_iff_mem.mp member)
    next => rfl
  rw [replaceExcept, pointwise, ofFn_get]

end Programs

namespace Builder

variable {builder builder' : Builder} {call : Call}

/-- An operation does not look at the programs that are not its own. -/
theorem answer_replaceExcept (builder : Builder) (replacement : Programs) (call : Call) :
    (builder.redeploy (builder.programs.replaceExcept replacement call.programs)).answer call =
      builder.answer call := by
  -- once the operation is known, so is every program that it looks at
  cases call with
  | perform request =>
    cases request with
    | syncKamino position tokenProgram harvest => cases harvest <;> rfl
    | _ => rfl
  | externalConfig transfer =>
    obtain ⟨mint, recipient, tokenProgram, tokenAccount⟩ := transfer
    cases tokenAccount <;> rfl
  | _ => rfl

theorem answer_redeploy {replacement : Programs}
    (same : ∀ program ∈ call.programs, builder.programs.get program = replacement.get program) :
    (builder.redeploy replacement).answer call = builder.answer call := by
  have kept := builder.answer_replaceExcept replacement call
  rwa [Programs.replaceExcept_eq same] at kept

/-- The operations that do not belong to the controller program take nothing else from a builder
than its programs. -/
theorem answer_of_foreign (foreign : .controller ∉ call.programs)
    (same : ∀ program ∈ call.programs,
      builder.programs.get program = builder'.programs.get program) :
    builder.answer call = builder'.answer call := by
  cases call with
  | perform request =>
    cases request with
    | refreshKaminoReserve reserve market scopePrices =>
      have lend : builder.programs.kaminoLend = builder'.programs.kaminoLend :=
        same .kaminoLend List.mem_cons_self
      simp only [answer, perform, refreshKaminoReserve, lend]
    | refreshKaminoObligation market obligation reserves =>
      have lend : builder.programs.kaminoLend = builder'.programs.kaminoLend :=
        same .kaminoLend List.mem_cons_self
      simp only [answer, perform, refreshKaminoObligation, lend]
    | syncKamino position tokenProgram harvest =>
      cases harvest <;> exact absurd List.mem_cons_self foreign
    | _ => exact absurd List.mem_cons_self foreign
  | externalConfig transfer =>
    obtain ⟨mint, recipient, tokenProgram, tokenAccount⟩ := transfer
    have token : builder.programs.token = builder'.programs.token := by
      cases tokenAccount <;> exact same .token (by simp [Call.programs])
    have token2022 : builder.programs.token2022 = builder'.programs.token2022 := by
      cases tokenAccount <;> exact same .token2022 (by simp [Call.programs])
    have accepted : ∀ program, builder.programs.isTokenProgram program =
        builder'.programs.isTokenProgram program := by
      intro program
      rw [Programs.isTokenProgram, Programs.isTokenProgram, token, token2022]
    cases tokenAccount with
    | some account => simp only [answer, externalConfig, Builder.tokenProgram, accepted]
    | none =>
      have owner : builder.programs.associatedToken = builder'.programs.associatedToken :=
        same .associatedToken (by simp [Call.programs])
      have derived : ∀ program, builder.programs.derive (.associatedToken recipient mint program) =
          builder'.programs.derive (.associatedToken recipient mint program) := by
        intro program
        exact congrArg (Derived.address · _) owner
      simp only [answer, externalConfig, Builder.tokenProgram, accepted, derived]
  | reserveAddress _ | reserveVault _ _ | integrationAddress _ | kaminoConfig _ =>
    exact absurd List.mem_cons_self foreign

/-! ### Main theorem -/

/-- Builders made by one recipe under two deployments give equal answers to a call, events and
failures included, if the deployments agree on the programs of the call. So the exchange is only
looked at by the operations on positions at it, the two lending programs by the operations on
lending markets, and the program of token accounts by the operations that use a token account.
Whether the recipe makes a builder at all depends on nothing but the controller program. -/
theorem programs_confined (recipe : Recipe) (programs programs' : Programs) :
    (programs.controller = programs'.controller →
      refusal (recipe.build programs).result = refusal (recipe.build programs').result) ∧
    ∀ builder builder', (recipe.build programs).Returns builder →
      (recipe.build programs').Returns builder' →
      (∀ call, (∀ program ∈ call.programs, programs.get program = programs'.get program) →
        builder.answer call = builder'.answer call) ∧
      (programs.DifferOnlyIn programs' [.drift] → ∀ call, call.isDrift = false →
        builder.answer call = builder'.answer call) ∧
      (programs.DifferOnlyIn programs' [.kaminoLend, .kaminoFarms] →
        ∀ call, call.isKamino = false → builder.answer call = builder'.answer call) ∧
      (programs.DifferOnlyIn programs' [.associatedToken] →
        ∀ call, call.usesTokenAccounts = false →
          builder.answer call = builder'.answer call) := by
  constructor
  · intro same
    rw [recipe.build_of_sameController same, Logged.result_map]
    cases (recipe.build programs).result <;> rfl
  intro builder builder' made made'
  have targets : builder.programs = programs := recipe.programs_of_build made
  have targets' : builder'.programs = programs' := recipe.programs_of_build made'
  have agree : ∀ call, (∀ program ∈ call.programs,
      programs.get program = programs'.get program) →
      builder.answer call = builder'.answer call := by
    intro call same
    by_cases own : .controller ∈ call.programs
    · -- the controller programs are the same, so the builders differ in the deployment only
      have redeployed := recipe.build_returns_of_sameController (same _ own) made
      obtain rfl := Except.ok.inj (made'.symm.trans redeployed)
      rw [← targets] at same
      exact (answer_redeploy same).symm
    · rw [← targets, ← targets'] at same
      exact answer_of_foreign own same
  refine ⟨agree, fun differ call other => agree call ?_, fun differ call other => agree call ?_,
    fun differ call other => agree call ?_⟩
  · intro program used
    refine differ program fun listed => ?_
    obtain rfl := List.mem_singleton.mp listed
    have exchange : call.isDrift = true := Call.isDrift_iff.mpr used
    simp [exchange] at other
  · intro program used
    refine differ program fun listed => ?_
    have lending : call.isKamino = true := by
      rw [Call.isKamino_iff]
      rcases List.mem_pair.mp listed with rfl | rfl
      · exact .inl used
      · exact .inr used
    simp [lending] at other
  · intro program used
    refine differ program fun listed => ?_
    obtain rfl := List.mem_singleton.mp listed
    have account : call.usesTokenAccounts = true := Call.usesTokenAccounts_iff.mpr used
    simp [account] at other

/-- A vault stays where it is when the exchange is moved. -/
theorem programs_confined_to_moved_exchange :
    let vault := Call.reserveVault Programs.mainnet.token Programs.mainnet.token
    ((Recipe.new .zero .zero).build .mainnet).Returns ofZero ∧
      ((Recipe.new .zero .zero).build (Programs.mainnet.moveExchange .zero)).Returns
        (ofZero.redeploy (Programs.mainnet.moveExchange .zero)) ∧
      Programs.mainnet.DifferOnlyIn (Programs.mainnet.moveExchange .zero) [.drift] ∧
      vault.isDrift = false ∧
      ofZero.answer vault =
        (ofZero.redeploy (Programs.mainnet.moveExchange .zero)).answer vault := by
  intro vault
  have made : ((Recipe.new .zero .zero).build .mainnet).Returns ofZero := by
    rw [Recipe.build, Builder.new,
      make_of_ok_of_ok derive_controllerAuthority_zero derive_permission_zero]
    rfl
  have differ := Programs.mainnet.differOnlyIn_moveExchange .zero
  have same : Programs.mainnet.controller = (Programs.mainnet.moveExchange .zero).controller :=
    differ .controller (by decide)
  have made' := Recipe.build_returns_of_sameController same _ made
  have confined := (programs_confined (.new .zero .zero) .mainnet _).2 _ _ made made'
  exact ⟨made, made', differ, rfl, confined.2.1 differ vault rfl⟩

end Builder

end LiquidityController
