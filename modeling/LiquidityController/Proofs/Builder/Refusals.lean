import LiquidityController.Proofs.Address.BumpSearch
import LiquidityController.Proofs.Builder.Requirements

/-!
# Refusals

When an operation fails, and with which failure. Several things can be wrong with a request at once,
and what is reported is the first in the order in which the operation looks at them.

## Main result

`Builder.refusals_exact`: unless a search is exhausted, a call fails exactly if one of its
conditions is not met, with the failure of the first of them.
-/

namespace LiquidityController

/-! ### Searches -/

theorem Seeds.ofList_map_bytes (seeds : Seeds) :
    ofList (seeds.toList.map Seed.bytes) = .ok seeds := by
  have few : (seeds.toList.map Seed.bytes).length ≤ maxSeeds := by
    simpa using seeds.length_le
  have short : ∀ string ∈ seeds.toList.map Seed.bytes, string.length ≤ maxSeedLength := by
    intro string member
    obtain ⟨seed, -, rfl⟩ := List.mem_map.mp member
    exact seed.length_le
  have same : (seeds.toList.map Seed.bytes).pmap Seed.mk short = seeds.toList := by
    rw [List.pmap_map]
    exact (List.pmap_eq_map _).trans (List.map_id _)
  obtain ⟨toList, length_le⟩ := seeds
  simp only [ofList, dif_pos few, dif_pos short, same]

/-- The seeds of an account are always accepted, so only its search can fail. -/
theorem Derived.findOfList_seedList (account : Derived) (program : Address) :
    Seeds.findOfList program (account.seedList.map Seed.bytes) = account.find program := by
  have accepted : Seeds.ofList (account.seedList.map Seed.bytes) = .ok account.seeds :=
    Seeds.ofList_map_bytes account.seeds
  rw [Seeds.findOfList, accepted]
  rfl

theorem Programs.derive_eq_error {programs : Programs} {account : Derived} {failure : Failure}
    (failed : programs.derive account = .error failure) :
    failure = .derivationExhausted (programs.get account.owner) := by
  rw [Programs.derive, Derived.address, Derived.find, Seeds.find] at failed
  split at failed
  · cases failed
    rfl
  · split at failed <;> cases failed
    rfl

namespace Builder

/-- The computation fails with the failure of the first requirement that is not met. -/
def Refuses (builder : Builder) {α : Type} (computation : Logged Failure α)
    (steps : List Requirement) : Prop :=
  refusal computation.result = steps.findSome? builder.unmet

namespace Refuses

variable {builder : Builder} {α β : Type} {first : Logged Failure α}
  {next : α → Logged Failure β} {step : Requirement} {steps before after : List Requirement}

theorem done (value : α) : builder.Refuses (pure value) [] :=
  rfl

theorem of_met {value : α} (returned : first.result = .ok value)
    (met : builder.unmet step = none) : builder.Refuses first [step] := by
  rw [Refuses, returned, List.findSome?_cons, met]
  rfl

theorem of_unmet {failure : Failure} (failed : first.result = .error failure)
    (unmet : builder.unmet step = some failure) : builder.Refuses first [step] := by
  rw [Refuses, failed, List.findSome?_cons, unmet]
  rfl

theorem bind (looked : builder.Refuses first before)
    (rest : ∀ value, first.Returns value → builder.Refuses (next value) after) :
    builder.Refuses (first >>= next) (before ++ after) := by
  rw [Refuses, List.findSome?_append, ← looked]
  change refusal (first.bind next).result = _
  unfold Logged.bind
  cases attempt : first.result with
  | error failure => rfl
  | ok value => exact rest value attempt

/-- Nothing is required after the first computation. -/
theorem last (looked : builder.Refuses first steps)
    (rest : ∀ value, builder.Refuses (next value) []) :
    builder.Refuses (first >>= next) steps := by
  simpa using looked.bind fun value _ => rest value

theorem report {event : Event} {next : Unit → Logged Failure β}
    (rest : builder.Refuses (next ()) steps) :
    builder.Refuses (Logged.report event >>= next) steps :=
  rest

theorem of_liftM {attempt : Except Failure α}
    (looked : builder.Refuses (liftM attempt) steps) :
    refusal attempt = steps.findSome? builder.unmet :=
  looked

/-! ### One requirement -/

theorem found (account : Derived) :
    builder.Refuses (liftM (builder.programs.derive account)) [.found account] := by
  cases attempt : builder.programs.derive account with
  | error failure =>
    refine of_unmet rfl ?_
    rw [unmet, attempt, Programs.derive_eq_error attempt]
    rfl
  | ok address =>
    refine of_met rfl ?_
    rw [unmet, attempt]
    rfl

/-- What follows a search may use the address. -/
theorem search {account : Derived} {next : Address → Logged Failure β}
    (rest : builder.Refuses (next (builder.locate account)) steps) :
    builder.Refuses (liftM (builder.programs.derive account) >>= next)
      (.found account :: steps) := by
  refine (found account).bind fun address derived => ?_
  have located : builder.locate account = address := by
    rw [locate, Logged.returns_liftM.mp derived]
  rwa [located] at rest

theorem accepted (program : Address) :
    builder.Refuses (builder.tokenProgram program) [.tokenProgram program] := by
  rw [Builder.tokenProgram]
  split
  next accepted => exact of_met rfl (if_pos accepted)
  next rejected => exact of_unmet rfl (if_neg rejected)

theorem token {program : Address} {next : Address → Logged Failure β}
    (rest : builder.Refuses (next program) steps) :
    builder.Refuses (builder.tokenProgram program >>= next) (.tokenProgram program :: steps) := by
  refine (accepted program).bind fun same returned => ?_
  obtain ⟨-, rfl⟩ := tokenProgram_returns.mp returned
  exact rest

theorem description (terms : IntegrationTerms) :
    builder.Refuses terms.buffer [.description terms.description] := by
  simp only [IntegrationTerms.buffer, Description.ofText]
  by_cases fits : terms.description.toUTF8.toList.length ≤ descriptionLength
  · simp only [dif_pos fits]
    exact of_met rfl (if_pos fits)
  · simp only [dif_neg fits]
    exact of_unmet rfl (if_neg fits)

theorem kept {γ : Type} (change : Change γ) (field : String) :
    builder.Refuses (change.uncleared field) [.kept field change.isCleared] := by
  cases change with
  | unchanged | set value => exact of_met rfl rfl
  | cleared => exact of_unmet rfl rfl

/-! ### Addresses and configs -/

theorem account (owner mint tokenProgram : Address) :
    builder.Refuses (builder.tokenAccount owner mint tokenProgram)
      (accountSteps owner mint tokenProgram) :=
  token (found _)

theorem vault {mint tokenProgram : Address} {next : Address → Logged Failure β}
    (rest : ∀ vault, builder.Refuses (next vault) steps) :
    builder.Refuses (builder.reserveVault mint tokenProgram >>= next)
      (builder.vaultSteps mint tokenProgram ++ steps) :=
  (account builder.controllerAuthority mint tokenProgram).bind fun vault _ => rest vault

theorem integration_of_zero {config : Config} (zero : config.PaddingZero) :
    builder.Refuses (liftM (builder.integrationAddress config))
      [builder.integrationStep config] := by
  have derives : builder.integrationAddress config =
      builder.programs.derive (.integration builder.controller
        (keccak256 (Config.codec.encode config))) := by
    rw [integrationAddress, Config.hash_of_zero zero]
    exact pure_bind _ _
  rw [derives]
  exact found _

/-- The config of a protocol is made without padding, so there is none to look at. -/
theorem integration_of_protocol (protocol : Protocol) (fields : (Config.Kind.of protocol).Fields) :
    builder.Refuses (liftM (builder.integrationAddress (.ofProtocol protocol fields)))
      [builder.integrationStep (.ofProtocol protocol fields)] :=
  integration_of_zero fun _ member => List.eq_of_mem_replicate member

theorem integration (config : Config) :
    builder.Refuses (liftM (builder.integrationAddress config))
      [.zeroPadding config, builder.integrationStep config] := by
  by_cases zero : config.PaddingZero
  · have met : builder.unmet (.zeroPadding config) = none :=
      if_pos (config.isZero_padding_iff.mpr zero)
    rw [Refuses, List.findSome?_cons, met]
    exact integration_of_zero zero
  · have unmet : builder.unmet (.zeroPadding config) = some .nonCanonicalPadding :=
      if_neg (fun clean => zero (config.isZero_padding_iff.mp clean))
    rw [Refuses, List.findSome?_cons, unmet]
    change refusal (builder.integrationAddress config) = _
    rw [integrationAddress, Config.hash_of_not_zero zero]
    rfl

theorem external (transfer : ExternalTransfer) :
    builder.Refuses (builder.externalConfig transfer) (externalSteps transfer) := by
  rw [externalConfig_eq]
  refine token ?_
  rw [recipientAccount]
  cases transfer.tokenAccount with
  | some account => rfl
  | none => exact search (done _)

/-- What follows may use the fields of the config. -/
theorem resolved {transfer : ExternalTransfer}
    {next : Config.SplTokenExternal → Logged Failure β}
    (rest : builder.Refuses (next (builder.externalFields transfer)) steps) :
    builder.Refuses (builder.externalConfig transfer >>= next)
      (externalSteps transfer ++ steps) := by
  refine (external transfer).bind fun fields returned => ?_
  obtain ⟨-, account, derived, rfl⟩ := externalConfig_returns.mp returned
  have located : (builder.externalFields transfer).tokenAccount = account := by
    rw [recipientAccount] at derived
    rw [Builder.externalFields]
    split at derived
    next given =>
      cases derived
      rw [given]
      rfl
    next absent =>
      rw [absent, locate, derived]
      rfl
  rwa [← located]

theorem chosen {position : KaminoPosition} {next : Config.Kamino → Logged Failure β}
    (rest : builder.Refuses (next (builder.kaminoFields position)) steps) :
    builder.Refuses (liftM (builder.kaminoConfig position) >>= next)
      (.found (builder.obligation position) :: steps) := by
  have derives : (liftM (builder.kaminoConfig position) : Logged Failure Config.Kamino) =
      liftM (builder.programs.derive (builder.obligation position)) >>= fun address =>
        pure (position.fields address) := by
    rw [kaminoConfig, obligation]
    cases builder.programs.derive (.kaminoObligation position.obligationId
      builder.controllerAuthority position.market) <;> rfl
  rw [derives, bind_assoc]
  refine search ?_
  rw [pure_bind]
  exact rest

theorem lending (config : Config.Kamino) (tokenProgram : Address) :
    builder.Refuses (builder.kaminoTransferAccounts config tokenProgram)
      (builder.lendingSteps config tokenProgram) := by
  rw [kaminoTransferAccounts_eq]
  have farm : builder.Refuses (liftM (builder.farmAccount config))
      (if config.reserveFarmCollateral = .zero then [] else [farmStep config]) := by
    rw [farmAccount]
    split
    · exact done _
    · exact found _
  rw [lendingSteps, List.append_assoc]
  exact farm.bind fun _ _ => vault fun _ => search <| search <| search <| search <| done _

theorem rewards (config : Config.Kamino) (harvest : Option RewardHarvest) :
    builder.Refuses (builder.rewardAccounts config harvest)
      (harvest.toList.flatMap (builder.harvestSteps config)) := by
  cases harvest with
  | none => exact done _
  | some harvest =>
    simp only [Option.toList_some, List.flatMap_cons, List.flatMap_nil, List.append_nil]
    exact vault fun _ => search <| search <| search <| search <| done _

end Refuses

/-! ### Operations -/

section Operations

variable {builder : Builder} {terms : IntegrationTerms} {setup : Setup}
  {remaining : List AccountMeta}

theorem initializeIntegration_refuses (protocol : Protocol) (config : Config) :
    builder.Refuses (builder.initializeIntegration protocol config terms setup remaining)
      [.description terms.description, .zeroPadding config, builder.integrationStep config] :=
  (Refuses.description terms).bind fun _ _ => (Refuses.integration config).last fun _ => .done _

theorem initializeIntegration_refuses_of_protocol (protocol : Protocol)
    (fields : (Config.Kind.of protocol).Fields) :
    builder.Refuses
      (builder.initializeIntegration protocol (.ofProtocol protocol fields) terms setup remaining)
      [.description terms.description, builder.integrationStep (.ofProtocol protocol fields)] :=
  (Refuses.description terms).bind fun _ _ =>
    (Refuses.integration_of_protocol protocol fields).last fun _ => .done _

theorem reserveUpdate_refuses (update : ReserveUpdate) :
    builder.Refuses update.arguments update.conditions :=
  (Refuses.kept update.status "status").bind fun _ _ =>
    (Refuses.kept update.rateLimitSlope "rate_limit_slope").last fun _ => .done _

theorem integrationUpdate_refuses (update : IntegrationUpdate) :
    builder.Refuses update.arguments update.conditions := by
  have buffer : builder.Refuses (liftM update.buffer) update.description.conditions := by
    rw [IntegrationUpdate.buffer]
    cases update.description with
    | unchanged | cleared => exact .done _
    | set text =>
      simp only [Description.ofText]
      split
      next fits => exact .of_met rfl (if_pos fits)
      next long => exact .of_unmet rfl (if_neg long)
  exact buffer.bind fun _ _ => (Refuses.kept update.status "status").bind fun _ _ =>
    (Refuses.kept update.rateLimitSlope "rate_limit_slope").last fun _ => .done _

theorem perform_refuses (request : Request) :
    builder.Refuses (builder.perform request) (builder.requestSteps request) := by
  cases request with
  | initializeController status =>
    rw [perform, initializeController]
    split
    next unknown =>
      have missing : builder.unmet .knownId = some .missingControllerId := by
        rw [unmet, unknown]
        rfl
      exact .of_unmet rfl missing
    next id known =>
      have met : builder.unmet .knownId = none := by
        rw [unmet, known]
        rfl
      exact .of_met rfl met
  | managePermission subject status capabilities => exact .search <| .report <| .done _
  | initializeReserve mint tokenProgram status rateLimit =>
    exact .search <| .vault fun _ => .report <| .done _
  | manageReserve mint update =>
    exact .search <| (reserveUpdate_refuses update).last fun _ => .done _
  | syncReserve mint tokenProgram => exact .search <| .vault fun _ => .done _
  | initializeOracle oracleType nonce priceFeed baseMint quoteMint =>
    exact .search <| .report <| .done _
  | refreshKaminoObligation market obligation reserves =>
    rw [perform, refreshKaminoObligation, LiquidityController.refreshKaminoObligation]
    split
    next many => exact .of_unmet rfl (if_neg (Nat.not_le_of_lt many))
    next few => exact .of_met rfl (if_pos (Nat.le_of_not_lt few))
  | initializeIntegration protocol config terms setup remaining =>
    exact initializeIntegration_refuses protocol config
  | manageIntegration integration update =>
    exact (integrationUpdate_refuses update).last fun _ => .done _
  | initializeAtomicSwap terms swap =>
    exact initializeIntegration_refuses_of_protocol .atomicSwap swap
  | initializeExternal terms transfer =>
    exact .resolved <| initializeIntegration_refuses_of_protocol .splTokenExternal _
  | pushExternal transfer amount =>
    exact .resolved <| (Refuses.integration_of_protocol .splTokenExternal _).bind fun _ _ =>
      .search <| .vault fun _ => .done _
  | initializeDrift terms position =>
    exact .search <| .search <| .search <| .search <|
      initializeIntegration_refuses_of_protocol .drift _
  | pushDrift position tokenProgram amount reduceOnly markets =>
    exact .vault fun _ => .search <| .search <| .search <| .search <|
      (Refuses.integration_of_protocol .drift _).bind fun _ _ => .search <| .done _
  | pullDrift position tokenProgram amount markets =>
    exact .search <| .search <| .search <| .search <| .search <| .vault fun _ =>
      (Refuses.integration_of_protocol .drift _).bind fun _ _ => .search <| .done _
  | syncDrift position =>
    exact .search <| .search <| .search <|
      (Refuses.integration_of_protocol .drift _).bind fun _ _ => .search <| .done _
  | initializeKamino terms position =>
    exact .chosen <| .search <| .search <| .search <|
      initializeIntegration_refuses_of_protocol .kamino _
  | pushKamino position tokenProgram amount =>
    exact .chosen <| (Refuses.lending _ tokenProgram).bind fun _ _ => .search <|
      (Refuses.integration_of_protocol .kamino _).bind fun _ _ => .search <| .done _
  | pullKamino position tokenProgram amount =>
    exact .chosen <| (Refuses.lending _ tokenProgram).bind fun _ _ =>
      (Refuses.integration_of_protocol .kamino _).bind fun _ _ => .search <| .done _
  | syncKamino position tokenProgram harvest =>
    rw [perform, syncKamino_eq]
    exact .chosen <| .vault fun _ => (Refuses.rewards _ harvest).bind fun _ _ =>
      (Refuses.integration_of_protocol .kamino _).bind fun _ _ => .search <| .done _
  | manageController _ | claimRent _ | updateOracle _ _ _ _ | refreshOracle _ _
  | refreshKaminoReserve _ _ _ | syncIntegration _ _ _ | push _ _ _ _ | pull _ _ _ _ =>
    exact .done _

/-- Every call fails with the failure of the first of its steps that fails. -/
theorem failure?_eq (call : Call) :
    builder.failure? call = (builder.steps call).findSome? builder.unmet := by
  cases call with
  | perform request => exact perform_refuses request
  | reserveAddress mint =>
    rw [failure?, steps, reserveAddress]
    exact (Refuses.found _).of_liftM
  | reserveVault mint tokenProgram => exact Refuses.account _ mint tokenProgram
  | integrationAddress config =>
    rw [failure?, steps]
    exact (Refuses.integration config).of_liftM
  | externalConfig transfer => exact Refuses.external transfer
  | kaminoConfig position =>
    have looked : builder.Refuses (liftM (builder.kaminoConfig position) >>= pure)
      [.found (builder.obligation position)] := .chosen (.done _)
    rw [bind_pure] at looked
    rw [failure?, steps]
    exact looked.of_liftM

end Operations

/-! ### Conditions -/

variable {builder : Builder}

theorem unmet_found {account : Derived} (derives : (builder.programs.derive account).isOk) :
    builder.unmet (.found account) = none :=
  if_pos derives

/-- If no search that is reached fails, the searches can be left out. -/
theorem findSome?_of_found {steps : List Requirement}
    (founds : ∀ account, .found account ∈ builder.reached steps →
      (builder.programs.derive account).isOk) :
    steps.findSome? builder.unmet =
      (steps.filter Requirement.isCondition).findSome? builder.unmet := by
  induction steps with
  | nil => rfl
  | cons step steps ih =>
    cases outcome : builder.unmet step with
    | none =>
      -- the step is passed, so the rest is reached as well
      have rest : ∀ account, .found account ∈ builder.reached steps →
          (builder.programs.derive account).isOk := by
        intro account reached
        apply founds account
        rw [Builder.reached, outcome]
        exact List.mem_cons_of_mem _ reached
      rw [List.findSome?_cons, outcome, List.filter_cons]
      by_cases condition : step.isCondition = true
      · rw [if_pos condition, List.findSome?_cons, outcome]
        exact ih rest
      · rw [if_neg condition]
        exact ih rest
    | some failure =>
      have condition : step.isCondition = true := by
        cases step with
        | found account =>
          rw [unmet_found (founds account List.mem_cons_self)] at outcome
          cases outcome
        | _ => rfl
      rw [List.filter_cons_of_pos condition, List.findSome?_cons, List.findSome?_cons, outcome]

theorem filter_externalSteps (transfer : ExternalTransfer) :
    (externalSteps transfer).filter Requirement.isCondition =
      [.tokenProgram transfer.tokenProgram] := by
  rw [externalSteps]
  split <;> rfl

theorem filter_lendingSteps (config : Config.Kamino) (tokenProgram : Address) :
    (builder.lendingSteps config tokenProgram).filter Requirement.isCondition =
      [.tokenProgram tokenProgram] := by
  rw [lendingSteps]
  split <;> rfl

/-- No requirement is about seeds. -/
theorem seedless_of_unmet {step : Requirement} {failure : Failure}
    (failed : builder.unmet step = some failure) :
    (∀ count, failure ≠ .tooManySeeds count) ∧
      ∀ index length, failure ≠ .seedTooLong index length := by
  -- each requirement has one failure of its own
  cases step <;> simp only [unmet] at failed <;> split at failed <;> cases failed <;> simp

/-- A check that is made twice fails the first time. -/
theorem findSome?_twice (step : Requirement) :
    [step, step].findSome? builder.unmet = [step].findSome? builder.unmet := by
  cases outcome : builder.unmet step <;> simp [outcome]

theorem conditions_eq (builder : Builder) (call : Call) :
    ((builder.steps call).filter Requirement.isCondition).findSome? builder.unmet =
      call.conditions.findSome? builder.unmet := by
  cases call with
  | perform request =>
    cases request with
    | manageIntegration integration update =>
      obtain ⟨status, description, rateLimitSlope, rateLimitMaxOutflow⟩ := update
      cases description <;> rfl
    | initializeExternal terms transfer =>
      rw [steps, requestSteps, List.filter_append, filter_externalSteps]
      rfl
    | pushExternal transfer amount =>
      rw [steps, requestSteps, List.filter_append, filter_externalSteps]
      -- the vault is looked up under the token program that the config has accepted
      exact findSome?_twice (.tokenProgram transfer.tokenProgram)
    | pushKamino position tokenProgram amount =>
      simp only [steps, requestSteps, List.filter_append, List.filter_cons, filter_lendingSteps]
      rfl
    | pullKamino position tokenProgram amount =>
      simp only [steps, requestSteps, List.filter_append, List.filter_cons, filter_lendingSteps]
      rfl
    | syncKamino position tokenProgram harvest => cases harvest <;> rfl
    | _ => rfl
  | externalConfig transfer =>
    rw [steps, filter_externalSteps]
    rfl
  | _ => rfl

/-! ### Main theorem -/

/-- A call fails with the failure of the first of its steps that fails. If none of the searches that
it reaches is exhausted, that is the first of its conditions that is not met, and without one the
call succeeds. The limits on seeds are never a reason, since all seeds of an account are within
them. -/
theorem refusals_exact (builder : Builder) :
    (∀ call, builder.failure? call = (builder.steps call).findSome? builder.unmet) ∧
    (∀ call,
      (∀ account, .found account ∈ builder.reached (builder.steps call) →
        (builder.programs.derive account).isOk = true) →
      builder.failure? call = call.conditions.findSome? builder.unmet) ∧
    (∀ (account : Derived) (program : Address),
      Seeds.findOfList program (account.seedList.map Seed.bytes) = account.find program) ∧
    ∀ call failure, builder.failure? call = some failure →
      (∀ count, failure ≠ .tooManySeeds count) ∧
      ∀ index length, failure ≠ .seedTooLong index length := by
  refine ⟨fun call => failure?_eq call, ?_, ?_, ?_⟩
  · intro call founds
    rw [failure?_eq, findSome?_of_found founds, conditions_eq]
  · intro account program
    exact account.findOfList_seedList program
  · intro call failure failed
    rw [failure?_eq] at failed
    obtain ⟨step, -, failed⟩ := List.exists_of_findSome?_eq_some failed
    exact seedless_of_unmet failed

/-- An update that empties two fields of a reserve is refused for the first of them, once the
reserve is found. -/
theorem refusals_exact_of_two_clears :
    ofZero.failure? (.perform (.manageReserve Programs.mainnet.token
      { status := .cleared, rateLimitSlope := .cleared })) = some (.invalidClear "status") := by
  have derives : (ofZero.programs.derive
      (.reserve ofZero.controller Programs.mainnet.token)).isOk = true := by decide +kernel
  rw [(refusals_exact ofZero).2.1]
  · rfl
  · intro account reached
    have only : account = .reserve ofZero.controller Programs.mainnet.token := by
      simpa [steps, requestSteps, reserveStep, ReserveUpdate.conditions, Builder.reached, unmet,
        derives, Change.isCleared] using reached
    rw [only]
    exact derives

end Builder

end LiquidityController
