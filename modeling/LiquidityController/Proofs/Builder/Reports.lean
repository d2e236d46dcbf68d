import LiquidityController.Environment.Basic
import LiquidityController.Proofs.Builder.Deployments
import LiquidityController.Proofs.Builder.Refusals
import LiquidityController.Proofs.Builder.Terms

/-!
# Reports of operations

An operation reports the addresses that it has derived for a new account, and why it refuses what
it is asked for. Reports are made in the lookups of which operations consist, and a lookup does not
know for which operation it is made. So what an operation reports in the end is said here once for
every call: by a table of what is reported about an answer, and by a table of what is reported about
a failure.

Two facts carry the proofs. A lookup reports nothing unless it fails, so at most one failure is
reported. And an answer is reported when nothing can fail any more, so no report is taken back.

## Main result

`Builder.reports_truthful`: an answer comes with the report that the table lists for it, which names
what the instruction lists, and a failure comes with the warning that names its cause, or with none.
-/

namespace LiquidityController

/-! ### Reports of a computation -/

namespace Logged

variable {ε α β : Type} {record : α → List Event → Prop} {explain : ε → List Event → Prop}

/-- What a computation reports if it returns a value, and what if it fails. -/
structure Reports (record : α → List Event → Prop) (explain : ε → List Event → Prop)
    (computation : Logged ε α) : Prop where
  record : ∀ value, computation.result = .ok value → record value computation.events
  explain : ∀ failure, computation.result = .error failure → explain failure computation.events

/-- The computation reports nothing unless it fails. -/
abbrev Quiet (explain : ε → List Event → Prop) (computation : Logged ε α) : Prop :=
  computation.Reports (fun _ events => events = []) explain

theorem result_liftM (attempt : Except ε α) : (liftM attempt : Logged ε α).result = attempt := rfl

theorem reports_pure {value : α} (recorded : record value []) :
    (pure value : Logged ε α).Reports record explain where
  record := by
    rintro _ ⟨⟩
    exact recorded
  explain := nofun

theorem reports_reject {event : Event} {failure : ε} (explained : explain failure [event]) :
    (reject event failure : Logged ε α).Reports record explain where
  record := nofun
  explain := by
    rintro _ ⟨⟩
    exact explained

/-- A value is reported last, when it is known already. -/
theorem reports_report {event : Event} {value : α} (recorded : record value [event]) :
    (report event >>= fun _ => pure value : Logged ε α).Reports record explain where
  record := by
    rintro _ ⟨⟩
    exact recorded
  explain := nofun

theorem quiet_liftM {attempt : Except ε α}
    (silent : ∀ failure, attempt = .error failure → explain failure []) :
    (liftM attempt : Logged ε α).Quiet explain where
  record _ _ := rfl
  explain := silent

theorem quiet_ok {value : α} :
    (liftM (.ok value : Except ε α) : Logged ε α).Quiet explain :=
  quiet_liftM nofun

/-- An attempt reports nothing, not even why it fails. -/
theorem silent_liftM {attempt : Except ε α} :
    (liftM attempt : Logged ε α).Quiet fun _ events => events = [] :=
  quiet_liftM fun _ _ => rfl

/-- After a quiet computation only the next one has something to report. -/
theorem Quiet.bind {first : Logged ε α} {next : α → Logged ε β} {record : β → List Event → Prop}
    (quiet : first.Quiet explain) (rest : ∀ value, (next value).Reports record explain) :
    (first >>= next).Reports record explain := by
  obtain ⟨events, result⟩ := first
  change ((Logged.mk events result).bind next).Reports record explain
  cases result with
  | error failure =>
    refine ⟨nofun, ?_⟩
    rintro _ ⟨⟩
    exact quiet.explain failure rfl
  | ok value =>
    obtain rfl : events = [] := quiet.record value rfl
    exact rest value

theorem Reports.map {computation : Logged ε α} {f : α → β} {record' : β → List Event → Prop}
    (reported : computation.Reports record explain)
    (keeps : ∀ value events, record value events → record' (f value) events) :
    (f <$> computation).Reports record' explain := by
  obtain ⟨events, result⟩ := computation
  cases result with
  | error failure =>
    rw [map_error]
    refine ⟨nofun, ?_⟩
    rintro _ ⟨⟩
    exact reported.explain failure rfl
  | ok value =>
    rw [map_ok]
    refine ⟨?_, nofun⟩
    rintro _ ⟨⟩
    exact keeps value events (reported.record value rfl)

end Logged

/-! ### Tables of reports -/

/-- One report, of the protocol and the address of a new integration. The instruction lists the
address, and the arguments that it carries name the protocol. -/
def Protocol.Recorded (protocol : Protocol) (instruction : Instruction) (events : List Event) :
    Prop :=
  ∃ integration arguments, instruction.addresses[5]? = some integration ∧
    InitializeIntegration.Arguments.codec.decodeAll instruction.data.tail = .ok arguments ∧
    arguments.protocol = protocol ∧ events = [.integrationDerived protocol integration]

/-- What is reported about the instruction that answers a request: the new account, if there is one
whose address was derived, and otherwise nothing. -/
def Request.Recorded (request : Request) (instruction : Instruction) (events : List Event) : Prop :=
  match request with
  | managePermission subject _ _ => ∃ permission,
    instruction.addresses[5]? = some subject ∧ instruction.addresses[6]? = some permission ∧
    events = [.permissionDerived subject permission]
  | initializeReserve mint _ _ _ => ∃ reserve vault,
    instruction.addresses[5]? = some reserve ∧ instruction.addresses[6]? = some mint ∧
    instruction.addresses[7]? = some vault ∧ events = [.reserveDerived mint reserve vault]
  | initializeOracle _ nonce _ _ _ => ∃ oracle arguments,
    instruction.addresses[5]? = some oracle ∧
    InitializeOracle.Arguments.codec.decodeAll instruction.data.tail = .ok arguments ∧
    arguments.nonce = nonce ∧ events = [.oracleDerived nonce oracle]
  | initializeIntegration protocol _ _ _ _ => protocol.Recorded instruction events
  | initializeAtomicSwap _ _ => Protocol.atomicSwap.Recorded instruction events
  | initializeExternal _ _ => Protocol.splTokenExternal.Recorded instruction events
  | initializeDrift _ _ => Protocol.drift.Recorded instruction events
  | initializeKamino _ _ => Protocol.kamino.Recorded instruction events
  | _ => events = []

/-- What is reported about the answer to a call. Addresses and configs are only given. -/
def Call.Recorded : (call : Call) → call.Answer → List Event → Prop
  | perform request => request.Recorded
  | _ => fun _ events => events = []

/-- What is reported about the failure of a call. Searches and the padding of a config fail without
a warning, and so does the text of an update, but not that of a new integration. There are no other
failures. -/
def Builder.Explains (builder : Builder) (call : Call) (failure : Failure) (events : List Event) :
    Prop :=
  match failure with
  | .unknownTokenProgram program =>
    builder.programs.isTokenProgram program = false ∧ events = [.tokenProgramRejected program]
  | .invalidClear field => events = [.clearRejected field]
  | .missingControllerId =>
    builder.id = none ∧ events = [.controllerIdMissing builder.controller]
  | .tooManyReserves count => ∃ market obligation reserves,
    call = .perform (.refreshKaminoObligation market obligation reserves) ∧
    count = reserves.length ∧ maxObligationReserves < count ∧
    events = [.reservesRejected obligation count]
  | .descriptionTooLong length =>
    (∃ (creation : Creation) (terms : IntegrationTerms),
      call = .perform (creation.request terms) ∧
      Description.ofText terms.description = .error failure ∧
      events = [.descriptionRejected terms.description (.descriptionTooLong length)]) ∨
    ∃ integration update, call = .perform (.manageIntegration integration update) ∧ events = []
  | .nonCanonicalPadding | .derivationExhausted _ => events = []
  | .tooManySeeds _ | .seedTooLong _ _ | .valueOutOfRange _ _ => False

/-! ### Levels of reports -/

theorem Protocol.level_of_recorded {protocol : Protocol} {instruction : Instruction}
    {events : List Event} (recorded : protocol.Recorded instruction events) :
    ∀ event ∈ events, event.level = .debug := by
  obtain ⟨integration, arguments, -, -, -, rfl⟩ := recorded
  exact List.forall_mem_singleton.mpr rfl

theorem Request.level_of_recorded {request : Request} {instruction : Instruction}
    {events : List Event} (recorded : request.Recorded instruction events) :
    ∀ event ∈ events, event.level = .debug := by
  cases request with
  | managePermission subject status capabilities =>
    obtain ⟨permission, -, -, rfl⟩ := recorded
    exact List.forall_mem_singleton.mpr rfl
  | initializeReserve mint tokenProgram status rateLimit =>
    obtain ⟨reserve, vault, -, -, -, rfl⟩ := recorded
    exact List.forall_mem_singleton.mpr rfl
  | initializeOracle oracleType nonce priceFeed baseMint quoteMint =>
    obtain ⟨oracle, arguments, -, -, -, rfl⟩ := recorded
    exact List.forall_mem_singleton.mpr rfl
  | initializeIntegration _ _ _ _ _ | initializeAtomicSwap _ _ | initializeExternal _ _
  | initializeDrift _ _ | initializeKamino _ _ => exact Protocol.level_of_recorded recorded
  | _ =>
    obtain rfl : events = [] := recorded
    exact List.forall_mem_nil _

theorem Call.level_of_recorded {call : Call} {answer : call.Answer} {events : List Event}
    (recorded : call.Recorded answer events) : ∀ event ∈ events, event.level = .debug := by
  cases call with
  | perform request => exact Request.level_of_recorded recorded
  | _ =>
    obtain rfl : events = [] := recorded
    exact List.forall_mem_nil _

theorem Builder.level_of_explains {builder : Builder} {call : Call} {failure : Failure}
    {events : List Event} (explained : builder.Explains call failure events) :
    ∀ event ∈ events, event.level = .warn := by
  cases failure with
  | unknownTokenProgram program =>
    obtain ⟨-, rfl⟩ := explained
    exact List.forall_mem_singleton.mpr rfl
  | tooManyReserves count =>
    obtain ⟨market, obligation, reserves, -, -, -, rfl⟩ := explained
    exact List.forall_mem_singleton.mpr rfl
  | descriptionTooLong length =>
    rcases explained with ⟨creation, terms, -, -, rfl⟩ | ⟨integration, update, -, rfl⟩
    · exact List.forall_mem_singleton.mpr rfl
    · exact List.forall_mem_nil _
  | invalidClear field =>
    obtain rfl : events = [.clearRejected field] := explained
    exact List.forall_mem_singleton.mpr rfl
  | missingControllerId =>
    obtain ⟨-, rfl⟩ := explained
    exact List.forall_mem_singleton.mpr rfl
  | nonCanonicalPadding | derivationExhausted program =>
    obtain rfl : events = [] := explained
    exact List.forall_mem_nil _
  | tooManySeeds count | seedTooLong index length | valueOutOfRange field value => cases explained

/-! ### Lookups -/

/-- Whether nothing is reported if the requirement is not met, whoever asks for it. -/
def Requirement.isSilent : Requirement → Bool
  | found _ | zeroPadding _ => true
  | _ => false

namespace Builder

open Logged (quiet_liftM quiet_ok silent_liftM reports_pure reports_reject reports_report)

variable {builder : Builder} {call : Call}

theorem explains_of_silent {step : Requirement} {failure : Failure}
    (silent : step.isSilent = true) (failed : builder.unmet step = some failure) :
    builder.Explains call failure [] := by
  cases step with
  | found account | zeroPadding config =>
    simp only [unmet] at failed
    split at failed <;> cases failed
    exact rfl
  | _ => cases silent

/-- A lookup that does nothing but search and look at padding fails without a warning. -/
theorem quiet_of_silent {α : Type} {attempt : Except Failure α} {steps : List Requirement}
    (looked : builder.Refuses (liftM attempt) steps)
    (silent : ∀ step ∈ steps, step.isSilent = true) :
    (liftM attempt : Logged Failure α).Quiet (builder.Explains call) := by
  apply quiet_liftM
  intro failure failed
  -- the failure is that of the first step that is not met, and no step of the lookup warns
  have refused : steps.findSome? builder.unmet = some failure := by
    rw [← looked.of_liftM, failed]
    rfl
  obtain ⟨step, member, unmet⟩ := List.exists_of_findSome?_eq_some refused
  exact explains_of_silent (silent step member) unmet

theorem quiet_derive (account : Derived) :
    (liftM (builder.programs.derive account) : Logged Failure Address).Quiet
      (builder.Explains call) :=
  quiet_of_silent (.found account) (by simp [Requirement.isSilent])

theorem quiet_integrationAddress (config : Config) :
    (liftM (builder.integrationAddress config) : Logged Failure Address).Quiet
      (builder.Explains call) :=
  quiet_of_silent (.integration config) (by simp [Requirement.isSilent, integrationStep])

theorem quiet_kaminoConfig (position : KaminoPosition) :
    (liftM (builder.kaminoConfig position) : Logged Failure Config.Kamino).Quiet
      (builder.Explains call) := by
  have looked : builder.Refuses (liftM (builder.kaminoConfig position))
      [.found (builder.obligation position)] := builder.failure?_eq (.kaminoConfig position)
  exact quiet_of_silent looked (by simp [Requirement.isSilent])

theorem quiet_tokenProgram (program : Address) :
    (builder.tokenProgram program).Quiet (builder.Explains call) := by
  rw [tokenProgram]
  split
  next accepted => exact reports_pure rfl
  next rejected => exact reports_reject ⟨eq_false_of_ne_true rejected, rfl⟩

theorem quiet_tokenAccount (owner mint tokenProgram : Address) :
    (builder.tokenAccount owner mint tokenProgram).Quiet (builder.Explains call) :=
  (quiet_tokenProgram tokenProgram).bind fun _ => quiet_derive _

theorem quiet_reserveVault (mint tokenProgram : Address) :
    (builder.reserveVault mint tokenProgram).Quiet (builder.Explains call) :=
  quiet_tokenAccount _ mint tokenProgram

theorem quiet_externalConfig (transfer : ExternalTransfer) :
    (builder.externalConfig transfer).Quiet (builder.Explains call) := by
  rw [externalConfig_eq]
  refine (quiet_tokenProgram _).bind fun program => ?_
  have account : (liftM (builder.recipientAccount transfer program) : Logged Failure Address).Quiet
      (builder.Explains call) := by
    rw [recipientAccount]
    split
    · exact quiet_ok
    · exact quiet_derive _
  exact account.bind fun _ => reports_pure rfl

theorem quiet_kaminoTransferAccounts (config : Config.Kamino) (tokenProgram : Address) :
    (builder.kaminoTransferAccounts config tokenProgram).Quiet (builder.Explains call) := by
  rw [kaminoTransferAccounts_eq]
  have farm : (liftM (builder.farmAccount config) : Logged Failure Address).Quiet
      (builder.Explains call) := by
    rw [farmAccount]
    split
    · exact quiet_ok
    · exact quiet_derive _
  exact farm.bind fun _ => (quiet_reserveVault _ _).bind fun _ => (quiet_derive _).bind fun _ =>
    (quiet_derive _).bind fun _ => (quiet_derive _).bind fun _ => (quiet_derive _).bind fun _ =>
    reports_pure rfl

theorem quiet_rewardAccounts (config : Config.Kamino) (harvest : Option RewardHarvest) :
    (builder.rewardAccounts config harvest).Quiet (builder.Explains call) := by
  cases harvest with
  | none => exact reports_pure rfl
  | some harvest =>
    exact (quiet_tokenAccount _ _ _).bind fun _ => (quiet_derive _).bind fun _ =>
      (quiet_derive _).bind fun _ => (quiet_derive _).bind fun _ => (quiet_derive _).bind fun _ =>
      reports_pure rfl

/-! ### Changes and terms -/

theorem quiet_uncleared {α : Type} (change : Change α) (field : String) :
    (change.uncleared field).Quiet (builder.Explains call) := by
  cases change with
  | unchanged | set value => exact reports_pure rfl
  | cleared => exact reports_reject rfl

theorem quiet_reserveUpdate (update : ReserveUpdate) :
    update.arguments.Quiet (builder.Explains call) :=
  (quiet_uncleared _ _).bind fun _ => (quiet_uncleared _ _).bind fun _ => reports_pure rfl

theorem failure_of_ofText {text : String} {failure : Failure}
    (failed : Description.ofText text = .error failure) :
    ∃ length, failure = .descriptionTooLong length := by
  simp only [Description.ofText] at failed
  split at failed
  · cases failed
  · cases failed
    exact ⟨_, rfl⟩

/-- The text of an update is refused without a warning. -/
theorem quiet_integrationUpdate (integration : Address) (update : IntegrationUpdate) :
    update.arguments.Quiet
      (builder.Explains (.perform (.manageIntegration integration update))) := by
  have buffer : (liftM update.buffer : Logged Failure (Option Description)).Quiet
      (builder.Explains (.perform (.manageIntegration integration update))) := by
    apply quiet_liftM
    intro failure failed
    -- only a text that is set can be refused, and it can only be too long
    rw [IntegrationUpdate.buffer] at failed
    split at failed
    · cases failed
    · cases failed
    · cases held : Description.ofText _ with
      | ok description =>
        rw [held] at failed
        cases failed
      | error refused =>
        rw [held] at failed
        cases failed
        obtain ⟨length, rfl⟩ := failure_of_ofText held
        exact .inr ⟨integration, update, rfl, rfl⟩
  exact buffer.bind fun _ => (quiet_uncleared _ _).bind fun _ => (quiet_uncleared _ _).bind fun _ =>
    reports_pure rfl

/-- The text of a new integration is refused with a warning. -/
theorem quiet_buffer (creation : Creation) (terms : IntegrationTerms) :
    terms.buffer.Quiet (builder.Explains (.perform (creation.request terms))) := by
  rw [IntegrationTerms.buffer]
  cases held : Description.ofText terms.description with
  | ok description => exact reports_pure rfl
  | error failure =>
    obtain ⟨length, rfl⟩ := failure_of_ofText held
    exact reports_reject (.inl ⟨creation, terms, rfl, held, rfl⟩)

theorem initializeIntegration_reports (creation : Creation) {terms : IntegrationTerms}
    {protocol : Protocol} {config : Config} {setup : Setup} {remaining : List AccountMeta} :
    (builder.initializeIntegration protocol config terms setup remaining).Reports
      protocol.Recorded (builder.Explains (.perform (creation.request terms))) := by
  refine (quiet_buffer creation terms).bind fun description =>
    (quiet_integrationAddress config).bind fun integration => reports_report ?_
  have read := InitializeIntegration.Arguments.codec.decodeAll_encode
    ⟨protocol, terms.status, description, terms.rateLimit, terms.permitLiquidation, setup⟩
  exact ⟨integration, _, rfl, read, rfl, rfl⟩

/-! ### Operations -/

theorem initializeController_reports (status : Status) :
    (builder.initializeController status).Quiet (builder.Explains call) := by
  rw [initializeController]
  split
  next unknown => exact reports_reject ⟨unknown, rfl⟩
  next id known => exact reports_pure rfl

theorem refreshKaminoObligation_reports (market obligation : Address) (reserves : List Address) :
    (builder.refreshKaminoObligation market obligation reserves).Quiet
      (builder.Explains (.perform (.refreshKaminoObligation market obligation reserves))) := by
  rw [refreshKaminoObligation, LiquidityController.refreshKaminoObligation]
  split
  next many => exact reports_reject ⟨market, obligation, reserves, rfl, rfl, many, rfl⟩
  next few => exact reports_pure rfl

theorem initializeOracle_reports (oracleType : UInt8)
    (nonce priceFeed baseMint quoteMint : Address) :
    (builder.perform (.initializeOracle oracleType nonce priceFeed baseMint quoteMint)).Reports
      (Request.initializeOracle oracleType nonce priceFeed baseMint quoteMint).Recorded
      (builder.Explains call) := by
  refine (quiet_derive (.oracle nonce)).bind fun oracle => reports_report ?_
  have read := InitializeOracle.Arguments.codec.decodeAll_encode
    ⟨oracleType, nonce, baseMint, quoteMint⟩
  exact ⟨oracle, _, rfl, read, rfl, rfl⟩

theorem perform_reports (builder : Builder) (request : Request) :
    (builder.perform request).Reports request.Recorded (builder.Explains (.perform request)) := by
  -- the body of each operation is a chain of lookups, which are quiet, and ends in the report of a
  -- new account or in none
  cases request with
  | initializeController status => exact initializeController_reports status
  | managePermission subject status capabilities =>
    exact (quiet_derive _).bind fun permission => reports_report ⟨permission, rfl, rfl, rfl⟩
  | initializeReserve mint tokenProgram status rateLimit =>
    exact (quiet_derive _).bind fun reserve => (quiet_reserveVault _ _).bind fun vault =>
      reports_report ⟨reserve, vault, rfl, rfl, rfl, rfl⟩
  | manageReserve mint update =>
    exact (quiet_derive _).bind fun _ => (quiet_reserveUpdate update).bind fun _ => reports_pure rfl
  | syncReserve mint tokenProgram =>
    exact (quiet_derive _).bind fun _ => (quiet_reserveVault _ _).bind fun _ => reports_pure rfl
  | initializeOracle oracleType nonce priceFeed baseMint quoteMint =>
    exact initializeOracle_reports oracleType nonce priceFeed baseMint quoteMint
  | refreshKaminoObligation market obligation reserves =>
    exact refreshKaminoObligation_reports market obligation reserves
  | initializeIntegration protocol config terms setup remaining =>
    exact initializeIntegration_reports (.generic protocol config setup remaining)
  | manageIntegration integration update =>
    exact (quiet_integrationUpdate integration update).bind fun _ => reports_pure rfl
  | initializeAtomicSwap terms swap => exact initializeIntegration_reports (.atomicSwap swap)
  | initializeExternal terms transfer =>
    exact (quiet_externalConfig transfer).bind fun _ =>
      initializeIntegration_reports (.external transfer)
  | pushExternal transfer amount =>
    exact (quiet_externalConfig transfer).bind fun _ => (quiet_integrationAddress _).bind fun _ =>
      (quiet_derive _).bind fun _ => (quiet_reserveVault _ _).bind fun _ => reports_pure rfl
  | initializeDrift terms position =>
    exact (quiet_derive _).bind fun _ => (quiet_derive _).bind fun _ =>
      (quiet_derive _).bind fun _ => (quiet_derive _).bind fun _ =>
      initializeIntegration_reports (.drift position)
  | pushDrift position tokenProgram amount reduceOnly markets =>
    exact (quiet_reserveVault _ _).bind fun _ => (quiet_derive _).bind fun _ =>
      (quiet_derive _).bind fun _ => (quiet_derive _).bind fun _ => (quiet_derive _).bind fun _ =>
      (quiet_integrationAddress _).bind fun _ => (quiet_derive _).bind fun _ => reports_pure rfl
  | pullDrift position tokenProgram amount markets =>
    exact (quiet_derive _).bind fun _ => (quiet_derive _).bind fun _ =>
      (quiet_derive _).bind fun _ => (quiet_derive _).bind fun _ => (quiet_derive _).bind fun _ =>
      (quiet_reserveVault _ _).bind fun _ => (quiet_integrationAddress _).bind fun _ =>
      (quiet_derive _).bind fun _ => reports_pure rfl
  | syncDrift position =>
    exact (quiet_derive _).bind fun _ => (quiet_derive _).bind fun _ =>
      (quiet_derive _).bind fun _ => (quiet_integrationAddress _).bind fun _ =>
      (quiet_derive _).bind fun _ => reports_pure rfl
  | initializeKamino terms position =>
    exact (quiet_kaminoConfig position).bind fun _ => (quiet_derive _).bind fun _ =>
      (quiet_derive _).bind fun _ => (quiet_derive _).bind fun _ =>
      initializeIntegration_reports (.kamino position)
  | pushKamino position tokenProgram amount =>
    exact (quiet_kaminoConfig position).bind fun _ =>
      (quiet_kaminoTransferAccounts _ _).bind fun _ => (quiet_derive _).bind fun _ =>
      (quiet_integrationAddress _).bind fun _ => (quiet_derive _).bind fun _ => reports_pure rfl
  | pullKamino position tokenProgram amount =>
    exact (quiet_kaminoConfig position).bind fun _ =>
      (quiet_kaminoTransferAccounts _ _).bind fun _ => (quiet_integrationAddress _).bind fun _ =>
      (quiet_derive _).bind fun _ => reports_pure rfl
  | syncKamino position tokenProgram harvest =>
    rw [perform, syncKamino_eq]
    exact (quiet_kaminoConfig position).bind fun _ => (quiet_reserveVault _ _).bind fun _ =>
      (quiet_rewardAccounts _ _).bind fun _ => (quiet_integrationAddress _).bind fun _ =>
      (quiet_derive _).bind fun _ => reports_pure rfl
  | manageController _ | claimRent _ | updateOracle _ _ _ _ | refreshOracle _ _
  | refreshKaminoReserve _ _ _ | syncIntegration _ _ _ | push _ _ _ _ | pull _ _ _ _ =>
    exact reports_pure rfl

theorem answer_reports (builder : Builder) (call : Call) :
    (builder.answer call).Reports call.Recorded (builder.Explains call) := by
  cases call with
  | perform request => exact builder.perform_reports request
  | reserveAddress mint => exact quiet_derive _
  | reserveVault mint tokenProgram => exact quiet_reserveVault mint tokenProgram
  | integrationAddress config => exact quiet_integrationAddress config
  | externalConfig transfer => exact quiet_externalConfig transfer
  | kaminoConfig position => exact quiet_kaminoConfig position

/-! ### Making a builder -/

/-- The one report on a new builder, of what the builder keeps. -/
def Announced (builder : Builder) (events : List Event) : Prop :=
  events = [.builderReady builder.controller builder.controllerAuthority builder.permission
    builder.authority]

theorem make_reports {programs : Programs} {controller authority : Address} {id : Option UInt16}
    (derive_controller : ∀ number ∈ id, programs.derive (.controller number) = .ok controller) :
    (make programs controller authority id derive_controller).Reports Announced
      fun _ events => events = [] := by
  rw [make]
  refine silent_liftM.bind fun controllerAuthority => ?_
  refine silent_liftM.bind fun permission => ?_
  exact reports_report rfl

theorem build_reports (programs : Programs) (recipe : Recipe) :
    (recipe.build programs).Reports Announced fun _ events => events = [] := by
  induction recipe with
  | new controller authority => exact make_reports _
  | ofId id authority =>
    rw [Recipe.build, Builder.ofId]
    exact silent_liftM.bind fun controller => make_reports _
  | withPayer recipe payer ih =>
    -- the payer is not in the report
    have kept : ∀ builder events, Announced builder events →
        Announced (builder.withPayer payer) events := fun _ _ announced => announced
    rw [Recipe.build, bind_pure_comp]
    exact ih.map kept

/-! ### Main theorem -/

theorem failure?_eq_refusal (builder : Builder) (call : Call) :
    builder.failure? call = refusal (builder.answer call).result := by
  cases call with
  | perform _ | reserveVault _ _ | externalConfig _ => rfl
  | reserveAddress _ | integrationAddress _ | kaminoConfig _ =>
    rw [failure?, answer, Logged.result_liftM]

/-- An answer to a call comes with the report that the table lists, which names addresses that the
instruction lists, and with no warning. A failure comes with a warning that names what is wrong, or
with nothing at all, as the other table says, and with no report of anything derived. What is wrong
is something that the call requires. Making a builder reports once what the builder keeps, unless it
fails; an environment makes builders in the same way. -/
theorem reports_truthful (builder : Builder) :
    (∀ (call : Call) answer, (builder.answer call).result = .ok answer →
      call.Recorded answer (builder.answer call).events ∧
      ∀ event ∈ (builder.answer call).events, event.level = .debug) ∧
    (∀ call failure, (builder.answer call).result = .error failure →
      builder.Explains call failure (builder.answer call).events ∧
      (∀ event ∈ (builder.answer call).events, event.level = .warn) ∧
      ∃ step ∈ builder.steps call, builder.unmet step = some failure) ∧
    (∀ (programs : Programs) (recipe : Recipe),
      (∀ made, (recipe.build programs).result = .ok made →
        made.Announced (recipe.build programs).events) ∧
      ∀ failure, (recipe.build programs).result = .error failure →
        (recipe.build programs).events = []) ∧
    ∀ (environment : Environment) id authority,
      environment.builder id authority = (Recipe.ofId id authority).build environment.programs := by
  refine ⟨?_, ?_, ?_, fun _ _ _ => rfl⟩
  · intro call answer answered
    have recorded : call.Recorded answer (builder.answer call).events :=
      (builder.answer_reports call).record answer answered
    exact ⟨recorded, Call.level_of_recorded recorded⟩
  · intro call failure failed
    have explained : builder.Explains call failure (builder.answer call).events :=
      (builder.answer_reports call).explain failure failed
    -- that it is a step of the call that is not met is known from the exact refusals
    have refused : (builder.steps call).findSome? builder.unmet = some failure := by
      rw [← failure?_eq, failure?_eq_refusal, failed]
      rfl
    exact ⟨explained, level_of_explains explained, List.exists_of_findSome?_eq_some refused⟩
  · intro programs recipe
    have reported := build_reports programs recipe
    exact ⟨reported.record, reported.explain⟩

/-- A new reserve is reported with its vault. A text that does not fit is reported if it is for a
new integration, and not if it is for an update. A new builder is reported. -/
theorem reports_truthful_of_long_text :
    let text := "a text that exceeds the buffer by 3"
    let terms : IntegrationTerms := { description := text }
    let update : IntegrationUpdate := { description := .set text }
    (∃ reserve vault, (ofZero.perform (.initializeReserve (numbered 2) Program.token.mainnet .active
      .unlimited)).events = [.reserveDerived (numbered 2) reserve vault]) ∧
    (ofZero.perform (bareDeposit.request terms)).events =
      [.descriptionRejected text (.descriptionTooLong 35)] ∧
    (ofZero.perform (.manageIntegration .zero update)).result =
      .error (.descriptionTooLong 35) ∧
    (ofZero.perform (.manageIntegration .zero update)).events = [] ∧
    ((Recipe.new .zero .zero).build .mainnet).events =
      [.builderReady .zero ofZero.controllerAuthority ofZero.permission .zero] := by
  intro text terms update
  obtain ⟨answers, failures, makes, -⟩ := reports_truthful ofZero
  have long : 32 < text.utf8ByteSize := by decide
  have created : (ofZero.perform (bareDeposit.request terms)).result =
      .error (.descriptionTooLong 35) :=
    (ofZero.createDescribed_takesText bareDeposit terms).refuses text long (bareDeposit_isOk terms)
  have updated : (ofZero.perform (.manageIntegration .zero update)).result =
      .error (.descriptionTooLong 35) :=
    (ofZero.redescribe_takesText .zero update).refuses text long
      (redescribe_isOk_iff.mpr ⟨by decide, by decide⟩)
  have made : ((Recipe.new .zero .zero).build .mainnet).result = .ok ofZero := by
    rw [Recipe.build, Builder.new,
      make_of_ok_of_ok derive_controllerAuthority_zero derive_permission_zero]
    rfl
  obtain ⟨reserve, found⟩ := reserveAddress_ofZero
  obtain ⟨vault, held⟩ := reserveVault_ofZero
  obtain ⟨instruction, built⟩ : ∃ instruction, (ofZero.initializeReserve (numbered 2)
      Program.token.mainnet .active .unlimited).Returns instruction :=
    ⟨_, initializeReserve_returns.mpr ⟨reserve, found, vault, held, rfl⟩⟩
  refine ⟨?_, ?_, updated, ?_, ?_⟩
  · obtain ⟨⟨reserve, vault, -, -, -, events⟩, -⟩ := answers (.perform (.initializeReserve
      (numbered 2) Program.token.mainnet .active .unlimited)) instruction built
    exact ⟨reserve, vault, events⟩
  · obtain ⟨explained, -, -⟩ := failures (.perform (bareDeposit.request terms)) _ created
    rcases explained with ⟨creation, terms', same, -, events⟩ | ⟨_, _, other, -⟩
    · cases creation <;> cases same
      exact events
    · cases other
  · obtain ⟨explained, -, -⟩ := failures (.perform (.manageIntegration .zero update)) _ updated
    rcases explained with ⟨creation, _, other, -, -⟩ | ⟨_, _, -, events⟩
    · cases creation <;> cases other
    · exact events
  · exact (makes .mainnet (.new .zero .zero)).1 ofZero made

end Builder

end LiquidityController
