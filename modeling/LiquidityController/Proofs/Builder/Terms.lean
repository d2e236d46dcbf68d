import LiquidityController.Proofs.Builder.Refusals
import LiquidityController.Proofs.Builder.Updates
import LiquidityController.Proofs.Integration.ConfigLayout
import LiquidityController.Proofs.Position.Recomputation

/-!
# Terms in payloads

Some terms are given in a form that is wider than the room for them in a payload: a text of any
length, and amounts of any size. They are put into the payload in full or refused. Where they end up
is given here by offsets into the payload, and not by reading the fields in front of them.

## Main results

`Builder.descriptions_round_trip`: texts and buffers correspond up to NULs at the end of a text, and
all operations that take a text accept the same texts and write the same bytes for them.

`Builder.rate_limits_carried`: amounts that do not fit are refused, and the others are found again
in the payload of every operation that takes a rate limit.
-/

namespace LiquidityController

/-- A request that creates an integration, without its terms. -/
inductive Creation where
  | generic (protocol : Protocol) (config : Config) (setup : Setup) (remaining : List AccountMeta)
  | atomicSwap (swap : Config.AtomicSwap)
  | external (transfer : ExternalTransfer)
  | drift (position : DriftPosition)
  | kamino (position : KaminoPosition)

/-- The request under given terms. -/
def Creation.request (terms : IntegrationTerms) : Creation → Request
  | generic protocol config setup remaining =>
    .initializeIntegration protocol config terms setup remaining
  | atomicSwap swap => .initializeAtomicSwap terms swap
  | external transfer => .initializeExternal terms transfer
  | drift position => .initializeDrift terms position
  | kamino position => .initializeKamino terms position

/-! ### Wide amounts -/

section Amounts

variable {field : String} {value slope maxOutflow : Nat} {number : UInt64} {limit : RateLimit}

theorem narrow_eq_ok_iff : narrow field value = .ok number ↔ number.toNat = value := by
  rw [narrow]
  split
  next fits =>
    rw [Except.ok.injEq, ← UInt64.toNat_inj, UInt64.toNat_ofNat', Nat.mod_eq_of_lt fits]
    exact eq_comm
  next wide =>
    constructor
    · intro accepted
      cases accepted
    · rintro rfl
      exact absurd number.toNat_lt wide

theorem narrow_of_wide (wide : 2 ^ 64 ≤ value) :
    narrow field value = .error (.valueOutOfRange field value) := by
  rw [narrow]
  exact if_neg (Nat.not_lt.mpr wide)

namespace RateLimit

theorem ofWide_eq_ok_iff :
    ofWide slope maxOutflow = .ok limit ↔
      limit.slope.toNat = slope ∧ limit.maxOutflow.toNat = maxOutflow := by
  constructor
  · intro accepted
    obtain ⟨narrowSlope, fits, accepted⟩ := bind_eq_ok.mp accepted
    obtain ⟨narrowOutflow, fits', accepted⟩ := bind_eq_ok.mp accepted
    cases accepted
    exact ⟨narrow_eq_ok_iff.mp fits, narrow_eq_ok_iff.mp fits'⟩
  · rintro ⟨fits, fits'⟩
    exact bind_eq_ok.mpr ⟨_, narrow_eq_ok_iff.mpr fits,
      bind_eq_ok.mpr ⟨_, narrow_eq_ok_iff.mpr fits', rfl⟩⟩

theorem exists_ofWide_iff :
    (∃ limit, ofWide slope maxOutflow = .ok limit) ↔ slope < 2 ^ 64 ∧ maxOutflow < 2 ^ 64 := by
  constructor
  · rintro ⟨limit, accepted⟩
    obtain ⟨rfl, rfl⟩ := ofWide_eq_ok_iff.mp accepted
    exact ⟨limit.slope.toNat_lt, limit.maxOutflow.toNat_lt⟩
  · rintro ⟨fits, fits'⟩
    refine ⟨⟨.ofNat slope, .ofNat maxOutflow⟩, ofWide_eq_ok_iff.mpr ⟨?_, ?_⟩⟩
    · exact UInt64.toNat_ofNat_of_lt' fits
    · exact UInt64.toNat_ofNat_of_lt' fits'

theorem ofWide_of_wide_slope (wide : 2 ^ 64 ≤ slope) :
    ofWide slope maxOutflow = .error (.valueOutOfRange "rate_limit_slope" slope) := by
  -- the slope is narrowed first, so the cap is not looked at any more
  rw [ofWide, narrow_of_wide wide]
  rfl

theorem ofWide_of_wide_maxOutflow (fits : slope < 2 ^ 64) (wide : 2 ^ 64 ≤ maxOutflow) :
    ofWide slope maxOutflow = .error (.valueOutOfRange "rate_limit_max_outflow" maxOutflow) := by
  have narrowed : narrow "rate_limit_slope" slope = .ok (.ofNat slope) := if_pos fits
  rw [ofWide, narrowed, narrow_of_wide wide]
  rfl

end RateLimit

end Amounts

/-! ### Places in a payload -/

/-- Two numbers of 64 bits, one after the other, from an offset on. -/
structure AmountsAt (bytes : List UInt8) (start slope maxOutflow : Nat) : Prop where
  room : start + 16 ≤ bytes.length
  slope : numberAt bytes start (start + 8) = slope
  maxOutflow : numberAt bytes (start + 8) (start + 16) = maxOutflow

theorem amountsAt_of_drop {bytes rest : List UInt8} {start : Nat} {limit : RateLimit}
    (remaining : bytes.drop start = RateLimit.codec.encode limit ++ rest) :
    AmountsAt bytes start limit.slope.toNat limit.maxOutflow.toNat := by
  have written : bytes.drop start = toLittleEndian 8 limit.slope.toNat ++
      (toLittleEndian 8 limit.maxOutflow.toNat ++ rest) := by
    simpa [RateLimit.codec] using remaining
  obtain ⟨slope, behind⟩ := numberAt_of_drop written limit.slope.toNat_lt
  obtain ⟨maxOutflow, -⟩ := numberAt_of_drop behind limit.maxOutflow.toNat_lt
  have length := congrArg List.length written
  rw [List.length_drop, List.length_append, List.length_append, length_toLittleEndian,
    length_toLittleEndian] at length
  exact ⟨by omega, slope.symm, maxOutflow.symm⟩

namespace Instruction.Kind

theorem drop_initializeReserve (arguments : InitializeReserve.Arguments) :
    (initializeReserve.data arguments).drop 2 =
      RateLimit.codec.encode arguments.rateLimit ++ [] := by
  rw [List.append_nil]
  rfl

theorem drop_initializeIntegration (arguments : InitializeIntegration.Arguments) :
    ∃ rest, (initializeIntegration.data arguments).drop 3 =
      arguments.description.bytes ++ (RateLimit.codec.encode arguments.rateLimit ++ rest) :=
  ⟨_, rfl⟩

theorem drop_manageIntegration {arguments : ManageIntegration.Arguments} {description : Description}
    (present : arguments.description = some description) :
    ∃ rest, (manageIntegration.data arguments).drop (if arguments.status = none then 3 else 4) =
      description.bytes ++ rest := by
  obtain ⟨status, _, slope, maxOutflow⟩ := arguments
  obtain rfl : _ = some description := present
  -- in front are the number of the instruction, the status behind its tag, and a tag of its own
  cases status with
  | none => exact ⟨_, rfl⟩
  | some status => exact ⟨_, rfl⟩

end Instruction.Kind

/-- Where the payload of an update has the description, if it has one. -/
def IntegrationUpdate.descriptionPlace (update : IntegrationUpdate) : Nat :=
  if update.status = .unchanged then 3 else 4

/-! ### Operations that take terms -/

namespace Builder

variable {builder : Builder} {terms : IntegrationTerms} {instruction : Instruction}

theorem buffer_returns {description : Description} :
    terms.buffer.Returns description ↔ Description.ofText terms.description = .ok description := by
  rw [IntegrationTerms.buffer]
  cases Description.ofText terms.description with
  | error failure => simp [Logged.reject, Logged.Returns]
  | ok held => simp

theorem initializeReserve_returns {mint tokenProgram : Address} {status : Status}
    {limit : RateLimit} :
    (builder.initializeReserve mint tokenProgram status limit).Returns instruction ↔
      ∃ reserve, builder.reserveAddress mint = .ok reserve ∧
        ∃ vault, (builder.reserveVault mint tokenProgram).Returns vault ∧
        builder.instruction .initializeReserve
          ⟨builder.payer, builder.controller, builder.controllerAuthority, builder.authority,
            builder.permission, reserve, mint, vault, tokenProgram,
            builder.programs.associatedToken, builder.programs.controller,
            builder.programs.system⟩ ⟨status, limit⟩ = instruction := by
  simp only [initializeReserve, Logged.returns_bind, Logged.returns_liftM, Logged.returns_report,
    Logged.returns_pure, true_and, exists_const]

theorem initializeReserve_amounts {mint tokenProgram : Address} {status : Status}
    {limit : RateLimit}
    (built : (builder.initializeReserve mint tokenProgram status limit).Returns instruction) :
    AmountsAt instruction.data 2 limit.slope.toNat limit.maxOutflow.toNat := by
  obtain ⟨reserve, -, vault, -, rfl⟩ := initializeReserve_returns.mp built
  exact amountsAt_of_drop (Instruction.Kind.drop_initializeReserve ⟨status, limit⟩)

theorem creation_returns {creation : Creation}
    (built : (builder.perform (creation.request terms)).Returns instruction) :
    ∃ protocol config setup remaining,
      (builder.initializeIntegration protocol config terms setup remaining).Returns
        instruction := by
  -- whatever a protocol looks up before, the shared instruction is its last step
  cases creation with
  | generic protocol config setup remaining => exact ⟨_, _, _, _, built⟩
  | atomicSwap swap => exact ⟨_, _, _, _, built⟩
  | external transfer =>
    obtain ⟨fields, -, built⟩ := Logged.returns_bind.mp built
    exact ⟨_, _, _, _, built⟩
  | drift position =>
    obtain ⟨user, -, built⟩ := Logged.returns_bind.mp built
    obtain ⟨userStats, -, built⟩ := Logged.returns_bind.mp built
    obtain ⟨state, -, built⟩ := Logged.returns_bind.mp built
    obtain ⟨spotMarket, -, built⟩ := Logged.returns_bind.mp built
    exact ⟨_, _, _, _, built⟩
  | kamino position =>
    obtain ⟨fields, -, built⟩ := Logged.returns_bind.mp built
    obtain ⟨userMetadata, -, built⟩ := Logged.returns_bind.mp built
    obtain ⟨obligationFarm, -, built⟩ := Logged.returns_bind.mp built
    obtain ⟨marketAuthority, -, built⟩ := Logged.returns_bind.mp built
    exact ⟨_, _, _, _, built⟩

theorem drop_data_of_creation {creation : Creation}
    (built : (builder.perform (creation.request terms)).Returns instruction) :
    ∃ description rest, Description.ofText terms.description = .ok description ∧
      instruction.data.drop 3 =
        description.bytes ++ (RateLimit.codec.encode terms.rateLimit ++ rest) := by
  obtain ⟨protocol, config, setup, remaining, built⟩ := creation_returns built
  obtain ⟨description, integration, described, -, rfl⟩ := initializeIntegration_returns built
  obtain ⟨rest, written⟩ := Instruction.Kind.drop_initializeIntegration
    ⟨protocol, terms.status, description, terms.rateLimit, terms.permitLiquidation, setup⟩
  exact ⟨description, rest, buffer_returns.mp described, written⟩

theorem creation_amounts {creation : Creation}
    (built : (builder.perform (creation.request terms)).Returns instruction) :
    AmountsAt instruction.data 35 terms.rateLimit.slope.toNat
      terms.rateLimit.maxOutflow.toNat := by
  obtain ⟨description, rest, -, remaining⟩ := drop_data_of_creation built
  exact amountsAt_of_drop (extract_of_drop remaining description.length).2

/-! ### Operations that take a text -/

/-- The operation accepts a text exactly if it fits and nothing else is wrong, reports its length
if that is all that is wrong, and puts the buffer of the text at a place in the payload. -/
structure TakesText (operation : String → Logged Failure Instruction) (place : Nat) : Prop where
  accepts : ∀ text,
    (operation text).result.isOk ↔ text.utf8ByteSize ≤ 32 ∧ (operation "").result.isOk
  refuses : ∀ text, 32 < text.utf8ByteSize → (operation "").result.isOk →
    (operation text).result = .error (.descriptionTooLong text.utf8ByteSize)
  writes : ∀ text instruction, (operation text).result = .ok instruction →
    ∃ description, Description.ofText text = .ok description ∧
      instruction.data.extract place (place + 32) = description.bytes

theorem unmet_description_of_fits {text : String} (fits : text.utf8ByteSize ≤ 32) :
    builder.unmet (.description text) = none := by
  rw [unmet, Text.length_toUTF8]
  exact if_pos fits

theorem unmet_description_of_long {text : String} (long : 32 < text.utf8ByteSize) :
    builder.unmet (.description text) = some (.descriptionTooLong text.utf8ByteSize) := by
  rw [unmet, Text.length_toUTF8]
  exact if_neg (Nat.not_le.mpr long)

section TakesText

variable {operation : String → Logged Failure Instruction} {before after : List Requirement}
  {text : String}

theorem isOk_of_fits
    (steps : ∀ text, builder.Refuses (operation text) (before ++ .description text :: after))
    (fits : text.utf8ByteSize ≤ 32) :
    (operation text).result.isOk ↔ (operation "").result.isOk := by
  -- both texts are passed over, so the operation stops at the same step, if at all
  have blank : "".utf8ByteSize ≤ 32 := by decide
  rw [isOk_iff_refusal, isOk_iff_refusal, steps text, steps "", List.findSome?_append,
    List.findSome?_append, List.findSome?_cons, List.findSome?_cons,
    unmet_description_of_fits fits, unmet_description_of_fits blank]

theorem result_of_long
    (steps : ∀ text, builder.Refuses (operation text) (before ++ .description text :: after))
    (long : 32 < text.utf8ByteSize) (otherwise : (operation "").result.isOk) :
    (operation text).result = .error (.descriptionTooLong text.utf8ByteSize) := by
  -- nothing in front of the text is wrong, or else the operation would refuse every text
  have passed : before.findSome? builder.unmet = none := by
    rw [isOk_iff_refusal, steps "", List.findSome?_append, Option.or_eq_none_iff] at otherwise
    exact otherwise.1
  apply eq_error_of_refusal
  rw [steps text, List.findSome?_append, passed, Option.none_or, List.findSome?_cons,
    unmet_description_of_long long]

theorem takesText_of_steps {place : Nat}
    (steps : ∀ text, builder.Refuses (operation text) (before ++ .description text :: after))
    (writes : ∀ text instruction, (operation text).Returns instruction →
      ∃ description rest, Description.ofText text = .ok description ∧
        instruction.data.drop place = description.bytes ++ rest) :
    TakesText operation place := by
  have written : ∀ text instruction, (operation text).result = .ok instruction →
      ∃ description, Description.ofText text = .ok description ∧
        instruction.data.extract place (place + 32) = description.bytes := by
    intro text instruction built
    obtain ⟨description, rest, held, remaining⟩ := writes text instruction built
    exact ⟨description, held, (extract_of_drop remaining description.length).1⟩
  refine ⟨?_, ?_, written⟩
  · intro text
    constructor
    · intro accepted
      obtain ⟨instruction, built⟩ := exists_eq_ok accepted
      obtain ⟨description, held, -⟩ := written text instruction built
      have fits : text.utf8ByteSize ≤ 32 := Description.exists_ofText_iff.mp ⟨description, held⟩
      exact ⟨fits, (isOk_of_fits steps fits).mp accepted⟩
    · rintro ⟨fits, otherwise⟩
      exact (isOk_of_fits steps fits).mpr otherwise
  · intro text long otherwise
    exact result_of_long steps long otherwise

end TakesText

/-- Two operations that accept any text at all accept the same texts and write the same bytes for
them. -/
theorem TakesText.agree {operation other : String → Logged Failure Instruction}
    {place place' : Nat} (takes : TakesText operation place) (takes' : TakesText other place')
    (otherwise : (operation "").result.isOk) (otherwise' : (other "").result.isOk)
    (text : String) :
    ((operation text).result.isOk ↔ (other text).result.isOk) ∧
    ∀ instruction instruction', (operation text).result = .ok instruction →
      (other text).result = .ok instruction' →
      instruction.data.extract place (place + 32) =
        instruction'.data.extract place' (place' + 32) := by
  constructor
  · rw [takes.accepts, takes'.accepts]
    exact and_congr_right fun _ => iff_of_true otherwise otherwise'
  · intro instruction instruction' built built'
    obtain ⟨description, held, written⟩ := takes.writes text instruction built
    obtain ⟨description', held', written'⟩ := takes'.writes text instruction' built'
    cases Except.ok.inj (held.symm.trans held')
    rw [written, written']

theorem requestSteps_creation (builder : Builder) (creation : Creation)
    (terms : IntegrationTerms) :
    ∃ before after, ∀ text,
      builder.requestSteps (creation.request { terms with description := text }) =
        before ++ .description text :: after := by
  -- one step is about the text, and no other one depends on it
  cases creation with
  | generic protocol config setup remaining => exact ⟨[], _, fun _ => rfl⟩
  | atomicSwap swap => exact ⟨[], _, fun _ => rfl⟩
  | external transfer => exact ⟨externalSteps transfer, _, fun _ => rfl⟩
  | drift position => exact ⟨[_, _, _, _], _, fun _ => rfl⟩
  | kamino position => exact ⟨[_, _, _, _], _, fun _ => rfl⟩

/-- Creates an integration with a given text as its description. -/
def createDescribed (builder : Builder) (creation : Creation) (terms : IntegrationTerms)
    (text : String) : Logged Failure Instruction :=
  builder.perform (creation.request { terms with description := text })

/-- Changes an integration, and its description to a given text. -/
def redescribe (builder : Builder) (integration : Address) (update : IntegrationUpdate)
    (text : String) : Logged Failure Instruction :=
  builder.manageIntegration integration { update with description := .set text }

theorem createDescribed_takesText (builder : Builder) (creation : Creation)
    (terms : IntegrationTerms) : TakesText (builder.createDescribed creation terms) 3 := by
  obtain ⟨before, after, listed⟩ := builder.requestSteps_creation creation terms
  have steps : ∀ text, builder.Refuses (builder.createDescribed creation terms text)
      (before ++ .description text :: after) := by
    intro text
    rw [← listed text]
    exact perform_refuses _
  apply takesText_of_steps steps
  intro text instruction built
  obtain ⟨description, rest, held, remaining⟩ := drop_data_of_creation built
  exact ⟨description, _, held, remaining⟩

theorem redescribe_refuses (integration : Address) (update : IntegrationUpdate) (text : String) :
    builder.Refuses (builder.redescribe integration update text) ([] ++ .description text :: [
      .kept "status" update.status.isCleared,
      .kept "rate_limit_slope" update.rateLimitSlope.isCleared]) :=
  perform_refuses (.manageIntegration integration { update with description := .set text })

theorem redescribe_takesText (builder : Builder) (integration : Address)
    (update : IntegrationUpdate) :
    TakesText (builder.redescribe integration update) update.descriptionPlace := by
  apply takesText_of_steps (redescribe_refuses integration update)
  intro text instruction built
  obtain ⟨written, writes, rfl⟩ := manageIntegration_returns.mp built
  obtain ⟨description, present, holds⟩ := writes.description
  obtain ⟨rest, remaining⟩ := Instruction.Kind.drop_manageIntegration present
  have place : update.descriptionPlace = if written.status = none then 3 else 4 := by
    have status : update.status = .ofOption written.status :=
      Field.change_eq_ofOption writes.status
    rw [IntegrationUpdate.descriptionPlace, status]
    cases written.status <;> simp [Change.ofOption]
  refine ⟨description, rest, Description.ofText_eq_ok_iff.mpr holds, ?_⟩
  rw [place]
  exact remaining

theorem createDescribed_generic_isOk_iff {protocol : Protocol} {config : Config} {setup : Setup}
    {remaining : List AccountMeta} :
    (builder.createDescribed (.generic protocol config setup remaining) terms "").result.isOk ↔
      (builder.integrationAddress config).isOk := by
  have steps : builder.Refuses
      (builder.createDescribed (.generic protocol config setup remaining) terms "")
      [.description "", .zeroPadding config, builder.integrationStep config] :=
    perform_refuses _
  have address : refusal (builder.integrationAddress config) =
      [.zeroPadding config, builder.integrationStep config].findSome? builder.unmet :=
    (Refuses.integration config).of_liftM
  rw [isOk_iff_refusal, isOk_iff_refusal, steps, address, List.findSome?_cons,
    unmet_description_of_fits (by decide)]

theorem redescribe_isOk_iff {integration : Address} {update : IntegrationUpdate} :
    (builder.redescribe integration update "").result.isOk ↔
      update.status ≠ .cleared ∧ update.rateLimitSlope ≠ .cleared := by
  rw [isOk_iff_refusal, redescribe_refuses, List.nil_append, List.findSome?_cons,
    unmet_description_of_fits (by decide)]
  cases update.status <;> cases update.rateLimitSlope <;> simp [unmet, Change.isCleared]

/-- A deposit in the first market from the first sub account, created without its accounts. -/
def bareDeposit : Creation :=
  .generic .drift (.ofProtocol .drift ⟨0, 0⟩) (.drift 0 0) []

theorem bareDeposit_isOk (terms : IntegrationTerms) :
    (ofZero.createDescribed bareDeposit terms "").result.isOk :=
  createDescribed_generic_isOk_iff.mpr (by decide +kernel)

/-! ### Main theorems -/

/-- A text is accepted as a description exactly if it has at most 32 bytes, and refused with its
length otherwise. Its buffer consists of its bytes and of zeros, and is read as the text without the
NULs at its end. A buffer is read as a text exactly if its bytes before the zeros at its end are
valid UTF-8, and it is the buffer of that text. Texts have the same buffer exactly if they are the
same without the NULs at their ends. Creating an integration and changing one both take a text in
this sense: unless something else is wrong, both accept the same texts and write the same bytes for
them. -/
theorem descriptions_round_trip (builder other : Builder) :
    (∀ text : String,
      ((∃ description, Description.ofText text = .ok description) ↔ text.utf8ByteSize ≤ 32) ∧
      (32 < text.utf8ByteSize →
        Description.ofText text = .error (.descriptionTooLong text.utf8ByteSize)) ∧
      ∀ description, Description.ofText text = .ok description →
        description.bytes =
          text.toUTF8.toList ++ List.replicate (32 - text.utf8ByteSize) 0 ∧
        description.text? = some (Text.dropNuls text) ∧
        (description.text? = some text ↔ text.toList.getLast? ≠ some '\x00')) ∧
    (∀ description : Description,
      ((∃ text, description.text? = some text) ↔
        ByteArray.IsValidUTF8 ⟨(description.bytes.rdropWhile (· == 0)).toArray⟩) ∧
      ∀ text, description.text? = some text →
        text.toUTF8.toList = description.bytes.rdropWhile (· == 0) ∧
        Description.ofText text = .ok description) ∧
    (∀ left right description description', Description.ofText left = .ok description →
      Description.ofText right = .ok description' →
      (description = description' ↔ Text.dropNuls left = Text.dropNuls right)) ∧
    (∀ creation terms, TakesText (builder.createDescribed creation terms) 3) ∧
    (∀ integration update,
      TakesText (other.redescribe integration update) update.descriptionPlace) ∧
    (∀ protocol config setup remaining terms,
      (builder.createDescribed (.generic protocol config setup remaining) terms "").result.isOk ↔
        (builder.integrationAddress config).isOk) ∧
    (∀ integration update, (other.redescribe integration update "").result.isOk ↔
      update.status ≠ .cleared ∧ update.rateLimitSlope ≠ .cleared) ∧
    ∀ creation terms integration update,
      (builder.createDescribed creation terms "").result.isOk →
      (other.redescribe integration update "").result.isOk → ∀ text,
      ((builder.createDescribed creation terms text).result.isOk ↔
        (other.redescribe integration update text).result.isOk) ∧
      ∀ instruction instruction',
        (builder.createDescribed creation terms text).result = .ok instruction →
        (other.redescribe integration update text).result = .ok instruction' →
        instruction.data.extract 3 35 =
          instruction'.data.extract update.descriptionPlace (update.descriptionPlace + 32) := by
  refine ⟨?_, ?_, ?_, ?_, ?_, ?_, ?_, ?_⟩
  · intro text
    refine ⟨Description.exists_ofText_iff, Description.ofText_of_long, ?_⟩
    intro description held
    have holds : description.Holds text := Description.ofText_eq_ok_iff.mp held
    refine ⟨holds.bytes_eq, holds.text?_eq, ?_⟩
    rw [holds.text?_eq, Option.some.injEq]
    exact Text.dropNuls_eq_self_iff
  · intro description
    refine ⟨Text.exists_fromUTF8?_iff, ?_⟩
    intro text read
    exact ⟨Description.text?_eq_some_iff.mp read,
      Description.ofText_eq_ok_iff.mpr (Description.holds_of_text? read)⟩
  · intro left right description description' held held'
    exact Description.eq_iff_of_holds (Description.ofText_eq_ok_iff.mp held)
      (Description.ofText_eq_ok_iff.mp held')
  · intro creation terms
    exact createDescribed_takesText builder creation terms
  · intro integration update
    exact redescribe_takesText other integration update
  · intro protocol config setup remaining terms
    exact createDescribed_generic_isOk_iff
  · intro integration update
    exact redescribe_isOk_iff
  · intro creation terms integration update otherwise otherwise' text
    exact (createDescribed_takesText builder creation terms).agree
      (redescribe_takesText other integration update) otherwise otherwise' text

/-- The sign for the euro takes three bytes, and a NUL after it is lost, both in a new integration
and in an update of its status. -/
theorem descriptions_round_trip_of_final_nul : ∃ description instruction instruction',
    Description.ofText "€\x00" = .ok description ∧
    description.text? = some "€" ∧ description.text? ≠ some "€\x00" ∧
    Description.ofText "€" = .ok description ∧
    Text.dropNuls "€" = Text.dropNuls "€\x00" ∧
    Description.ofText "a text that exceeds the buffer by 3" = .error (.descriptionTooLong 35) ∧
    (ofZero.createDescribed bareDeposit { description := "" } "€\x00").result = .ok instruction ∧
    (ofZero.redescribe .zero { status := .set .active } "€\x00").result = .ok instruction' ∧
    instruction.data.extract 3 35 = description.bytes ∧
    instruction.data.extract 3 35 = instruction'.data.extract 4 36 := by
  obtain ⟨texts, buffers, alike, creations, updates, -, conditions, agree⟩ :=
    descriptions_round_trip ofZero ofZero
  have fits : "€\x00".utf8ByteSize ≤ 32 := by decide
  obtain ⟨description, held⟩ := (texts "€\x00").1.mpr fits
  obtain ⟨-, read, same⟩ := (texts "€\x00").2.2 description held
  have shown : Text.dropNuls "€\x00" = "€" := by decide +kernel
  rw [shown] at read
  obtain ⟨-, again⟩ := (buffers description).2 "€" read
  have created := bareDeposit_isOk { description := "" }
  have changed : (ofZero.redescribe .zero { status := .set .active } "").result.isOk :=
    (conditions _ _).mpr ⟨by decide, by decide⟩
  obtain ⟨instruction, built⟩ := exists_eq_ok (((creations _ _).accepts _).mpr ⟨fits, created⟩)
  obtain ⟨instruction', built'⟩ := exists_eq_ok (((updates _ _).accepts _).mpr ⟨fits, changed⟩)
  obtain ⟨description', held', written⟩ := (creations _ _).writes _ _ built
  cases Except.ok.inj (held.symm.trans held')
  refine ⟨description, instruction, instruction', held, read, ?_, again, ?_, ?_, built, built',
    written, ?_⟩
  · intro whole
    exact same.mp whole (by decide +kernel)
  · exact (alike "€" "€\x00" description description again held).mp rfl
  · exact (texts "a text that exceeds the buffer by 3").2.1 (by decide)
  · exact (agree _ _ _ _ created changed "€\x00").2 instruction instruction' built built'

/-- Two amounts make a rate limit exactly if both are numbers of 64 bits. Otherwise the slope is
refused if it is too large, and the cap if the slope is not; the refusal names the field and repeats
the amount. Whoever creates a reserve or an integration with the limit finds both amounts in the
payload. -/
theorem rate_limits_carried (builder : Builder) (slope maxOutflow : Nat) :
    ((∃ limit, RateLimit.ofWide slope maxOutflow = .ok limit) ↔
      slope < 2 ^ 64 ∧ maxOutflow < 2 ^ 64) ∧
    (2 ^ 64 ≤ slope → RateLimit.ofWide slope maxOutflow =
      .error (.valueOutOfRange "rate_limit_slope" slope)) ∧
    (slope < 2 ^ 64 → 2 ^ 64 ≤ maxOutflow → RateLimit.ofWide slope maxOutflow =
      .error (.valueOutOfRange "rate_limit_max_outflow" maxOutflow)) ∧
    ∀ limit, RateLimit.ofWide slope maxOutflow = .ok limit →
      (∀ mint tokenProgram status instruction,
        (builder.initializeReserve mint tokenProgram status limit).result = .ok instruction →
        AmountsAt instruction.data 2 slope maxOutflow) ∧
      ∀ (creation : Creation) (terms : IntegrationTerms) instruction,
        (builder.perform (creation.request { terms with rateLimit := limit })).result =
          .ok instruction →
        AmountsAt instruction.data 35 slope maxOutflow := by
  refine ⟨RateLimit.exists_ofWide_iff, RateLimit.ofWide_of_wide_slope,
    RateLimit.ofWide_of_wide_maxOutflow, ?_⟩
  intro limit accepted
  obtain ⟨rfl, rfl⟩ := RateLimit.ofWide_eq_ok_iff.mp accepted
  constructor
  · intro mint tokenProgram status instruction built
    exact initializeReserve_amounts built
  · intro creation terms instruction built
    exact creation_amounts built

/-- The greatest amount is carried in both payloads, next to one that is as great as a signed number
cannot be. One more is refused, as a slope or as a cap. -/
theorem rate_limits_carried_at_limit : ∃ limit created created',
    RateLimit.ofWide (2 ^ 64 - 1) (2 ^ 63) = .ok limit ∧
    (ofZero.initializeReserve (numbered 2) Program.token.mainnet .active limit).result =
      .ok created ∧
    (ofZero.perform (bareDeposit.request { description := "", rateLimit := limit })).result =
      .ok created' ∧
    AmountsAt created.data 2 (2 ^ 64 - 1) (2 ^ 63) ∧
    AmountsAt created'.data 35 (2 ^ 64 - 1) (2 ^ 63) ∧
    RateLimit.ofWide (2 ^ 64) (2 ^ 64) =
      .error (.valueOutOfRange "rate_limit_slope" (2 ^ 64)) ∧
    RateLimit.ofWide 0 (2 ^ 64) = .error (.valueOutOfRange "rate_limit_max_outflow" (2 ^ 64)) := by
  obtain ⟨accepted, -, -, carried⟩ := rate_limits_carried ofZero (2 ^ 64 - 1) (2 ^ 63)
  obtain ⟨limit, fits⟩ := accepted.mpr ⟨by decide, by decide⟩
  obtain ⟨reserves, integrations⟩ := carried limit fits
  obtain ⟨reserve, found⟩ := reserveAddress_ofZero
  obtain ⟨vault, held⟩ := reserveVault_ofZero
  obtain ⟨created, built⟩ : ∃ created, (ofZero.initializeReserve (numbered 2)
      Program.token.mainnet .active limit).Returns created :=
    ⟨_, initializeReserve_returns.mpr ⟨reserve, found, vault, held, rfl⟩⟩
  obtain ⟨created', built'⟩ : ∃ created', (ofZero.perform (bareDeposit.request
      { description := "", rateLimit := limit })).result = .ok created' :=
    exists_eq_ok (bareDeposit_isOk { description := "", rateLimit := limit })
  refine ⟨limit, created, created', fits, built, built', ?_, ?_, ?_, ?_⟩
  · exact reserves _ _ _ created built
  · exact integrations bareDeposit { description := "" } created' built'
  · exact (rate_limits_carried ofZero (2 ^ 64) (2 ^ 64)).2.1 (by decide)
  · exact (rate_limits_carried ofZero 0 (2 ^ 64)).2.2.1 (by decide) (by decide)

end Builder

end LiquidityController
