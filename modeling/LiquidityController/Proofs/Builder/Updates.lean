import LiquidityController.Proofs.Builder.Lookups
import LiquidityController.Proofs.Instruction.Payloads
import LiquidityController.Proofs.Integration.DescriptionText

/-!
# Updates

A field of an update is in one of three states: it stays, it is emptied or it is set. On the wire
there is only room for two, a value or none. The program that reads them writes the values that are
there over the record that it keeps; here it is shown that this leads to the record that the update
asks for, and which updates cannot be told apart by then.

## Main result

`Builder.updates_keep_their_meaning`: what the program reads off an accepted update, what this makes
of any record, and when two updates carry the same bytes.
-/

namespace LiquidityController

/-! ### Fields -/

namespace Change

variable {α β : Type}

/-- The change that sets a value instead of emptying the field. -/
def emptiedAs (empty : α) : Change α → Change α
  | unchanged => unchanged
  | cleared => set empty
  | set value => set value

/-- The change to another form of the value. -/
def map (f : α → β) : Change α → Change β
  | unchanged => unchanged
  | cleared => cleared
  | set value => set (f value)

@[simp] theorem map_id (change : Change α) : change.map id = change := by
  cases change <;> rfl

end Change

/-- A field of a record, of which `α` is how a caller gives its value and `β` how it is stored. -/
structure Field (α β : Type) where
  /-- What is stored in the emptied field, if it can be emptied. -/
  empty : Option β
  /-- Whether a stored value is a given one. -/
  Holds : β → α → Prop

namespace Field

variable {α β γ : Type}

/-- A field that cannot be emptied. -/
def kept : Field α α :=
  ⟨none, Eq⟩

/-- The cap on outflows, which is lifted by the greatest number. -/
def cap : Field UInt64 UInt64 :=
  ⟨some (.ofNat (2 ^ 64 - 1)), Eq⟩

/-- The description, of which zeros are left. -/
def description : Field String Description :=
  ⟨some ⟨Block.zero 32⟩, Description.Holds⟩

/-- Whether a value, or none, is what stands in a payload for a change of the field. -/
def Writes (field : Field α β) : Change α → Option β → Prop
  | .unchanged, written => written = none
  | .cleared, written => written ≠ none ∧ written = field.empty
  | .set value, written => ∃ stored, written = some stored ∧ field.Holds stored value

/-- Whether a change of the field makes one stored value of another. -/
def Leads (field : Field α β) (before : β) : Change α → β → Prop
  | .unchanged, after => after = before
  | .cleared, after => field.empty = some after
  | .set value, after => field.Holds after value

variable {field : Field α β} {change change' : Change α} {written written' : Option β}

/-- Writing the value that is there over the stored one has the effect of the change. -/
theorem Writes.leads (writes : field.Writes change written) (before : β) :
    field.Leads before change (written.getD before) := by
  cases change with
  | unchanged =>
    cases writes
    rfl
  | cleared =>
    obtain ⟨present, empty⟩ := writes
    obtain ⟨value, rfl⟩ := Option.ne_none_iff_exists'.mp present
    exact empty.symm
  | set value =>
    obtain ⟨stored, rfl, holds⟩ := writes
    exact holds

/-- Either nothing is written, since the field stays, or a value that the field is set to. -/
theorem Writes.cases_emptiedAs (writes : field.Writes change written) {blank : α}
    (holds : ∀ stored ∈ field.empty, field.Holds stored blank) :
    change.emptiedAs blank = .unchanged ∧ written = none ∨
      ∃ value stored, change.emptiedAs blank = .set value ∧ written = some stored ∧
        field.Holds stored value := by
  cases change with
  | unchanged => exact .inl ⟨rfl, writes⟩
  | cleared =>
    obtain ⟨present, empty⟩ := writes
    obtain ⟨stored, rfl⟩ := Option.ne_none_iff_exists'.mp present
    exact .inr ⟨blank, stored, rfl, rfl, holds stored empty.symm⟩
  | set value =>
    obtain ⟨stored, rfl, holds⟩ := writes
    exact .inr ⟨value, stored, rfl, rfl, holds⟩

/-- Two changes are written in the same way exactly if they set values with the same key, where an
emptied field counts as one that is set to a blank value. -/
theorem Writes.eq_iff (writes : field.Writes change written)
    (writes' : field.Writes change' written') (key : α → γ) (blank : α)
    (blanks : ∀ stored ∈ field.empty, field.Holds stored blank)
    (keyed : ∀ {stored stored' value value'}, field.Holds stored value →
      field.Holds stored' value' → (stored = stored' ↔ key value = key value')) :
    written = written' ↔
      (change.emptiedAs blank).map key = (change'.emptiedAs blank).map key := by
  rcases writes.cases_emptiedAs blanks with
    ⟨stays, rfl⟩ | ⟨value, stored, set, rfl, holds⟩ <;>
  rcases writes'.cases_emptiedAs blanks with
    ⟨stays', rfl⟩ | ⟨value', stored', set', rfl, holds'⟩
  · simp [stays, stays']
  · simp [stays, set', Change.map]
  · simp [set, stays', Change.map]
  · simp [set, set', Change.map, keyed holds holds']

theorem writes_cap_iff {change : Change UInt64} {written : Option UInt64} :
    cap.Writes change written ↔ written = change.valueOr RateLimit.uncapped := by
  cases change with
  | unchanged => rfl
  | cleared =>
    constructor
    · exact And.right
    · rintro rfl
      exact ⟨Option.some_ne_none _, rfl⟩
  | set value =>
    constructor
    · rintro ⟨stored, rfl, rfl⟩
      rfl
    · rintro rfl
      exact ⟨value, rfl, rfl⟩

variable {change change' : Change α} {written written' : Option α}

/-- A change is accepted for a field that is kept exactly if it does not empty it. -/
theorem uncleared_returns {name : String} :
    (change.uncleared name).Returns written ↔ kept.Writes change written := by
  cases change with
  | unchanged =>
    rw [Change.uncleared, Logged.returns_pure]
    exact eq_comm
  | cleared =>
    constructor
    · intro accepted
      cases accepted
    · rintro ⟨present, empty⟩
      exact absurd empty present
  | set value =>
    rw [Change.uncleared, Logged.returns_pure]
    constructor
    · rintro rfl
      exact ⟨value, rfl, rfl⟩
    · rintro ⟨stored, rfl, rfl⟩
      rfl

theorem change_eq_ofOption (writes : kept.Writes change written) :
    change = .ofOption written := by
  cases change with
  | unchanged =>
    cases writes
    rfl
  | cleared => exact absurd writes.2 writes.1
  | set value =>
    obtain ⟨stored, rfl, rfl⟩ := writes
    rfl

theorem kept_eq_iff (writes : kept.Writes change written)
    (writes' : kept.Writes change' written') : written = written' ↔ change = change' := by
  rw [change_eq_ofOption writes, change_eq_ofOption writes']
  cases written <;> cases written' <;> simp [Change.ofOption]

theorem cap_eq_iff {change change' : Change UInt64} {written written' : Option UInt64}
    (writes : cap.Writes change written) (writes' : cap.Writes change' written') :
    written = written' ↔
      change.emptiedAs (.ofNat (2 ^ 64 - 1)) = change'.emptiedAs (.ofNat (2 ^ 64 - 1)) := by
  have same := writes.eq_iff writes' id (.ofNat (2 ^ 64 - 1))
  rw [Change.map_id, Change.map_id] at same
  apply same
  · rintro _ ⟨⟩
    rfl
  · rintro stored stored' value value' rfl rfl
    rfl

theorem description_eq_iff {change change' : Change String} {written written' : Option Description}
    (writes : description.Writes change written) (writes' : description.Writes change' written') :
    written = written' ↔
      (change.emptiedAs "").map Text.dropNuls = (change'.emptiedAs "").map Text.dropNuls := by
  apply writes.eq_iff writes' Text.dropNuls ""
  · rintro _ ⟨⟩
    exact ⟨descriptionLength, by rw [Text.toUTF8_toList, String.toList_empty]; rfl⟩
  · intro stored stored' value value' holds holds'
    exact Description.eq_iff_of_holds holds holds'

end Field

/-! ### Records -/

/-- The fields of a stored reserve that an update can change. -/
@[ext]
structure ReserveRecord where
  status : Status
  rateLimitSlope : UInt64
  rateLimitMaxOutflow : UInt64

/-- The record with the values that are there in place of the old ones. -/
def ManageReserve.Arguments.overwrite (written : ManageReserve.Arguments)
    (record : ReserveRecord) : ReserveRecord where
  status := written.status.getD record.status
  rateLimitSlope := written.rateLimitSlope.getD record.rateLimitSlope
  rateLimitMaxOutflow := written.rateLimitMaxOutflow.getD record.rateLimitMaxOutflow

/-- The fields of a stored integration that an update can change. -/
@[ext]
structure IntegrationRecord where
  status : Status
  description : Description
  rateLimitSlope : UInt64
  rateLimitMaxOutflow : UInt64

def ManageIntegration.Arguments.overwrite (written : ManageIntegration.Arguments)
    (record : IntegrationRecord) : IntegrationRecord where
  status := written.status.getD record.status
  description := written.description.getD record.description
  rateLimitSlope := written.rateLimitSlope.getD record.rateLimitSlope
  rateLimitMaxOutflow := written.rateLimitMaxOutflow.getD record.rateLimitMaxOutflow

namespace ReserveUpdate

variable {update update' : ReserveUpdate} {written written' : ManageReserve.Arguments}

/-- The values, or none, that stand in a payload for the changes of the fields. -/
structure Writes (update : ReserveUpdate) (written : ManageReserve.Arguments) : Prop where
  status : Field.kept.Writes update.status written.status
  rateLimitSlope : Field.kept.Writes update.rateLimitSlope written.rateLimitSlope
  rateLimitMaxOutflow : Field.cap.Writes update.rateLimitMaxOutflow written.rateLimitMaxOutflow

/-- The record that the update asks for. -/
structure Leads (update : ReserveUpdate) (before after : ReserveRecord) : Prop where
  status : Field.kept.Leads before.status update.status after.status
  rateLimitSlope :
    Field.kept.Leads before.rateLimitSlope update.rateLimitSlope after.rateLimitSlope
  rateLimitMaxOutflow :
    Field.cap.Leads before.rateLimitMaxOutflow update.rateLimitMaxOutflow
      after.rateLimitMaxOutflow

/-- The updates differ at most in whether the cap is lifted by emptying it or by its value. -/
structure Alike (update update' : ReserveUpdate) : Prop where
  status : update.status = update'.status
  rateLimitSlope : update.rateLimitSlope = update'.rateLimitSlope
  rateLimitMaxOutflow : update.rateLimitMaxOutflow.emptiedAs (.ofNat (2 ^ 64 - 1)) =
    update'.rateLimitMaxOutflow.emptiedAs (.ofNat (2 ^ 64 - 1))

theorem Writes.leads (writes : update.Writes written) (before : ReserveRecord) :
    update.Leads before (written.overwrite before) :=
  ⟨writes.status.leads _, writes.rateLimitSlope.leads _, writes.rateLimitMaxOutflow.leads _⟩

theorem Writes.eq_iff (writes : update.Writes written) (writes' : update'.Writes written') :
    written = written' ↔ update.Alike update' := by
  have status := Field.kept_eq_iff writes.status writes'.status
  have slope := Field.kept_eq_iff writes.rateLimitSlope writes'.rateLimitSlope
  have outflow := Field.cap_eq_iff writes.rateLimitMaxOutflow writes'.rateLimitMaxOutflow
  constructor
  · rintro rfl
    exact ⟨status.mp rfl, slope.mp rfl, outflow.mp rfl⟩
  · intro alike
    cases written
    cases written'
    rw [ManageReserve.Arguments.mk.injEq]
    exact ⟨status.mpr alike.status, slope.mpr alike.rateLimitSlope,
      outflow.mpr alike.rateLimitMaxOutflow⟩

theorem arguments_returns : update.arguments.Returns written ↔ update.Writes written := by
  obtain ⟨status, slope, outflow⟩ := written
  simp only [arguments, Logged.returns_bind, Logged.returns_pure, Field.uncleared_returns,
    ManageReserve.Arguments.mk.injEq]
  constructor
  · rintro ⟨_, writesStatus, _, writesSlope, rfl, rfl, rfl⟩
    exact ⟨writesStatus, writesSlope, Field.writes_cap_iff.mpr rfl⟩
  · rintro ⟨writesStatus, writesSlope, writesOutflow⟩
    exact ⟨_, writesStatus, _, writesSlope, rfl, rfl, (Field.writes_cap_iff.mp writesOutflow).symm⟩

end ReserveUpdate

namespace IntegrationUpdate

variable {update update' : IntegrationUpdate} {written written' : ManageIntegration.Arguments}

structure Writes (update : IntegrationUpdate) (written : ManageIntegration.Arguments) : Prop where
  status : Field.kept.Writes update.status written.status
  description : Field.description.Writes update.description written.description
  rateLimitSlope : Field.kept.Writes update.rateLimitSlope written.rateLimitSlope
  rateLimitMaxOutflow : Field.cap.Writes update.rateLimitMaxOutflow written.rateLimitMaxOutflow

structure Leads (update : IntegrationUpdate) (before after : IntegrationRecord) : Prop where
  status : Field.kept.Leads before.status update.status after.status
  description : Field.description.Leads before.description update.description after.description
  rateLimitSlope :
    Field.kept.Leads before.rateLimitSlope update.rateLimitSlope after.rateLimitSlope
  rateLimitMaxOutflow :
    Field.cap.Leads before.rateLimitMaxOutflow update.rateLimitMaxOutflow
      after.rateLimitMaxOutflow

/-- The updates differ at most in how the cap is lifted, in whether the description is emptied or
set to no text, and in NULs at the end of the description. -/
structure Alike (update update' : IntegrationUpdate) : Prop where
  status : update.status = update'.status
  description : (update.description.emptiedAs "").map Text.dropNuls =
    (update'.description.emptiedAs "").map Text.dropNuls
  rateLimitSlope : update.rateLimitSlope = update'.rateLimitSlope
  rateLimitMaxOutflow : update.rateLimitMaxOutflow.emptiedAs (.ofNat (2 ^ 64 - 1)) =
    update'.rateLimitMaxOutflow.emptiedAs (.ofNat (2 ^ 64 - 1))

theorem Writes.leads (writes : update.Writes written) (before : IntegrationRecord) :
    update.Leads before (written.overwrite before) :=
  ⟨writes.status.leads _, writes.description.leads _, writes.rateLimitSlope.leads _,
    writes.rateLimitMaxOutflow.leads _⟩

theorem Writes.eq_iff (writes : update.Writes written) (writes' : update'.Writes written') :
    written = written' ↔ update.Alike update' := by
  have status := Field.kept_eq_iff writes.status writes'.status
  have description := Field.description_eq_iff writes.description writes'.description
  have slope := Field.kept_eq_iff writes.rateLimitSlope writes'.rateLimitSlope
  have outflow := Field.cap_eq_iff writes.rateLimitMaxOutflow writes'.rateLimitMaxOutflow
  constructor
  · rintro rfl
    exact ⟨status.mp rfl, description.mp rfl, slope.mp rfl, outflow.mp rfl⟩
  · intro alike
    cases written
    cases written'
    rw [ManageIntegration.Arguments.mk.injEq]
    exact ⟨status.mpr alike.status, description.mpr alike.description,
      slope.mpr alike.rateLimitSlope, outflow.mpr alike.rateLimitMaxOutflow⟩

theorem buffer_eq_ok_iff {description : Option Description} :
    update.buffer = .ok description ↔
      Field.description.Writes update.description description := by
  rw [buffer]
  cases update.description with
  | unchanged =>
    rw [Except.ok.injEq]
    exact eq_comm
  | cleared =>
    rw [Except.ok.injEq]
    constructor
    · rintro rfl
      exact ⟨Option.some_ne_none _, rfl⟩
    · rintro ⟨-, rfl⟩
      rfl
  | set text =>
    change (Description.ofText text).map some = .ok description ↔ _
    constructor
    · intro accepted
      cases held : Description.ofText text with
      | error failure =>
        rw [held] at accepted
        cases accepted
      | ok stored =>
        rw [held] at accepted
        cases accepted
        exact ⟨stored, rfl, Description.ofText_eq_ok_iff.mp held⟩
    · rintro ⟨stored, rfl, holds⟩
      rw [Description.ofText_eq_ok_iff.mpr holds]
      rfl

theorem arguments_returns : update.arguments.Returns written ↔ update.Writes written := by
  obtain ⟨status, description, slope, outflow⟩ := written
  simp only [arguments, Logged.returns_bind, Logged.returns_pure, Logged.returns_liftM,
    Field.uncleared_returns, buffer_eq_ok_iff, ManageIntegration.Arguments.mk.injEq]
  constructor
  · rintro ⟨_, writesDescription, _, writesStatus, _, writesSlope, rfl, rfl, rfl, rfl⟩
    exact ⟨writesStatus, writesDescription, writesSlope, Field.writes_cap_iff.mpr rfl⟩
  · rintro ⟨writesStatus, writesDescription, writesSlope, writesOutflow⟩
    exact ⟨_, writesDescription, _, writesStatus, _, writesSlope, rfl, rfl, rfl,
      (Field.writes_cap_iff.mp writesOutflow).symm⟩

end IntegrationUpdate

/-! ### Main theorem -/

namespace Builder

variable {builder : Builder} {instruction : Instruction}

theorem manageReserve_returns {mint : Address} {update : ReserveUpdate} :
    (builder.manageReserve mint update).Returns instruction ↔
      ∃ reserve, builder.reserveAddress mint = .ok reserve ∧ ∃ written, update.Writes written ∧
        builder.instruction .manageReserve
          ⟨builder.controller, builder.controllerAuthority, builder.authority, builder.permission,
            reserve, builder.programs.controller⟩ written = instruction := by
  simp only [manageReserve, Logged.returns_bind, Logged.returns_liftM, Logged.returns_pure,
    ReserveUpdate.arguments_returns]

theorem manageIntegration_returns {integration : Address} {update : IntegrationUpdate} :
    (builder.manageIntegration integration update).Returns instruction ↔
      ∃ written, update.Writes written ∧
        builder.instruction .manageIntegration
          ⟨builder.controller, builder.controllerAuthority, builder.authority, builder.permission,
            integration, builder.programs.controller⟩ written = instruction := by
  simp only [manageIntegration, Logged.returns_bind, Logged.returns_pure,
    IntegrationUpdate.arguments_returns]

theorem data_of_manageReserve {mint : Address} {update : ReserveUpdate}
    (built : (builder.manageReserve mint update).Returns instruction) :
    ∃ written, update.Writes written ∧
      Instruction.Kind.manageReserve.data written = instruction.data := by
  obtain ⟨reserve, -, written, writes, rfl⟩ := manageReserve_returns.mp built
  exact ⟨written, writes, rfl⟩

theorem data_of_manageIntegration {integration : Address} {update : IntegrationUpdate}
    (built : (builder.manageIntegration integration update).Returns instruction) :
    ∃ written, update.Writes written ∧
      Instruction.Kind.manageIntegration.data written = instruction.data := by
  obtain ⟨written, writes, rfl⟩ := manageIntegration_returns.mp built
  exact ⟨written, writes, rfl⟩

/-- The payload of an accepted update reads as options that are absent exactly for the fields that
stay. Whatever the stored record, writing the others over it gives the record that the update asks
for. Two accepted updates carry the same bytes exactly if they have the same status and slope, and
agree on the cap and on the description once emptying the cap counts as setting it to the greatest
number, emptying the description as setting it to no text, and NULs at the end of a text as nothing.
-/
theorem updates_keep_their_meaning (builder other : Builder) :
    (∀ mint update instruction, (builder.manageReserve mint update).result = .ok instruction →
      ∃ written : ManageReserve.Arguments,
        instruction.data.head? = some Opcode.manageReserve.discriminator ∧
        ManageReserve.Arguments.codec.decodeAll instruction.data.tail = .ok written ∧
        update.Writes written ∧ ∀ before, update.Leads before (written.overwrite before)) ∧
    (∀ integration update instruction,
      (builder.manageIntegration integration update).result = .ok instruction →
      ∃ written : ManageIntegration.Arguments,
        instruction.data.head? = some Opcode.manageIntegration.discriminator ∧
        ManageIntegration.Arguments.codec.decodeAll instruction.data.tail = .ok written ∧
        update.Writes written ∧ ∀ before, update.Leads before (written.overwrite before)) ∧
    (∀ mint mint' update update' instruction instruction',
      (builder.manageReserve mint update).result = .ok instruction →
      (other.manageReserve mint' update').result = .ok instruction' →
      (instruction.data = instruction'.data ↔ update.Alike update')) ∧
    (∀ integration integration' update update' instruction instruction',
      (builder.manageIntegration integration update).result = .ok instruction →
      (other.manageIntegration integration' update').result = .ok instruction' →
      (instruction.data = instruction'.data ↔ update.Alike update')) := by
  refine ⟨?_, ?_, ?_, ?_⟩
  · intro mint update instruction built
    obtain ⟨written, writes, data⟩ := data_of_manageReserve built
    obtain ⟨first, read⟩ := Instruction.Kind.data_eq_iff.mp data
    exact ⟨written, first, read, writes, writes.leads⟩
  · intro integration update instruction built
    obtain ⟨written, writes, data⟩ := data_of_manageIntegration built
    obtain ⟨first, read⟩ := Instruction.Kind.data_eq_iff.mp data
    exact ⟨written, first, read, writes, writes.leads⟩
  · intro mint mint' update update' instruction instruction' built built'
    obtain ⟨written, writes, data⟩ := data_of_manageReserve built
    obtain ⟨written', writes', data'⟩ := data_of_manageReserve built'
    rw [← data, ← data', ← writes.eq_iff writes']
    exact Instruction.Kind.manageReserve.data_injective.eq_iff
  · intro integration integration' update update' instruction instruction' built built'
    obtain ⟨written, writes, data⟩ := data_of_manageIntegration built
    obtain ⟨written', writes', data'⟩ := data_of_manageIntegration built'
    rw [← data, ← data', ← writes.eq_iff writes']
    exact Instruction.Kind.manageIntegration.data_injective.eq_iff

/-- Emptying the cap and the description of an integration is written like setting them to the
greatest number and to a single NUL, and makes the same of its record. For a reserve the two ways to
lift the cap are written alike too. -/
theorem updates_keep_their_meaning_when_emptied :
    (∃ instruction instruction' written,
      (ofZero.manageIntegration .zero
        { description := .cleared, rateLimitMaxOutflow := .cleared }).result = .ok instruction ∧
      (ofZero.manageIntegration rentSysvar
        { description := .set "\x00", rateLimitMaxOutflow := .set (.ofNat (2 ^ 64 - 1)) }).result =
        .ok instruction' ∧
      instruction.data = instruction'.data ∧
      ManageIntegration.Arguments.codec.decodeAll instruction.data.tail = .ok written ∧
      ∀ before : IntegrationRecord, written.overwrite before =
        { before with
          description := ⟨Block.zero 32⟩, rateLimitMaxOutflow := .ofNat (2 ^ 64 - 1) }) ∧
    ∃ instruction instruction' written,
      (ofZero.manageReserve .zero { rateLimitMaxOutflow := .cleared }).result = .ok instruction ∧
      (ofZero.manageReserve .zero
        { rateLimitMaxOutflow := .set (.ofNat (2 ^ 64 - 1)) }).result = .ok instruction' ∧
      instruction.data = instruction'.data ∧
      ManageReserve.Arguments.codec.decodeAll instruction.data.tail = .ok written ∧
      ∀ before : ReserveRecord, written.overwrite before =
        { before with rateLimitMaxOutflow := .ofNat (2 ^ 64 - 1) } := by
  obtain ⟨reserve, integration, reserves, integrations⟩ := updates_keep_their_meaning ofZero ofZero
  constructor
  · have zeros : Field.description.Holds ⟨Block.zero 32⟩ "\x00" := ⟨31, by decide +kernel⟩
    have built : (ofZero.manageIntegration .zero
        { description := .cleared, rateLimitMaxOutflow := .cleared }).Returns _ :=
      rfl
    have built' : (ofZero.manageIntegration rentSysvar
        { description := .set "\x00", rateLimitMaxOutflow := .set (.ofNat (2 ^ 64 - 1)) }).Returns
        _ :=
      manageIntegration_returns.mpr ⟨⟨none, some _, none, some _⟩,
        ⟨rfl, ⟨_, rfl, zeros⟩, rfl, ⟨_, rfl, rfl⟩⟩, rfl⟩
    obtain ⟨written, -, read, -, leads⟩ := integration _ _ _ built
    refine ⟨_, _, written, built, built', ?_, read, ?_⟩
    · have blank : Text.dropNuls "" = Text.dropNuls "\x00" := by decide +kernel
      exact (integrations _ _ _ _ _ _ built built').mpr
        ⟨rfl, congrArg Change.set blank, rfl, rfl⟩
    · intro before
      obtain ⟨status, description, slope, outflow⟩ := leads before
      exact IntegrationRecord.ext status (Option.some.inj description).symm slope
        (Option.some.inj outflow).symm
  · have derives : (ofZero.reserveAddress .zero).isOk := by decide +kernel
    obtain ⟨address, found⟩ := exists_eq_ok derives
    have built : (ofZero.manageReserve .zero { rateLimitMaxOutflow := .cleared }).Returns _ :=
      manageReserve_returns.mpr ⟨address, found, ⟨none, none, some _⟩,
        ⟨rfl, rfl, Option.some_ne_none _, rfl⟩, rfl⟩
    have built' : (ofZero.manageReserve .zero
        { rateLimitMaxOutflow := .set (.ofNat (2 ^ 64 - 1)) }).Returns _ :=
      manageReserve_returns.mpr ⟨address, found, ⟨none, none, some _⟩,
        ⟨rfl, rfl, _, rfl, rfl⟩, rfl⟩
    obtain ⟨written, -, read, -, leads⟩ := reserve _ _ _ built
    refine ⟨_, _, written, built, built', ?_, read, ?_⟩
    · exact (reserves _ _ _ _ _ _ built built').mpr ⟨rfl, rfl, rfl⟩
    · intro before
      obtain ⟨status, slope, outflow⟩ := leads before
      exact ReserveRecord.ext status slope (Option.some.inj outflow).symm

end Builder

end LiquidityController
