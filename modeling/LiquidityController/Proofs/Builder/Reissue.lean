import LiquidityController.Proofs.Builder.Roles

/-!
# Other principals

What an operation does must not depend on who asks for it. A builder for the same controller, but
for another authority and another payer, makes the same instruction with the accounts of its own
principals in place of the others. In particular nothing is derived from the authority or the payer
beyond the permission of the authority.

## Main result

`Builder.principals_do_not_interfere`: two builders for the same controller fail with the same
failure, or make instructions that agree on everything but the accounts of their principals; and a
change of the payer changes the slot of the payer.
-/

namespace LiquidityController

def Principal.address (builder : Builder) : Principal → Address
  | payer => builder.payer
  | authority => builder.authority
  | permission => builder.permission

namespace Builder

/-- The account at a slot, or the account of the principal to whom the slot belongs. -/
def assign (builder : Builder) (principal : Option Principal) (account : AccountMeta) :
    AccountMeta :=
  { account with address := (principal.map (·.address builder)).getD account.address }

/-- The accounts of an instruction with those of the principals in their slots. -/
def reassign (builder : Builder) : List Entry → List AccountMeta → List AccountMeta
  | entry :: row, account :: accounts =>
    builder.assign entry.principal account :: builder.reassign row accounts
  | _, accounts => accounts

/-- The instruction with the accounts of the principals in their slots. -/
def readdress (builder : Builder) (row : List Entry) (instruction : Instruction) : Instruction :=
  { instruction with accounts := builder.reassign row instruction.accounts }

/-- The builder for the same controller and other principals. -/
def reissue (builder : Builder) (authority permission payer : Address)
    (derive_permission :
      builder.programs.derive (.permission builder.controller authority) = .ok permission) :
    Builder :=
  { builder with authority, permission, payer, derive_permission }

/-- The builders work for the same controller under the same programs. -/
structure SameController (builder other : Builder) : Prop where
  programs : other.programs = builder.programs
  controller : other.controller = builder.controller
  id : other.id = builder.id

theorem SameController.refl (builder : Builder) : builder.SameController builder :=
  ⟨rfl, rfl, rfl⟩

theorem sameController_withPayer (builder : Builder) (payer : Address) :
    builder.SameController (builder.withPayer payer) :=
  ⟨rfl, rfl, rfl⟩

variable {builder other : Builder}

theorem SameController.eq_reissue (same : builder.SameController other) :
    ∃ derive_permission, other =
      builder.reissue other.authority other.permission other.payer derive_permission := by
  obtain ⟨programs, controller, id, controllerAuthority, authority, permission, payer,
    derive_controller, derive_controllerAuthority, derive_permission⟩ := other
  obtain ⟨rfl, rfl, rfl⟩ := same
  -- the controller authority is derived from what the builders have in common
  cases Except.ok.inj (builder.derive_controllerAuthority.symm.trans derive_controllerAuthority)
  exact ⟨derive_permission, rfl⟩

/-- Whoever asks, the instruction is the same but for the accounts of the principals. -/
theorem perform_reissue (same : builder.SameController other) (request : Request) :
    other.perform request = other.readdress request.shape.row <$> builder.perform request := by
  obtain ⟨derive_permission, reissued⟩ := same.eq_reissue
  rw [reissued]
  -- the lookups of both builders are the same, so only the accounts that are listed in the end
  -- have to be compared
  cases request with
  | initializeController status =>
    cases known : builder.id with
    | none =>
      simp only [perform, initializeController, reissue, known]
      rfl
    | some id =>
      simp only [perform, initializeController, reissue, known]
      rfl
  | managePermission subject status capabilities =>
    simp only [perform, managePermission, map_bind, map_pure]
    rfl
  | initializeReserve mint tokenProgram status rateLimit =>
    simp only [perform, initializeReserve, map_bind, map_pure]
    rfl
  | manageReserve mint update =>
    simp only [perform, manageReserve, map_bind, map_pure]
    rfl
  | syncReserve mint tokenProgram =>
    simp only [perform, syncReserve, map_bind, map_pure]
    rfl
  | initializeOracle oracleType nonce priceFeed baseMint quoteMint =>
    simp only [perform, initializeOracle, map_bind, map_pure]
    rfl
  | updateOracle oracle priceFeed feed newAuthority =>
    cases newAuthority <;> rfl
  | refreshKaminoObligation market obligation reserves =>
    simp only [perform, refreshKaminoObligation, LiquidityController.refreshKaminoObligation]
    split <;> rfl
  | initializeIntegration protocol config terms setup remaining =>
    simp only [perform, initializeIntegration, map_bind, map_pure]
    rfl
  | manageIntegration integration update =>
    simp only [perform, manageIntegration, map_bind, map_pure]
    rfl
  | initializeAtomicSwap terms swap =>
    simp only [perform, initializeAtomicSwap, initializeIntegration, map_bind, map_pure]
    rfl
  | initializeExternal terms transfer =>
    simp only [perform, initializeExternal, initializeIntegration, map_bind, map_pure]
    rfl
  | pushExternal transfer amount =>
    simp only [perform, pushExternal, map_bind, map_pure]
    rfl
  | initializeDrift terms position =>
    simp only [perform, initializeDrift, initializeIntegration, map_bind, map_pure]
    rfl
  | pushDrift position tokenProgram amount reduceOnly markets =>
    simp only [perform, pushDrift, map_bind, map_pure]
    rfl
  | pullDrift position tokenProgram amount markets =>
    simp only [perform, pullDrift, map_bind, map_pure]
    rfl
  | syncDrift position =>
    simp only [perform, syncDrift, map_bind, map_pure]
    rfl
  | initializeKamino terms position =>
    simp only [perform, initializeKamino, initializeIntegration, map_bind, map_pure]
    rfl
  | pushKamino position tokenProgram amount =>
    simp only [perform, pushKamino, map_bind, map_pure]
    rfl
  | pullKamino position tokenProgram amount =>
    simp only [perform, pullKamino, map_bind, map_pure]
    rfl
  | syncKamino position tokenProgram harvest =>
    simp only [perform, syncKamino_eq, map_bind, map_pure]
    rfl
  | manageController _ | claimRent _ | refreshOracle _ _ | refreshKaminoReserve _ _ _
  | syncIntegration _ _ _ | push _ _ _ _ | pull _ _ _ _ => rfl

/-- What is looked up does not depend on the principals at all. -/
theorem lookups_reissue (same : builder.SameController other) :
    other.reserveAddress = builder.reserveAddress ∧ other.reserveVault = builder.reserveVault ∧
      other.integrationAddress = builder.integrationAddress ∧
      other.externalConfig = builder.externalConfig ∧
      other.kaminoConfig = builder.kaminoConfig := by
  obtain ⟨derive_permission, reissued⟩ := same.eq_reissue
  rw [reissued]
  exact ⟨rfl, rfl, rfl, rfl, rfl⟩

/-! ### Slots -/

theorem getElem?_reassign (builder : Builder) (row : List Entry) (accounts : List AccountMeta)
    (slot : Nat) : (builder.reassign row accounts)[slot]? =
      accounts[slot]?.map (builder.assign (row[slot]?.bind Entry.principal)) := by
  induction row generalizing accounts slot with
  | nil =>
    simp only [reassign, List.getElem?_nil, Option.bind_none]
    exact Option.map_id'.symm
  | cons entry row ih =>
    cases accounts with
    | nil => rfl
    | cons account accounts =>
      cases slot with
      | zero => rfl
      | succ slot => exact ih accounts slot

theorem roles_readdress (builder : Builder) (row : List Entry) (instruction : Instruction) :
    (builder.readdress row instruction).roles = instruction.roles := by
  apply List.ext_getElem?
  intro slot
  simp only [Instruction.roles, readdress, List.getElem?_map, getElem?_reassign, Option.map_map]
  rfl

section Success

variable {request : Request} {instruction : Instruction}

theorem result_reissue (same : builder.SameController other) (request : Request) :
    (other.perform request).result =
      other.readdress request.shape.row <$> (builder.perform request).result := by
  rw [perform_reissue same, Logged.result_map]

theorem error_reissue (same : builder.SameController other) {failure : Failure}
    (failed : (builder.perform request).result = .error failure) :
    (other.perform request).result = .error failure := by
  rw [result_reissue same, failed]
  rfl

/-- The slots of the principals hold their accounts already. -/
theorem readdress_eq_self (built : (builder.perform request).Returns instruction) :
    builder.readdress request.shape.row instruction = instruction := by
  have reissued := result_reissue (.refl builder) request
  rw [built] at reissued
  exact (Except.ok.inj reissued).symm

/-- An instruction lists an account for every entry of the row. -/
theorem account_of_entry (built : (builder.perform request).Returns instruction) {slot : Nat}
    {entry : Entry} (listed : request.shape.row[slot]? = some entry) :
    ∃ account, instruction.accounts[slot]? = some account ∧ account.role = entry.role ∧
      ∀ principal ∈ entry.principal, account.address = principal.address builder := by
  have inRow : (request.shape.row.map Entry.role)[slot]? = some entry.role := by
    rw [List.getElem?_map, listed]
    rfl
  have role : instruction.roles[slot]? = some entry.role := by
    rw [(perform_fits built).roles, Request.Shape.roles, List.append_assoc,
      List.getElem?_append_left (List.getElem?_eq_some_iff.mp inRow).1, inRow]
  rw [Instruction.roles, List.getElem?_map] at role
  obtain ⟨account, found, sameRole⟩ := Option.map_eq_some_iff.mp role
  refine ⟨account, found, sameRole, ?_⟩
  intro principal owner
  have fixed := congrArg (·.accounts[slot]?) (readdress_eq_self built)
  simp only [readdress, getElem?_reassign, found, listed] at fixed
  rw [Option.bind_some, owner] at fixed
  exact congrArg AccountMeta.address (Option.some.inj fixed).symm

theorem address_of_principal (built : (builder.perform request).Returns instruction) {slot : Nat}
    {principal : Principal} (owner : request.shape.principal? slot = some principal) :
    instruction.addresses[slot]? = some (principal.address builder) := by
  obtain ⟨entry, listed, owner⟩ := Option.bind_eq_some_iff.mp owner
  obtain ⟨account, found, -, address⟩ := account_of_entry built listed
  rw [Instruction.addresses, List.getElem?_map, found, ← address principal owner]
  rfl

/-- The payer signs, and what it pays leaves its account. -/
theorem account_of_payer (built : (builder.perform request).Returns instruction) {slot : Nat}
    (pays : request.shape.payerSlot? = some slot) :
    instruction.accounts[slot]? = some (.writableSigner builder.payer) := by
  obtain ⟨⟨address, role⟩, found, rfl, same⟩ :=
    account_of_entry built (Request.Shape.row_payerSlot pays)
  cases same .payer rfl
  exact found

end Success

/-! ### Two builders -/

/-- The instructions, made by two builders, agree on everything but the accounts of the
principals, and these are the accounts of the respective builder. -/
structure AgreeButFor (builder other : Builder) (owner : Nat → Option Principal)
    (instruction instruction' : Instruction) : Prop where
  program : instruction'.program = instruction.program
  data : instruction'.data = instruction.data
  length : instruction'.accounts.length = instruction.accounts.length
  roles : instruction'.roles = instruction.roles
  elsewhere : ∀ slot, owner slot = none →
    instruction'.addresses[slot]? = instruction.addresses[slot]?
  principals : ∀ slot, ∀ principal ∈ owner slot,
    instruction.addresses[slot]? = some (principal.address builder) ∧
      instruction'.addresses[slot]? = some (principal.address other)

theorem agree_of_sameController (same : builder.SameController other) {request : Request}
    {instruction : Instruction} (built : (builder.perform request).Returns instruction) :
    ∃ instruction', (other.perform request).Returns instruction' ∧
      AgreeButFor builder other request.shape.principal? instruction instruction' := by
  have built' : (other.perform request).Returns
      (other.readdress request.shape.row instruction) := by
    rw [Logged.Returns, result_reissue same, built]
    rfl
  have roles := roles_readdress other request.shape.row instruction
  refine ⟨_, built', rfl, rfl, ?_, roles, ?_, ?_⟩
  · simpa [Instruction.roles] using congrArg List.length roles
  · intro slot elsewhere
    have owner : request.shape.row[slot]?.bind Entry.principal = none := elsewhere
    simp only [Instruction.addresses, readdress, List.getElem?_map, getElem?_reassign, owner,
      Option.map_map]
    rfl
  · intro slot principal owner
    exact ⟨address_of_principal built owner, address_of_principal built' owner⟩

/-! ### Another payer -/

theorem assign_withPayer {payer : Address} {principal : Option Principal}
    (other : principal ≠ some .payer) :
    (builder.withPayer payer).assign principal = builder.assign principal := by
  match principal with
  | none | some .authority | some .permission => rfl
  | some .payer => exact absurd rfl other

theorem foldl_withPayer (payers : List Address) (payer : Address) (builder : Builder) :
    (payers.foldl withPayer builder).withPayer payer = builder.withPayer payer := by
  induction payers generalizing builder with
  | nil => rfl
  | cons first payers ih => exact ih (builder.withPayer first)

theorem perform_withPayer_of_none {request : Request} (free : request.shape.payerSlot? = none)
    (payer : Address) : (builder.withPayer payer).perform request = builder.perform request := by
  have same : (builder.withPayer payer).readdress request.shape.row =
      builder.readdress request.shape.row := by
    funext instruction
    refine congrArg (fun accounts => { instruction with accounts }) (List.ext_getElem? ?_)
    intro slot
    rw [getElem?_reassign, getElem?_reassign, assign_withPayer]
    intro pays
    rw [Request.Shape.principal_eq_payer.mp pays] at free
    cases free
  calc (builder.withPayer payer).perform request
    _ = (builder.withPayer payer).readdress request.shape.row <$> builder.perform request :=
      perform_reissue (sameController_withPayer builder payer) request
    _ = builder.readdress request.shape.row <$> builder.perform request := by rw [same]
    _ = builder.perform request := (perform_reissue (.refl builder) request).symm

theorem perform_withPayer_of_some {request : Request} {instruction : Instruction} {slot : Nat}
    (pays : request.shape.payerSlot? = some slot) (payer : Address)
    (built : (builder.perform request).Returns instruction) :
    ((builder.withPayer payer).perform request).Returns
      { instruction with accounts := instruction.accounts.set slot (.writableSigner payer) } := by
  have paid := account_of_payer built pays
  have fixed := congrArg Instruction.accounts (readdress_eq_self built)
  have replaced : (builder.withPayer payer).reassign request.shape.row instruction.accounts =
      instruction.accounts.set slot (.writableSigner payer) := by
    apply List.ext_getElem?
    intro index
    rw [getElem?_reassign]
    by_cases here : slot = index
    · subst here
      have owner : request.shape.row[slot]?.bind Entry.principal = some .payer :=
        Request.Shape.principal_eq_payer.mpr pays
      rw [owner, paid, List.getElem?_set_self (List.getElem?_eq_some_iff.mp paid).1]
      rfl
    · -- elsewhere the builder itself would not change anything either
      rw [List.getElem?_set_ne here, assign_withPayer, ← getElem?_reassign]
      · exact congrArg (·[index]?) fixed
      · intro owner
        exact here (Option.some.inj (pays.symm.trans (Request.Shape.principal_eq_payer.mp owner)))
  rw [Logged.Returns, result_reissue (sameController_withPayer builder payer), built, ← replaced]
  rfl

/-! ### Main theorem -/

/-- Nothing but the accounts of the principals depends on who asks. Two builders for the same
controller fail with the same failure or make instructions that agree everywhere else, and they
look up the same addresses and configs. Another payer takes the slot of the payer, and an operation
without such a slot ignores it; only the last payer counts. -/
theorem principals_do_not_interfere (builder : Builder) :
    (∀ other request, builder.SameController other →
      (∃ failure, (builder.perform request).result = .error failure ∧
        (other.perform request).result = .error failure) ∨
      ∃ instruction instruction', (builder.perform request).result = .ok instruction ∧
        (other.perform request).result = .ok instruction' ∧
        AgreeButFor builder other request.shape.principal? instruction instruction') ∧
    (∀ other, builder.SameController other →
      other.reserveAddress = builder.reserveAddress ∧ other.reserveVault = builder.reserveVault ∧
      other.integrationAddress = builder.integrationAddress ∧
      other.externalConfig = builder.externalConfig ∧
      other.kaminoConfig = builder.kaminoConfig) ∧
    (∀ payer request, request.shape.payerSlot? = none →
      (builder.withPayer payer).perform request = builder.perform request) ∧
    (∀ payer request slot, request.shape.payerSlot? = some slot →
      (∃ failure, (builder.perform request).result = .error failure ∧
        ((builder.withPayer payer).perform request).result = .error failure) ∨
      ∃ instruction, (builder.perform request).result = .ok instruction ∧
        instruction.accounts[slot]? = some (.writableSigner builder.payer) ∧
        ((builder.withPayer payer).perform request).result = .ok
          { instruction with
            accounts := instruction.accounts.set slot (.writableSigner payer) }) ∧
    (∀ payers payer,
      (payers ++ [payer]).foldl withPayer builder = builder.withPayer payer) := by
  refine ⟨?_, ?_, ?_, ?_, ?_⟩
  · intro other request same
    cases attempt : (builder.perform request).result with
    | error failure => exact .inl ⟨failure, rfl, error_reissue same attempt⟩
    | ok instruction =>
      obtain ⟨instruction', built', agree⟩ := agree_of_sameController same attempt
      exact .inr ⟨instruction, instruction', rfl, built', agree⟩
  · intro other same
    exact lookups_reissue same
  · intro payer request free
    exact perform_withPayer_of_none free payer
  · intro payer request slot pays
    cases attempt : (builder.perform request).result with
    | error failure =>
      exact .inl ⟨failure, rfl, error_reissue (sameController_withPayer builder payer) attempt⟩
    | ok instruction =>
      exact .inr ⟨instruction, rfl, account_of_payer attempt pays,
        perform_withPayer_of_some pays payer attempt⟩
  · intro payers payer
    rw [List.foldl_append]
    exact foldl_withPayer payers payer builder

theorem derive_permission_sysvar :
    Programs.mainnet.derive (.permission .zero instructionsSysvar) =
      .ok (.ofText "84t4MCqeJKExkm7Hi4kL5F2cvC3CjSsyFZfUuMMBQTdi") :=
  eq_ok_of_toOption (by decide +kernel)

/-- The builder of another authority for the controller of `ofZero`, with a payer of its own. -/
def ofSysvar : Builder :=
  ofZero.reissue instructionsSysvar _ rentSysvar derive_permission_sysvar

/-- Two authorities manage the permission of a third party. The permission that they list is the
same, and each signs for itself. -/
theorem principals_do_not_interfere_on_permission : ∃ instruction instruction',
    (ofZero.perform (.managePermission .zero .active .none)).result = .ok instruction ∧
    (ofSysvar.perform (.managePermission .zero .active .none)).result = .ok instruction' ∧
    instruction'.addresses[6]? = some ofZero.permission ∧
    instruction.accounts[0]? = some (.writableSigner .zero) ∧
    instruction.addresses[3]? = some .zero ∧
    instruction'.addresses[3]? = some instructionsSysvar ∧
    ((ofZero.withPayer rentSysvar).perform (.managePermission .zero .active .none)).result =
      .ok { instruction with accounts := instruction.accounts.set 0 (.writableSigner rentSysvar) } ∧
    (ofZero.withPayer rentSysvar).perform (.claimRent .zero) =
      ofZero.perform (.claimRent .zero) := by
  obtain ⟨apart, -, free, paid, -⟩ := principals_do_not_interfere ofZero
  have built : (ofZero.perform (.managePermission .zero .active .none)).Returns
      (ofZero.instruction .managePermission
        ⟨.zero, .zero, ofZero.controllerAuthority, .zero, ofZero.permission, .zero,
          ofZero.permission, Programs.mainnet.controller, Programs.mainnet.system⟩
        ⟨.active, .none⟩) := by
    simp only [perform, managePermission, Logged.returns_bind, Logged.returns_liftM,
      Logged.returns_report, Logged.returns_pure, true_and, exists_const]
    exact ⟨ofZero.permission, ofZero.derive_permission, rfl⟩
  rcases apart ofSysvar (.managePermission .zero .active .none) ⟨rfl, rfl, rfl⟩ with
    ⟨failure, failed, -⟩ | ⟨instruction, instruction', made, built', agree⟩
  · cases built.symm.trans failed
  · cases Except.ok.inj (built.symm.trans made)
    rcases paid rentSysvar (.managePermission .zero .active .none) 0 rfl with
      ⟨failure, failed, -⟩ | ⟨instruction, made, first, changed⟩
    · cases built.symm.trans failed
    · cases Except.ok.inj (built.symm.trans made)
      have principals := agree.principals 3 .authority rfl
      exact ⟨_, instruction', built, built', agree.elsewhere 6 rfl, first, principals.1,
        principals.2, changed, free rentSysvar (.claimRent .zero) rfl⟩

end Builder

end LiquidityController
