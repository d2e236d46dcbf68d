import LiquidityController.Proofs.Builder.Reissue

/-!
# Signatures

Whose signature an instruction asks for. A signature is only asked of the payer, of the authority,
and of the new authority to whom an oracle is handed over; accounts that a caller supplies keep the
roles they came with.

## Main result

`Builder.signatures_confined`: the roles of an instruction are those of the table, and none of them
asks for a signature of anybody else.
-/

namespace LiquidityController.Builder

variable {builder : Builder} {request : Request} {instruction : Instruction} {slot : Nat}
  {account : AccountMeta}

/-- An account that is listed for a protocol has a role that the table lists for protocols. -/
theorem role_mem_trailing (built : (builder.perform request).Returns instruction)
    (found : instruction.accounts[slot]? = some account)
    (after : request.shape.row.length ≤ slot) (own : slot < request.shape.own) :
    account.role ∈ request.shape.trailing := by
  have role : instruction.roles[slot]? = some account.role := by
    rw [Instruction.roles, List.getElem?_map, found]
    rfl
  have inTrailing : slot - request.shape.row.length < request.shape.trailing.length := by
    rw [Request.Shape.own] at own
    omega
  rw [(perform_fits built).roles, Request.Shape.roles, List.append_assoc,
    List.getElem?_append_right (by simpa using after), List.length_map,
    List.getElem?_append_left inTrailing] at role
  exact List.mem_of_getElem? role

theorem unsigned_of_protocol (built : (builder.perform request).Returns instruction)
    (found : instruction.accounts[slot]? = some account)
    (after : request.shape.row.length ≤ slot) (own : slot < request.shape.own) :
    account.role.isSigner = false :=
  Request.Shape.unsigned_of_mem_trailing (role_mem_trailing built found after own)

/-- The account in the last slot of a change of an oracle, if the oracle is handed over. -/
theorem account_of_newAuthority (built : (builder.perform request).Returns instruction)
    (handsOver : request.shape.handsOver) :
    ∃ oracle priceFeed feed newAuthority,
      request = .updateOracle oracle priceFeed feed (some newAuthority) ∧
      instruction.accounts[5]? = some (.signer newAuthority) := by
  cases request with
  | updateOracle oracle priceFeed feed newAuthority =>
    cases Logged.returns_pure.mp built
    cases newAuthority with
    | none => cases handsOver
    | some newAuthority => exact ⟨oracle, priceFeed, feed, newAuthority, rfl, rfl⟩
  | _ => cases handsOver

theorem signer_cases (built : (builder.perform request).Returns instruction)
    (found : instruction.accounts[slot]? = some account) (own : slot < request.shape.own)
    (signs : account.role.isSigner) :
    account.address = builder.payer ∨ account.address = builder.authority ∨
      slot = 5 ∧ ∃ oracle priceFeed feed,
        request = .updateOracle oracle priceFeed feed (some account.address) := by
  by_cases early : slot < request.shape.row.length
  · have listed := List.getElem?_eq_getElem early
    obtain ⟨_, found', sameRole, address⟩ := account_of_entry built listed
    cases Option.some.inj (found.symm.trans found')
    rw [sameRole] at signs
    rcases Request.Shape.principal_of_signs listed signs with payer | authority | ⟨handsOver, rfl⟩
    · exact .inl (address .payer payer)
    · exact .inr (.inl (address .authority authority))
    · obtain ⟨oracle, priceFeed, feed, newAuthority, rfl, last⟩ :=
        account_of_newAuthority built handsOver
      cases Option.some.inj (found.symm.trans last)
      exact .inr (.inr ⟨rfl, oracle, priceFeed, feed, rfl⟩)
  · rw [unsigned_of_protocol built found (Nat.le_of_not_lt early) own] at signs
    cases signs

/-- Whose permission changes is only read. -/
theorem account_of_subject {subject : Address} {status : Status} {capabilities : Capabilities}
    (built : (builder.perform (.managePermission subject status capabilities)).Returns
      instruction) :
    instruction.accounts[5]? = some (.readonly subject) := by
  simp only [perform, managePermission, Logged.returns_bind, Logged.returns_liftM,
    Logged.returns_report, Logged.returns_pure, true_and, exists_const] at built
  obtain ⟨permission, -, rfl⟩ := built
  rfl

/-! ### Main theorem -/

/-- Every instruction has the roles that the table lists for the shape of its request, then the
accounts that the caller supplied, as they were. Among its own accounts a signature is only asked
of the payer, of the authority and of a new authority of an oracle, never of an account that is
listed for a protocol, and never of the subject of a permission. -/
theorem signatures_confined {builder : Builder} {request : Request} {instruction : Instruction}
    (built : (builder.perform request).result = .ok instruction) :
    instruction.roles = request.shape.roles ∧
    instruction.accounts.drop request.shape.own = request.supplied ∧
    (∀ slot account, instruction.accounts[slot]? = some account → slot < request.shape.own →
      account.role.isSigner = true →
      account.address = builder.payer ∨ account.address = builder.authority ∨
        slot = 5 ∧ ∃ oracle priceFeed feed,
          request = .updateOracle oracle priceFeed feed (some account.address)) ∧
    (∀ slot account, instruction.accounts[slot]? = some account →
      request.shape.row.length ≤ slot → slot < request.shape.own →
      account.role.isSigner = false) ∧
    (∀ subject status capabilities, request = .managePermission subject status capabilities →
      instruction.accounts[5]? = some (.readonly subject)) := by
  refine ⟨(perform_fits built).roles, (perform_fits built).drop_own, ?_, ?_, ?_⟩
  · intro slot account found own signs
    exact signer_cases built found own signs
  · intro slot account found after own
    exact unsigned_of_protocol built found after own
  · rintro subject status capabilities rfl
    exact account_of_subject built

/-- When the zero address hands an oracle over, it and its successor sign, and nobody else. -/
theorem signatures_confined_of_handover : ∃ instruction,
    (ofZero.perform (.updateOracle .zero .zero none (some rentSysvar))).result = .ok instruction ∧
    instruction.roles = [.readonly, .readonly, .signer, .readonly, .writable, .signer] ∧
    ∀ slot account, instruction.accounts[slot]? = some account → slot < 6 →
      account.role.isSigner = true → account.address = .zero ∨ account.address = rentSysvar := by
  have built : (ofZero.perform (.updateOracle .zero .zero none (some rentSysvar))).result =
      .ok (ofZero.updateOracle .zero .zero none (some rentSysvar)) := rfl
  obtain ⟨roles, -, signers, -, -⟩ := signatures_confined built
  refine ⟨_, built, roles, ?_⟩
  intro slot account found own signs
  rcases signers slot account found own signs with payer | authority | ⟨-, _, _, _, handover⟩
  · exact .inl payer
  · exact .inl authority
  · simp only [Request.updateOracle.injEq, Option.some.injEq] at handover
    exact .inr handover.2.2.2.symm

end LiquidityController.Builder
