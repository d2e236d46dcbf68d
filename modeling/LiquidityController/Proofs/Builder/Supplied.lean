import LiquidityController.Proofs.Builder.Roles

/-!
# Accounts of the caller

Four operations end in a list of accounts that the caller supplies, whatever its length and its
roles. The list is only appended: none of the four reads it, so running one with a list is running
it with the empty list and appending afterwards. The refresh of an obligation takes a list of
reserves, of which the lending program accepts a limited number, and lists each of them.

## Main result

`Builder.supplied_accounts_kept`: no account of the caller is lost, repeated, moved or given another
role.
-/

namespace LiquidityController

/-! ### Accounts at the end -/

def Instruction.extend (supplied : List AccountMeta) (instruction : Instruction) : Instruction :=
  { instruction with accounts := instruction.accounts ++ supplied }

theorem Instruction.make_eq_extend (program : Address) (kind : Kind) (accounts : kind.Accounts)
    (arguments : kind.Arguments) (supplied : List AccountMeta) :
    make program kind accounts arguments supplied =
      (make program kind accounts arguments []).extend supplied := by
  rw [extend, make, make, List.append_nil]

/-- A request that ends in accounts of the caller, without these. -/
inductive OpenRequest where
  | initializeIntegration (protocol : Protocol) (config : Config) (terms : IntegrationTerms)
    (setup : Setup)
  | syncIntegration (integration reserve : Address)
  | push (integration reserve : Address) (transfer : Push)
  | pull (integration reserve : Address) (transfer : Pull)

namespace OpenRequest

def supply (supplied : List AccountMeta) : OpenRequest → Request
  | initializeIntegration protocol config terms setup =>
    .initializeIntegration protocol config terms setup supplied
  | syncIntegration integration reserve => .syncIntegration integration reserve supplied
  | push integration reserve transfer => .push integration reserve transfer supplied
  | pull integration reserve transfer => .pull integration reserve transfer supplied

/-- How many accounts the instruction lists before those of the caller. -/
def own : OpenRequest → Nat
  | initializeIntegration .. => 8
  | syncIntegration .. => 5
  | push .. => 7
  | pull .. => 7

theorem own_eq (request : OpenRequest) : (request.supply []).shape.roles.length = request.own := by
  cases request <;> rfl

end OpenRequest

namespace Builder

variable {builder : Builder} {request : OpenRequest}

/-- The accounts of the caller are only appended, and nothing else depends on them: neither what is
reported on the way nor whether the request is refused. -/
theorem perform_supply (builder : Builder) (request : OpenRequest) (supplied : List AccountMeta) :
    builder.perform (request.supply supplied) =
      Instruction.extend supplied <$> builder.perform (request.supply []) := by
  cases request with
  | initializeIntegration protocol config terms setup =>
    -- the list first occurs in the last step, which makes the instruction
    simp only [OpenRequest.supply, perform, initializeIntegration, map_bind, map_pure]
    simp only [Builder.instruction, ← Instruction.make_eq_extend]
  | syncIntegration integration reserve =>
    exact congrArg pure (Instruction.make_eq_extend _ _ _ _ supplied)
  | push integration reserve transfer =>
    exact congrArg pure (Instruction.make_eq_extend _ _ _ _ supplied)
  | pull integration reserve transfer =>
    exact congrArg pure (Instruction.make_eq_extend _ _ _ _ supplied)

theorem length_accounts_of_supply_nil {instruction : Instruction}
    (built : (builder.perform (request.supply [])).Returns instruction) :
    instruction.accounts.length = request.own := by
  have listed : instruction.roles.length = request.own := by
    rw [(perform_fits built).roles, request.own_eq]
  rwa [Instruction.roles, List.length_map] at listed

/-- Either the request is refused whatever the caller supplies, or it always gives the same
instruction, but for the accounts at the end. -/
theorem perform_supply_cases (builder : Builder) (request : OpenRequest) :
    (∃ events failure, ∀ supplied,
      builder.perform (request.supply supplied) = ⟨events, .error failure⟩) ∨
    ∃ events program own data, own.length = request.own ∧ ∀ supplied,
      builder.perform (request.supply supplied) =
        ⟨events, .ok ⟨program, own ++ supplied, data⟩⟩ := by
  cases run : builder.perform (request.supply []) with
  | mk events result =>
    cases result with
    | error failure =>
      refine .inl ⟨events, failure, fun supplied => ?_⟩
      rw [perform_supply, run, Logged.map_error]
    | ok instruction =>
      have length : instruction.accounts.length = request.own :=
        length_accounts_of_supply_nil (congrArg Logged.result run)
      refine .inr ⟨events, instruction.program, instruction.accounts, instruction.data, length,
        fun supplied => ?_⟩
      rw [perform_supply, run, Logged.map_ok, Instruction.extend]

/-- A deposit and a withdrawal list the same accounts. -/
theorem accounts_push_eq_accounts_pull (integration reserve : Address) (deposit : Push)
    (withdrawal : Pull) (supplied : List AccountMeta) :
    (builder.push integration reserve deposit supplied).accounts =
      (builder.pull integration reserve withdrawal supplied).accounts := by
  simp only [push, pull, Builder.instruction, Instruction.accounts_make]
  rfl

end Builder

/-! ### Reserves of an obligation -/

section Obligations

variable {program market obligation : Address} {reserves : List Address} {instruction : Instruction}

theorem refreshKaminoObligation_returns :
    (refreshKaminoObligation program market obligation reserves).Returns instruction ↔
      reserves.length ≤ 13 ∧ instruction = {
        program
        accounts := .readonly market :: .writable obligation :: reserves.map .writable
        data := refreshObligationData } := by
  have limit : maxObligationReserves = 13 := rfl
  rw [refreshKaminoObligation, limit]
  split
  next many =>
    have few : ¬ reserves.length ≤ 13 := by omega
    simp [Logged.reject, Logged.Returns, few]
  next few =>
    rw [Logged.returns_pure, eq_comm]
    exact ⟨fun same => ⟨by omega, same⟩, And.right⟩

/-- The reserves are the addresses after the first two. -/
theorem drop_addresses_of_refresh
    (built : (refreshKaminoObligation program market obligation reserves).Returns instruction) :
    instruction.addresses.drop 2 = reserves := by
  obtain ⟨-, rfl⟩ := refreshKaminoObligation_returns.mp built
  have each : AccountMeta.address ∘ AccountMeta.writable = id := rfl
  change (reserves.map AccountMeta.writable).map AccountMeta.address = reserves
  rw [List.map_map, each, List.map_id]

end Obligations

/-! ### Main theorem -/

/-- An operation that takes accounts of the caller lists them as they are after eight, five or seven
accounts of its own. Neither these nor its data, its events or its failure depend on the list. The
refresh of an obligation succeeds for up to thirteen reserves. It lists the market, the obligation
and then each reserve, which may change and does not sign, so that the reserves are read back from
the instruction, in order and with repetitions. A builder refreshes an obligation under the lending
program it was given, and its transfers list the same accounts in either direction, whatever they
carry. -/
theorem Builder.supplied_accounts_kept (builder : Builder) :
    (∀ request : OpenRequest,
      (∃ events failure, ∀ supplied,
        builder.perform (request.supply supplied) = ⟨events, .error failure⟩) ∨
      ∃ events program own data, own.length = request.own ∧ ∀ supplied,
        builder.perform (request.supply supplied) =
          ⟨events, .ok ⟨program, own ++ supplied, data⟩⟩) ∧
    (∀ program market obligation reserves,
      ((∃ instruction, (LiquidityController.refreshKaminoObligation program market obligation
        reserves).result = .ok instruction) ↔ reserves.length ≤ 13) ∧
      ∀ instruction, (LiquidityController.refreshKaminoObligation program market obligation
          reserves).result = .ok instruction →
        instruction.accounts =
          .readonly market :: .writable obligation :: reserves.map .writable ∧
        instruction.addresses.drop 2 = reserves) ∧
    (∀ market obligation reserves, builder.refreshKaminoObligation market obligation reserves =
      LiquidityController.refreshKaminoObligation builder.programs.kaminoLend market obligation
        reserves) ∧
    (∀ integration reserve deposit withdrawal supplied,
      (builder.push integration reserve deposit supplied).accounts =
        (builder.pull integration reserve withdrawal supplied).accounts) := by
  refine ⟨perform_supply_cases builder, ?_, fun _ _ _ => rfl, accounts_push_eq_accounts_pull⟩
  intro program market obligation reserves
  refine ⟨⟨?_, ?_⟩, ?_⟩
  · rintro ⟨instruction, built⟩
    exact (refreshKaminoObligation_returns.mp built).1
  · intro few
    exact ⟨_, refreshKaminoObligation_returns.mpr ⟨few, rfl⟩⟩
  · intro instruction built
    obtain ⟨-, rfl⟩ := refreshKaminoObligation_returns.mp built
    exact ⟨rfl, drop_addresses_of_refresh built⟩

/-- Thirteen times the same reserve is accepted and listed thirteen times, and fourteen times is too
much. -/
theorem Builder.supplied_accounts_kept_at_limit : ∃ instruction,
    (ofZero.refreshKaminoObligation .zero .zero (List.replicate 13 .zero)).result =
      .ok instruction ∧
    instruction.addresses.drop 2 = List.replicate 13 .zero ∧
    ¬ ∃ instruction, (ofZero.refreshKaminoObligation .zero .zero
      (List.replicate 14 .zero)).result = .ok instruction := by
  obtain ⟨-, refreshes, free, -⟩ := supplied_accounts_kept ofZero
  rw [free, free]
  obtain ⟨exact, kept⟩ := refreshes ofZero.programs.kaminoLend .zero .zero (List.replicate 13 .zero)
  obtain ⟨exact', -⟩ := refreshes ofZero.programs.kaminoLend .zero .zero (List.replicate 14 .zero)
  obtain ⟨instruction, built⟩ := exact.mpr (by decide)
  exact ⟨instruction, built, (kept instruction built).2, fun refreshed =>
    absurd (exact'.mp refreshed) (by decide)⟩

end LiquidityController
