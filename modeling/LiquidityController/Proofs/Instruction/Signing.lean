import LiquidityController.Instruction.Basic
import LiquidityController.Program

/-!
# Deciding who signs

A caller can have the accounts of an instruction listed with the need to sign decided for all of
them at once. The decision must only reach accounts that sign anyway: most of the others are derived
addresses, which have no private key, so an instruction that asks them to sign could never be sent.

## Main result

`Instruction.Kind.signing_confined`: a decision on signing reaches the accounts that sign without
it, and changes nothing but their need to sign.
-/

namespace LiquidityController

/-! ### One account -/

namespace Role

@[simp] theorem isSigner_unsigned (role : Role) : role.unsigned.isSigner = false := by
  cases role <;> rfl

@[simp] theorem isWritable_unsigned (role : Role) :
    role.unsigned.isWritable = role.isWritable := by
  cases role <;> rfl

theorem unsigned_eq_self {role : Role} (free : role.isSigner = false) : role.unsigned = role := by
  cases role with
  | writable | readonly => rfl
  | writableSigner | signer => cases free

end Role

namespace AccountMeta

variable (signing : Option Bool) (account : AccountMeta)

@[simp] theorem withSigning_none : account.withSigning none = account := rfl

@[simp] theorem withSigning_true : account.withSigning (some true) = account := rfl

@[simp] theorem address_withSigning : (account.withSigning signing).address = account.address := by
  match signing with
  | none | some true | some false => rfl

@[simp] theorem isWritable_withSigning :
    (account.withSigning signing).role.isWritable = account.role.isWritable := by
  match signing with
  | none | some true => rfl
  | some false => exact account.role.isWritable_unsigned

@[simp] theorem isSigner_withSigning :
    (account.withSigning signing).role.isSigner =
      (account.role.isSigner && signing.getD true) := by
  match signing with
  | none | some true => simp
  | some false => simp [withSigning]

theorem withSigning_eq_self {account : AccountMeta} (free : account.role.isSigner = false) :
    account.withSigning signing = account := by
  match signing with
  | none | some true => rfl
  | some false =>
    rw [withSigning, Role.unsigned_eq_self free]

end AccountMeta

/-! ### All accounts of an instruction -/

namespace Instruction.Kind

/-- The accounts differ from the declared ones at most in who signs: an account that is not declared
to sign is listed as it is, and the others sign if the caller says so or says nothing. -/
structure Decided (signing : Option Bool) (declared accounts : List AccountMeta) : Prop where
  length : accounts.length = declared.length
  addresses : accounts.map AccountMeta.address = declared.map AccountMeta.address
  writable : (accounts.map AccountMeta.role).map Role.isWritable =
    (declared.map AccountMeta.role).map Role.isWritable
  kept : ∀ (slot : Nat) (account : AccountMeta), declared[slot]? = some account →
    account.role.isSigner = false → accounts[slot]? = some account
  signed : ∀ (slot : Nat) (account : AccountMeta), declared[slot]? = some account →
    account.role.isSigner = true →
    ∃ account', accounts[slot]? = some account' ∧ account'.role.isSigner = signing.getD true

theorem decided_map (signing : Option Bool) (declared : List AccountMeta) :
    Decided signing declared (declared.map (·.withSigning signing)) where
  length := List.length_map _
  addresses := by simp [Function.comp_def]
  writable := by simp [Function.comp_def]
  kept := by
    intro slot account listed free
    rw [List.getElem?_map, listed, Option.map_some, AccountMeta.withSigning_eq_self signing free]
  signed := by
    intro slot account listed signs
    refine ⟨account.withSigning signing, ?_, ?_⟩
    · rw [List.getElem?_map, listed, Option.map_some]
    · rw [AccountMeta.isSigner_withSigning, signs, Bool.true_and]

section Metas

variable (kind : Kind) (accounts : kind.Accounts)

theorem metas_none : kind.metas accounts none = kind.slots accounts :=
  List.map_id' _

theorem metas_true : kind.metas accounts (some true) = kind.slots accounts :=
  List.map_id' _

theorem isSigner_of_mem_metas_false {account : AccountMeta}
    (listed : account ∈ kind.metas accounts (some false)) : account.role.isSigner = false := by
  obtain ⟨declared, -, rfl⟩ := List.mem_map.mp listed
  rw [AccountMeta.isSigner_withSigning, Option.getD_some, Bool.and_false]

end Metas

section NewAuthority

variable {accounts : UpdateOracle.Accounts} (signing : Option Bool)

theorem metas_updateOracle_of_none (absent : accounts.newAuthority = none) :
    (updateOracle.metas accounts signing)[5]? = some (.readonly accounts.program) := by
  have declared : (updateOracle.slots accounts)[5]? = some (.readonly accounts.program) := by
    simp [slots, UpdateOracle.Accounts.slots, absent]
  rw [metas, List.getElem?_map, declared, Option.map_some, AccountMeta.withSigning_eq_self]
  rfl

theorem metas_updateOracle_of_some {authority : Address}
    (present : accounts.newAuthority = some authority) :
    (updateOracle.metas accounts signing)[5]? =
      some ((AccountMeta.signer authority).withSigning signing) := by
  have declared : (updateOracle.slots accounts)[5]? = some (.signer authority) := by
    simp [slots, UpdateOracle.Accounts.slots, present]
  rw [metas, List.getElem?_map, declared, Option.map_some]

end NewAuthority

/-! ### Main theorem -/

/-- Whatever the kind of an instruction and its accounts, a decision on signing leaves the
addresses, their order and what may change as they are. Accounts that do not sign stay as they are,
and the others sign exactly if that is the decision, or if there is none. So deciding for signatures
changes nothing, and deciding against them leaves no account that signs. In the last slot of a
change of an oracle, a new authority follows the decision, and the program that stands in for an
absent one never signs. -/
theorem signing_confined :
    (∀ (kind : Kind) (accounts : kind.Accounts),
      (∀ signing, Decided signing (kind.metas accounts none) (kind.metas accounts signing)) ∧
      kind.metas accounts (some true) = kind.metas accounts none ∧
      ∀ account ∈ kind.metas accounts (some false), account.role.isSigner = false) ∧
    ∀ (accounts : UpdateOracle.Accounts) signing,
      (accounts.newAuthority = none →
        (updateOracle.metas accounts signing)[5]? = some (.readonly accounts.program)) ∧
      ∀ authority, accounts.newAuthority = some authority →
        ∃ account, (updateOracle.metas accounts signing)[5]? = some account ∧
          account.address = authority ∧ account.role.isSigner = signing.getD true := by
  constructor
  · intro kind accounts
    rw [metas_none, metas_true]
    refine ⟨?_, rfl, ?_⟩
    · intro signing
      exact decided_map signing (kind.slots accounts)
    · intro account listed
      exact kind.isSigner_of_mem_metas_false accounts listed
  · intro accounts signing
    refine ⟨metas_updateOracle_of_none signing, ?_⟩
    intro authority present
    refine ⟨_, metas_updateOracle_of_some signing present, ?_, ?_⟩
    · exact AccountMeta.address_withSigning signing _
    · exact AccountMeta.isSigner_withSigning signing _

/-- When an oracle is handed over and signatures are waived, neither authority signs, and the oracle
may still change. When it is not handed over, the program in the last slot does not sign even if
signatures are asked for. -/
theorem signing_confined_of_waived_handover :
    let handover : UpdateOracle.Accounts :=
      ⟨.zero, .zero, .zero, .zero, .zero, some rentSysvar, .zero⟩
    let accounts : UpdateOracle.Accounts := ⟨.zero, .zero, .zero, .zero, .zero, none, rentSysvar⟩
    (updateOracle.metas handover none)[4]? = some (.writable .zero) ∧
    (updateOracle.metas handover (some false))[4]? = some (.writable .zero) ∧
    (∃ account, (updateOracle.metas handover (some false))[2]? = some account ∧
      account.role.isSigner = false) ∧
    (∃ account, (updateOracle.metas handover (some false))[5]? = some account ∧
      account.address = rentSysvar ∧ account.role.isSigner = false) ∧
    (updateOracle.metas accounts (some true))[5]? = some (.readonly rentSysvar) := by
  intro handover accounts
  obtain ⟨kinds, oracles⟩ := signing_confined
  obtain ⟨decided, -, -⟩ := kinds updateOracle handover
  have oracle : (updateOracle.metas handover none)[4]? = some (.writable .zero) := rfl
  exact ⟨oracle, (decided (some false)).kept 4 _ oracle rfl,
    (decided (some false)).signed 2 (.signer .zero) rfl rfl,
    (oracles handover (some false)).2 rentSysvar rfl, (oracles accounts (some true)).1 rfl⟩

end Instruction.Kind

end LiquidityController
