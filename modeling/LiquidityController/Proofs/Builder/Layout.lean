import LiquidityController.Builder.Request

/-!
# The table of instructions

Which accounts the instruction for a request lists, given by their roles. A few of the accounts
belong to whoever asks: the payer, the authority and the permission of the authority. The rest of a
row does not depend on them, and its length depends on the request only through what `Request.Shape`
keeps of it.

Every row has three parts. The accounts that are the same for all protocols come first, then those
of the protocol, and last those that the caller supplies to the operations that are open to any
protocol.
-/

namespace LiquidityController

/-- Whose account a slot holds, if that depends on who asks. -/
inductive Principal where
  | payer
  | authority
  | permission
  deriving DecidableEq, Repr

/-- A slot of an instruction: its role, and the principal whose account it holds, if it is one. -/
structure Entry where
  role : Role
  principal : Option Principal := none
  deriving DecidableEq, Repr

namespace Entry

def payer : Entry :=
  ⟨.writableSigner, some .payer⟩

def authority : Entry :=
  ⟨.signer, some .authority⟩

def permission : Entry :=
  ⟨.readonly, some .permission⟩

def writable : Entry :=
  ⟨.writable, none⟩

def readonly : Entry :=
  ⟨.readonly, none⟩

end Entry

/-- What is left of a request once every address, amount and text is taken away. -/
inductive Request.Shape where
  | initializeController
  | manageController
  | managePermission
  | claimRent
  | initializeReserve
  | manageReserve
  | syncReserve
  | initializeOracle
  | updateOracle (handsOver : Bool)
  | refreshOracle
  | refreshKaminoReserve
  | refreshKaminoObligation (reserves : Nat)
  | initializeIntegration (supplied : List Role)
  | manageIntegration
  | syncIntegration (supplied : List Role)
  | push (supplied : List Role)
  | pull (supplied : List Role)
  | initializeAtomicSwap
  | initializeExternal
  | pushExternal
  | initializeDrift
  | pushDrift (markets : Nat)
  | pullDrift (markets : Nat)
  | syncDrift
  | initializeKamino
  | pushKamino
  | pullKamino
  | syncKamino (harvests : Bool)

namespace Request

def shape : Request → Shape
  | initializeController .. => .initializeController
  | manageController .. => .manageController
  | managePermission .. => .managePermission
  | claimRent .. => .claimRent
  | initializeReserve .. => .initializeReserve
  | manageReserve .. => .manageReserve
  | syncReserve .. => .syncReserve
  | initializeOracle .. => .initializeOracle
  | updateOracle _ _ _ newAuthority => .updateOracle newAuthority.isSome
  | refreshOracle .. => .refreshOracle
  | refreshKaminoReserve .. => .refreshKaminoReserve
  | refreshKaminoObligation _ _ reserves => .refreshKaminoObligation reserves.length
  | initializeIntegration _ _ _ _ remaining =>
    .initializeIntegration (remaining.map AccountMeta.role)
  | manageIntegration .. => .manageIntegration
  | syncIntegration _ _ remaining => .syncIntegration (remaining.map AccountMeta.role)
  | push _ _ _ remaining => .push (remaining.map AccountMeta.role)
  | pull _ _ _ remaining => .pull (remaining.map AccountMeta.role)
  | initializeAtomicSwap .. => .initializeAtomicSwap
  | initializeExternal .. => .initializeExternal
  | pushExternal .. => .pushExternal
  | initializeDrift .. => .initializeDrift
  | pushDrift _ _ _ _ markets => .pushDrift markets.length
  | pullDrift _ _ _ markets => .pullDrift markets.length
  | syncDrift .. => .syncDrift
  | initializeKamino .. => .initializeKamino
  | pushKamino .. => .pushKamino
  | pullKamino .. => .pullKamino
  | syncKamino _ _ harvest => .syncKamino harvest.isSome

def supplied : Request → List AccountMeta
  | initializeIntegration _ _ _ _ remaining | syncIntegration _ _ remaining
  | push _ _ _ remaining | pull _ _ _ remaining => remaining
  | _ => []

namespace Shape

/-- The accounts that every transfer between a reserve and an integration lists first. -/
def transferRow : List Entry :=
  [.readonly, .writable, .authority, .permission, .writable, .writable, .readonly]

/-- The slots of an instruction that are the same for all protocols. -/
def row : Shape → List Entry
  | initializeController =>
    [.payer, .authority, .writable, .readonly, ⟨.writable, some .permission⟩, .readonly, .readonly]
  | manageController => [.writable, .readonly, .authority, .permission, .readonly]
  | managePermission =>
    [.payer, .readonly, .readonly, .authority, .permission, .readonly, .writable, .readonly,
      .readonly]
  | claimRent =>
    [.readonly, .writable, ⟨.writableSigner, some .authority⟩, .permission, .writable, .readonly]
  | initializeReserve =>
    [.payer, .readonly, .readonly, .authority, .permission, .writable, .readonly, .writable,
      .readonly, .readonly, .readonly, .readonly]
  | manageReserve => [.readonly, .readonly, .authority, .permission, .writable, .readonly]
  | syncReserve => [.readonly, .readonly, .writable, .readonly]
  -- the authority pays for an oracle, whoever the payer is
  | initializeOracle =>
    [⟨.writableSigner, some .authority⟩, .readonly, .readonly, .authority, .readonly, .writable,
      .readonly]
  -- a new authority signs, and the program stands in for an absent one
  | updateOracle handsOver =>
    [.readonly, .readonly, .authority, .readonly, .writable,
      if handsOver then ⟨.signer, none⟩ else .readonly]
  | refreshOracle => [.readonly, .writable]
  | refreshKaminoReserve =>
    [.writable, .readonly, .readonly, .readonly, .readonly, .readonly]
  | refreshKaminoObligation _ => [.readonly, .writable]
  | initializeIntegration _ | initializeAtomicSwap | initializeExternal | initializeDrift
  | initializeKamino =>
    [.payer, .readonly, .readonly, .authority, .permission, .writable, .readonly, .readonly]
  | manageIntegration => [.readonly, .readonly, .authority, .permission, .writable, .readonly]
  | syncIntegration _ | syncDrift | syncKamino _ =>
    [.readonly, .writable, .payer, .writable, .writable]
  | push _ | pushExternal | pushDrift _ | pushKamino | pull _ | pullDrift _ | pullKamino =>
    transferRow

def lendingRoles : List Role :=
  [.writable, .writable, .writable, .readonly, .writable, .writable, .writable, .readonly,
    .readonly, .readonly, .readonly, .readonly, .writable, .writable, .readonly, .readonly]

def harvestRoles : List Role :=
  [.writable, .writable, .writable, .writable, .readonly, .readonly, .writable, .readonly,
    .readonly, .readonly, .readonly, .readonly, .readonly]

/-- The oracles of spot markets, which are read, and then the markets, which may change. -/
def marketRoles (markets : Nat) : List Role :=
  List.replicate markets .readonly ++ List.replicate markets .writable

/-- The accounts that an operation lists for its protocol, after those of its row. -/
def trailing : Shape → List Role
  | initializeAtomicSwap => [.readonly, .readonly, .readonly]
  | initializeExternal => [.readonly, .readonly, .writable, .readonly, .readonly]
  | pushExternal =>
    [.readonly, .writable, .readonly, .writable, .readonly, .readonly, .readonly]
  | initializeDrift =>
    [.readonly, .writable, .writable, .writable, .readonly, .readonly, .readonly]
  | pushDrift markets =>
    [.readonly, .writable, .writable, .writable, .writable, .readonly, .readonly, .readonly] ++
      marketRoles markets
  | pullDrift markets =>
    [.readonly, .writable, .writable, .writable, .readonly, .writable, .readonly, .readonly] ++
      marketRoles markets ++ [.readonly]
  | syncDrift => [.writable, .readonly, .readonly, .readonly]
  | initializeKamino =>
    [.writable, .readonly, .writable, .readonly, .writable, .writable, .writable, .readonly,
      .readonly, .readonly, .readonly, .readonly, .readonly]
  | pushKamino => lendingRoles ++ [.writable, .readonly, .readonly, .readonly]
  | pullKamino => lendingRoles
  | syncKamino harvests =>
    [.writable, .readonly, .readonly] ++ if harvests then harvestRoles else []
  | refreshKaminoObligation reserves => List.replicate reserves .writable
  | _ => []

def suppliedRoles : Shape → List Role
  | initializeIntegration supplied | syncIntegration supplied | push supplied | pull supplied =>
    supplied
  | _ => []

def roles (shape : Shape) : List Role :=
  shape.row.map Entry.role ++ shape.trailing ++ shape.suppliedRoles

def own (shape : Shape) : Nat :=
  shape.row.length + shape.trailing.length

/-- The slot that holds the payer. An authority that pays for itself is not meant. -/
def payerSlot? : Shape → Option Nat
  | initializeController | managePermission | initializeReserve | initializeIntegration _
  | initializeAtomicSwap | initializeExternal | initializeDrift | initializeKamino => some 0
  | syncIntegration _ | syncDrift | syncKamino _ => some 2
  | _ => none

def principal? (shape : Shape) (slot : Nat) : Option Principal :=
  shape.row[slot]?.bind Entry.principal

def handsOver : Shape → Bool
  | updateOracle handsOver => handsOver
  | _ => false

/-! ### The table itself -/

theorem row_payerSlot {shape : Shape} {slot : Nat} (pays : shape.payerSlot? = some slot) :
    shape.row[slot]? = some .payer := by
  cases shape <;> cases pays <;> rfl

theorem principal_eq_payer {shape : Shape} {slot : Nat} :
    shape.principal? slot = some .payer ↔ shape.payerSlot? = some slot := by
  constructor
  · intro pays
    obtain ⟨entry, listed, principal⟩ := Option.bind_eq_some_iff.mp pays
    -- one look at every row
    have checked : shape.row.zipIdx.all fun (entry, slot) =>
        entry.principal = some .payer → shape.payerSlot? = some slot := by
      cases shape with
      | updateOracle handsOver => cases handsOver <;> rfl
      | _ => rfl
    have one := List.all_eq_true.mp checked (entry, slot) (List.mem_zipIdx_iff_getElem?.mpr listed)
    exact of_decide_eq_true one principal
  · intro pays
    rw [principal?, row_payerSlot pays]
    rfl

/-- A slot that signs belongs to a principal, unless an oracle is handed over. -/
theorem principal_of_signs {shape : Shape} {slot : Nat} {entry : Entry}
    (listed : shape.row[slot]? = some entry) (signs : entry.role.isSigner) :
    entry.principal = some .payer ∨ entry.principal = some .authority ∨
      shape.handsOver ∧ slot = 5 := by
  have checked : shape.row.zipIdx.all fun (entry, slot) => entry.role.isSigner →
      entry.principal = some .payer ∨ entry.principal = some .authority ∨
        shape.handsOver ∧ slot = 5 := by
    cases shape with
    | updateOracle handsOver => cases handsOver <;> rfl
    | _ => rfl
  have one := List.all_eq_true.mp checked (entry, slot) (List.mem_zipIdx_iff_getElem?.mpr listed)
  exact of_decide_eq_true one signs

/-- No account that is listed for a protocol signs. -/
theorem unsigned_of_mem_trailing {shape : Shape} {role : Role} (listed : role ∈ shape.trailing) :
    role.isSigner = false := by
  have checked : ∀ role ∈ shape.trailing, role.isSigner = false := by
    cases shape with
    | syncKamino harvests =>
      cases harvests <;> simp [trailing, harvestRoles, Role.isSigner]
    | _ => simp [trailing, lendingRoles, marketRoles, Role.isSigner, or_imp, forall_and]
  exact checked role listed

end Shape

end Request

end LiquidityController
