import LiquidityController.Instruction.Administration
import LiquidityController.Instruction.Integration
import LiquidityController.Instruction.Oracle

/-!
# Instructions of the controller program

An instruction names a program, lists accounts and carries bytes. The bytes of an instruction of
the controller program are one byte that numbers the instruction and the written form of its
arguments. Which accounts and which arguments belong to an instruction is decided by its kind.
-/

namespace LiquidityController

/-- The entries of the program's instruction table, in order. -/
inductive Opcode where
  | emitEvent
  | initializeController
  | manageController
  | managePermission
  | initializeReserve
  | manageReserve
  | initializeIntegration
  | manageIntegration
  | syncReserve
  | sync
  | push
  | pull
  | initializeOracle
  | updateOracle
  | refreshOracle
  | atomicSwapBorrow
  | atomicSwapRepay
  | resetLzPushInFlight
  | claimRent
  deriving DecidableEq, Repr

namespace Opcode

def all : List Opcode :=
  [emitEvent, initializeController, manageController, managePermission, initializeReserve,
    manageReserve, initializeIntegration, manageIntegration, syncReserve, sync, push, pull,
    initializeOracle, updateOracle, refreshOracle, atomicSwapBorrow, atomicSwapRepay,
    resetLzPushInFlight, claimRent]

def discriminator (opcode : Opcode) : UInt8 :=
  .ofNat (all.idxOf opcode)

end Opcode

/-- A call of a program: the accounts it works on and the bytes it is given. -/
structure Instruction where
  program : Address
  accounts : List AccountMeta
  data : List UInt8
  deriving DecidableEq

namespace Instruction

/-- The instructions of the controller program that can be built. -/
inductive Kind where
  | initializeController
  | manageController
  | managePermission
  | initializeReserve
  | manageReserve
  | initializeIntegration
  | manageIntegration
  | syncReserve
  | syncIntegration
  | push
  | pull
  | initializeOracle
  | updateOracle
  | refreshOracle
  | claimRent
  deriving DecidableEq, Repr

namespace Kind

def opcode : Kind → Opcode
  | initializeController => .initializeController
  | manageController => .manageController
  | managePermission => .managePermission
  | initializeReserve => .initializeReserve
  | manageReserve => .manageReserve
  | initializeIntegration => .initializeIntegration
  | manageIntegration => .manageIntegration
  | syncReserve => .syncReserve
  | syncIntegration => .sync
  | push => .push
  | pull => .pull
  | initializeOracle => .initializeOracle
  | updateOracle => .updateOracle
  | refreshOracle => .refreshOracle
  | claimRent => .claimRent

abbrev Accounts : Kind → Type
  | initializeController => InitializeController.Accounts
  | manageController => ManageController.Accounts
  | managePermission => ManagePermission.Accounts
  | initializeReserve => InitializeReserve.Accounts
  | manageReserve => ManageReserve.Accounts
  | initializeIntegration => InitializeIntegration.Accounts
  | manageIntegration => ManageIntegration.Accounts
  | syncReserve => SyncReserve.Accounts
  | syncIntegration => SyncIntegration.Accounts
  | push => TransferAccounts
  | pull => TransferAccounts
  | initializeOracle => InitializeOracle.Accounts
  | updateOracle => UpdateOracle.Accounts
  | refreshOracle => RefreshOracle.Accounts
  | claimRent => ClaimRent.Accounts

def slots : (kind : Kind) → kind.Accounts → List AccountMeta
  | initializeController => InitializeController.Accounts.slots
  | manageController => ManageController.Accounts.slots
  | managePermission => ManagePermission.Accounts.slots
  | initializeReserve => InitializeReserve.Accounts.slots
  | manageReserve => ManageReserve.Accounts.slots
  | initializeIntegration => InitializeIntegration.Accounts.slots
  | manageIntegration => ManageIntegration.Accounts.slots
  | syncReserve => SyncReserve.Accounts.slots
  | syncIntegration => SyncIntegration.Accounts.slots
  | push => TransferAccounts.slots
  | pull => TransferAccounts.slots
  | initializeOracle => InitializeOracle.Accounts.slots
  | updateOracle => UpdateOracle.Accounts.slots
  | refreshOracle => RefreshOracle.Accounts.slots
  | claimRent => ClaimRent.Accounts.slots

/-- The accounts as an instruction lists them, with their need to sign decided by the caller. -/
def metas (kind : Kind) (accounts : kind.Accounts) (signing : Option Bool) : List AccountMeta :=
  (kind.slots accounts).map (·.withSigning signing)

abbrev Arguments : Kind → Type
  | initializeController => InitializeController.Arguments
  | manageController => ManageController.Arguments
  | managePermission => ManagePermission.Arguments
  | initializeReserve => InitializeReserve.Arguments
  | manageReserve => ManageReserve.Arguments
  | initializeIntegration => InitializeIntegration.Arguments
  | manageIntegration => ManageIntegration.Arguments
  | syncReserve => Unit
  | syncIntegration => Unit
  | push => Push
  | pull => Pull
  | initializeOracle => InitializeOracle.Arguments
  | updateOracle => UpdateOracle.Arguments
  | refreshOracle => Unit
  | claimRent => Unit

def codec : (kind : Kind) → Codec kind.Arguments
  | initializeController => InitializeController.Arguments.codec
  | manageController => ManageController.Arguments.codec
  | managePermission => ManagePermission.Arguments.codec
  | initializeReserve => InitializeReserve.Arguments.codec
  | manageReserve => ManageReserve.Arguments.codec
  | initializeIntegration => InitializeIntegration.Arguments.codec
  | manageIntegration => ManageIntegration.Arguments.codec
  | syncReserve => .empty
  | syncIntegration => .empty
  | push => Push.codec
  | pull => Pull.codec
  | initializeOracle => InitializeOracle.Arguments.codec
  | updateOracle => UpdateOracle.Arguments.codec
  | refreshOracle => .empty
  | claimRent => .empty

def data (kind : Kind) (arguments : kind.Arguments) : List UInt8 :=
  kind.opcode.discriminator :: kind.codec.encode arguments

end Kind

/-- An instruction of a kind, with accounts of its own after those that the kind asks for. -/
def make (program : Address) (kind : Kind) (accounts : kind.Accounts) (arguments : kind.Arguments)
    (remaining : List AccountMeta) : Instruction where
  program := program
  accounts := kind.metas accounts none ++ remaining
  data := kind.data arguments

end Instruction

end LiquidityController
