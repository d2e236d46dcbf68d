import LiquidityController.Instruction.Account
import LiquidityController.RateLimit
import LiquidityController.Status

/-!
# Instructions on reserves

A reserve holds the controller's funds in one mint. For each instruction the accounts it lists,
in order, and the arguments it carries.
-/

namespace LiquidityController

def RateLimit.codec : Codec RateLimit :=
  (Codec.u64.pair .u64).iso
    (fun (slope, maxOutflow) => { slope, maxOutflow })
    (fun limit => (limit.slope, limit.maxOutflow))

namespace InitializeReserve

/-- The accounts that create a reserve and its vault. -/
structure Accounts where
  (payer controller controllerAuthority authority permission reserve mint vault tokenProgram
    associatedTokenProgram program systemProgram : Address)
  deriving DecidableEq

def Accounts.slots (accounts : Accounts) : List AccountMeta := [
  .writableSigner accounts.payer,
  .readonly accounts.controller,
  .readonly accounts.controllerAuthority,
  .signer accounts.authority,
  .readonly accounts.permission,
  .writable accounts.reserve,
  .readonly accounts.mint,
  .writable accounts.vault,
  .readonly accounts.tokenProgram,
  .readonly accounts.associatedTokenProgram,
  .readonly accounts.program,
  .readonly accounts.systemProgram]

structure Arguments where
  status : Status
  rateLimit : RateLimit
  deriving DecidableEq, Repr

def Arguments.codec : Codec Arguments :=
  (Status.codec.pair RateLimit.codec).iso
    (fun (status, rateLimit) => { status, rateLimit })
    (fun arguments => (arguments.status, arguments.rateLimit))

end InitializeReserve

namespace ManageReserve

structure Accounts where
  (controller controllerAuthority authority permission reserve program : Address)
  deriving DecidableEq

def Accounts.slots (accounts : Accounts) : List AccountMeta := [
  .readonly accounts.controller,
  .readonly accounts.controllerAuthority,
  .signer accounts.authority,
  .readonly accounts.permission,
  .writable accounts.reserve,
  .readonly accounts.program]

structure Arguments where
  status : Option Status
  rateLimitSlope : Option UInt64
  rateLimitMaxOutflow : Option UInt64
  deriving DecidableEq, Repr

def Arguments.codec : Codec Arguments :=
  (Status.codec.option.pair <| Codec.u64.option.pair Codec.u64.option).iso
    (fun (status, rateLimitSlope, rateLimitMaxOutflow) =>
      { status, rateLimitSlope, rateLimitMaxOutflow })
    (fun arguments =>
      (arguments.status, arguments.rateLimitSlope, arguments.rateLimitMaxOutflow))

end ManageReserve

namespace SyncReserve

/-- The accounts that bring a reserve up to date with its vault. -/
structure Accounts where
  (controller controllerAuthority reserve vault : Address)
  deriving DecidableEq

def Accounts.slots (accounts : Accounts) : List AccountMeta := [
  .readonly accounts.controller,
  .readonly accounts.controllerAuthority,
  .writable accounts.reserve,
  .readonly accounts.vault]

end SyncReserve

end LiquidityController
