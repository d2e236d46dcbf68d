import LiquidityController.Instruction.Reserve
import LiquidityController.Integration.Description
import LiquidityController.Integration.Protocol

/-!
# Instructions on integrations

An integration connects a reserve with an external protocol. For each instruction the accounts
that it always lists, in order, and the arguments it carries; the accounts of the protocol come
after these.
-/

namespace LiquidityController

/-- What the program has to be told, beyond the accounts, to set up an integration. -/
inductive Setup where
  | splTokenExternal
  | cctpBridge (destinationAddress : Address) (destinationDomain : UInt32)
  | lzBridge (destinationAddress : Address) (destinationEid : UInt32)
  | atomicSwap (maxSlippageBps : UInt16) (maxStaleness : UInt64) (expiryTimestamp : Int64)
    (oraclePriceInverted : Bool)
  | drift (subAccountId spotMarketIndex : UInt16)
  | kamino (obligationId : UInt8)
  deriving DecidableEq

namespace Setup

def protocol : Setup → Protocol
  | splTokenExternal => .splTokenExternal
  | cctpBridge .. => .cctpBridge
  | lzBridge .. => .lzBridge
  | atomicSwap .. => .atomicSwap
  | drift .. => .drift
  | kamino .. => .kamino

/-- A setup is written as the number of its protocol, counted without swaps of pool tokens, and
its fields. -/
def codec : Codec Setup := .union [
  ⟨.empty, fun _ => splTokenExternal, fun
    | splTokenExternal => some ()
    | _ => none⟩,
  ⟨Codec.address.pair .u32, fun (address, domain) => cctpBridge address domain, fun
    | cctpBridge address domain => some (address, domain)
    | _ => none⟩,
  ⟨Codec.address.pair .u32, fun (address, eid) => lzBridge address eid, fun
    | lzBridge address eid => some (address, eid)
    | _ => none⟩,
  ⟨Codec.u16.pair <| .pair .u64 <| .pair .i64 .bool,
    fun (slippage, staleness, expiry, inverted) => atomicSwap slippage staleness expiry inverted,
    fun
    | atomicSwap slippage staleness expiry inverted => some (slippage, staleness, expiry, inverted)
    | _ => none⟩,
  ⟨Codec.u16.pair .u16, fun (subAccount, market) => drift subAccount market, fun
    | drift subAccount market => some (subAccount, market)
    | _ => none⟩,
  ⟨.u8, kamino, fun
    | kamino obligation => some obligation
    | _ => none⟩]

end Setup

namespace InitializeIntegration

/-- The accounts that create an integration. -/
structure Accounts where
  (payer controller controllerAuthority authority permission integration program
    systemProgram : Address)
  deriving DecidableEq

def Accounts.slots (accounts : Accounts) : List AccountMeta := [
  .writableSigner accounts.payer,
  .readonly accounts.controller,
  .readonly accounts.controllerAuthority,
  .signer accounts.authority,
  .readonly accounts.permission,
  .writable accounts.integration,
  .readonly accounts.program,
  .readonly accounts.systemProgram]

structure Arguments where
  protocol : Protocol
  status : Status
  description : Description
  rateLimit : RateLimit
  permitLiquidation : Bool
  setup : Setup
  deriving DecidableEq

def Arguments.codec : Codec Arguments :=
  (Protocol.codec.pair <| Status.codec.pair <| Description.codec.pair <|
    RateLimit.codec.pair <| Codec.bool.pair Setup.codec).iso
    (fun (protocol, status, description, rateLimit, permitLiquidation, setup) =>
      { protocol, status, description, rateLimit, permitLiquidation, setup })
    (fun arguments =>
      (arguments.protocol, arguments.status, arguments.description, arguments.rateLimit,
        arguments.permitLiquidation, arguments.setup))

end InitializeIntegration

namespace ManageIntegration

/-- The accounts that change an integration. -/
structure Accounts where
  (controller controllerAuthority authority permission integration program : Address)
  deriving DecidableEq

def Accounts.slots (accounts : Accounts) : List AccountMeta := [
  .readonly accounts.controller,
  .readonly accounts.controllerAuthority,
  .signer accounts.authority,
  .readonly accounts.permission,
  .writable accounts.integration,
  .readonly accounts.program]

structure Arguments where
  status : Option Status
  description : Option Description
  rateLimitSlope : Option UInt64
  rateLimitMaxOutflow : Option UInt64
  deriving DecidableEq

def Arguments.codec : Codec Arguments :=
  (Status.codec.option.pair <| Description.codec.option.pair <|
    Codec.u64.option.pair Codec.u64.option).iso
    (fun (status, description, rateLimitSlope, rateLimitMaxOutflow) =>
      { status, description, rateLimitSlope, rateLimitMaxOutflow })
    (fun arguments =>
      (arguments.status, arguments.description, arguments.rateLimitSlope,
        arguments.rateLimitMaxOutflow))

end ManageIntegration

namespace SyncIntegration

/-- The accounts that bring an integration up to date with its protocol. -/
structure Accounts where
  (controller controllerAuthority payer integration reserve : Address)
  deriving DecidableEq

def Accounts.slots (accounts : Accounts) : List AccountMeta := [
  .readonly accounts.controller,
  .writable accounts.controllerAuthority,
  .writableSigner accounts.payer,
  .writable accounts.integration,
  .writable accounts.reserve]

end SyncIntegration

/-- The accounts that move funds between a reserve and an integration, in either direction. -/
structure TransferAccounts where
  (controller controllerAuthority authority permission integration reserve program : Address)
  deriving DecidableEq

def TransferAccounts.slots (accounts : TransferAccounts) : List AccountMeta := [
  .readonly accounts.controller,
  .writable accounts.controllerAuthority,
  .signer accounts.authority,
  .readonly accounts.permission,
  .writable accounts.integration,
  .writable accounts.reserve,
  .readonly accounts.program]

/-- A transfer of funds from a reserve into an integration. -/
inductive Push where
  | splTokenExternal (amount : UInt64)
  | cctpBridge (amount : UInt64)
  | lzBridge (amount : UInt64)
  | drift (marketIndex : UInt16) (amount : UInt64) (reduceOnly : Bool)
  | kamino (amount : UInt64)
  deriving DecidableEq, Repr

namespace Push

def protocol : Push → Protocol
  | splTokenExternal .. => .splTokenExternal
  | cctpBridge .. => .cctpBridge
  | lzBridge .. => .lzBridge
  | drift .. => .drift
  | kamino .. => .kamino

def amount : Push → UInt64
  | splTokenExternal amount | cctpBridge amount | lzBridge amount | drift _ amount _
  | kamino amount => amount

def codec : Codec Push := .union [
  ⟨.u64, splTokenExternal, fun
    | splTokenExternal amount => some amount
    | _ => none⟩,
  ⟨.u64, cctpBridge, fun
    | cctpBridge amount => some amount
    | _ => none⟩,
  ⟨.u64, lzBridge, fun
    | lzBridge amount => some amount
    | _ => none⟩,
  ⟨Codec.u16.pair <| .pair .u64 .bool,
    fun (market, amount, reduceOnly) => drift market amount reduceOnly, fun
    | drift market amount reduceOnly => some (market, amount, reduceOnly)
    | _ => none⟩,
  ⟨.u64, kamino, fun
    | kamino amount => some amount
    | _ => none⟩]

end Push

/-- A transfer of funds from an integration back into a reserve. -/
inductive Pull where
  | splTokenExternal
  | cctpBridge
  | lzBridge
  | kamino (amount : UInt64)
  | drift (marketIndex : UInt16) (amount : UInt64)
  deriving DecidableEq, Repr

namespace Pull

def protocol : Pull → Protocol
  | splTokenExternal => .splTokenExternal
  | cctpBridge => .cctpBridge
  | lzBridge => .lzBridge
  | kamino .. => .kamino
  | drift .. => .drift

/-- How much is moved, for a protocol that can give funds back. -/
def amount? : Pull → Option UInt64
  | kamino amount | drift _ amount => some amount
  | splTokenExternal | cctpBridge | lzBridge => none

/-- A pull is written as the number of its alternative and its fields; the alternatives are not
in the order of those of a push. -/
def codec : Codec Pull := .union [
  ⟨.empty, fun _ => splTokenExternal, fun
    | splTokenExternal => some ()
    | _ => none⟩,
  ⟨.empty, fun _ => cctpBridge, fun
    | cctpBridge => some ()
    | _ => none⟩,
  ⟨.empty, fun _ => lzBridge, fun
    | lzBridge => some ()
    | _ => none⟩,
  ⟨.u64, kamino, fun
    | kamino amount => some amount
    | _ => none⟩,
  ⟨Codec.u16.pair .u64, fun (market, amount) => drift market amount, fun
    | drift market amount => some (market, amount)
    | _ => none⟩]

end Pull

end LiquidityController
