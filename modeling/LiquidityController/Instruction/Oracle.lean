import LiquidityController.Instruction.Account
import LiquidityController.Wire.Codec

/-!
# Instructions on oracles

An oracle quotes the price of one mint in terms of another. For each instruction the accounts it
lists, in order, and the arguments it carries.
-/

namespace LiquidityController

namespace InitializeOracle

/-- The accounts that create an oracle. -/
structure Accounts where
  (payer controller controllerAuthority authority priceFeed oracle systemProgram : Address)
  deriving DecidableEq

def Accounts.slots (accounts : Accounts) : List AccountMeta := [
  .writableSigner accounts.payer,
  .readonly accounts.controller,
  .readonly accounts.controllerAuthority,
  .signer accounts.authority,
  .readonly accounts.priceFeed,
  .writable accounts.oracle,
  .readonly accounts.systemProgram]

/-- What the oracle quotes, and the nonce that its address is derived from. -/
structure Arguments where
  oracleType : UInt8
  nonce : Address
  baseMint : Address
  quoteMint : Address
  deriving DecidableEq

def Arguments.codec : Codec Arguments :=
  (Codec.u8.pair <| .pair .address <| .pair .address .address).iso
    (fun (oracleType, nonce, baseMint, quoteMint) => { oracleType, nonce, baseMint, quoteMint })
    (fun arguments =>
      (arguments.oracleType, arguments.nonce, arguments.baseMint, arguments.quoteMint))

end InitializeOracle

structure Feed where
  oracleType : UInt8
  deriving DecidableEq, Repr

def Feed.codec : Codec Feed :=
  Codec.u8.iso Feed.mk Feed.oracleType

namespace UpdateOracle

/-- The accounts that change an oracle, which may also pass it on to a new authority. -/
structure Accounts where
  (controller controllerAuthority authority priceFeed oracle : Address)
  newAuthority : Option Address
  program : Address
  deriving DecidableEq

def Accounts.slots (accounts : Accounts) : List AccountMeta := [
  .readonly accounts.controller,
  .readonly accounts.controllerAuthority,
  .signer accounts.authority,
  .readonly accounts.priceFeed,
  .writable accounts.oracle,
  -- a new authority has to sign; the program that stands in for an absent one does not
  match accounts.newAuthority with
  | some authority => .signer authority
  | none => .readonly accounts.program]

structure Arguments where
  feed : Option Feed
  deriving DecidableEq, Repr

def Arguments.codec : Codec Arguments :=
  Feed.codec.option.iso Arguments.mk Arguments.feed

end UpdateOracle

namespace RefreshOracle

/-- The accounts that copy the latest price into an oracle. -/
structure Accounts where
  (priceFeed oracle : Address)
  deriving DecidableEq

def Accounts.slots (accounts : Accounts) : List AccountMeta := [
  .readonly accounts.priceFeed,
  .writable accounts.oracle]

end RefreshOracle

end LiquidityController
