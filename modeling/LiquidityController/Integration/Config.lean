import LiquidityController.Digest.Keccak256
import LiquidityController.Failure
import LiquidityController.Integration.Protocol

/-!
# Integration configs

A config says which position in which protocol an integration stands for. All configs are stored
in the same number of bytes, so each ends in as much padding as its fields leave; padding that is
not zero can only come from foreign bytes. The address of an integration is derived from the
digest of its config, which is therefore only taken of bytes in canonical form.
-/

namespace LiquidityController

namespace Config

/-- Transfers to a recipient outside the controller. -/
structure SplTokenExternal where
  program : Address
  mint : Address
  recipient : Address
  tokenAccount : Address
  deriving DecidableEq

/-- Liquidity in a pool of two tokens. -/
structure SplTokenSwap where
  program : Address
  swap : Address
  mintA : Address
  mintB : Address
  lpMint : Address
  lpTokenAccount : Address
  deriving DecidableEq

/-- Transfers over a bridge to an address in another domain. -/
structure CctpBridge where
  program : Address
  mint : Address
  destinationAddress : Address
  destinationDomain : UInt32
  deriving DecidableEq

/-- Transfers over a bridge to an address behind another endpoint. -/
structure LzBridge where
  program : Address
  mint : Address
  oftStore : Address
  peerConfig : Address
  tokenEscrow : Address
  destinationAddress : Address
  destinationEid : UInt32
  deriving DecidableEq

/-- A swap between two reserves at the price of an oracle. -/
structure AtomicSwap where
  /-- The mint sent out of the controller. -/
  inputToken : Address
  /-- The mint received in exchange. -/
  outputToken : Address
  oracle : Address
  /-- The largest deviation from the oracle's price. -/
  maxSlippageBps : UInt16
  /-- The greatest age of the price, in slots. -/
  maxStaleness : UInt64
  inputMintDecimals : UInt8
  outputMintDecimals : UInt8
  /-- The time after which the swap is refused. -/
  expiryTimestamp : Int64
  /-- Whether the oracle quotes output per input rather than input per output. -/
  oraclePriceInverted : Bool
  deriving DecidableEq

/-- A deposit in a spot market. -/
structure Drift where
  subAccountId : UInt16
  spotMarketIndex : UInt16
  deriving DecidableEq, Repr

/-- A deposit in a lending reserve, held through an obligation. An absent farm is written as the
zero address. -/
structure Kamino where
  market : Address
  reserve : Address
  reserveFarmCollateral : Address
  reserveFarmDebt : Address
  reserveLiquidityMint : Address
  obligation : Address
  obligationId : UInt8
  deriving DecidableEq

def SplTokenExternal.codec : Codec SplTokenExternal :=
  (Codec.address.pair <| .pair .address <| .pair .address .address).iso
    (fun (program, mint, recipient, tokenAccount) => { program, mint, recipient, tokenAccount })
    (fun c => (c.program, c.mint, c.recipient, c.tokenAccount))

def SplTokenSwap.codec : Codec SplTokenSwap :=
  (Codec.address.pair <| .pair .address <| .pair .address <| .pair .address <|
    .pair .address .address).iso
    (fun (program, swap, mintA, mintB, lpMint, lpTokenAccount) =>
      { program, swap, mintA, mintB, lpMint, lpTokenAccount })
    (fun c => (c.program, c.swap, c.mintA, c.mintB, c.lpMint, c.lpTokenAccount))

def CctpBridge.codec : Codec CctpBridge :=
  (Codec.address.pair <| .pair .address <| .pair .address .u32).iso
    (fun (program, mint, destinationAddress, destinationDomain) =>
      { program, mint, destinationAddress, destinationDomain })
    (fun c => (c.program, c.mint, c.destinationAddress, c.destinationDomain))

def LzBridge.codec : Codec LzBridge :=
  (Codec.address.pair <| .pair .address <| .pair .address <| .pair .address <| .pair .address <|
    .pair .address .u32).iso
    (fun (program, mint, oftStore, peerConfig, tokenEscrow, destinationAddress, destinationEid) =>
      { program, mint, oftStore, peerConfig, tokenEscrow, destinationAddress, destinationEid })
    (fun c =>
      (c.program, c.mint, c.oftStore, c.peerConfig, c.tokenEscrow, c.destinationAddress,
        c.destinationEid))

def AtomicSwap.codec : Codec AtomicSwap :=
  (Codec.address.pair <| .pair .address <| .pair .address <| .pair .u16 <| .pair .u64 <|
    .pair .u8 <| .pair .u8 <| .pair .i64 .bool).iso
    (fun (inputToken, outputToken, oracle, maxSlippageBps, maxStaleness, inputMintDecimals,
        outputMintDecimals, expiryTimestamp, oraclePriceInverted) =>
      { inputToken, outputToken, oracle, maxSlippageBps, maxStaleness, inputMintDecimals,
        outputMintDecimals, expiryTimestamp, oraclePriceInverted })
    (fun c =>
      (c.inputToken, c.outputToken, c.oracle, c.maxSlippageBps, c.maxStaleness,
        c.inputMintDecimals, c.outputMintDecimals, c.expiryTimestamp, c.oraclePriceInverted))

def Drift.codec : Codec Drift :=
  (Codec.u16.pair .u16).iso
    (fun (subAccountId, spotMarketIndex) => { subAccountId, spotMarketIndex })
    (fun c => (c.subAccountId, c.spotMarketIndex))

def Kamino.codec : Codec Kamino :=
  (Codec.address.pair <| .pair .address <| .pair .address <| .pair .address <| .pair .address <|
    .pair .address .u8).iso
    (fun (market, reserve, reserveFarmCollateral, reserveFarmDebt, reserveLiquidityMint,
        obligation, obligationId) =>
      { market, reserve, reserveFarmCollateral, reserveFarmDebt, reserveLiquidityMint,
        obligation, obligationId })
    (fun c =>
      (c.market, c.reserve, c.reserveFarmCollateral, c.reserveFarmDebt, c.reserveLiquidityMint,
        c.obligation, c.obligationId))

/-- What a config describes: nothing yet, or a position in a protocol. -/
inductive Kind where
  | undefined
  | of (protocol : Protocol)
  deriving DecidableEq, Repr

namespace Kind

/-- Every kind, in the order of the numbers by which stored configs name them. -/
def all : List Kind :=
  undefined :: Protocol.all.map of

def name : Kind → String
  | undefined => "Undefined"
  | of protocol => protocol.name

def codec : Codec Kind :=
  .enumeration all

/-- The byte that starts a stored config. -/
def tag (kind : Kind) : UInt8 :=
  .ofNat (all.idxOf kind)

abbrev Fields : Kind → Type
  | undefined => Unit
  | of .splTokenExternal => SplTokenExternal
  | of .splTokenSwap => SplTokenSwap
  | of .cctpBridge => CctpBridge
  | of .lzBridge => LzBridge
  | of .atomicSwap => AtomicSwap
  | of .drift => Drift
  | of .kamino => Kamino

def fieldsCodec : (kind : Kind) → Codec kind.Fields
  | undefined => .empty
  | of .splTokenExternal => SplTokenExternal.codec
  | of .splTokenSwap => SplTokenSwap.codec
  | of .cctpBridge => CctpBridge.codec
  | of .lzBridge => LzBridge.codec
  | of .atomicSwap => AtomicSwap.codec
  | of .drift => Drift.codec
  | of .kamino => Kamino.codec

def fieldsLength : Kind → Nat
  | undefined => 0
  | of .splTokenExternal => 4 * 32
  | of .splTokenSwap => 6 * 32
  | of .cctpBridge => 3 * 32 + 4
  | of .lzBridge => 6 * 32 + 4
  | of .atomicSwap => 3 * 32 + 2 + 8 + 1 + 1 + 8 + 1
  | of .drift => 2 + 2
  | of .kamino => 6 * 32 + 1

end Kind

/-- How many bytes a stored config takes after its tag. -/
def payloadLength : Nat := 224

/-- How many bytes the fields of a kind leave unused. -/
def Kind.paddingLength (kind : Kind) : Nat :=
  payloadLength - kind.fieldsLength

end Config

/-- The fields of a config and the bytes that they leave unused. -/
structure Config.Payload (kind : Config.Kind) where
  fields : kind.Fields
  padding : Block kind.paddingLength

structure Config where
  kind : Config.Kind
  payload : Config.Payload kind

namespace Config

def Payload.codec (kind : Kind) : Codec (Payload kind) :=
  (kind.fieldsCodec.pair (.padding kind.paddingLength)).iso
    (fun (fields, padding) => { fields, padding })
    (fun payload => (payload.fields, payload.padding))

def codec : Codec Config :=
  (Codec.dependentPair Kind.codec Payload.codec).iso
    (fun ⟨kind, payload⟩ => { kind, payload }) (fun config => ⟨config.kind, config.payload⟩)

/-- The config with the given fields and no foreign padding. -/
def ofFields {kind : Kind} (fields : kind.Fields) : Config where
  kind := kind
  payload := { fields, padding := .zero kind.paddingLength }

def ofProtocol (protocol : Protocol) (fields : (Kind.of protocol).Fields) : Config :=
  ofFields fields

def tag (config : Config) : UInt8 :=
  config.kind.tag

/-- The bytes of a config of which the digest is taken, if its padding is zero. -/
def canonicalBytes (config : Config) : Except Failure (List UInt8) :=
  if config.payload.padding.isZero then .ok (codec.encode config)
  else .error .nonCanonicalPadding

/-- The digest that identifies a config. -/
def hash (config : Config) : Except Failure (Block 32) :=
  config.canonicalBytes.map keccak256

end Config

end LiquidityController
