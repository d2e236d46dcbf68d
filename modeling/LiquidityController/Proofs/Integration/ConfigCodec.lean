import LiquidityController.Integration.Config
import LiquidityController.Proofs.Wire.FixedWidth

/-!
# The written form of a config

Every kind of config is lawful, and its fields leave exactly as many bytes as its padding takes.
-/

namespace LiquidityController

instance : Protocol.codec.Lawful := .enumeration
  (fun protocol => by cases protocol <;> decide) (by decide) (by decide)

namespace Config

section Fields

open Codec.FixedWidth

instance : SplTokenExternal.codec.Lawful := .iso (fun _ => rfl) (fun _ => rfl)

theorem SplTokenExternal.fixedWidth : SplTokenExternal.codec.FixedWidth (4 * 32) Codec.anyBytes :=
  iso <| pair address <| pair address <| pair address address

instance : SplTokenSwap.codec.Lawful := .iso (fun _ => rfl) (fun _ => rfl)

theorem SplTokenSwap.fixedWidth : SplTokenSwap.codec.FixedWidth (6 * 32) Codec.anyBytes :=
  iso <| pair address <| pair address <| pair address <| pair address <| pair address address

instance : CctpBridge.codec.Lawful := .iso (fun _ => rfl) (fun _ => rfl)

theorem CctpBridge.fixedWidth : CctpBridge.codec.FixedWidth (3 * 32 + 4) Codec.anyBytes :=
  iso <| pair address <| pair address <| pair address u32

instance : LzBridge.codec.Lawful := .iso (fun _ => rfl) (fun _ => rfl)

theorem LzBridge.fixedWidth : LzBridge.codec.FixedWidth (6 * 32 + 4) Codec.anyBytes :=
  iso <| pair address <| pair address <| pair address <| pair address <| pair address <|
    pair address u32

instance : AtomicSwap.codec.Lawful := .iso (fun _ => rfl) (fun _ => rfl)

/-- The truth value is the last of 117 bytes. -/
theorem AtomicSwap.fixedWidth :
    AtomicSwap.codec.FixedWidth 117 (fun bytes => Codec.unlessBool (bytes.drop 116)) := by
  -- each `pair` moves the place of the truth value behind one more field
  have fixed := pair address <| pair address <| pair address <| pair u16 <| pair u64 <|
    pair u8 <| pair u8 <| pair i64 bool
  simp only [List.drop_drop] at fixed
  exact iso fixed

instance : Drift.codec.Lawful := .iso (fun _ => rfl) (fun _ => rfl)

theorem Drift.fixedWidth : Drift.codec.FixedWidth (2 + 2) Codec.anyBytes :=
  iso <| pair u16 u16

instance : Kamino.codec.Lawful := .iso (fun _ => rfl) (fun _ => rfl)

theorem Kamino.fixedWidth : Kamino.codec.FixedWidth (6 * 32 + 1) Codec.anyBytes :=
  iso <| pair address <| pair address <| pair address <| pair address <| pair address <|
    pair address u8

end Fields

namespace Kind

theorem mem_all (kind : Kind) : kind ∈ all := by
  cases kind with
  | undefined => decide
  | of protocol => cases protocol <;> decide

theorem nodup_all : all.Nodup := by decide

instance : Kind.codec.Lawful := .enumeration mem_all nodup_all (by decide)

instance (kind : Kind) : kind.fieldsCodec.Lawful := by
  cases kind with
  | undefined => exact inferInstanceAs Codec.empty.Lawful
  | of protocol =>
    cases protocol with
    | splTokenExternal => exact inferInstanceAs SplTokenExternal.codec.Lawful
    | splTokenSwap => exact inferInstanceAs SplTokenSwap.codec.Lawful
    | cctpBridge => exact inferInstanceAs CctpBridge.codec.Lawful
    | lzBridge => exact inferInstanceAs LzBridge.codec.Lawful
    | atomicSwap => exact inferInstanceAs AtomicSwap.codec.Lawful
    | drift => exact inferInstanceAs Drift.codec.Lawful
    | kamino => exact inferInstanceAs Kamino.codec.Lawful

/-- For what reason the bytes of the fields are refused if there are enough of them. Only a swap
ends in a truth value. -/
def refusal : Kind → List UInt8 → Option DecodeError
  | of .atomicSwap => fun bytes => Codec.unlessBool (bytes.drop 116)
  | _ => Codec.anyBytes

theorem fixedWidth_fieldsCodec (kind : Kind) :
    kind.fieldsCodec.FixedWidth kind.fieldsLength kind.refusal := by
  cases kind with
  | undefined => exact .empty
  | of protocol =>
    cases protocol with
    | splTokenExternal => exact SplTokenExternal.fixedWidth
    | splTokenSwap => exact SplTokenSwap.fixedWidth
    | cctpBridge => exact CctpBridge.fixedWidth
    | lzBridge => exact LzBridge.fixedWidth
    | atomicSwap => exact AtomicSwap.fixedWidth
    | drift => exact Drift.fixedWidth
    | kamino => exact Kamino.fixedWidth

theorem length_encode_fieldsCodec (kind : Kind) (fields : kind.Fields) :
    (kind.fieldsCodec.encode fields).length = kind.fieldsLength :=
  kind.fixedWidth_fieldsCodec.length_encode fields

theorem fieldsLength_le (kind : Kind) : kind.fieldsLength ≤ payloadLength := by
  cases kind with
  | undefined => decide
  | of protocol => cases protocol <;> decide

theorem fieldsLength_add_paddingLength (kind : Kind) :
    kind.fieldsLength + kind.paddingLength = payloadLength :=
  Nat.add_sub_of_le kind.fieldsLength_le

example : all.map paddingLength = [224, 96, 32, 124, 28, 107, 220, 31] := by decide

end Kind

instance (kind : Kind) : (Payload.codec kind).Lawful := .iso (fun _ => rfl) (fun _ => rfl)

instance : Config.codec.Lawful := .iso (fun _ => rfl) (fun _ => rfl)

theorem encode_eq (config : Config) : codec.encode config =
    config.tag :: (config.kind.fieldsCodec.encode config.payload.fields ++
      config.payload.padding.bytes) := rfl

theorem drop_encode (config : Config) :
    (codec.encode config).drop (1 + config.kind.fieldsLength) = config.payload.padding.bytes := by
  have fields := config.kind.length_encode_fieldsCodec config.payload.fields
  rw [config.encode_eq, Nat.add_comm, List.drop_succ_cons]
  exact List.drop_left' fields

theorem length_encode (config : Config) : (codec.encode config).length = 1 + payloadLength := by
  have fields := config.kind.length_encode_fieldsCodec config.payload.fields
  have total := config.kind.fieldsLength_add_paddingLength
  rw [config.encode_eq, List.length_cons, List.length_append, fields,
    config.payload.padding.length]
  omega

end Config

end LiquidityController
