import LiquidityController.Proofs.Instruction.ArgumentCodecs
import Mathlib.Data.Set.Operations

/-!
# One written form for every value

Everything that is written to the program, as an instruction or inside a stored config, is read
back from its own bytes and from no others. A reader in the middle of a longer byte string stops
exactly where the value ends.

## Main result

`WireType.codec_exact`: reading and writing are inverse for every type of value that is written.
-/

namespace LiquidityController

/-- The types of values that are written as bytes. -/
inductive WireType where
  /-- What an instruction carries after the byte that numbers it. -/
  | arguments (kind : Instruction.Kind)
  /-- The protocol's part of the arguments that create an integration. -/
  | setup
  | feed
  /-- The status of a controller, a permission, a reserve or an integration. -/
  | status
  | protocol
  | description
  | config
  /-- A stored config of one protocol without its tag, padding included. -/
  | payload (family : Protocol)

namespace WireType

abbrev Value : WireType → Type
  | arguments kind => kind.Arguments
  | setup => Setup
  | feed => Feed
  | status => Status
  | protocol => Protocol
  | description => Description
  | config => Config
  | payload family => Config.Payload (.of family)

def codec : (type : WireType) → Codec type.Value
  | arguments kind => kind.codec
  | setup => Setup.codec
  | feed => Feed.codec
  | status => Status.codec
  | protocol => Protocol.codec
  | description => Description.codec
  | config => Config.codec
  | payload family => Config.Payload.codec (.of family)

instance (type : WireType) : type.codec.Lawful := by
  cases type with
  | arguments kind => exact inferInstanceAs kind.codec.Lawful
  | setup => exact inferInstanceAs Setup.codec.Lawful
  | feed => exact inferInstanceAs Feed.codec.Lawful
  | status => exact inferInstanceAs Status.codec.Lawful
  | protocol => exact inferInstanceAs Protocol.codec.Lawful
  | description => exact inferInstanceAs Description.codec.Lawful
  | config => exact inferInstanceAs Config.codec.Lawful
  | payload family => exact inferInstanceAs (Config.Payload.codec (.of family)).Lawful

/-- Reading is the exact inverse of writing, in the middle of a byte string and over the whole of
one. So a byte string is the written form of at most one value, none is the beginning of another,
and what was read is written as it was. -/
theorem codec_exact (type : WireType) :
    (∀ value rest, type.codec.decode (type.codec.encode value ++ rest) = .ok (value, rest)) ∧
    (∀ bytes value rest,
      type.codec.decode bytes = .ok (value, rest) ↔ bytes = type.codec.encode value ++ rest) ∧
    (∀ bytes, (∃ value, type.codec.decodeAll bytes = .ok value) ↔
      bytes ∈ Set.range type.codec.encode) ∧
    (∀ bytes value, type.codec.decodeAll bytes = .ok value ↔ type.codec.encode value = bytes) ∧
    Function.Injective type.codec.encode ∧
    (∀ left right, type.codec.encode left <+: type.codec.encode right ↔ left = right) := by
  have whole (bytes : List UInt8) (value : type.Value) :
      type.codec.decodeAll bytes = .ok value ↔ type.codec.encode value = bytes := by
    rw [type.codec.decodeAll_eq_ok_iff, eq_comm]
  refine ⟨type.codec.decode_encode, ?_, ?_, whole, ?_, ?_⟩
  · intro bytes value rest
    exact type.codec.decode_eq_ok_iff
  · intro bytes
    exact exists_congr (whole bytes)
  · intro left right same
    exact type.codec.encode_injective same
  · intro left right
    exact type.codec.encode_prefix_encode_iff

end WireType

end LiquidityController
