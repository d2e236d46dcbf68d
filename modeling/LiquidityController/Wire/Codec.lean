import LiquidityController.Address.Basic

/-!
# Binary codecs

A codec writes a value as bytes and reads it back from the front of a byte string. Records are
the concatenation of their fields, numbers have a fixed width with the lowest byte first, an
alternative is one byte that numbers it followed by its content. Nothing is aligned or filled
up, so every byte that a reader consumes is determined by the value it returns.
-/

namespace LiquidityController

/-- A reason for which bytes are not the written form of a value. -/
inductive DecodeError where
  | unexpectedEnd
  | endInPadding
  | trailingBytes
  | unknownVariant (tag : UInt8)
  | invalidBool (byte : UInt8)
  | invalidOption (byte : UInt8)
  deriving DecidableEq, Repr

def DecodeError.message : DecodeError → String
  | unexpectedEnd => "Unexpected length of input"
  | endInPadding => "unexpected end of buffer reading padding"
  | trailingBytes => "Not all bytes read"
  | unknownVariant tag => s!"Unexpected variant index: {tag}"
  | invalidBool byte => s!"Invalid bool representation: {byte}"
  | invalidOption byte =>
    s!"Invalid Option representation: {byte}. The first byte must be 0 or 1"

/-- A writer of values and a reader of one value that returns the bytes after it. -/
structure Codec (α : Type) where
  encode : α → List UInt8
  decode : List UInt8 → Except DecodeError (α × List UInt8)

namespace Codec

variable {α β : Type}

def decodeAll (codec : Codec α) (bytes : List UInt8) : Except DecodeError α := do
  let (value, rest) ← codec.decode bytes
  if rest.isEmpty then return value else throw .trailingBytes

def empty : Codec Unit where
  encode _ := []
  decode bytes := .ok ((), bytes)

/-- A block of bytes, with the error for a string that is too short. -/
def blockOr (short : DecodeError) (n : Nat) : Codec (Block n) where
  encode block := block.bytes
  decode bytes :=
    if enough : n ≤ bytes.length then
      .ok (⟨bytes.take n, List.length_take_of_le enough⟩, bytes.drop n)
    else .error short

def block (n : Nat) : Codec (Block n) :=
  blockOr .unexpectedEnd n

/-- The unused bytes at the end of a record. -/
def padding (n : Nat) : Codec (Block n) :=
  blockOr .endInPadding n

/-- The same bytes, read as values of another type. -/
def iso (codec : Codec α) (pack : α → β) (unpack : β → α) : Codec β where
  encode value := codec.encode (unpack value)
  decode bytes := do
    let (value, rest) ← codec.decode bytes
    return (pack value, rest)

def pair (left : Codec α) (right : Codec β) : Codec (α × β) where
  encode value := left.encode value.1 ++ right.encode value.2
  decode bytes := do
    let (first, rest) ← left.decode bytes
    let (second, rest) ← right.decode rest
    return ((first, second), rest)

/-- Two values, the second of a type that the first one selects. -/
def dependentPair {content : α → Type} (left : Codec α)
    (right : (value : α) → Codec (content value)) : Codec (Sigma content) where
  encode value := left.encode value.1 ++ (right value.1).encode value.2
  decode bytes := do
    let (first, rest) ← left.decode bytes
    let (second, rest) ← (right first).decode rest
    return (⟨first, second⟩, rest)

def u8 : Codec UInt8 where
  encode value := [value]
  decode
    | [] => .error .unexpectedEnd
    | value :: rest => .ok (value, rest)

def u16 : Codec UInt16 :=
  (block 2).iso (fun bytes => .ofNat bytes.toNat) (fun value => .ofNat 2 value.toNat)

def u32 : Codec UInt32 :=
  (block 4).iso (fun bytes => .ofNat bytes.toNat) (fun value => .ofNat 4 value.toNat)

def u64 : Codec UInt64 :=
  (block 8).iso (fun bytes => .ofNat bytes.toNat) (fun value => .ofNat 8 value.toNat)

/-- A signed number of 64 bits, in two's complement. -/
def i64 : Codec Int64 :=
  u64.iso UInt64.toInt64 Int64.toUInt64

def address : Codec Address :=
  (block 32).iso Address.mk Address.toBlock

/-- A truth value: zero or one. -/
def bool : Codec Bool where
  encode value := [if value then 1 else 0]
  decode bytes := do
    let (byte, rest) ← u8.decode bytes
    match byte with
    | 0 => return (false, rest)
    | 1 => return (true, rest)
    | byte => throw (.invalidBool byte)

/-- A value that may be absent: zero, or one and the value. -/
def option (codec : Codec α) : Codec (Option α) where
  encode
    | none => [0]
    | some value => 1 :: codec.encode value
  decode bytes := do
    let (byte, rest) ← u8.decode bytes
    match byte with
    | 0 => return (none, rest)
    | 1 =>
      let (value, rest) ← codec.decode rest
      return (some value, rest)
    | byte => throw (.invalidOption byte)

/-- One of the listed values, written as its place in the list. -/
def enumeration [DecidableEq α] (values : List α) : Codec α where
  encode value := [.ofNat (values.idxOf value)]
  decode bytes := do
    let (tag, rest) ← u8.decode bytes
    match values[tag.toNat]? with
    | some value => return (value, rest)
    | none => throw (.unknownVariant tag)

/-- One alternative of a type: how its content is written, and how it sits in the type. -/
structure Variant (α : Type) where
  {content : Type}
  codec : Codec content
  make : content → α
  read? : α → Option content

/-- A value as the number and the content of the first alternative that it belongs to. -/
def encodeVariant (value : α) : Nat → List (Variant α) → List UInt8
  | _, [] => []
  | tag, variant :: rest =>
    match variant.read? value with
    | some content => .ofNat tag :: variant.codec.encode content
    | none => encodeVariant value (tag + 1) rest

/-- A value of one of the listed alternatives, written as the place of the alternative in the
list and its content. -/
def union (variants : List (Variant α)) : Codec α where
  encode value := encodeVariant value 0 variants
  decode bytes := do
    let (tag, rest) ← u8.decode bytes
    match variants[tag.toNat]? with
    | some variant =>
      let (content, rest) ← variant.codec.decode rest
      return (variant.make content, rest)
    | none => throw (.unknownVariant tag)

end Codec

end LiquidityController
