import LiquidityController.Proofs.Bytes.LittleEndian
import LiquidityController.Wire.Codec
import Mathlib.Data.List.Nodup

/-!
# Lawful codecs

A codec is lawful if reading accepts exactly what writing produces and leaves the bytes that
follow. All ways of building a codec from smaller ones keep the law, so the law of a record
follows from those of its fields.
-/

namespace LiquidityController

theorem bind_eq_ok {ε α β : Type} {first : Except ε α} {next : α → Except ε β} {result : β} :
    first >>= next = .ok result ↔ ∃ value, first = .ok value ∧ next value = .ok result := by
  cases first with
  | error failure => simp [bind, Except.bind]
  | ok value => simp [bind, Except.bind]

namespace Codec

variable {α β : Type}

/-- Reading accepts exactly what writing produces, and leaves the rest. -/
class Lawful (codec : Codec α) : Prop where
  decode_eq_ok_iff (bytes : List UInt8) (value : α) (rest : List UInt8) :
    codec.decode bytes = .ok (value, rest) ↔ bytes = codec.encode value ++ rest

theorem decode_eq_ok_iff (codec : Codec α) [codec.Lawful] {bytes rest : List UInt8} {value : α} :
    codec.decode bytes = .ok (value, rest) ↔ bytes = codec.encode value ++ rest :=
  Lawful.decode_eq_ok_iff bytes value rest

theorem decode_encode (codec : Codec α) [codec.Lawful] (value : α) (rest : List UInt8) :
    codec.decode (codec.encode value ++ rest) = .ok (value, rest) :=
  codec.decode_eq_ok_iff.mpr rfl

theorem decodeAll_eq_ok_iff (codec : Codec α) [codec.Lawful] {bytes : List UInt8} {value : α} :
    codec.decodeAll bytes = .ok value ↔ bytes = codec.encode value := by
  constructor
  · intro read
    obtain ⟨⟨first, rest⟩, decoded, finished⟩ := bind_eq_ok.mp read
    cases rest with
    | nil =>
      cases finished
      simpa using codec.decode_eq_ok_iff.mp decoded
    | cons byte rest => cases finished
  · rintro rfl
    have decoded := codec.decode_encode value []
    rw [List.append_nil] at decoded
    exact bind_eq_ok.mpr ⟨(value, []), decoded, rfl⟩

theorem decodeAll_encode (codec : Codec α) [codec.Lawful] (value : α) :
    codec.decodeAll (codec.encode value) = .ok value :=
  codec.decodeAll_eq_ok_iff.mpr rfl

theorem encode_injective (codec : Codec α) [codec.Lawful] {left right : α}
    (same : codec.encode left = codec.encode right) : left = right := by
  have read := codec.decodeAll_eq_ok_iff.mpr same
  rw [codec.decodeAll_encode] at read
  exact Except.ok.inj read

theorem encode_append_inj (codec : Codec α) [codec.Lawful] {left right : α}
    {after after' : List UInt8} :
    codec.encode left ++ after = codec.encode right ++ after' ↔ left = right ∧ after = after' := by
  constructor
  · intro same
    have read := codec.decode_eq_ok_iff.mpr same
    rw [codec.decode_encode] at read
    exact Prod.mk.inj (Except.ok.inj read)
  · rintro ⟨rfl, rfl⟩
    rfl

/-- The bytes of a value tell where they end. -/
theorem encode_prefix_encode_iff (codec : Codec α) [codec.Lawful] {left right : α} :
    codec.encode left <+: codec.encode right ↔ left = right := by
  constructor
  · rintro ⟨after, longer⟩
    -- both values are read from the front of the longer byte string
    rw [← List.append_nil (codec.encode right)] at longer
    exact (codec.encode_append_inj.mp longer).1
  · rintro rfl
    exact List.prefix_rfl

/-! ### What is written -/

@[simp] theorem encode_block {n : Nat} (value : Block n) :
    (block n).encode value = value.bytes := rfl

@[simp] theorem encode_iso (codec : Codec α) (pack : α → β) (unpack : β → α) (value : β) :
    (codec.iso pack unpack).encode value = codec.encode (unpack value) := rfl

@[simp] theorem encode_pair (left : Codec α) (right : Codec β) (value : α × β) :
    (left.pair right).encode value = left.encode value.1 ++ right.encode value.2 := rfl

@[simp] theorem encode_u8 (value : UInt8) : u8.encode value = [value] := rfl

@[simp] theorem encode_u16 (value : UInt16) : u16.encode value = toLittleEndian 2 value.toNat := rfl

@[simp] theorem encode_u32 (value : UInt32) : u32.encode value = toLittleEndian 4 value.toNat := rfl

@[simp] theorem encode_u64 (value : UInt64) : u64.encode value = toLittleEndian 8 value.toNat := rfl

@[simp] theorem encode_i64 (value : Int64) :
    i64.encode value = toLittleEndian 8 value.toUInt64.toNat := rfl

@[simp] theorem encode_address (value : Address) : address.encode value = value.bytes := rfl

@[simp] theorem encode_bool (value : Bool) : bool.encode value = [if value then 1 else 0] := rfl

/-! ### Codecs that keep the law -/

instance : Lawful empty where
  decode_eq_ok_iff bytes value rest := by simp [empty]

instance (short : DecodeError) (n : Nat) : Lawful (blockOr short n) where
  decode_eq_ok_iff bytes value rest := by
    simp only [blockOr]
    split
    next enough =>
      constructor
      · intro read
        obtain ⟨rfl, rfl⟩ := Prod.mk.inj (Except.ok.inj read)
        exact (List.take_append_drop n bytes).symm
      · rintro rfl
        congr 2
        · exact Block.ext (List.take_left' value.length)
        · exact List.drop_left' value.length
    next short =>
      constructor
      · intro read
        cases read
      · rintro rfl
        simp at short

instance (n : Nat) : Lawful (block n) :=
  inferInstanceAs (Lawful (blockOr _ n))

instance (n : Nat) : Lawful (padding n) :=
  inferInstanceAs (Lawful (blockOr _ n))

theorem Lawful.iso {codec : Codec α} [codec.Lawful] {pack : α → β} {unpack : β → α}
    (pack_unpack : ∀ value, pack (unpack value) = value)
    (unpack_pack : ∀ value, unpack (pack value) = value) : (codec.iso pack unpack).Lawful where
  decode_eq_ok_iff bytes value rest := by
    simp only [Codec.iso]
    constructor
    · intro read
      obtain ⟨⟨first, after⟩, decoded, packed⟩ := bind_eq_ok.mp read
      obtain ⟨rfl, rfl⟩ := Prod.mk.inj (Except.ok.inj packed)
      rw [unpack_pack]
      exact codec.decode_eq_ok_iff.mp decoded
    · rintro rfl
      refine bind_eq_ok.mpr ⟨_, codec.decode_encode (unpack value) rest, ?_⟩
      simp only [pack_unpack]
      rfl

instance (left : Codec α) (right : Codec β) [left.Lawful] [right.Lawful] :
    Lawful (left.pair right) where
  decode_eq_ok_iff bytes value rest := by
    simp only [pair]
    constructor
    · intro read
      obtain ⟨⟨first, middle⟩, decoded, read⟩ := bind_eq_ok.mp read
      obtain ⟨⟨second, after⟩, decoded', packed⟩ := bind_eq_ok.mp read
      obtain ⟨rfl, rfl⟩ := Prod.mk.inj (Except.ok.inj packed)
      have front : bytes = left.encode first ++ middle := left.decode_eq_ok_iff.mp decoded
      have back : middle = right.encode second ++ after := right.decode_eq_ok_iff.mp decoded'
      rw [front, back, List.append_assoc]
    · rintro rfl
      rw [List.append_assoc]
      refine bind_eq_ok.mpr ⟨_, left.decode_encode value.1 _, ?_⟩
      exact bind_eq_ok.mpr ⟨_, right.decode_encode value.2 rest, rfl⟩

instance {content : α → Type} (left : Codec α) (right : (value : α) → Codec (content value))
    [left.Lawful] [∀ value, (right value).Lawful] : Lawful (left.dependentPair right) where
  decode_eq_ok_iff bytes value rest := by
    simp only [dependentPair]
    constructor
    · intro read
      obtain ⟨⟨first, middle⟩, decoded, read⟩ := bind_eq_ok.mp read
      obtain ⟨⟨second, after⟩, decoded', packed⟩ := bind_eq_ok.mp read
      obtain ⟨rfl, rfl⟩ := Prod.mk.inj (Except.ok.inj packed)
      have front : bytes = left.encode first ++ middle := left.decode_eq_ok_iff.mp decoded
      have back : middle = (right first).encode second ++ after :=
        (right first).decode_eq_ok_iff.mp decoded'
      rw [front, back, List.append_assoc]
    · rintro rfl
      rw [List.append_assoc]
      refine bind_eq_ok.mpr ⟨_, left.decode_encode value.1 _, ?_⟩
      exact bind_eq_ok.mpr ⟨_, (right value.1).decode_encode value.2 rest, rfl⟩

instance : Lawful u8 where
  decode_eq_ok_iff bytes value rest := by
    cases bytes with
    | nil => simp [u8]
    | cons byte bytes => simp [u8]

instance : Lawful u16 := .iso
  (fun value => by rw [Block.toNat_ofNat value.toNat_lt, UInt16.ofNat_toNat])
  (fun block => by rw [UInt16.toNat_ofNat_of_lt' block.toNat_lt, Block.ofNat_toNat])

instance : Lawful u32 := .iso
  (fun value => by rw [Block.toNat_ofNat value.toNat_lt, UInt32.ofNat_toNat])
  (fun block => by rw [UInt32.toNat_ofNat_of_lt' block.toNat_lt, Block.ofNat_toNat])

instance : Lawful u64 := .iso
  (fun value => by rw [Block.toNat_ofNat value.toNat_lt, UInt64.ofNat_toNat])
  (fun block => by rw [UInt64.toNat_ofNat_of_lt' block.toNat_lt, Block.ofNat_toNat])

instance : Lawful i64 := .iso Int64.toInt64_toUInt64 UInt64.toUInt64_toInt64

instance : Lawful address := .iso (fun _ => rfl) (fun _ => rfl)

instance : Lawful bool where
  decode_eq_ok_iff bytes value rest := by
    cases bytes with
    | nil => cases value <;> simp [bool, u8, bind, Except.bind]
    | cons byte bytes =>
      simp only [bool, u8, bind, Except.bind]
      split
      · cases value <;> simp [pure, Except.pure]
      · cases value <;> simp [pure, Except.pure]
      next unknown zero one =>
        constructor
        · intro read
          cases read
        · intro written
          cases value
          · exact absurd (List.cons.inj written).1 zero
          · exact absurd (List.cons.inj written).1 one

instance (codec : Codec α) [codec.Lawful] : Lawful codec.option where
  decode_eq_ok_iff bytes value rest := by
    simp only [option]
    constructor
    · intro read
      obtain ⟨⟨byte, after⟩, decoded, read⟩ := bind_eq_ok.mp read
      have front : bytes = [byte] ++ after := u8.decode_eq_ok_iff.mp decoded
      dsimp only at read
      -- the first byte says that nothing follows, that a value does, or it is refused
      split at read
      · cases read
        exact front
      · obtain ⟨⟨content, last⟩, decoded', packed⟩ := bind_eq_ok.mp read
        obtain ⟨rfl, rfl⟩ := Prod.mk.inj (Except.ok.inj packed)
        have back : after = codec.encode content ++ last := codec.decode_eq_ok_iff.mp decoded'
        rw [front, back]
        rfl
      · cases read
    · rintro rfl
      cases value with
      | none => exact bind_eq_ok.mpr ⟨_, u8.decode_encode 0 rest, rfl⟩
      | some content =>
        refine bind_eq_ok.mpr ⟨_, u8.decode_encode 1 _, ?_⟩
        exact bind_eq_ok.mpr ⟨_, codec.decode_encode content rest, rfl⟩

theorem Lawful.enumeration [DecidableEq α] {values : List α} (complete : ∀ value, value ∈ values)
    (distinct : values.Nodup) (few : values.length ≤ 256) : (enumeration values).Lawful where
  decode_eq_ok_iff bytes value rest := by
    simp only [Codec.enumeration]
    constructor
    · intro read
      obtain ⟨⟨tag, after⟩, decoded, read⟩ := bind_eq_ok.mp read
      have front : bytes = [tag] ++ after := u8.decode_eq_ok_iff.mp decoded
      dsimp only at read
      split at read
      next found listed =>
        obtain ⟨rfl, rfl⟩ := Prod.mk.inj (Except.ok.inj read)
        obtain ⟨inside, rfl⟩ := List.getElem?_eq_some_iff.mp listed
        rw [front, distinct.idxOf_getElem, UInt8.ofNat_toNat]
      next => cases read
    · rintro rfl
      have inside : values.idxOf value < values.length :=
        List.idxOf_lt_length_of_mem (complete value)
      have tag : (UInt8.ofNat (values.idxOf value)).toNat = values.idxOf value :=
        UInt8.toNat_ofNat_of_lt' (Nat.lt_of_lt_of_le inside few)
      refine bind_eq_ok.mpr ⟨_, u8.decode_encode (UInt8.ofNat (values.idxOf value)) rest, ?_⟩
      simp only [tag, List.getElem?_eq_getElem inside, List.getElem_idxOf]
      rfl

/-- The listed alternatives cover a type without overlap, and each of them is lawful. -/
structure Variant.Cover (variants : List (Variant α)) : Prop where
  few : variants.length ≤ 256
  lawful : ∀ variant ∈ variants, variant.codec.Lawful
  complete : ∀ value, ∃ (place : Nat) (variant : Variant α) (content : variant.content),
    variants[place]? = some variant ∧ variant.make content = value
  read_make : ∀ variant ∈ variants, ∀ content, variant.read? (variant.make content) = some content
  apart : variants.Pairwise fun earlier later =>
    ∀ content, earlier.read? (later.make content) = none

/-- A value is written as the place of its alternative, because no earlier one reads it. -/
theorem encodeVariant_make {variants : List (Variant α)} {variant : Variant α} {place : Nat}
    (listed : variants[place]? = some variant)
    (read_make : ∀ variant ∈ variants, ∀ content,
      variant.read? (variant.make content) = some content)
    (apart : variants.Pairwise fun earlier later =>
      ∀ content, earlier.read? (later.make content) = none)
    (start : Nat) (content : variant.content) :
    encodeVariant (variant.make content) start variants =
      .ofNat (start + place) :: variant.codec.encode content := by
  induction variants generalizing place start with
  | nil => simp at listed
  | cons first others ih =>
    cases place with
    -- the alternative in front is the one that was listed, or it does not read the value
    | zero =>
      simp only [List.getElem?_cons_zero, Option.some.injEq] at listed
      subst listed
      simp only [encodeVariant, read_make first List.mem_cons_self, Nat.add_zero]
    | succ place =>
      rw [List.getElem?_cons_succ] at listed
      have member : variant ∈ others := List.mem_of_getElem? listed
      have skipped := (List.pairwise_cons.mp apart).1 variant member content
      have found := ih listed (fun v hv => read_make v (List.mem_cons_of_mem _ hv))
        (List.pairwise_cons.mp apart).2 (start + 1)
      simp only [encodeVariant, skipped, found]
      rw [Nat.add_right_comm, Nat.add_assoc]

theorem Lawful.union {variants : List (Variant α)} (cover : Variant.Cover variants) :
    (union variants).Lawful where
  decode_eq_ok_iff bytes value rest := by
    have written {variant : Variant α} {place : Nat} (listed : variants[place]? = some variant)
        (content : variant.content) : encodeVariant (variant.make content) 0 variants =
          .ofNat place :: variant.codec.encode content := by
      simpa using encodeVariant_make listed cover.read_make cover.apart 0 content
    simp only [Codec.union]
    constructor
    · intro read
      obtain ⟨⟨tag, after⟩, decoded, read⟩ := bind_eq_ok.mp read
      have front : bytes = [tag] ++ after := u8.decode_eq_ok_iff.mp decoded
      dsimp only at read
      split at read
      next found variant listed =>
        have := cover.lawful variant (List.mem_of_getElem? listed)
        obtain ⟨⟨content, last⟩, decoded', packed⟩ := bind_eq_ok.mp read
        obtain ⟨rfl, rfl⟩ := Prod.mk.inj (Except.ok.inj packed)
        have back : after = variant.codec.encode content ++ last :=
          variant.codec.decode_eq_ok_iff.mp decoded'
        rw [front, back, written listed, UInt8.ofNat_toNat]
        rfl
      next => cases read
    · rintro rfl
      obtain ⟨place, variant, content, listed, rfl⟩ := cover.complete value
      have := cover.lawful variant (List.mem_of_getElem? listed)
      obtain ⟨inside, -⟩ := List.getElem?_eq_some_iff.mp listed
      have tag : (UInt8.ofNat place).toNat = place :=
        UInt8.toNat_ofNat_of_lt' (Nat.lt_of_lt_of_le inside cover.few)
      rw [written listed]
      refine bind_eq_ok.mpr ⟨_, u8.decode_encode (UInt8.ofNat place) _, ?_⟩
      simp only [tag, listed]
      exact bind_eq_ok.mpr ⟨_, variant.codec.decode_encode content rest, rfl⟩

end Codec

end LiquidityController
