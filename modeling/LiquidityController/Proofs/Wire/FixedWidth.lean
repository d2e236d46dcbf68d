import LiquidityController.Proofs.Wire.Lawful

/-!
# Codecs of a fixed width

Reading a record of numbers and addresses can only fail because bytes are missing. A record that
ends in a truth value can also be refused for what its last byte is.
-/

namespace LiquidityController.Codec

variable {α β : Type}

/-- Reading takes exactly `width` bytes. Fewer are refused as too few, and of that many `refusal`
says for what reason, if any, they are refused. -/
structure FixedWidth (codec : Codec α) (width : Nat)
    (refusal : List UInt8 → Option DecodeError) : Prop where
  short {bytes : List UInt8} (few : bytes.length < width) :
    codec.decode bytes = .error .unexpectedEnd
  refused {bytes : List UInt8} {error : DecodeError} (enough : width ≤ bytes.length)
    (reason : refusal bytes = some error) : codec.decode bytes = .error error
  accepted {bytes : List UInt8} (enough : width ≤ bytes.length) (valid : refusal bytes = none) :
    ∃ value, codec.decode bytes = .ok (value, bytes.drop width)

/-- No bytes are refused for what they are. -/
def anyBytes : List UInt8 → Option DecodeError :=
  fun _ => none

/-- A truth value is refused if its byte is neither zero nor one. -/
def unlessBool (bytes : List UInt8) : Option DecodeError :=
  match bytes.head? with
  | some byte => if byte ≤ 1 then none else some (.invalidBool byte)
  | none => none

namespace FixedWidth

theorem empty : FixedWidth Codec.empty 0 anyBytes where
  short few := absurd few (Nat.not_lt_zero _)
  refused _ reason := by cases reason
  accepted _ _ := ⟨(), rfl⟩

theorem block (n : Nat) : FixedWidth (Codec.block n) n anyBytes where
  short few := by
    have missing : ¬n ≤ _ := Nat.not_le_of_lt few
    simp only [Codec.block, blockOr, dif_neg missing]
  refused _ reason := by cases reason
  accepted {bytes} enough _ := by
    refine ⟨⟨bytes.take n, List.length_take_of_le enough⟩, ?_⟩
    simp only [Codec.block, blockOr, dif_pos enough]

theorem iso {codec : Codec α} {width : Nat} {refusal : List UInt8 → Option DecodeError}
    {pack : α → β} {unpack : β → α} (fixed : codec.FixedWidth width refusal) :
    (codec.iso pack unpack).FixedWidth width refusal where
  short few := by simp only [Codec.iso, fixed.short few, bind, Except.bind]
  refused enough reason := by
    simp only [Codec.iso, fixed.refused enough reason, bind, Except.bind]
  accepted enough valid := by
    obtain ⟨value, decoded⟩ := fixed.accepted enough valid
    exact ⟨pack value, bind_eq_ok.mpr ⟨_, decoded, rfl⟩⟩

/-- Only the second of two values may refuse bytes, so a missing byte is always noticed first. -/
theorem pair {left : Codec α} {right : Codec β} {m n : Nat}
    {refusal : List UInt8 → Option DecodeError} (first : left.FixedWidth m anyBytes)
    (second : right.FixedWidth n refusal) :
    (left.pair right).FixedWidth (m + n) (fun bytes => refusal (bytes.drop m)) where
  short {bytes} few := by
    by_cases enough : m ≤ bytes.length
    · obtain ⟨value, decoded⟩ := first.accepted enough rfl
      have missing : (bytes.drop m).length < n := by
        rw [List.length_drop]
        omega
      simp only [Codec.pair, decoded, second.short missing, bind, Except.bind]
    · simp only [Codec.pair, first.short (Nat.lt_of_not_le enough), bind, Except.bind]
  refused {bytes error} enough reason := by
    obtain ⟨value, decoded⟩ := first.accepted (Nat.le_trans (Nat.le_add_right m n) enough) rfl
    have remaining : n ≤ (bytes.drop m).length := by
      rw [List.length_drop]
      omega
    simp only [Codec.pair, decoded, second.refused remaining reason, bind, Except.bind]
  accepted {bytes} enough valid := by
    obtain ⟨value, decoded⟩ := first.accepted (Nat.le_trans (Nat.le_add_right m n) enough) rfl
    have remaining : n ≤ (bytes.drop m).length := by
      rw [List.length_drop]
      omega
    obtain ⟨value', decoded'⟩ := second.accepted remaining valid
    rw [List.drop_drop] at decoded'
    exact ⟨(value, value'), bind_eq_ok.mpr ⟨_, decoded, bind_eq_ok.mpr ⟨_, decoded', rfl⟩⟩⟩

theorem u8 : FixedWidth Codec.u8 1 anyBytes where
  short {bytes} few := by
    have nothing : bytes = [] := List.eq_nil_of_length_eq_zero (by omega)
    subst nothing
    rfl
  refused _ reason := by cases reason
  accepted {bytes} enough _ := by
    cases bytes with
    | nil => simp at enough
    | cons byte rest => exact ⟨byte, rfl⟩

theorem u16 : FixedWidth Codec.u16 2 anyBytes := (block 2).iso

theorem u32 : FixedWidth Codec.u32 4 anyBytes := (block 4).iso

theorem u64 : FixedWidth Codec.u64 8 anyBytes := (block 8).iso

theorem i64 : FixedWidth Codec.i64 8 anyBytes := u64.iso

theorem address : FixedWidth Codec.address 32 anyBytes := (block 32).iso

theorem bool : FixedWidth Codec.bool 1 unlessBool where
  short {bytes} few := by
    have nothing : bytes = [] := List.eq_nil_of_length_eq_zero (by omega)
    subst nothing
    rfl
  refused {bytes error} enough reason := by
    cases bytes with
    | nil => cases reason
    | cons byte rest =>
      simp only [unlessBool, List.head?_cons] at reason
      split at reason
      next => cases reason
      next large =>
        cases reason
        have zero : byte ≠ 0 := by rintro rfl; exact large (by decide)
        have one : byte ≠ 1 := by rintro rfl; exact large (by decide)
        simp only [Codec.bool, Codec.u8, bind, Except.bind]
        rfl
  accepted {bytes} enough valid := by
    cases bytes with
    | nil => simp at enough
    | cons byte rest =>
      simp only [unlessBool, List.head?_cons, ite_eq_left_iff, reduceCtorEq, imp_false,
        Decidable.not_not] at valid
      have either : byte = 0 ∨ byte = 1 := by grind
      rcases either with rfl | rfl
      · exact ⟨false, rfl⟩
      · exact ⟨true, rfl⟩

/-- What a lawful codec writes is as long as what it reads. -/
theorem length_encode {codec : Codec α} [codec.Lawful] {width : Nat}
    {refusal : List UInt8 → Option DecodeError} (fixed : codec.FixedWidth width refusal)
    (value : α) : (codec.encode value).length = width := by
  -- reading back what was written consumes all of it, so the width is neither more nor less
  have decoded := codec.decode_encode value []
  rw [List.append_nil] at decoded
  rcases Nat.lt_or_ge (codec.encode value).length width with few | enough
  · rw [fixed.short few] at decoded
    cases decoded
  · cases valid : refusal (codec.encode value) with
    | some error =>
      rw [fixed.refused enough valid] at decoded
      cases decoded
    | none =>
      obtain ⟨_, accepted⟩ := fixed.accepted enough valid
      rw [decoded] at accepted
      have nothing := (Prod.mk.inj (Except.ok.inj accepted)).2
      exact Nat.le_antisymm (List.drop_eq_nil_iff.mp nothing.symm) enough

end FixedWidth

end LiquidityController.Codec
