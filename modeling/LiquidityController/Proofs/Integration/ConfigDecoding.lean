import LiquidityController.Proofs.Integration.ConfigLayout

/-!
# Reading a stored config

A byte string is the stored form of a config exactly if it has the right length, starts with a
known tag and, for a swap, holds a truth value where one belongs. Any other byte string is refused
for the first thing that is wrong with it.

## Main result

`Config.decodeAll_characterised`: which byte strings are read, as what, and with what words the
others are refused.
-/

namespace LiquidityController.Config

/-- The truth value of a swap is zero or one. -/
def BoolAt (bytes : List UInt8) : Prop :=
  bytes[0]? = some 5 → bytes[117]? = some 0 ∨ bytes[117]? = some 1

/-- What a stored config looks like. -/
structure WellFormed (bytes : List UInt8) : Prop where
  length : bytes.length = 225
  tag : ∃ tag, bytes[0]? = some tag ∧ tag ≤ 7
  bool : BoolAt bytes

/-- With what words a byte string is refused. -/
inductive Malformed (bytes : List UInt8) : String → Prop where
  | empty (nothing : bytes = []) : Malformed bytes "Unexpected length of input"
  | unknownKind (tag : UInt8) (starts : bytes[0]? = some tag) (unknown : 7 < tag) :
    Malformed bytes s!"Unexpected variant index: {tag}"
  | endInFields (kind : Kind) (starts : bytes[0]? = some kind.tag)
    (short : bytes.length < 1 + kind.fieldsLength) : Malformed bytes "Unexpected length of input"
  | invalidBool (byte : UInt8) (starts : bytes[0]? = some 5) (flag : bytes[117]? = some byte)
    (large : 1 < byte) : Malformed bytes s!"Invalid bool representation: {byte}"
  | endInPadding (kind : Kind) (starts : bytes[0]? = some kind.tag)
    (fields : 1 + kind.fieldsLength ≤ bytes.length) (bool : BoolAt bytes)
    (short : bytes.length < 225) : Malformed bytes "unexpected end of buffer reading padding"
  | trailing (kind : Kind) (starts : bytes[0]? = some kind.tag) (bool : BoolAt bytes)
    (long : 225 < bytes.length) : Malformed bytes "Not all bytes read"

/-! ### Tags -/

theorem Kind.exists_tag_eq {tag : UInt8} (known : tag ≤ 7) : ∃ kind : Kind, kind.tag = tag := by
  have inside : tag.toNat < all.length := Nat.lt_succ_of_le (UInt8.le_iff_toNat_le.mp known)
  refine ⟨all[tag.toNat], ?_⟩
  rw [Kind.tag, nodup_all.idxOf_getElem, UInt8.ofNat_toNat]

theorem Kind.decode_unknown {tag : UInt8} (rest : List UInt8) (unknown : 7 < tag) :
    Kind.codec.decode (tag :: rest) = .error (.unknownVariant tag) := by
  have outside : all[tag.toNat]? = none :=
    List.getElem?_eq_none (UInt8.lt_iff_toNat_lt.mp unknown)
  simp only [Kind.codec, Codec.enumeration, Codec.u8, bind, Except.bind, outside]
  rfl

/-! ### The payload -/

section Payload

variable {kind : Kind} {bytes : List UInt8}

theorem Payload.decode_short (few : bytes.length < kind.fieldsLength) :
    (Payload.codec kind).decode bytes = .error .unexpectedEnd := by
  simp only [Payload.codec, Codec.iso, Codec.pair, bind, Except.bind,
    kind.fixedWidth_fieldsCodec.short few]

theorem Payload.decode_refused {error : DecodeError} (enough : kind.fieldsLength ≤ bytes.length)
    (reason : kind.refusal bytes = some error) :
    (Payload.codec kind).decode bytes = .error error := by
  simp only [Payload.codec, Codec.iso, Codec.pair, bind, Except.bind,
    kind.fixedWidth_fieldsCodec.refused enough reason]

theorem Payload.decode_cut (enough : kind.fieldsLength ≤ bytes.length)
    (valid : kind.refusal bytes = none) (short : bytes.length < payloadLength) :
    (Payload.codec kind).decode bytes = .error .endInPadding := by
  obtain ⟨fields, decoded⟩ := kind.fixedWidth_fieldsCodec.accepted enough valid
  have missing : ¬kind.paddingLength ≤ (bytes.drop kind.fieldsLength).length := by
    rw [← kind.fieldsLength_add_paddingLength] at short
    rw [List.length_drop]
    omega
  simp only [Payload.codec, Codec.iso, Codec.pair, bind, Except.bind, decoded, Codec.padding,
    Codec.blockOr, dif_neg missing]

theorem Payload.decode_enough (enough : payloadLength ≤ bytes.length)
    (valid : kind.refusal bytes = none) :
    ∃ payload, (Payload.codec kind).decode bytes = .ok (payload, bytes.drop payloadLength) := by
  have total := kind.fieldsLength_add_paddingLength
  obtain ⟨fields, decoded⟩ := kind.fixedWidth_fieldsCodec.accepted (by omega) valid
  have present : kind.paddingLength ≤ (bytes.drop kind.fieldsLength).length := by
    rw [List.length_drop]
    omega
  simp only [Payload.codec, Codec.iso, Codec.pair, bind, Except.bind, decoded, Codec.padding,
    Codec.blockOr, dif_pos present, List.drop_drop, total]
  exact ⟨_, rfl⟩

end Payload

/-! ### The whole byte string -/

theorem decode_tagged {kind : Kind} (rest : List UInt8) :
    codec.decode (kind.tag :: rest) = (do
      let (payload, rest) ← (Payload.codec kind).decode rest
      return (⟨kind, payload⟩, rest)) := by
  have tagged : Kind.codec.decode (kind.tag :: rest) = .ok (kind, rest) :=
    Kind.codec.decode_encode kind rest
  simp only [codec, Codec.iso, Codec.dependentPair, bind, Except.bind, tagged]
  cases (Payload.codec kind).decode rest <;> rfl

theorem decodeAll_tagged_of_error {kind : Kind} {rest : List UInt8} {error : DecodeError}
    (refused : (Payload.codec kind).decode rest = .error error) :
    codec.decodeAll (kind.tag :: rest) = .error error := by
  simp only [Codec.decodeAll, decode_tagged, refused, bind, Except.bind]

theorem decodeAll_tagged_of_ok {kind : Kind} {rest after : List UInt8} {payload : Payload kind}
    (read : (Payload.codec kind).decode rest = .ok (payload, after)) :
    codec.decodeAll (kind.tag :: rest) =
      if after.isEmpty then .ok ⟨kind, payload⟩ else .error .trailingBytes := by
  simp only [Codec.decodeAll, decode_tagged, read, bind, Except.bind, pure, Except.pure]
  rfl

theorem Kind.eq_of_tag_eq {left right : Kind} (same : left.tag = right.tag) : left = right :=
  Kind.codec.encode_injective (congrArg (fun tag => [tag]) same)

theorem Kind.refusal_eq_none {kind : Kind} (other : kind ≠ .of .atomicSwap) (rest : List UInt8) :
    kind.refusal rest = none := by
  unfold Kind.refusal
  split
  · exact absurd rfl other
  · rfl

/-- Bytes with a known tag are refused for their content only if they lack a truth value. -/
theorem refusal_eq_none_iff {kind : Kind} {rest : List UInt8}
    (enough : kind.fieldsLength ≤ rest.length) :
    kind.refusal rest = none ↔ BoolAt (kind.tag :: rest) := by
  by_cases swap : kind = .of .atomicSwap
  · subst swap
    have flag : rest[116]? = some rest[116] := List.getElem?_eq_getElem enough
    have tag : (Kind.of .atomicSwap).tag = 5 := by decide
    simp only [Kind.refusal, Codec.unlessBool, List.head?_drop, BoolAt, tag, flag,
      List.getElem?_cons_zero, List.getElem?_cons_succ, true_implies, Option.some.injEq]
    grind
  · have other : kind.tag ≠ 5 := by
      intro same
      exact swap (Kind.eq_of_tag_eq same)
    simp [Kind.refusal_eq_none swap, BoolAt, other]

theorem refusal_eq_some {kind : Kind} {rest : List UInt8} {error : DecodeError}
    (reason : kind.refusal rest = some error) :
    kind.tag = 5 ∧ ∃ byte, rest[116]? = some byte ∧ 1 < byte ∧ error = .invalidBool byte := by
  by_cases swap : kind = .of .atomicSwap
  · subst swap
    simp only [Kind.refusal, Codec.unlessBool, List.head?_drop] at reason
    split at reason
    next byte flag =>
      split at reason
      next => cases reason
      next large =>
        have invalid := (Option.some.inj reason).symm
        exact ⟨by decide, byte, flag, UInt8.not_le.mp large, invalid⟩
    next => cases reason
  · rw [Kind.refusal_eq_none swap] at reason
    cases reason

theorem exists_eq_cons {bytes : List UInt8} {tag : UInt8} (starts : bytes[0]? = some tag) :
    ∃ rest, bytes = tag :: rest := by
  cases bytes with
  | nil => cases starts
  | cons first rest =>
    cases starts
    exact ⟨rest, rfl⟩

/-- Every byte string is either well-formed or has a first thing wrong with it. -/
theorem wellFormed_or_malformed (bytes : List UInt8) :
    WellFormed bytes ∨ ∃ text, Malformed bytes text := by
  cases bytes with
  | nil => exact Or.inr ⟨_, .empty rfl⟩
  | cons tag rest =>
    by_cases known : tag ≤ 7
    · obtain ⟨kind, rfl⟩ := Kind.exists_tag_eq known
      -- the checks in the order in which the reader makes them: fields, truth value, padding
      rcases Nat.lt_or_ge rest.length kind.fieldsLength with short | enough
      · exact Or.inr ⟨_, .endInFields kind rfl (by rw [List.length_cons]; omega)⟩
      · cases reason : kind.refusal rest with
        | some error =>
          obtain ⟨swap, byte, flag, large, _⟩ := refusal_eq_some reason
          exact Or.inr ⟨_, .invalidBool byte (congrArg some swap) flag large⟩
        | none =>
          have bool := (refusal_eq_none_iff enough).mp reason
          rcases Nat.lt_trichotomy (kind.tag :: rest).length 225 with short | filled | long
          · exact Or.inr ⟨_, .endInPadding kind rfl (by rw [List.length_cons]; omega) bool short⟩
          · exact Or.inl ⟨filled, ⟨_, rfl, known⟩, bool⟩
          · exact Or.inr ⟨_, .trailing kind rfl bool long⟩
    · exact Or.inr ⟨_, .unknownKind tag rfl (UInt8.not_le.mp known)⟩

theorem exists_decodeAll_of_wellFormed {bytes : List UInt8} (formed : WellFormed bytes) :
    ∃ config, codec.decodeAll bytes = .ok config := by
  obtain ⟨tag, starts, known⟩ := formed.tag
  obtain ⟨kind, rfl⟩ := Kind.exists_tag_eq known
  obtain ⟨rest, rfl⟩ := exists_eq_cons starts
  have filled : rest.length = payloadLength := Nat.succ.inj formed.length
  have enough : kind.fieldsLength ≤ rest.length := filled ▸ kind.fieldsLength_le
  have valid := (refusal_eq_none_iff enough).mpr formed.bool
  obtain ⟨payload, read⟩ := Payload.decode_enough (Nat.le_of_eq filled.symm) valid
  refine ⟨⟨kind, payload⟩, ?_⟩
  rw [decodeAll_tagged_of_ok read, ← filled, List.drop_length]
  rfl

theorem decodeAll_of_malformed {bytes : List UInt8} {text : String}
    (malformed : Malformed bytes text) :
    ∃ error, codec.decodeAll bytes = .error error ∧ error.message = text := by
  cases malformed with
  | empty nothing =>
    subst nothing
    exact ⟨.unexpectedEnd, rfl, rfl⟩
  | unknownKind tag starts unknown =>
    obtain ⟨rest, rfl⟩ := exists_eq_cons starts
    refine ⟨.unknownVariant tag, ?_, rfl⟩
    simp only [Codec.decodeAll, codec, Codec.iso, Codec.dependentPair, bind, Except.bind,
      Kind.decode_unknown rest unknown]
  | endInFields kind starts short =>
    obtain ⟨rest, rfl⟩ := exists_eq_cons starts
    have few : rest.length < kind.fieldsLength := by
      rw [List.length_cons] at short
      omega
    exact ⟨.unexpectedEnd, decodeAll_tagged_of_error (Payload.decode_short few), rfl⟩
  | invalidBool byte starts flag large =>
    obtain ⟨rest, rfl⟩ := exists_eq_cons starts
    -- the truth value is the last field, so the fields are complete if it is there
    have reason : (Kind.of .atomicSwap).refusal rest = some (.invalidBool byte) := by
      rw [List.getElem?_cons_succ] at flag
      simp only [Kind.refusal, Codec.unlessBool, List.head?_drop, flag, UInt8.not_le.mpr large,
        ite_false]
    have inside := (List.getElem?_eq_some_iff.mp flag).1
    have enough : (Kind.of .atomicSwap).fieldsLength ≤ rest.length := Nat.le_of_lt_succ inside
    exact ⟨.invalidBool byte, decodeAll_tagged_of_error (Payload.decode_refused enough reason), rfl⟩
  | endInPadding kind starts fields bool short =>
    obtain ⟨rest, rfl⟩ := exists_eq_cons starts
    rw [List.length_cons] at fields short
    have enough : kind.fieldsLength ≤ rest.length := by omega
    have valid := (refusal_eq_none_iff enough).mpr bool
    have cut : rest.length < payloadLength := Nat.lt_of_succ_lt_succ short
    exact ⟨.endInPadding, decodeAll_tagged_of_error (Payload.decode_cut enough valid cut), rfl⟩
  | trailing kind starts bool long =>
    obtain ⟨rest, rfl⟩ := exists_eq_cons starts
    have more : payloadLength < rest.length := Nat.lt_of_succ_lt_succ long
    have enough := Nat.le_trans kind.fieldsLength_le (Nat.le_of_lt more)
    have valid := (refusal_eq_none_iff enough).mpr bool
    obtain ⟨payload, read⟩ := Payload.decode_enough (Nat.le_of_lt more) valid
    refine ⟨.trailingBytes, ?_, rfl⟩
    have left : (rest.drop payloadLength).isEmpty = false := by
      rw [List.isEmpty_eq_false_iff, ne_eq, List.drop_eq_nil_iff]
      omega
    rw [decodeAll_tagged_of_ok read, left]
    rfl

/-! ### What is read -/

theorem storedAs_encode (config : Config) : config.StoredAs (codec.encode config) := by
  have written : (codec.encode config).drop 1 = config.kind.fieldsCodec.encode
      config.payload.fields ++ config.payload.padding.bytes := rfl
  have remaining := config.drop_encode
  rw [← List.append_nil config.payload.padding.bytes] at remaining
  have padding := (extract_of_drop remaining config.payload.padding.length).1
  rw [Nat.add_assoc, config.kind.fieldsLength_add_paddingLength] at padding
  exact ⟨rfl, config.kind.fieldsAt_of_drop config.payload.fields written, padding.symm⟩

theorem storedAs_unique {bytes : List UInt8} {left right : Config} (hl : left.StoredAs bytes)
    (hr : right.StoredAs bytes) : left = right := by
  obtain ⟨kind, fields, padding⟩ := left
  obtain ⟨kind', fields', padding'⟩ := right
  have same : kind = kind' := Kind.eq_of_tag_eq (Option.some.inj (hl.tag.symm.trans hr.tag))
  subst same
  have fields_eq : fields = fields' := kind.fieldsAt_unique hl.fields hr.fields
  have padding_eq : padding = padding' := Block.ext (hl.padding.trans hr.padding.symm)
  rw [fields_eq, padding_eq]

theorem storedAs_of_decodeAll {bytes : List UInt8} {config : Config}
    (read : codec.decodeAll bytes = .ok config) : config.StoredAs bytes := by
  rw [codec.decodeAll_eq_ok_iff.mp read]
  exact storedAs_encode config

/-! ### Main theorem -/

/-- Reading a config succeeds exactly on the well-formed byte strings, returns exactly the config
that is stored there, and refuses every other byte string in exactly the words for the first thing
that is wrong with it. -/
theorem decodeAll_characterised (bytes : List UInt8) :
    ((∃ config, codec.decodeAll bytes = .ok config) ↔ WellFormed bytes) ∧
    (∀ config, codec.decodeAll bytes = .ok config ↔ WellFormed bytes ∧ config.StoredAs bytes) ∧
    (∀ text, (∃ error, codec.decodeAll bytes = .error error ∧ error.message = text) ↔
      Malformed bytes text) := by
  -- a string that is read is well-formed, because every other one is refused
  have succeeds (config : Config) (read : codec.decodeAll bytes = .ok config) :
      WellFormed bytes := by
    rcases wellFormed_or_malformed bytes with formed | ⟨text, malformed⟩
    · exact formed
    · obtain ⟨error, refused, _⟩ := decodeAll_of_malformed malformed
      rw [read] at refused
      cases refused
  refine ⟨⟨fun ⟨config, read⟩ => succeeds config read, exists_decodeAll_of_wellFormed⟩, ?_, ?_⟩
  · intro config
    constructor
    · intro read
      exact ⟨succeeds config read, storedAs_of_decodeAll read⟩
    · rintro ⟨formed, stored⟩
      obtain ⟨found, read⟩ := exists_decodeAll_of_wellFormed formed
      rw [storedAs_unique stored (storedAs_of_decodeAll read)]
      exact read
  · intro text
    constructor
    · rintro ⟨error, refused, rfl⟩
      rcases wellFormed_or_malformed bytes with formed | ⟨text, malformed⟩
      · obtain ⟨config, read⟩ := exists_decodeAll_of_wellFormed formed
        rw [read] at refused
        cases refused
      · obtain ⟨error', refused', rfl⟩ := decodeAll_of_malformed malformed
        rw [refused] at refused'
        cases refused'
        exact malformed
    · exact decodeAll_of_malformed

end LiquidityController.Config
