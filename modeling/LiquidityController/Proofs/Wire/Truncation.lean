import LiquidityController.Proofs.Instruction.ArgumentCodecs
import LiquidityController.Proofs.Integration.ConfigDecoding

/-!
# Damaged byte strings

A written value from which bytes are missing at the end is never taken for another value, and
neither is one with further bytes after it. This does not follow from the law of a codec alone: the
beginning of a written value might be refused for what it holds instead of for what it lacks. So
the error is followed through all ways of building a codec from smaller ones.

## Main result

`damage_reported`: what is said about arguments and about stored payloads that are cut off or
continued.
-/

namespace LiquidityController

/-- Some of the bytes, from the first one on, but not all of them. -/
def Truncated (whole cut : List UInt8) : Prop :=
  cut <+: whole ∧ cut ≠ whole

theorem truncated_append (front : List UInt8) {back : List UInt8} (missing : back ≠ []) :
    Truncated (front ++ back) front :=
  ⟨List.prefix_append front back, fun same => missing (List.self_eq_append_right.mp same)⟩

theorem Truncated.ne_nil {whole cut : List UInt8} (truncated : Truncated whole cut) :
    whole ≠ [] := by
  rintro rfl
  exact truncated.2 (List.prefix_nil.mp truncated.1)

theorem Truncated.length_lt {whole cut : List UInt8} (truncated : Truncated whole cut) :
    cut.length < whole.length := by
  obtain ⟨start, missing⟩ := truncated
  rcases Nat.lt_or_ge cut.length whole.length with fewer | enough
  · exact fewer
  · exact absurd (start.eq_of_length_le enough) missing

theorem Truncated.cons_cases {byte : UInt8} {rest cut : List UInt8}
    (truncated : Truncated (byte :: rest) cut) :
    cut = [] ∨ ∃ cut', Truncated rest cut' ∧ cut = byte :: cut' := by
  obtain ⟨start, missing⟩ := truncated
  cases cut with
  | nil => exact .inl rfl
  | cons first cut' =>
    obtain ⟨rfl, later⟩ := List.cons_prefix_cons.mp start
    refine .inr ⟨cut', ⟨later, ?_⟩, rfl⟩
    rintro rfl
    exact missing rfl

/-- Either the first part is cut off already, or it is complete and the second one is cut off. -/
theorem Truncated.append_cases {front back cut : List UInt8}
    (truncated : Truncated (front ++ back) cut) :
    Truncated front cut ∨ ∃ cut', Truncated back cut' ∧ cut = front ++ cut' := by
  induction front generalizing cut with
  | nil => exact .inr ⟨cut, truncated, rfl⟩
  | cons byte front ih =>
    rcases truncated.cons_cases with rfl | ⟨cut, later, rfl⟩
    · exact .inl ⟨List.nil_prefix, (List.cons_ne_nil _ _).symm⟩
    · rcases ih later with ⟨start, missing⟩ | ⟨cut', behind, rfl⟩
      · refine .inl ⟨(List.prefix_cons_inj byte).mpr start, ?_⟩
        intro same
        exact missing (List.cons.inj same).2
      · exact .inr ⟨cut', behind, rfl⟩

namespace Codec

variable {α β : Type}

/-- What is left of a written value is refused for the bytes that it lacks. -/
class RunsDry (codec : Codec α) (short : outParam DecodeError) : Prop where
  decode_truncated (value : α) (cut : List UInt8) (truncated : Truncated (codec.encode value) cut) :
    codec.decode cut = .error short

theorem decode_truncated (codec : Codec α) {short : DecodeError} [codec.RunsDry short]
    {value : α} {cut : List UInt8} (truncated : Truncated (codec.encode value) cut) :
    codec.decode cut = .error short :=
  RunsDry.decode_truncated value cut truncated

/-! ### Codecs of a single byte -/

/-- Of a single byte nothing is left. -/
theorem RunsDry.of_byte {codec : Codec α} (byte : ∀ value, (codec.encode value).length = 1)
    (nothing : codec.decode [] = .error .unexpectedEnd) : codec.RunsDry .unexpectedEnd where
  decode_truncated value cut truncated := by
    have fewer := truncated.length_lt
    rw [byte] at fewer
    have empty : cut = [] := List.eq_nil_of_length_eq_zero (by omega)
    rw [empty, nothing]

instance : RunsDry u8 .unexpectedEnd :=
  .of_byte (fun _ => rfl) rfl

instance : RunsDry bool .unexpectedEnd :=
  .of_byte (fun _ => rfl) rfl

theorem RunsDry.enumeration [DecidableEq α] {values : List α} :
    (enumeration values).RunsDry .unexpectedEnd :=
  .of_byte (fun _ => rfl) rfl

/-! ### Codecs made of others -/

instance : RunsDry empty .unexpectedEnd where
  decode_truncated _ _ truncated := absurd rfl truncated.ne_nil

instance (short : DecodeError) (n : Nat) : RunsDry (blockOr short n) short where
  decode_truncated block cut truncated := by
    have fewer : cut.length < block.bytes.length := truncated.length_lt
    rw [block.length] at fewer
    have missing : ¬n ≤ cut.length := by omega
    simp only [blockOr, dif_neg missing]

instance (n : Nat) : RunsDry (block n) .unexpectedEnd :=
  inferInstanceAs (RunsDry (blockOr _ n) _)

instance (n : Nat) : RunsDry (padding n) .endInPadding :=
  inferInstanceAs (RunsDry (blockOr _ n) _)

variable {short : DecodeError}

theorem RunsDry.iso {codec : Codec α} [codec.RunsDry short] {pack : α → β} {unpack : β → α} :
    (codec.iso pack unpack).RunsDry short where
  decode_truncated value cut truncated := by
    have dry : codec.decode cut = .error short := codec.decode_truncated truncated
    simp only [Codec.iso, dry, bind, Except.bind]

/-- The second reader is only reached behind a complete first value. -/
instance (left : Codec α) (right : Codec β) [left.Lawful] [left.RunsDry short]
    [right.RunsDry short] : RunsDry (left.pair right) short where
  decode_truncated value cut truncated := by
    rcases Truncated.append_cases truncated with first | ⟨cut, second, rfl⟩
    · have dry : left.decode cut = .error short := left.decode_truncated first
      simp only [pair, dry, bind, Except.bind]
    · have dry : right.decode cut = .error short := right.decode_truncated second
      simp only [pair, left.decode_encode, dry, bind, Except.bind]

instance : RunsDry u16 .unexpectedEnd := .iso

instance : RunsDry u32 .unexpectedEnd := .iso

instance : RunsDry u64 .unexpectedEnd := .iso

instance : RunsDry i64 .unexpectedEnd := .iso

instance : RunsDry address .unexpectedEnd := .iso

/-- An absent value is a single byte, so what is left of it is not taken for one. -/
instance (codec : Codec α) [codec.RunsDry .unexpectedEnd] :
    RunsDry codec.option .unexpectedEnd where
  decode_truncated value cut truncated := by
    cases value with
    | none =>
      rcases Truncated.cons_cases truncated with rfl | ⟨cut, behind, rfl⟩
      · rfl
      · exact absurd rfl behind.ne_nil
    | some content =>
      rcases Truncated.cons_cases truncated with rfl | ⟨cut, behind, rfl⟩
      · rfl
      · have dry : codec.decode cut = .error .unexpectedEnd := codec.decode_truncated behind
        change (codec.decode cut >>= fun read => pure (some read.1, read.2)) = _
        rw [dry]
        rfl

/-- Behind the number of an alternative only the content of that alternative can be cut off. -/
theorem RunsDry.union {variants : List (Variant α)} (lawful : (Codec.union variants).Lawful)
    (each : ∀ variant ∈ variants, variant.codec.Lawful ∧ variant.codec.RunsDry .unexpectedEnd) :
    (Codec.union variants).RunsDry .unexpectedEnd where
  decode_truncated value cut truncated := by
    -- the value is read back from its own bytes, which shows the number and the content in them
    have read := (Codec.union variants).decode_encode value []
    rw [List.append_nil] at read
    obtain ⟨⟨tag, rest⟩, tagged, read⟩ := bind_eq_ok.mp read
    have written : (Codec.union variants).encode value = tag :: rest :=
      u8.decode_eq_ok_iff.mp tagged
    rw [written] at truncated
    rcases truncated.cons_cases with rfl | ⟨cut, behind, rfl⟩
    · rfl
    · dsimp only at read
      split at read
      next variant listed =>
        obtain ⟨_, _⟩ := each variant (List.mem_of_getElem? listed)
        obtain ⟨⟨content, after⟩, decoded, finished⟩ := bind_eq_ok.mp read
        obtain rfl : after = [] := (Prod.mk.inj (Except.ok.inj finished)).2
        have content_eq : rest = variant.codec.encode content := by
          simpa using variant.codec.decode_eq_ok_iff.mp decoded
        rw [content_eq] at behind
        have dry : variant.codec.decode cut = .error .unexpectedEnd :=
          variant.codec.decode_truncated behind
        simp only [Codec.union, u8, bind, Except.bind, listed, dry]
      next => cases read

/-! ### Whole byte strings -/

theorem decodeAll_of_error {codec : Codec α} {bytes : List UInt8} {error : DecodeError}
    (refused : codec.decode bytes = .error error) : codec.decodeAll bytes = .error error := by
  simp only [decodeAll, refused, bind, Except.bind]

theorem decodeAll_append (codec : Codec α) [codec.Lawful] (value : α) {extra : List UInt8}
    (more : extra ≠ []) :
    codec.decodeAll (codec.encode value ++ extra) = .error .trailingBytes := by
  have left : extra.isEmpty = false := List.isEmpty_eq_false_iff.mpr more
  simp only [decodeAll, codec.decode_encode, bind, Except.bind, left]
  rfl

end Codec

/-! ### Arguments -/

open Codec (RunsDry)

instance : RunsDry Status.codec .unexpectedEnd := .enumeration

instance : RunsDry Protocol.codec .unexpectedEnd := .enumeration

instance : RunsDry Description.codec .unexpectedEnd := .iso

instance : RunsDry RateLimit.codec .unexpectedEnd := .iso

instance : RunsDry Feed.codec .unexpectedEnd := .iso

instance : RunsDry Capabilities.codec .unexpectedEnd := .iso

instance : RunsDry Setup.codec .unexpectedEnd :=
  .union (inferInstanceAs Setup.codec.Lawful) <| by
    simp only [List.forall_mem_cons]
    refine ⟨?_, ?_, ?_, ?_, ?_, ?_, nofun⟩ <;> constructor <;> infer_instance

instance : RunsDry Push.codec .unexpectedEnd :=
  .union (inferInstanceAs Push.codec.Lawful) <| by
    simp only [List.forall_mem_cons]
    refine ⟨?_, ?_, ?_, ?_, ?_, nofun⟩ <;> constructor <;> infer_instance

instance : RunsDry Pull.codec .unexpectedEnd :=
  .union (inferInstanceAs Pull.codec.Lawful) <| by
    simp only [List.forall_mem_cons]
    refine ⟨?_, ?_, ?_, ?_, ?_, nofun⟩ <;> constructor <;> infer_instance

instance (kind : Instruction.Kind) : RunsDry kind.codec .unexpectedEnd := by
  cases kind with
  | initializeController => exact (.iso : RunsDry InitializeController.Arguments.codec _)
  | manageController => exact (.iso : RunsDry ManageController.Arguments.codec _)
  | managePermission => exact (.iso : RunsDry ManagePermission.Arguments.codec _)
  | initializeReserve => exact (.iso : RunsDry InitializeReserve.Arguments.codec _)
  | manageReserve => exact (.iso : RunsDry ManageReserve.Arguments.codec _)
  | initializeIntegration => exact (.iso : RunsDry InitializeIntegration.Arguments.codec _)
  | manageIntegration => exact (.iso : RunsDry ManageIntegration.Arguments.codec _)
  | push => exact inferInstanceAs (RunsDry Push.codec _)
  | pull => exact inferInstanceAs (RunsDry Pull.codec _)
  | initializeOracle => exact (.iso : RunsDry InitializeOracle.Arguments.codec _)
  | updateOracle => exact (.iso : RunsDry UpdateOracle.Arguments.codec _)
  -- of no bytes none can be missing
  | syncReserve => exact inferInstanceAs (RunsDry Codec.empty _)
  | syncIntegration => exact inferInstanceAs (RunsDry Codec.empty _)
  | refreshOracle => exact inferInstanceAs (RunsDry Codec.empty _)
  | claimRent => exact inferInstanceAs (RunsDry Codec.empty _)

/-! ### Stored payloads -/

/-- The padding has an error of its own, so the place of the cut shows in the error. -/
theorem Config.Payload.decode_truncated {kind : Kind} {payload : Payload kind} {cut : List UInt8}
    (truncated : Truncated ((codec kind).encode payload) cut) :
    (codec kind).decode cut =
      .error (if kind.fieldsLength ≤ cut.length then .endInPadding else .unexpectedEnd) := by
  have length := kind.length_encode_fieldsCodec payload.fields
  rcases Truncated.append_cases truncated with fields | ⟨cut, padding, rfl⟩
  · have fewer : cut.length < (kind.fieldsCodec.encode payload.fields).length :=
      fields.length_lt
    rw [length] at fewer
    rw [decode_short fewer, if_neg (Nat.not_le_of_lt fewer)]
  · have dry : (Codec.padding kind.paddingLength).decode cut = .error .endInPadding :=
      (Codec.padding kind.paddingLength).decode_truncated padding
    have complete : kind.fieldsLength ≤ (kind.fieldsCodec.encode payload.fields ++ cut).length := by
      rw [List.length_append, length]
      omega
    rw [if_pos complete]
    simp only [codec, Codec.iso, Codec.pair, kind.fieldsCodec.decode_encode, dry, bind, Except.bind]

/-! ### Main theorem -/

/-- The arguments of an instruction are refused if any number of bytes is missing at their end, for
what is missing, and if any bytes follow, for these. The same holds of a stored payload, where it is
told whether the fields or only the padding behind them is incomplete. -/
theorem damage_reported :
    (∀ (kind : Instruction.Kind) (arguments : kind.Arguments),
      (∀ cut, Truncated (kind.codec.encode arguments) cut →
        ∃ error, kind.codec.decodeAll cut = .error error ∧
          error.message = "Unexpected length of input") ∧
      ∀ extra, extra ≠ [] →
        ∃ error, kind.codec.decodeAll (kind.codec.encode arguments ++ extra) = .error error ∧
          error.message = "Not all bytes read") ∧
    ∀ (protocol : Protocol) (payload : Config.Payload (.of protocol)),
      let codec := Config.Payload.codec (.of protocol)
      (∀ cut, Truncated (codec.encode payload) cut →
        ∃ error, codec.decodeAll cut = .error error ∧
          error.message =
            if (Config.Kind.of protocol).fieldsLength ≤ cut.length
            then "unexpected end of buffer reading padding"
            else "Unexpected length of input") ∧
      ∀ extra, extra ≠ [] →
        ∃ error, codec.decodeAll (codec.encode payload ++ extra) = .error error ∧
          error.message = "Not all bytes read" := by
  constructor
  · intro kind arguments
    constructor
    · intro cut truncated
      exact ⟨_, Codec.decodeAll_of_error (kind.codec.decode_truncated truncated), rfl⟩
    · intro extra more
      exact ⟨_, kind.codec.decodeAll_append arguments more, rfl⟩
  · intro protocol payload codec
    constructor
    · intro cut truncated
      refine ⟨_, Codec.decodeAll_of_error (Config.Payload.decode_truncated truncated), ?_⟩
      split <;> rfl
    · intro extra more
      exact ⟨_, codec.decodeAll_append payload more, rfl⟩

/-- An update of a reserve that changes nothing is written as three zeros, of which two are not read
as an update, nor are four. A deposit whose fields are cut off is told from one that lacks padding.
-/
theorem damage_reported_of_short_values :
    let update := Instruction.Kind.manageReserve.codec
    let payload := Config.Payload.codec (.of .drift)
    let deposit : Config.Payload (.of .drift) := ⟨⟨1, 2⟩, .zero _⟩
    update.encode ⟨none, none, none⟩ = [0, 0, 0] ∧
    Truncated (update.encode ⟨none, none, none⟩) [0, 0] ∧
    (∃ error, update.decodeAll [0, 0] = .error error ∧
      error.message = "Unexpected length of input") ∧
    (∃ error, update.decodeAll [0, 0, 0, 0] = .error error ∧
      error.message = "Not all bytes read") ∧
    Truncated (payload.encode deposit) [1, 0, 2] ∧
    (∃ error, payload.decodeAll [1, 0, 2] = .error error ∧
      error.message = "Unexpected length of input") ∧
    Truncated (payload.encode deposit) [1, 0, 2, 0] ∧
    ∃ error, payload.decodeAll [1, 0, 2, 0] = .error error ∧
      error.message = "unexpected end of buffer reading padding" := by
  intro update payload deposit
  obtain ⟨arguments, payloads⟩ := damage_reported
  obtain ⟨cut, continued⟩ := arguments .manageReserve ⟨none, none, none⟩
  have zeros : Truncated (update.encode ⟨none, none, none⟩) [0, 0] := ⟨by decide, by decide⟩
  have start : payload.encode deposit =
      [1, 0, 2, 0] ++ (Block.zero (Config.Kind.of .drift).paddingLength).bytes := by
    have written : Config.Drift.codec.encode ⟨1, 2⟩ = [1, 0, 2, 0] := by decide
    rw [← written]
    rfl
  have padding : (Block.zero (Config.Kind.of .drift).paddingLength).bytes ≠ [] := by decide
  have fields : Truncated (payload.encode deposit) [1, 0, 2, 0] := by
    rw [start]
    exact truncated_append [1, 0, 2, 0] padding
  have field : Truncated (payload.encode deposit) [1, 0, 2] := by
    rw [start]
    exact truncated_append [1, 0, 2] (List.cons_ne_nil 0 _)
  exact ⟨by decide, zeros, cut [0, 0] zeros, continued [0] (by decide),
    field, (payloads .drift deposit).1 [1, 0, 2] field,
    fields, (payloads .drift deposit).1 [1, 0, 2, 0] fields⟩

end LiquidityController
