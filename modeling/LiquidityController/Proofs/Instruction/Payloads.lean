import LiquidityController.Proofs.Instruction.ArgumentCodecs

/-!
# Payloads

The bytes of an instruction are told apart by the first one, even where the rest is empty or has the
same length. So whoever reads them knows which instruction was meant, and with which arguments.

## Main result

`Instruction.Kind.payload_identifies`: bytes are the payload of at most one instruction with at most
one value of its arguments, and they are one exactly if they read as one.
-/

namespace LiquidityController

theorem Opcode.mem_all (opcode : Opcode) : opcode ∈ Opcode.all := by
  cases opcode <;> decide

theorem Opcode.discriminator_injective : Function.Injective discriminator := by
  intro left right same
  -- the table has fewer than 256 entries, so its positions fit into a byte
  have few (opcode : Opcode) : all.idxOf opcode < 256 :=
    Nat.lt_trans (List.idxOf_lt_length_of_mem opcode.mem_all) (by decide)
  have position (opcode : Opcode) : opcode.discriminator.toNat = all.idxOf opcode := by
    rw [discriminator, UInt8.toNat_ofNat', Nat.mod_eq_of_lt (few opcode)]
  have samePosition : all.idxOf left = all.idxOf right := by
    rw [← position, ← position, same]
  exact (List.idxOf_inj left.mem_all).mp samePosition

namespace Instruction.Kind

variable {kind left right : Kind} {bytes : List UInt8}

theorem opcode_injective : Function.Injective opcode := by
  intro left right same
  cases left <;> cases right <;> first | rfl | cases same

theorem eq_of_data_eq {arguments : left.Arguments} {arguments' : right.Arguments}
    (same : left.data arguments = right.data arguments') : left = right :=
  opcode_injective (Opcode.discriminator_injective (List.cons.inj same).1)

theorem data_injective (kind : Kind) : Function.Injective kind.data := by
  intro left right same
  exact kind.codec.encode_injective (List.cons.inj same).2

/-- Bytes are the payload of an instruction if they start with its number and go on with its
arguments. -/
theorem data_eq_iff {arguments : kind.Arguments} :
    kind.data arguments = bytes ↔
      bytes.head? = some kind.opcode.discriminator ∧
        kind.codec.decodeAll bytes.tail = .ok arguments := by
  cases bytes with
  | nil => simp [data]
  | cons first rest =>
    rw [data, List.cons.injEq, List.head?_cons, Option.some.injEq, List.tail_cons,
      kind.codec.decodeAll_eq_ok_iff]
    exact and_congr eq_comm eq_comm

/-! ### Main theorem -/

/-- Two instructions that carry the same bytes are of the same kind and have the same arguments.
Bytes are the payload of an instruction exactly if there is a first byte, which is the number of the
instruction, and the others read as its arguments as a whole; then these are its only arguments with
that payload. -/
theorem payload_identifies :
    (∀ (left right : Kind) (arguments : left.Arguments) (arguments' : right.Arguments),
      left.data arguments = right.data arguments' →
      (⟨left, arguments⟩ : Σ kind : Kind, kind.Arguments) = ⟨right, arguments'⟩) ∧
    (∀ (kind : Kind) (bytes : List UInt8),
      (∃ arguments, kind.data arguments = bytes) ↔
        bytes ≠ [] ∧ bytes.head? = some kind.opcode.discriminator ∧
          ∃ arguments, kind.codec.decodeAll bytes.tail = .ok arguments) ∧
    (∀ (kind : Kind) (bytes : List UInt8) (arguments : kind.Arguments),
      bytes.head? = some kind.opcode.discriminator →
      kind.codec.decodeAll bytes.tail = .ok arguments →
      kind.data arguments = bytes ∧ ∀ other, kind.data other = bytes → other = arguments) := by
  refine ⟨?_, ?_, ?_⟩
  · intro left right arguments arguments' same
    obtain rfl := eq_of_data_eq same
    rw [left.data_injective same]
  · intro kind bytes
    constructor
    · rintro ⟨arguments, rfl⟩
      obtain ⟨first, read⟩ := data_eq_iff.mp (rfl : kind.data arguments = _)
      exact ⟨List.cons_ne_nil _ _, first, arguments, read⟩
    · rintro ⟨-, first, arguments, read⟩
      exact ⟨arguments, data_eq_iff.mpr ⟨first, read⟩⟩
  · intro kind bytes arguments first read
    have written : kind.data arguments = bytes := data_eq_iff.mpr ⟨first, read⟩
    refine ⟨written, ?_⟩
    intro other same
    exact kind.data_injective (same.trans written.symm)

/-- Collecting rent and bringing a reserve up to date both take no arguments, and their bytes are
those of no other instruction. -/
theorem payload_identifies_without_arguments :
    claimRent.data () = [18] ∧ syncReserve.data () = [8] ∧
    (∀ (kind : Kind) (arguments : kind.Arguments), kind.data arguments = [18] →
      (⟨kind, arguments⟩ : Σ kind : Kind, kind.Arguments) = ⟨claimRent, ()⟩) ∧
    ∀ other, syncReserve.data other = [8] → other = () := by
  obtain ⟨apart, -, unique⟩ := payload_identifies
  have rent : claimRent.data () = [18] := by decide
  have reserve : syncReserve.data () = [8] := by decide
  refine ⟨rent, reserve, ?_, (unique syncReserve [8] () rfl rfl).2⟩
  intro kind arguments same
  exact apart kind claimRent arguments () (same.trans rent.symm)

end Instruction.Kind

end LiquidityController
