import LiquidityController.Instruction.Basic
import LiquidityController.Proofs.Integration.ConfigCodec

/-!
# Written arguments

The codecs of the arguments of instructions are lawful, so a program that reads the bytes of an
instruction finds exactly the arguments that were written.
-/

namespace LiquidityController

open Codec (Lawful)

instance : Lawful Status.codec :=
  .enumeration (by rintro (_ | _) <;> decide) (by decide) (by decide)

instance : Lawful Description.codec :=
  .iso (fun _ => rfl) (fun _ => rfl)

instance : Lawful RateLimit.codec :=
  .iso (fun _ => rfl) (fun _ => rfl)

instance : Lawful Setup.codec := .union {
  few := by decide
  lawful := by
    simp only [List.forall_mem_cons]
    refine ⟨?_, ?_, ?_, ?_, ?_, ?_, nofun⟩ <;> infer_instance
  complete := by
    intro setup
    cases setup with
    | splTokenExternal => exact ⟨0, _, (), rfl, rfl⟩
    | cctpBridge address domain => exact ⟨1, _, (address, domain), rfl, rfl⟩
    | lzBridge address eid => exact ⟨2, _, (address, eid), rfl, rfl⟩
    | atomicSwap slippage staleness expiry inverted =>
      exact ⟨3, _, (slippage, staleness, expiry, inverted), rfl, rfl⟩
    | drift subAccount market => exact ⟨4, _, (subAccount, market), rfl, rfl⟩
    | kamino obligation => exact ⟨5, _, obligation, rfl, rfl⟩
  read_make := by simp
  apart := by simp }

instance : Lawful InitializeIntegration.Arguments.codec :=
  .iso (fun _ => rfl) (fun _ => rfl)

instance : Lawful Push.codec := .union {
  few := by decide
  lawful := by
    simp only [List.forall_mem_cons]
    refine ⟨?_, ?_, ?_, ?_, ?_, nofun⟩ <;> infer_instance
  complete := by
    intro push
    cases push with
    | splTokenExternal amount => exact ⟨0, _, amount, rfl, rfl⟩
    | cctpBridge amount => exact ⟨1, _, amount, rfl, rfl⟩
    | lzBridge amount => exact ⟨2, _, amount, rfl, rfl⟩
    | drift market amount reduceOnly => exact ⟨3, _, (market, amount, reduceOnly), rfl, rfl⟩
    | kamino amount => exact ⟨4, _, amount, rfl, rfl⟩
  read_make := by simp
  apart := by simp }

instance : Lawful Pull.codec := .union {
  few := by decide
  lawful := by
    simp only [List.forall_mem_cons]
    refine ⟨?_, ?_, ?_, ?_, ?_, nofun⟩ <;> infer_instance
  complete := by
    intro pull
    cases pull with
    | splTokenExternal => exact ⟨0, _, (), rfl, rfl⟩
    | cctpBridge => exact ⟨1, _, (), rfl, rfl⟩
    | lzBridge => exact ⟨2, _, (), rfl, rfl⟩
    | kamino amount => exact ⟨3, _, amount, rfl, rfl⟩
    | drift market amount => exact ⟨4, _, (market, amount), rfl, rfl⟩
  read_make := by simp
  apart := by simp }

instance : Lawful InitializeController.Arguments.codec :=
  .iso (fun _ => rfl) (fun _ => rfl)

instance : Lawful ManageController.Arguments.codec :=
  .iso (fun _ => rfl) (fun _ => rfl)

instance : Lawful Capabilities.codec :=
  .iso (fun _ => rfl) (fun _ => rfl)

instance : Lawful ManagePermission.Arguments.codec :=
  .iso (fun _ => rfl) (fun _ => rfl)

instance : Lawful InitializeReserve.Arguments.codec :=
  .iso (fun _ => rfl) (fun _ => rfl)

instance : Lawful ManageReserve.Arguments.codec :=
  .iso (fun _ => rfl) (fun _ => rfl)

instance : Lawful ManageIntegration.Arguments.codec :=
  .iso (fun _ => rfl) (fun _ => rfl)

instance : Lawful InitializeOracle.Arguments.codec :=
  .iso (fun _ => rfl) (fun _ => rfl)

instance : Lawful Feed.codec :=
  .iso (fun _ => rfl) (fun _ => rfl)

instance : Lawful UpdateOracle.Arguments.codec :=
  .iso (fun _ => rfl) (fun _ => rfl)

/-- Every instruction carries bytes from which its arguments can be read back. -/
instance (kind : Instruction.Kind) : Lawful kind.codec := by
  cases kind with
  | initializeController => exact inferInstanceAs (Lawful InitializeController.Arguments.codec)
  | manageController => exact inferInstanceAs (Lawful ManageController.Arguments.codec)
  | managePermission => exact inferInstanceAs (Lawful ManagePermission.Arguments.codec)
  | initializeReserve => exact inferInstanceAs (Lawful InitializeReserve.Arguments.codec)
  | manageReserve => exact inferInstanceAs (Lawful ManageReserve.Arguments.codec)
  | initializeIntegration => exact inferInstanceAs (Lawful InitializeIntegration.Arguments.codec)
  | manageIntegration => exact inferInstanceAs (Lawful ManageIntegration.Arguments.codec)
  | push => exact inferInstanceAs (Lawful Push.codec)
  | pull => exact inferInstanceAs (Lawful Pull.codec)
  | initializeOracle => exact inferInstanceAs (Lawful InitializeOracle.Arguments.codec)
  | updateOracle => exact inferInstanceAs (Lawful UpdateOracle.Arguments.codec)
  -- the others carry no arguments
  | syncReserve => exact inferInstanceAs (Lawful Codec.empty)
  | syncIntegration => exact inferInstanceAs (Lawful Codec.empty)
  | refreshOracle => exact inferInstanceAs (Lawful Codec.empty)
  | claimRent => exact inferInstanceAs (Lawful Codec.empty)

end LiquidityController
