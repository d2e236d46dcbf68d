import LiquidityController.Proofs.Integration.ConfigCodec

/-!
# The canonical form of a config

The digest of a config is only taken of bytes whose padding is zero. Such bytes and the configs
they store determine each other, and any other padding is refused.

## Main result

`Config.canonicalBytes_characterised`: which configs have a canonical form, what it looks like, and
which byte strings are one.
-/

namespace LiquidityController.Config

/-- Every byte of the padding is zero. -/
def PaddingZero (config : Config) : Prop :=
  ∀ byte ∈ config.payload.padding.bytes, byte = 0

/-- What the canonical form of a config looks like. -/
structure CanonicalForm (config : Config) (bytes : List UInt8) : Prop where
  length : bytes.length = 1 + 224
  tag : bytes[0]? = some config.tag
  zeros : bytes.drop (1 + config.kind.fieldsLength) = List.replicate config.kind.paddingLength 0
  read : codec.decodeAll bytes = .ok config

/-- The bytes of a stored config behind its fields are zero. -/
def ZeroTail (config : Config) (bytes : List UInt8) : Prop :=
  ∀ byte ∈ bytes.drop (1 + config.kind.fieldsLength), byte = 0

instance (config : Config) (bytes : List UInt8) : Decidable (config.ZeroTail bytes) :=
  inferInstanceAs (Decidable (∀ byte ∈ bytes.drop (1 + config.kind.fieldsLength), byte = 0))

theorem isZero_padding_iff (config : Config) :
    config.payload.padding.isZero = true ↔ config.PaddingZero := by
  simp [Block.isZero, PaddingZero]

theorem zeroTail_iff {config : Config} {bytes : List UInt8}
    (read : codec.decodeAll bytes = .ok config) : config.ZeroTail bytes ↔ config.PaddingZero := by
  rw [codec.decodeAll_eq_ok_iff.mp read, ZeroTail, config.drop_encode]
  rfl

theorem canonicalBytes_of_zero {config : Config} (zero : config.PaddingZero) :
    config.canonicalBytes = .ok (codec.encode config) :=
  if_pos (config.isZero_padding_iff.mpr zero)

theorem canonicalBytes_of_not_zero {config : Config} (nonzero : ¬config.PaddingZero) :
    config.canonicalBytes = .error .nonCanonicalPadding :=
  if_neg (fun zero => nonzero (config.isZero_padding_iff.mp zero))

theorem canonicalForm_encode {config : Config} (zero : config.PaddingZero) :
    config.CanonicalForm (codec.encode config) where
  length := config.length_encode
  tag := rfl
  zeros := by
    rw [config.drop_encode, List.eq_replicate_iff]
    exact ⟨config.payload.padding.length, zero⟩
  read := codec.decodeAll_encode config

theorem CanonicalForm.paddingZero {config : Config} {bytes : List UInt8}
    (form : config.CanonicalForm bytes) : config.PaddingZero := by
  apply (zeroTail_iff form.read).mp
  intro byte member
  rw [form.zeros] at member
  exact List.eq_of_mem_replicate member

theorem canonicalBytes_eq_ok_iff {config : Config} {bytes : List UInt8} :
    config.canonicalBytes = .ok bytes ↔ config.CanonicalForm bytes := by
  constructor
  · intro canonical
    by_cases zero : config.PaddingZero
    · rw [canonicalBytes_of_zero zero] at canonical
      cases canonical
      exact canonicalForm_encode zero
    · rw [canonicalBytes_of_not_zero zero] at canonical
      cases canonical
  · intro form
    rw [canonicalBytes_of_zero form.paddingZero, codec.decodeAll_eq_ok_iff.mp form.read]

theorem hash_of_zero {config : Config} (zero : config.PaddingZero) :
    config.hash = .ok (keccak256 (codec.encode config)) := by
  rw [hash, canonicalBytes_of_zero zero]
  rfl

theorem hash_of_not_zero {config : Config} (nonzero : ¬config.PaddingZero) :
    config.hash = .error .nonCanonicalPadding := by
  rw [hash, canonicalBytes_of_not_zero nonzero]
  rfl

theorem hash_eq_ok_iff {config : Config} {digest : Block 32} :
    config.hash = .ok digest ↔
      ∃ bytes, config.canonicalBytes = .ok bytes ∧ digest = keccak256 bytes := by
  by_cases zero : config.PaddingZero
  · rw [hash_of_zero zero, canonicalBytes_of_zero zero]
    simp [eq_comm]
  · rw [hash_of_not_zero zero, canonicalBytes_of_not_zero zero]
    simp

/-! ### Main theorem -/

/-- A config has a canonical form, and so a digest, exactly if its padding is zero. The form is the
only byte string of its shape that is read back as the config, and conversely a byte string that
is read as some config is its canonical form unless its tail is dirty. -/
theorem canonicalBytes_characterised :
    (∀ config : Config,
      ((∃ bytes, config.canonicalBytes = .ok bytes) ↔ config.PaddingZero) ∧
      ((∃ digest, config.hash = .ok digest) ↔ config.PaddingZero) ∧
      (config.canonicalBytes = .error .nonCanonicalPadding ↔ ¬config.PaddingZero) ∧
      (config.hash = .error .nonCanonicalPadding ↔ ¬config.PaddingZero) ∧
      (∀ bytes, config.canonicalBytes = .ok bytes ↔ config.CanonicalForm bytes) ∧
      (∀ digest, config.hash = .ok digest ↔
        ∃ bytes, config.canonicalBytes = .ok bytes ∧ digest = keccak256 bytes)) ∧
    (∀ (config : Config) (bytes : List UInt8), codec.decodeAll bytes = .ok config →
      config.canonicalBytes =
        if config.ZeroTail bytes then .ok bytes else .error .nonCanonicalPadding) ∧
    (∀ bytes : List UInt8, (∃ config : Config, config.canonicalBytes = .ok bytes) ↔
      ∃ config : Config, codec.decodeAll bytes = .ok config ∧ config.ZeroTail bytes) := by
  refine ⟨?_, ?_, ?_⟩
  · intro config
    by_cases zero : config.PaddingZero
    · simp only [hash_of_zero zero, canonicalBytes_of_zero zero, zero, ← canonicalBytes_eq_ok_iff]
      simp [eq_comm]
    · simp only [hash_of_not_zero zero, canonicalBytes_of_not_zero zero, zero,
        ← canonicalBytes_eq_ok_iff]
      simp
  · intro config bytes read
    split
    next clean =>
      have zero := (zeroTail_iff read).mp clean
      rw [canonicalBytes_of_zero zero, codec.decodeAll_eq_ok_iff.mp read]
    next dirty =>
      exact canonicalBytes_of_not_zero (fun zero => dirty ((zeroTail_iff read).mpr zero))
  · intro bytes
    constructor
    · rintro ⟨config, canonical⟩
      have form := canonicalBytes_eq_ok_iff.mp canonical
      exact ⟨config, form.read, (zeroTail_iff form.read).mpr form.paddingZero⟩
    · rintro ⟨config, read, clean⟩
      have zero := (zeroTail_iff read).mp clean
      refine ⟨config, ?_⟩
      rw [canonicalBytes_of_zero zero, codec.decodeAll_eq_ok_iff.mp read]

/-- A deposit whose last byte of padding is not zero is read but has no canonical form. -/
theorem canonicalBytes_of_dirty_deposit : ∃ config : Config,
    codec.decodeAll ([6, 1, 0, 2, 0] ++ (List.replicate 219 0 ++ [255])) = .ok config ∧
    config.canonicalBytes = .error .nonCanonicalPadding := by
  have length : (List.replicate 219 0 ++ [255] : List UInt8).length = 220 := by
    rw [List.length_append, List.length_replicate]
    rfl
  have read : codec.decodeAll ([6, 1, 0, 2, 0] ++ (List.replicate 219 0 ++ [255])) =
      .ok ⟨.of .drift, ⟨⟨1, 2⟩, ⟨List.replicate 219 0 ++ [255], length⟩⟩⟩ := by
    have front : [6, 1, 0, 2, 0] = (Kind.of .drift).tag :: Drift.codec.encode ⟨1, 2⟩ := by decide
    rw [codec.decodeAll_eq_ok_iff, front]
    rfl
  have dirty : ¬ZeroTail ⟨.of .drift, ⟨⟨1, 2⟩, ⟨List.replicate 219 0 ++ [255], length⟩⟩⟩
      ([6, 1, 0, 2, 0] ++ (List.replicate 219 0 ++ [255])) := by
    rw [zeroTail_iff read]
    intro zero
    exact absurd (zero 255 (List.mem_append_right _ List.mem_cons_self)) (by decide)
  refine ⟨_, read, ?_⟩
  rw [canonicalBytes_characterised.2.1 _ _ read, if_neg dirty]

end LiquidityController.Config
