import LiquidityController.Proofs.Integration.ConfigCodec

/-!
# Where a stored config keeps its fields

Every field of a config has a fixed place in its stored form. The place is given here by offsets
into the whole byte string, and not by reading the fields one after the other.
-/

namespace LiquidityController

/-- The number in a range of bytes, lowest byte first. -/
def numberAt (bytes : List UInt8) (start stop : Nat) : Nat :=
  ofLittleEndian (bytes.extract start stop)

/-- Addresses in steps of their length from an offset on. -/
def AddressesAt (bytes : List UInt8) : Nat → List Address → Prop
  | _, [] => True
  | offset, address :: rest =>
    address.bytes = bytes.extract offset (offset + 32) ∧ AddressesAt bytes (offset + 32) rest

namespace Config

/-- The places of the fields of each kind, behind the tag. -/
def Kind.FieldsAt (bytes : List UInt8) : (kind : Kind) → kind.Fields → Prop
  | undefined, _ => True
  | of .splTokenExternal, c =>
    AddressesAt bytes 1 [c.program, c.mint, c.recipient, c.tokenAccount]
  | of .splTokenSwap, c =>
    AddressesAt bytes 1 [c.program, c.swap, c.mintA, c.mintB, c.lpMint, c.lpTokenAccount]
  | of .cctpBridge, c =>
    AddressesAt bytes 1 [c.program, c.mint, c.destinationAddress] ∧
    c.destinationDomain.toNat = numberAt bytes 97 101
  | of .lzBridge, c =>
    AddressesAt bytes 1 [c.program, c.mint, c.oftStore, c.peerConfig, c.tokenEscrow,
      c.destinationAddress] ∧
    c.destinationEid.toNat = numberAt bytes 193 197
  | of .atomicSwap, c =>
    AddressesAt bytes 1 [c.inputToken, c.outputToken, c.oracle] ∧
    c.maxSlippageBps.toNat = numberAt bytes 97 99 ∧
    c.maxStaleness.toNat = numberAt bytes 99 107 ∧
    c.inputMintDecimals.toNat = numberAt bytes 107 108 ∧
    c.outputMintDecimals.toNat = numberAt bytes 108 109 ∧
    c.expiryTimestamp.toInt = (numberAt bytes 109 117 : Int).bmod (2 ^ 64) ∧
    c.oraclePriceInverted.toNat = numberAt bytes 117 118
  | of .drift, c =>
    c.subAccountId.toNat = numberAt bytes 1 3 ∧
    c.spotMarketIndex.toNat = numberAt bytes 3 5
  | of .kamino, c =>
    AddressesAt bytes 1 [c.market, c.reserve, c.reserveFarmCollateral, c.reserveFarmDebt,
      c.reserveLiquidityMint, c.obligation] ∧
    c.obligationId.toNat = numberAt bytes 193 194

/-- The bytes hold a config: its tag, then its fields, then its padding up to the end. -/
structure StoredAs (config : Config) (bytes : List UInt8) : Prop where
  tag : bytes[0]? = some config.tag
  fields : config.kind.FieldsAt bytes config.payload.fields
  padding : config.payload.padding.bytes = bytes.extract (1 + config.kind.fieldsLength) 225

end Config

/-! ### Walking through a record -/

theorem extract_of_drop {bytes field rest : List UInt8} {start width : Nat}
    (remaining : bytes.drop start = field ++ rest) (length : field.length = width) :
    bytes.extract start (start + width) = field ∧ bytes.drop (start + width) = rest := by
  constructor
  · rw [List.extract_eq_take_drop, remaining, Nat.add_sub_cancel_left]
    exact List.take_left' length
  · rw [← List.drop_drop, remaining]
    exact List.drop_left' length

theorem addressesAt_of_drop {bytes rest : List UInt8} {start : Nat} (addresses : List Address)
    (remaining : bytes.drop start = addresses.flatMap (·.bytes) ++ rest) :
    AddressesAt bytes start addresses ∧ bytes.drop (start + 32 * addresses.length) = rest := by
  induction addresses generalizing start with
  | nil => exact ⟨trivial, by simpa using remaining⟩
  | cons address others ih =>
    rw [List.flatMap_cons, List.append_assoc] at remaining
    obtain ⟨first, remaining⟩ := extract_of_drop remaining address.length
    obtain ⟨later, remaining⟩ := ih remaining
    refine ⟨⟨first.symm, later⟩, ?_⟩
    rw [← remaining, List.length_cons]
    congr 1
    omega

theorem numberAt_of_drop {bytes rest : List UInt8} {start width value : Nat}
    (remaining : bytes.drop start = toLittleEndian width value ++ rest)
    (fits : value < 256 ^ width) :
    value = numberAt bytes start (start + width) ∧ bytes.drop (start + width) = rest := by
  obtain ⟨range, remaining⟩ := extract_of_drop remaining (length_toLittleEndian width value)
  refine ⟨?_, remaining⟩
  rw [numberAt, range, ofLittleEndian_toLittleEndian width value fits]

theorem byteAt_of_drop {bytes rest : List UInt8} {start : Nat} {byte : UInt8}
    (remaining : bytes.drop start = byte :: rest) :
    byte.toNat = numberAt bytes start (start + 1) ∧ bytes.drop (start + 1) = rest := by
  obtain ⟨range, remaining⟩ :
      bytes.extract start (start + 1) = [byte] ∧ bytes.drop (start + 1) = rest :=
    extract_of_drop remaining rfl
  refine ⟨?_, remaining⟩
  rw [numberAt, range]
  rfl

theorem addressesAt_unique {bytes : List UInt8} {start : Nat} {left right : List Address}
    (hl : AddressesAt bytes start left) (hr : AddressesAt bytes start right)
    (same : left.length = right.length) : left = right := by
  induction left generalizing start right with
  | nil => exact (List.eq_nil_of_length_eq_zero same.symm).symm
  | cons first others ih =>
    cases right with
    | nil => cases same
    | cons first' others' =>
      have head : first = first' := Codec.address.encode_injective (hl.1.trans hr.1.symm)
      rw [head, ih hl.2 hr.2 (Nat.succ.inj same)]

namespace Config

/-- The fields of a kind are where they belong as soon as they are written behind the tag. -/
theorem Kind.fieldsAt_of_drop {bytes rest : List UInt8} (kind : Kind) (fields : kind.Fields)
    (remaining : bytes.drop 1 = kind.fieldsCodec.encode fields ++ rest) :
    kind.FieldsAt bytes fields := by
  -- each step reads the field in front and leaves the bytes behind it to the next step
  cases kind with
  | undefined => trivial
  | of protocol =>
    cases protocol with
    | splTokenExternal =>
      have written : bytes.drop 1 = [fields.program, fields.mint, fields.recipient,
          fields.tokenAccount].flatMap (·.bytes) ++ rest := by
        simpa [fieldsCodec, SplTokenExternal.codec] using remaining
      exact (addressesAt_of_drop _ written).1
    | splTokenSwap =>
      have written : bytes.drop 1 = [fields.program, fields.swap, fields.mintA, fields.mintB,
          fields.lpMint, fields.lpTokenAccount].flatMap (·.bytes) ++ rest := by
        simpa [fieldsCodec, SplTokenSwap.codec] using remaining
      exact (addressesAt_of_drop _ written).1
    | cctpBridge =>
      have written : bytes.drop 1 =
          [fields.program, fields.mint, fields.destinationAddress].flatMap (·.bytes) ++
            (toLittleEndian 4 fields.destinationDomain.toNat ++ rest) := by
        simpa [fieldsCodec, CctpBridge.codec] using remaining
      obtain ⟨addresses, remaining⟩ := addressesAt_of_drop _ written
      exact ⟨addresses, (numberAt_of_drop remaining fields.destinationDomain.toNat_lt).1⟩
    | lzBridge =>
      have written : bytes.drop 1 = [fields.program, fields.mint, fields.oftStore,
          fields.peerConfig, fields.tokenEscrow, fields.destinationAddress].flatMap (·.bytes) ++
            (toLittleEndian 4 fields.destinationEid.toNat ++ rest) := by
        simpa [fieldsCodec, LzBridge.codec] using remaining
      obtain ⟨addresses, remaining⟩ := addressesAt_of_drop _ written
      exact ⟨addresses, (numberAt_of_drop remaining fields.destinationEid.toNat_lt).1⟩
    | atomicSwap =>
      have written : bytes.drop 1 =
          [fields.inputToken, fields.outputToken, fields.oracle].flatMap (·.bytes) ++
            (toLittleEndian 2 fields.maxSlippageBps.toNat ++
            (toLittleEndian 8 fields.maxStaleness.toNat ++
            (fields.inputMintDecimals :: fields.outputMintDecimals ::
            (toLittleEndian 8 fields.expiryTimestamp.toUInt64.toNat ++
            ((if fields.oraclePriceInverted then 1 else 0) :: rest))))) := by
        simpa [fieldsCodec, AtomicSwap.codec] using remaining
      obtain ⟨addresses, remaining⟩ := addressesAt_of_drop _ written
      obtain ⟨slippage, remaining⟩ := numberAt_of_drop remaining fields.maxSlippageBps.toNat_lt
      obtain ⟨staleness, remaining⟩ := numberAt_of_drop remaining fields.maxStaleness.toNat_lt
      obtain ⟨inputDecimals, remaining⟩ := byteAt_of_drop remaining
      obtain ⟨outputDecimals, remaining⟩ := byteAt_of_drop remaining
      obtain ⟨expiry, remaining⟩ :=
        numberAt_of_drop remaining fields.expiryTimestamp.toUInt64.toNat_lt
      obtain ⟨inverted, remaining⟩ := byteAt_of_drop remaining
      refine ⟨addresses, slippage, staleness, inputDecimals, outputDecimals, ?_, ?_⟩
      · -- the bytes hold the two's complement, of which `bmod` is the signed value
        change fields.expiryTimestamp.toUInt64.toNat = numberAt bytes 109 117 at expiry
        rw [← expiry]
        exact BitVec.toInt_eq_toNat_bmod _
      · change _ = numberAt bytes 117 118 at inverted
        rw [← inverted]
        cases fields.oraclePriceInverted <;> rfl
    | drift =>
      have written : bytes.drop 1 = toLittleEndian 2 fields.subAccountId.toNat ++
          (toLittleEndian 2 fields.spotMarketIndex.toNat ++ rest) := by
        simpa [fieldsCodec, Drift.codec] using remaining
      obtain ⟨subAccount, remaining⟩ := numberAt_of_drop written fields.subAccountId.toNat_lt
      exact ⟨subAccount, (numberAt_of_drop remaining fields.spotMarketIndex.toNat_lt).1⟩
    | kamino =>
      have written : bytes.drop 1 = [fields.market, fields.reserve, fields.reserveFarmCollateral,
          fields.reserveFarmDebt, fields.reserveLiquidityMint, fields.obligation].flatMap (·.bytes)
            ++ (fields.obligationId :: rest) := by
        simpa [fieldsCodec, Kamino.codec] using remaining
      obtain ⟨addresses, remaining⟩ := addressesAt_of_drop _ written
      exact ⟨addresses, (byteAt_of_drop remaining).1⟩

/-- The places determine the fields. -/
theorem Kind.fieldsAt_unique {bytes : List UInt8} (kind : Kind) {left right : kind.Fields}
    (hl : kind.FieldsAt bytes left) (hr : kind.FieldsAt bytes right) : left = right := by
  cases kind with
  | undefined => rfl
  | of protocol =>
    cases protocol with
    | splTokenExternal =>
      have addresses := addressesAt_unique hl hr rfl
      cases left; cases right
      simpa using addresses
    | splTokenSwap =>
      have addresses := addressesAt_unique hl hr rfl
      cases left; cases right
      simpa using addresses
    | cctpBridge =>
      have addresses := addressesAt_unique hl.1 hr.1 rfl
      have domain := UInt32.toNat_inj.mp (hl.2.trans hr.2.symm)
      cases left; cases right
      simp_all
    | lzBridge =>
      have addresses := addressesAt_unique hl.1 hr.1 rfl
      have eid := UInt32.toNat_inj.mp (hl.2.trans hr.2.symm)
      cases left; cases right
      simp_all
    | atomicSwap =>
      obtain ⟨addresses, slippage, staleness, input, output, expiry, inverted⟩ := hl
      obtain ⟨addresses', slippage', staleness', input', output', expiry', inverted'⟩ := hr
      have addresses := addressesAt_unique addresses addresses' rfl
      have slippage := UInt16.toNat_inj.mp (slippage.trans slippage'.symm)
      have staleness := UInt64.toNat_inj.mp (staleness.trans staleness'.symm)
      have input := UInt8.toNat_inj.mp (input.trans input'.symm)
      have output := UInt8.toNat_inj.mp (output.trans output'.symm)
      have expiry := Int64.toInt_inj.mp (expiry.trans expiry'.symm)
      have inverted : left.oraclePriceInverted = right.oraclePriceInverted := by
        rw [Bool.eq_iff_iff, ← Bool.toNat_eq_one, ← Bool.toNat_eq_one, inverted, inverted']
      cases left; cases right
      simp_all
    | drift =>
      have subAccount := UInt16.toNat_inj.mp (hl.1.trans hr.1.symm)
      have market := UInt16.toNat_inj.mp (hl.2.trans hr.2.symm)
      cases left; cases right
      simp_all
    | kamino =>
      have addresses := addressesAt_unique hl.1 hr.1 rfl
      have obligation := UInt8.toNat_inj.mp (hl.2.trans hr.2.symm)
      cases left; cases right
      simp_all

end Config

end LiquidityController
