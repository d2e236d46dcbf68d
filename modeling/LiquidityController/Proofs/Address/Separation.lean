import LiquidityController.Address.Derived
import LiquidityController.Proofs.Wire.Lawful

/-!
# Separation of derived addresses

Seeds are hashed one after the other, without separators and without lengths. What keeps two
accounts apart is the length of all seeds together and, where two kinds of account have seeds of
one length, the tag in front. The account can therefore be read back from its seeds, except that
the farms program uses one layout for the authority of a farm and for that of a global config.

## Main result

`Derived.address_separated`: two accounts under two programs share an address only if they are
the same account under the same program, or if their preimages are a collision of the digest.
-/

namespace LiquidityController

namespace Tag

def width : Tag → Nat
  | controller => 10
  | controllerAuthority => 20
  | permission => 10
  | reserve => 7
  | integration => 11
  | oracle => 6
  | driftSigner => 12
  | driftState => 11
  | userStats => 10
  | user => 4
  | spotMarket => 11
  | spotMarketVault => 17
  | liquiditySupply => 18
  | collateralMint => 17
  | collateralSupply => 19
  | marketAuthority => 3
  | userMetadata => 9
  | rewardsVault => 6
  | treasuryVault => 6
  | authority => 9

@[simp] theorem length_seed (tag : Tag) : tag.seed.bytes.length = tag.width := by
  cases tag <;> decide +kernel

def initial (tag : Tag) : UInt8 :=
  tag.seed.bytes.headD 0

@[simp] theorem head?_seed (tag : Tag) : tag.seed.bytes.head? = some tag.initial := by
  cases tag <;> decide +kernel

end Tag

namespace Derived

/-- Both authorities of the farms program are derived from the same seeds. -/
def unified : Derived → Derived
  | farmTreasuryAuthority globalConfig => farmVaultsAuthority globalConfig
  | account => account

/-- The accounts are equal, or they are the two farm authorities that belong to one key. -/
inductive SameSeeds : Derived → Derived → Prop where
  | refl (account : Derived) : SameSeeds account account
  | treasury (key : Address) : SameSeeds (farmVaultsAuthority key) (farmTreasuryAuthority key)
  | vaults (key : Address) : SameSeeds (farmTreasuryAuthority key) (farmVaultsAuthority key)

theorem unified_cases (account : Derived) : account.unified = account ∨
    ∃ key, account = farmTreasuryAuthority key ∧ account.unified = farmVaultsAuthority key := by
  cases account with
  | farmTreasuryAuthority key => exact .inr ⟨key, rfl, rfl⟩
  | _ => exact .inl rfl

theorem SameSeeds.of_unified_eq {left right : Derived} (same : left.unified = right.unified) :
    SameSeeds left right := by
  rcases left.unified_cases with plain | ⟨key, rfl, vaults⟩
  · rcases right.unified_cases with plain' | ⟨key, rfl, vaults⟩
    · rw [plain, plain'] at same
      exact same ▸ .refl left
    · rw [plain, vaults] at same
      exact same ▸ .treasury key
  · rcases right.unified_cases with plain | ⟨key', rfl, vaults'⟩
    · rw [vaults, plain] at same
      exact same ▸ .vaults key
    · rw [vaults, vaults'] at same
      cases same
      exact .refl _

theorem SameSeeds.seeds_eq {left right : Derived} (same : SameSeeds left right) :
    left.seeds = right.seeds := by
  cases same with
  | refl => rfl
  | treasury => rfl
  | vaults => rfl

/-! ### What a seed holds -/

@[simp] theorem bytes_ofAddress (key : Address) : (Seed.ofAddress key).bytes = key.bytes := rfl

@[simp] theorem bytes_ofDigest (digest : Block 32) :
    (Seed.ofDigest digest).bytes = digest.bytes := rfl

@[simp] theorem bytes_ofUInt16 (value : UInt16) :
    (Seed.ofUInt16 value).bytes = toLittleEndian 2 value.toNat := rfl

@[simp] theorem bytes_ofByte (byte : UInt8) : (Seed.ofByte byte).bytes = [byte] := rfl

/-! ### Reading an account back from its seeds -/

/-- The fields that follow a tag, if they fill the rest of the bytes. -/
def readAfter {α : Type} (tag : Tag) (codec : Codec α) (bytes : List UInt8) : Option α :=
  (codec.decodeAll (bytes.drop tag.seed.bytes.length)).toOption

theorem readAfter_append {α : Type} (tag : Tag) (codec : Codec α) [codec.Lawful] (fields : α) :
    readAfter tag codec (tag.seed.bytes ++ codec.encode fields) = some fields := by
  rw [readAfter, List.drop_left, codec.decodeAll_encode]
  rfl

/-- The account with the given seeds. Only four lengths belong to two kinds of account. -/
def ofSeedBytes? (bytes : List UInt8) : Option Derived :=
  let key := Codec.address
  let keys := Codec.address.pair Codec.address
  match bytes.length with
  | 11 => some driftState
  | 12 =>
    if bytes.head? = some (Tag.initial .driftSigner) then some driftSigner
    else (readAfter .controller .u16 bytes).map controller
  | 13 => (readAfter .spotMarket .u16 bytes).map driftSpotMarket
  | 19 => (readAfter .spotMarketVault .u16 bytes).map driftSpotMarketVault
  | 35 => (readAfter .marketAuthority key bytes).map kaminoMarketAuthority
  | 38 =>
    if bytes.head? = some (Tag.initial .oracle) then
      (readAfter .oracle key bytes).map oracle
    else (readAfter .user (key.pair .u16) bytes).map fun (owner, id) => driftUser owner id
  | 41 =>
    if bytes.head? = some (Tag.initial .authority) then
      (readAfter .authority key bytes).map farmVaultsAuthority
    else (readAfter .userMetadata key bytes).map kaminoUserMetadata
  | 42 => (readAfter .userStats key bytes).map driftUserStats
  | 52 => (readAfter .controllerAuthority key bytes).map controllerAuthority
  | 68 => (readAfter .user keys bytes).map fun (farm, owner) => farmObligation farm owner
  | 70 =>
    if bytes.head? = some (Tag.initial .rewardsVault) then
      (readAfter .rewardsVault keys bytes).map fun (farm, mint) => farmRewardsVault farm mint
    else
      (readAfter .treasuryVault keys bytes).map fun (config, mint) => farmTreasuryVault config mint
  | 71 => (readAfter .reserve keys bytes).map fun (owner, mint) => reserve owner mint
  | 74 => (readAfter .permission keys bytes).map fun (owner, holder) => permission owner holder
  | 75 =>
    (readAfter .integration (key.pair (.block 32)) bytes).map fun (owner, hash) =>
      integration owner hash
  | 81 =>
    (readAfter .collateralMint keys bytes).map fun (market, mint) =>
      kaminoCollateralMint market mint
  | 82 =>
    (readAfter .liquiditySupply keys bytes).map fun (market, mint) =>
      kaminoLiquiditySupply market mint
  | 83 =>
    (readAfter .collateralSupply keys bytes).map fun (market, mint) =>
      kaminoCollateralSupply market mint
  | 96 =>
    ((key.pair keys).decodeAll bytes).toOption.map fun (owner, tokenProgram, mint) =>
      associatedToken owner mint tokenProgram
  | 130 =>
    ((Codec.u8.pair (Codec.u8.pair (keys.pair keys))).decodeAll bytes).toOption.map
      fun (_, id, (owner, market), _) => kaminoObligation id owner market
  | _ => none

@[simp] theorem readAfter_u16 (tag : Tag) (value : UInt16) :
    readAfter tag .u16 (tag.seed.bytes ++ toLittleEndian 2 value.toNat) = some value :=
  readAfter_append tag .u16 value

@[simp] theorem readAfter_key (tag : Tag) (key : Address) :
    readAfter tag .address (tag.seed.bytes ++ key.bytes) = some key :=
  readAfter_append tag .address key

@[simp] theorem readAfter_key_u16 (tag : Tag) (key : Address) (value : UInt16) :
    readAfter tag (Codec.address.pair .u16)
      (tag.seed.bytes ++ (key.bytes ++ toLittleEndian 2 value.toNat)) = some (key, value) :=
  readAfter_append tag (Codec.address.pair .u16) (key, value)

@[simp] theorem readAfter_key_digest (tag : Tag) (key : Address) (digest : Block 32) :
    readAfter tag (Codec.address.pair (.block 32)) (tag.seed.bytes ++ (key.bytes ++ digest.bytes)) =
      some (key, digest) :=
  readAfter_append tag (Codec.address.pair (.block 32)) (key, digest)

@[simp] theorem readAfter_keys (tag : Tag) (first second : Address) :
    readAfter tag (Codec.address.pair .address) (tag.seed.bytes ++ (first.bytes ++ second.bytes)) =
      some (first, second) :=
  readAfter_append tag (Codec.address.pair .address) (first, second)

/-- The bytes of a list of seeds, with each seed written out. -/
theorem seeds_bytes (account : Derived) :
    account.seeds.bytes = account.seedList.flatMap Seed.bytes := rfl

theorem ofSeedBytes?_seeds (account : Derived) :
    ofSeedBytes? account.seeds.bytes = some account.unified := by
  -- the four lengths with two kinds of account
  have controller_ne : Tag.controller.initial ≠ Tag.driftSigner.initial := by decide +kernel
  have user_ne : Tag.user.initial ≠ Tag.oracle.initial := by decide +kernel
  have userMetadata_ne : Tag.userMetadata.initial ≠ Tag.authority.initial := by decide +kernel
  have tvault_ne : Tag.treasuryVault.initial ≠ Tag.rewardsVault.initial := by decide +kernel
  cases account with
  | associatedToken owner mint tokenProgram =>
    have read := (Codec.address.pair (Codec.address.pair Codec.address)).decodeAll_encode
      (owner, tokenProgram, mint)
    simp only [Codec.encode_pair, Codec.encode_address] at read
    -- the only layout without a tag or a fixed first byte
    simp [seeds_bytes, seedList, ofSeedBytes?, unified, read, Except.toOption]
  | kaminoObligation id owner market =>
    have read := (Codec.u8.pair (Codec.u8.pair ((Codec.address.pair Codec.address).pair
      (Codec.address.pair Codec.address)))).decodeAll_encode
        (0, id, (owner, market), (Address.zero, Address.zero))
    simp only [Codec.encode_pair, Codec.encode_address, Codec.encode_u8, List.append_assoc,
      List.singleton_append] at read
    simp [seeds_bytes, seedList, ofSeedBytes?, unified, read, Except.toOption]
  | _ =>
    simp [seeds_bytes, seedList, ofSeedBytes?, unified, Tag.width, controller_ne, user_ne,
      userMetadata_ne, tvault_ne]

theorem SameSeeds.of_bytes_eq {left right : Derived}
    (same : left.seeds.bytes = right.seeds.bytes) : SameSeeds left right := by
  have read : some left.unified = some right.unified := by
    rw [← ofSeedBytes?_seeds, ← ofSeedBytes?_seeds, same]
  exact .of_unified_eq (Option.some.inj read)

end Derived

/-! ### Preimages -/

namespace Seeds

/-- The bump, the program and the marker have fixed lengths, so the seeds are what is left. -/
theorem preimage_eq_iff {left right : Seeds} {program program' : Address} {bump bump' : UInt8} :
    preimage program left bump = preimage program' right bump' ↔
      left.bytes = right.bytes ∧ bump = bump' ∧ program = program' := by
  constructor
  · intro same
    -- strip the marker, the program and the bump, from the end
    obtain ⟨front, -⟩ := List.append_inj' same rfl
    obtain ⟨front, programs⟩ := List.append_inj' front (by simp)
    obtain ⟨seeds, bumps⟩ := List.append_inj' front rfl
    exact ⟨seeds, List.head_eq_of_cons_eq bumps, Codec.address.encode_injective programs⟩
  · rintro ⟨seeds, rfl, rfl⟩
    rw [preimage, preimage, seeds]

/-- An address that the search returns is the candidate for the bump it returns. -/
theorem search_eq_some {program : Address} {seeds : Seeds} {bumps : Nat} {address : Address}
    {bump : UInt8} (found : search program seeds bumps = some (address, bump)) :
    address = candidate program seeds bump := by
  -- a bump that is passed over leaves the result to the bumps below it
  induction bumps with
  | zero => cases found
  | succ bumps ih =>
    simp only [search] at found
    split at found
    · exact ih found
    · cases found
      rfl

theorem find_eq_ok {program : Address} {seeds : Seeds} {address : Address} {bump : UInt8}
    (found : seeds.find program = .ok (address, bump)) :
    address = candidate program seeds bump := by
  unfold find at found
  split at found
  · cases found
  · split at found
    next located =>
      cases found
      exact search_eq_some located
    next => cases found

end Seeds

namespace Derived

theorem exists_find_of_address {account : Derived} {program address : Address}
    (derived : account.address program = .ok address) :
    ∃ bump, account.find program = .ok (address, bump) := by
  unfold Derived.address at derived
  cases found : account.find program with
  | error failure => rw [found] at derived; cases derived
  | ok result =>
    rw [found] at derived
    cases derived
    exact ⟨result.2, rfl⟩

theorem preimage_eq_iff {left right : Derived} {program program' : Address} {bump bump' : UInt8} :
    left.seeds.preimage program bump = right.seeds.preimage program' bump' ↔
      SameSeeds left right ∧ program = program' ∧ bump = bump' := by
  rw [Seeds.preimage_eq_iff]
  constructor
  · rintro ⟨seeds, bumps, programs⟩
    exact ⟨.of_bytes_eq seeds, programs, bumps⟩
  · rintro ⟨same, programs, bumps⟩
    exact ⟨congrArg Seeds.bytes same.seeds_eq, bumps, programs⟩

/-- The hashed string determines the account, the program and the bump, up to the two farm
authorities. Two accounts that share an address are therefore the same account under the same
program, or their hashed strings are different and have the same digest. -/
theorem address_separated :
    (∀ left right program program' bump bump',
      left.seeds.preimage program bump = right.seeds.preimage program' bump' ↔
        SameSeeds left right ∧ program = program' ∧ bump = bump') ∧
    ∀ left right program program' address,
      left.address program = .ok address → right.address program' = .ok address →
        SameSeeds left right ∧ program = program' ∨
        ∃ bump bump',
          left.find program = .ok (address, bump) ∧
          right.find program' = .ok (address, bump') ∧
          left.seeds.preimage program bump ≠ right.seeds.preimage program' bump' ∧
          sha256 (left.seeds.preimage program bump) =
            sha256 (right.seeds.preimage program' bump') := by
  constructor
  · intro left right program program' bump bump'
    exact preimage_eq_iff
  · intro left right program program' address derived derived'
    obtain ⟨bump, found⟩ := exists_find_of_address derived
    obtain ⟨bump', found'⟩ := exists_find_of_address derived'
    by_cases same : left.seeds.preimage program bump = right.seeds.preimage program' bump'
    · obtain ⟨accounts, programs, -⟩ := preimage_eq_iff.mp same
      exact .inl ⟨accounts, programs⟩
    · -- both digests are the shared address, so different preimages collide
      have digest := Seeds.find_eq_ok found
      have digest' := Seeds.find_eq_ok found'
      have shared := congrArg Address.toBlock (digest.symm.trans digest')
      exact .inr ⟨bump, bump', found, found', same, shared⟩

/-- The two authorities of one key under the public farms program do share an address. -/
theorem address_separated_of_farm_authorities :
    ∃ address,
      (farmVaultsAuthority .zero).address Program.kaminoFarms.mainnet = .ok address ∧
      (farmTreasuryAuthority .zero).address Program.kaminoFarms.mainnet = .ok address ∧
      (SameSeeds (farmVaultsAuthority .zero) (farmTreasuryAuthority .zero) ∨
        ∃ left right : List UInt8, left ≠ right ∧ sha256 left = sha256 right) := by
  have derives :
      ((farmVaultsAuthority .zero).address Program.kaminoFarms.mainnet).toOption.isSome := by
    decide +kernel
  cases vaults : (farmVaultsAuthority .zero).address Program.kaminoFarms.mainnet with
  | error failure => rw [vaults] at derives; cases derives
  | ok address =>
    have treasury : (farmTreasuryAuthority .zero).address Program.kaminoFarms.mainnet =
      .ok address := vaults
    refine ⟨address, rfl, treasury, ?_⟩
    have separated := address_separated.2 _ _ _ _ _ vaults treasury
    rcases separated with ⟨same, -⟩ | ⟨_, _, -, -, collision⟩
    · exact .inl same
    · exact .inr ⟨_, _, collision⟩

end Derived

end LiquidityController
