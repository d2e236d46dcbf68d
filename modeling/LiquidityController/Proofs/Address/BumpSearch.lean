import LiquidityController.Proofs.Address.Separation

/-!
# The search for a bump

Which address a list of byte strings leads to, and why some lists lead to none. The number of
strings is checked first, then their lengths, and a list that is full leaves no room for the bump.
Only then are bumps tried, from the highest down to one.

## Main result

`Seeds.findOfList_characterised`: the result of the search for every program and every list of
byte strings, and that it does not depend on how the bytes are cut into seeds.
-/

namespace LiquidityController.Seeds

/-- The string that is hashed for a bump. -/
def hashed (program : Address) (strings : List (List UInt8)) (bump : UInt8) : List UInt8 :=
  strings.flatten ++ [bump] ++ program.bytes ++ "ProgramDerivedAddress".toUTF8.toList

/-- The digest for a bump is a point of the curve, so it cannot be an address. -/
def OnCurve (program : Address) (strings : List (List UInt8)) (bump : UInt8) : Prop :=
  Curve.isPoint (sha256 (hashed program strings bump)) = true

/-- What becomes of a list of byte strings. Of two faults the one that is listed first is reported,
and of two bumps the higher one is taken. -/
inductive Outcome (program : Address) (strings : List (List UInt8)) :
    Except Failure (Address × UInt8) → Prop where
  | tooMany (many : 16 < strings.length) :
    Outcome program strings (.error (.tooManySeeds strings.length))
  | tooLong {index : Nat} {string : List UInt8} (few : strings.length ≤ 16)
    (here : strings[index]? = some string) (long : 32 < string.length)
    (first : ∀ earlier ∈ strings.take index, earlier.length ≤ 32) :
    Outcome program strings (.error (.seedTooLong index string.length))
  | full (count : strings.length = 16) (short : ∀ string ∈ strings, string.length ≤ 32) :
    Outcome program strings (.error (.derivationExhausted program))
  | found {bump : UInt8} (few : strings.length ≤ 15)
    (short : ∀ string ∈ strings, string.length ≤ 32)
    (tried : 0 < bump) (off : ¬OnCurve program strings bump)
    (higher : ∀ other, bump < other → OnCurve program strings other) :
    Outcome program strings (.ok (⟨sha256 (hashed program strings bump)⟩, bump))
  | exhausted (few : strings.length ≤ 15) (short : ∀ string ∈ strings, string.length ≤ 32)
    (all : ∀ bump, 0 < bump → OnCurve program strings bump) :
    Outcome program strings (.error (.derivationExhausted program))

/-- A list of byte strings that passes the checks and leaves room for the bump. -/
def Searchable (strings : List (List UInt8)) : Prop :=
  strings.length ≤ 15 ∧ ∀ string ∈ strings, string.length ≤ 32

/-! ### The loop over the bumps -/

section Search

variable {program : Address} {seeds : Seeds} {bumps : Nat}

/-- One step of the search: the highest bump is taken, or it is passed over. -/
theorem search_succ (program : Address) (seeds : Seeds) (bumps : Nat) :
    search program seeds (bumps + 1) =
      if Curve.isPoint (candidate program seeds (.ofNat (bumps + 1))).toBlock then
        search program seeds bumps
      else some (candidate program seeds (.ofNat (bumps + 1)), .ofNat (bumps + 1)) := rfl

theorem lt_ofNat_succ_iff (small : bumps + 1 ≤ 255) {bump : UInt8} :
    bump < .ofNat (bumps + 1) ↔ bump.toNat ≤ bumps := by
  rw [UInt8.lt_iff_toNat_lt, UInt8.toNat_ofNat_of_lt' (Nat.lt_succ_of_le small),
    Nat.lt_succ_iff]

/-- A bump of the range is the highest one, or it belongs to the range below. -/
theorem eq_or_le_of_le_succ {bump : UInt8} (inside : bump.toNat ≤ bumps + 1) :
    bump = .ofNat (bumps + 1) ∨ bump.toNat ≤ bumps := by
  rcases Nat.lt_or_eq_of_le inside with below | top
  · exact .inr (Nat.le_of_lt_succ below)
  · exact .inl (by rw [← top, UInt8.ofNat_toNat])

theorem search_eq_none_iff (small : bumps ≤ 255) :
    search program seeds bumps = none ↔
      ∀ bump : UInt8, 0 < bump → bump.toNat ≤ bumps →
        Curve.isPoint (candidate program seeds bump).toBlock = true := by
  induction bumps with
  | zero =>
    refine iff_of_true rfl ?_
    intro bump positive inside
    exact absurd (UInt8.lt_iff_toNat_lt.mp positive) (Nat.not_lt.mpr inside)
  | succ bumps ih =>
    rw [search_succ]
    split
    next onCurve =>
      rw [ih (Nat.le_of_succ_le small)]
      constructor
      · intro below bump positive inside
        rcases eq_or_le_of_le_succ inside with rfl | inside
        · exact onCurve
        · exact below bump positive inside
      · intro every bump positive inside
        exact every bump positive (Nat.le_succ_of_le inside)
    next offCurve =>
      refine iff_of_false nofun ?_
      intro every
      have positive : 0 < UInt8.ofNat (bumps + 1) :=
        (lt_ofNat_succ_iff small).mpr (Nat.zero_le bumps)
      have inside : (UInt8.ofNat (bumps + 1)).toNat ≤ bumps + 1 := Nat.mod_le _ _
      exact offCurve (every _ positive inside)

/-- The search returns the highest bump of the range whose digest lies off the curve. -/
theorem search_eq_some_iff (small : bumps ≤ 255) {address : Address} {bump : UInt8} :
    search program seeds bumps = some (address, bump) ↔
      address = candidate program seeds bump ∧ 0 < bump ∧ bump.toNat ≤ bumps ∧
      ¬Curve.isPoint (candidate program seeds bump).toBlock = true ∧
      ∀ other : UInt8, bump < other → other.toNat ≤ bumps →
        Curve.isPoint (candidate program seeds other).toBlock = true := by
  -- the invariant is that every bump above the range has been passed over
  induction bumps with
  | zero =>
    refine iff_of_false nofun ?_
    rintro ⟨-, positive, inside, -⟩
    exact absurd (UInt8.lt_iff_toNat_lt.mp positive) (Nat.not_lt.mpr inside)
  | succ bumps ih =>
    rw [search_succ]
    split
    next onCurve =>
      rw [ih (Nat.le_of_succ_le small)]
      constructor
      · rintro ⟨digest, positive, inside, off, higher⟩
        refine ⟨digest, positive, Nat.le_succ_of_le inside, off, ?_⟩
        intro other above inside
        rcases eq_or_le_of_le_succ inside with rfl | inside
        · exact onCurve
        · exact higher other above inside
      · rintro ⟨digest, positive, inside, off, higher⟩
        rcases eq_or_le_of_le_succ inside with rfl | inside
        · exact absurd onCurve off
        · refine ⟨digest, positive, inside, off, ?_⟩
          intro other above inside
          exact higher other above (Nat.le_succ_of_le inside)
    next offCurve =>
      have inside : (UInt8.ofNat (bumps + 1)).toNat ≤ bumps + 1 := Nat.mod_le _ _
      constructor
      · intro found
        cases found
        refine ⟨rfl, (lt_ofNat_succ_iff small).mpr (Nat.zero_le bumps), inside, offCurve, ?_⟩
        intro other above inside
        -- nothing lies between the highest bump and the end of the range
        rcases eq_or_le_of_le_succ inside with rfl | below
        · exact absurd above (UInt8.lt_irrefl _)
        · exact absurd above (UInt8.lt_asymm ((lt_ofNat_succ_iff small).mpr below))
      · rintro ⟨rfl, positive, within, off, higher⟩
        rcases eq_or_le_of_le_succ within with rfl | below
        · rfl
        · exact absurd (higher _ ((lt_ofNat_succ_iff small).mpr below) inside) offCurve

theorem search_congr {left right : Seeds} (same : left.bytes = right.bytes) (bumps : Nat) :
    search program left bumps = search program right bumps := by
  have candidates (bump : UInt8) : candidate program left bump = candidate program right bump := by
    rw [candidate, candidate, preimage, preimage, same]
  induction bumps with
  | zero => rfl
  | succ bumps ih => rw [search_succ, search_succ, candidates, ih]

end Search

/-! ### The checks in front of the loop -/

section Checks

variable {program : Address} {strings : List (List UInt8)}

theorem ofList_of_short (few : strings.length ≤ maxSeeds)
    (short : ∀ string ∈ strings, string.length ≤ maxSeedLength) :
    ∃ seeds, ofList strings = .ok seeds ∧ seeds.toList.length = strings.length ∧
      seeds.bytes = strings.flatten := by
  -- a seed is a string with a proof of its length, so the bytes stay as they are
  have written : (strings.pmap Seed.mk short).map Seed.bytes = strings := by
    rw [List.map_pmap, List.pmap_eq_map, List.map_id']
  have bound : (strings.pmap Seed.mk short).length ≤ maxSeeds := by rwa [List.length_pmap]
  refine ⟨⟨strings.pmap Seed.mk short, bound⟩, ?_, List.length_pmap, ?_⟩
  · rw [ofList, dif_pos few, dif_pos short]
  · rw [bytes, List.flatMap_def, written]

theorem ofList_of_many (many : maxSeeds < strings.length) :
    ofList strings = .error (.tooManySeeds strings.length) :=
  dif_neg (Nat.not_le_of_lt many)

theorem ofList_of_long {index : Nat} {string : List UInt8} (few : strings.length ≤ maxSeeds)
    (here : strings[index]? = some string) (long : maxSeedLength < string.length)
    (first : ∀ earlier ∈ strings.take index, earlier.length ≤ maxSeedLength) :
    ofList strings = .error (.seedTooLong index string.length) := by
  obtain ⟨inside, rfl⟩ := List.getElem?_eq_some_iff.mp here
  -- the reader looks for the first offender by its index
  have located : strings.findIdx (maxSeedLength < ·.length) = index := by
    rw [List.findIdx_eq inside]
    refine ⟨decide_eq_true long, ?_⟩
    intro earlier before
    have member : strings[earlier] ∈ strings.take index :=
      List.mem_take_iff_getElem.mpr ⟨earlier, by omega, rfl⟩
    exact decide_eq_false (Nat.not_lt.mpr (first _ member))
  have notShort : ¬∀ string ∈ strings, string.length ≤ maxSeedLength := by
    intro short
    exact absurd long (Nat.not_lt.mpr (short _ (List.getElem_mem inside)))
  rw [ofList, dif_pos few, dif_neg notShort]
  simp only [located, List.getD_eq_getElem?_getD, here, Option.getD_some]

/-- If some string is too long, one of them is the first. -/
theorem exists_first_long (long : ∃ string ∈ strings, maxSeedLength < string.length) :
    ∃ (index : Nat) (string : List UInt8), strings[index]? = some string ∧
      maxSeedLength < string.length ∧
      ∀ earlier ∈ strings.take index, earlier.length ≤ maxSeedLength := by
  have inside : strings.findIdx (maxSeedLength < ·.length) < strings.length := by
    simpa [List.findIdx_lt_length] using long
  refine ⟨_, _, List.getElem?_eq_getElem inside, ?_, ?_⟩
  · simpa using @List.findIdx_getElem _ _ _ inside
  · intro earlier member
    obtain ⟨place, before, rfl⟩ := List.mem_take_iff_getElem.mp member
    have passed := List.not_of_lt_findIdx (Nat.lt_of_lt_of_le before (Nat.min_le_left _ _))
    simpa using passed

theorem onCurve_iff {seeds : Seeds} (same : seeds.bytes = strings.flatten) {bump : UInt8} :
    OnCurve program strings bump ↔
      Curve.isPoint (candidate program seeds bump).toBlock = true := by
  rw [OnCurve, candidate, preimage, same]
  rfl

theorem find_of_room {seeds : Seeds} (room : seeds.toList.length ≠ maxSeeds) :
    seeds.find program =
      (search program seeds 255).elim (.error (.derivationExhausted program)) .ok := by
  rw [find, if_neg room]
  cases search program seeds 255 <;> rfl

theorem findOfList_of_searchable (program : Address) (fits : Searchable strings) :
    ∃ seeds : Seeds, seeds.bytes = strings.flatten ∧ findOfList program strings =
      (search program seeds 255).elim (.error (.derivationExhausted program)) .ok := by
  obtain ⟨few, short⟩ := fits
  obtain ⟨seeds, checked, length, same⟩ := ofList_of_short (Nat.le_succ_of_le few) short
  have room : seeds.toList.length ≠ maxSeeds := by
    rw [length]
    exact Nat.ne_of_lt (Nat.lt_succ_of_le few)
  refine ⟨seeds, same, ?_⟩
  rw [findOfList, checked, ← find_of_room room]
  rfl

end Checks

/-! ### The result of the whole search -/

section Result

variable {program : Address} {strings : List (List UInt8)}

theorem findOfList_of_outcome {result : Except Failure (Address × UInt8)}
    (outcome : Outcome program strings result) : findOfList program strings = result := by
  cases outcome with
  | tooMany many => rw [findOfList, ofList_of_many many]; rfl
  | tooLong few here long first => rw [findOfList, ofList_of_long few here long first]; rfl
  | full count short =>
    obtain ⟨seeds, checked, length, -⟩ := ofList_of_short (Nat.le_of_eq count) short
    rw [findOfList, checked]
    change seeds.find program = _
    have fullSeeds : seeds.toList.length = maxSeeds := length.trans count
    rw [find, if_pos fullSeeds]
  | @found bump few short tried off higher =>
    obtain ⟨seeds, same, run⟩ := findOfList_of_searchable program ⟨few, short⟩
    have located : search program seeds 255 =
        some (candidate program seeds bump, bump) := by
      refine (search_eq_some_iff (Nat.le_refl 255)).mpr
        ⟨rfl, tried, Nat.le_of_lt_succ bump.toNat_lt, ?_, ?_⟩
      · rwa [← onCurve_iff same]
      · intro other above inside
        exact (onCurve_iff same).mp (higher other above)
    rw [run, located, Option.elim_some, candidate, preimage, same]
    rfl
  | exhausted few short all =>
    obtain ⟨seeds, same, run⟩ := findOfList_of_searchable program ⟨few, short⟩
    have nothing : search program seeds 255 = none := by
      refine (search_eq_none_iff (Nat.le_refl 255)).mpr ?_
      intro bump positive inside
      exact (onCurve_iff same).mp (all bump positive)
    rw [run, nothing, Option.elim_none]

theorem exists_outcome (program : Address) (strings : List (List UInt8)) :
    ∃ result, Outcome program strings result := by
  by_cases many : 16 < strings.length
  · exact ⟨_, .tooMany many⟩
  have few : strings.length ≤ 16 := Nat.le_of_not_lt many
  by_cases long : ∃ string ∈ strings, 32 < string.length
  · obtain ⟨index, string, here, long, first⟩ := exists_first_long long
    exact ⟨_, .tooLong few here long first⟩
  have short : ∀ string ∈ strings, string.length ≤ 32 := by
    intro string member
    exact Nat.le_of_not_lt (fun excess => long ⟨string, member, excess⟩)
  by_cases count : strings.length = 16
  · exact ⟨_, .full count short⟩
  have room : strings.length ≤ 15 := by omega
  -- the search itself shows that there is a highest bump unless all of them fail
  obtain ⟨seeds, -, -, same⟩ := ofList_of_short few short
  cases run : search program seeds 255 with
  | none =>
    have all := (search_eq_none_iff (Nat.le_refl 255)).mp run
    refine ⟨_, .exhausted room short ?_⟩
    intro bump positive
    exact (onCurve_iff same).mpr (all bump positive (Nat.le_of_lt_succ bump.toNat_lt))
  | some found =>
    obtain ⟨address, bump⟩ := found
    obtain ⟨-, positive, -, off, higher⟩ := (search_eq_some_iff (Nat.le_refl 255)).mp run
    refine ⟨_, @Outcome.found program strings bump room short positive ?_ ?_⟩
    · rwa [onCurve_iff same]
    · intro other above
      exact (onCurve_iff same).mpr (higher other above (Nat.le_of_lt_succ other.toNat_lt))

end Result

/-- The search has exactly the result that its rules describe, for every program and every list of
byte strings, and for lists that can be searched only the bytes matter, not how they are cut. -/
theorem findOfList_characterised :
    (∀ program strings result,
      findOfList program strings = result ↔ Outcome program strings result) ∧
    ∀ program left right, Searchable left → Searchable right → left.flatten = right.flatten →
      findOfList program left = findOfList program right := by
  constructor
  · intro program strings result
    constructor
    · rintro rfl
      obtain ⟨result, outcome⟩ := exists_outcome program strings
      rwa [findOfList_of_outcome outcome]
    · exact findOfList_of_outcome
  · intro program left right searchable searchable' same
    obtain ⟨seeds, bytes, run⟩ := findOfList_of_searchable program searchable
    obtain ⟨seeds', bytes', run'⟩ := findOfList_of_searchable program searchable'
    have together : seeds.bytes = seeds'.bytes := by rw [bytes, bytes', same]
    rw [run, run', search_congr together]

/-- Five bytes lead to one address, whether they are two seeds or three. -/
theorem findOfList_of_five_bytes :
    ∃ found, findOfList Program.controller.mainnet [[1, 2, 3], [4, 5]] = .ok found ∧
      findOfList Program.controller.mainnet [[1], [], [2, 3, 4, 5]] = .ok found := by
  have derives : (findOfList Program.controller.mainnet [[1, 2, 3], [4, 5]]).toOption.isSome := by
    decide +kernel
  have same := findOfList_characterised.2 Program.controller.mainnet [[1, 2, 3], [4, 5]]
    [[1], [], [2, 3, 4, 5]] ⟨by decide, by decide⟩ ⟨by decide, by decide⟩ rfl
  cases run : findOfList Program.controller.mainnet [[1, 2, 3], [4, 5]] with
  | error failure => rw [run] at derives; cases derives
  | ok found => exact ⟨found, rfl, same ▸ run⟩

end LiquidityController.Seeds
