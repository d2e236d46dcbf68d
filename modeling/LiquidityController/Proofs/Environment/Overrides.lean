import LiquidityController.Environment.Basic
import LiquidityController.Proofs.Address.Text
import LiquidityController.Proofs.Program

/-!
# Overrides of programs

The addresses of programs are overridden by a table, which gives them by name, or by an array, which
gives them by position. `Toml.Value.OverridesPrograms` says which values are accepted and
`Toml.Value.Gives` what an accepted value says about a program. Both are stated without the reader,
which is then shown to be exact.
-/

namespace LiquidityController

/-! ### Addresses by name -/

/-- The value is a text that names an address. -/
def Toml.Value.Names (value : Toml.Value) (address : Address) : Prop :=
  ∃ text, value = .text text ∧ text.length ≤ 44 ∧ Base58.decode text.toList = some address.bytes

theorem Toml.Value.address?_eq_some_iff {value : Toml.Value} {address : Address} :
    value.address? = some address ↔ value.Names address := by
  cases value with
  | text content =>
    rw [Toml.Value.address?, Address.ofText?_eq_some_iff]
    constructor
    · rintro ⟨fits, decoded⟩
      exact ⟨content, rfl, fits, decoded⟩
    · rintro ⟨_, ⟨⟩, fits, decoded⟩
      exact ⟨fits, decoded⟩
  | boolean _ | number | array _ | table _ _ | tables _ =>
    simp [Toml.Value.address?, Toml.Value.Names]

/-! ### Tables and arrays -/

/-- The value is a table that names programs, each with an address and none twice, or an array that
has an address for each of the first programs. -/
def Toml.Value.OverridesPrograms : Toml.Value → Prop
  | .table _ entries =>
    (entries.map Prod.fst).Nodup ∧ ∀ name value, (name, value) ∈ entries →
      (∃ program : Program, program.name = name) ∧ ∃ address, value.Names address
  | .array items => items.length ≤ 8 ∧ ∀ item ∈ items, ∃ address, item.Names address
  | _ => False

/-- The value gives an address for a program, a table under the name of the program and an array at
its position. -/
def Toml.Value.Gives (value : Toml.Value) (program : Program) (address : Address) : Prop :=
  match value with
  | .table _ entries => ∃ item, (program.name, item) ∈ entries ∧ item.Names address
  | .array items => ∃ (index : Nat) (item : Toml.Value),
    Program.all[index]? = some program ∧ items[index]? = some item ∧ item.Names address
  | _ => False

namespace Overrides

/-- What an entry of a table overrides. -/
def entry? (entry : String × Toml.Value) : Option (Program × Address) := do
  return (← Program.ofName? entry.1, ← entry.2.address?)

theorem entry?_eq_some_iff {entry : String × Toml.Value} {program : Program} {address : Address} :
    entry? entry = some (program, address) ↔
      program.name = entry.1 ∧ entry.2.Names address := by
  rw [← Program.ofName?_eq_some_iff, ← Toml.Value.address?_eq_some_iff, entry?]
  cases Program.ofName? entry.1 <;> cases entry.2.address? <;> simp

theorem ofEntries?_eq (entries : Toml.Entries) :
    ofEntries? entries = (do
      let table ← entries.mapM entry?
      guard (table.map Prod.fst).Nodup
      return ofTable table) := rfl

/-- The names of the entries are those of the programs that they override. -/
theorem map_fst_of_read {entries : Toml.Entries} {table : List (Program × Address)}
    (read : entries.mapM entry? = some table) :
    entries.map Prod.fst = (table.map Prod.fst).map Program.name := by
  rw [mapM_eq_some_iff] at read
  induction entries generalizing table with
  | nil =>
    cases table with
    | nil => rfl
    | cons pair table => cases read
  | cons entry entries ih =>
    cases table with
    | nil => cases read
    | cons pair table =>
      rw [List.map_cons, List.map_cons, List.cons.injEq] at read
      obtain ⟨named, -⟩ := entry?_eq_some_iff.mp read.1
      rw [List.map_cons, List.map_cons, List.map_cons, ih read.2, named]

theorem nodup_of_read {entries : Toml.Entries} {table : List (Program × Address)}
    (read : entries.mapM entry? = some table) :
    (table.map Prod.fst).Nodup ↔ (entries.map Prod.fst).Nodup := by
  rw [map_fst_of_read read, List.nodup_map_iff Program.name_injective]

theorem ofTable_eq_some_iff {origin : Toml.Origin} {entries : Toml.Entries}
    {table : List (Program × Address)} (read : entries.mapM entry? = some table)
    (distinct : (table.map Prod.fst).Nodup) {program : Program} {address : Address} :
    ofTable table program = some address ↔
      (Toml.Value.table origin entries).Gives program address := by
  rw [ofTable, lookup_eq_some_iff_mem distinct, mem_of_mapM_eq_some read]
  constructor
  · rintro ⟨⟨name, item⟩, member, overridden⟩
    obtain ⟨rfl, names⟩ := entry?_eq_some_iff.mp overridden
    exact ⟨item, member, names⟩
  · rintro ⟨item, member, names⟩
    exact ⟨_, member, entry?_eq_some_iff.mpr ⟨rfl, names⟩⟩

theorem ofEntries?_eq_some_iff {entries : Toml.Entries} {overrides : Overrides} :
    ofEntries? entries = some overrides ↔
      ∃ table, entries.mapM entry? = some table ∧ (table.map Prod.fst).Nodup ∧
        ofTable table = overrides := by
  rw [ofEntries?_eq]
  simp only [Option.bind_eq_bind, Option.bind_eq_some_iff, Option.guard_eq_some', Option.pure_def,
    Option.some.injEq, exists_const]

theorem exists_ofEntries?_iff (origin : Toml.Origin) {entries : Toml.Entries} :
    (∃ overrides, ofEntries? entries = some overrides) ↔
      (Toml.Value.table origin entries).OverridesPrograms := by
  simp only [ofEntries?_eq_some_iff, Toml.Value.OverridesPrograms]
  constructor
  · rintro ⟨overrides, table, read, distinct, -⟩
    refine ⟨(nodup_of_read read).mp distinct, fun name value member => ?_⟩
    obtain ⟨⟨program, address⟩, overridden⟩ := exists_mapM_eq_some_iff.mp ⟨table, read⟩ _ member
    obtain ⟨named, names⟩ := entry?_eq_some_iff.mp overridden
    exact ⟨⟨program, named⟩, address, names⟩
  · rintro ⟨distinct, each⟩
    have readable : ∀ entry ∈ entries, ∃ pair, entry? entry = some pair := by
      rintro ⟨name, value⟩ member
      obtain ⟨⟨program, named⟩, address, names⟩ := each name value member
      exact ⟨(program, address), entry?_eq_some_iff.mpr ⟨named, names⟩⟩
    obtain ⟨table, read⟩ := exists_mapM_eq_some_iff.mpr readable
    exact ⟨_, table, read, (nodup_of_read read).mpr distinct, rfl⟩

theorem gives_of_ofEntries? (origin : Toml.Origin) {entries : Toml.Entries} {overrides : Overrides}
    (read : ofEntries? entries = some overrides) {program : Program} {address : Address} :
    overrides program = some address ↔
      (Toml.Value.table origin entries).Gives program address := by
  obtain ⟨table, listed, distinct, rfl⟩ := ofEntries?_eq_some_iff.mp read
  exact ofTable_eq_some_iff listed distinct

/-! ### Arrays as tables -/

/-- The table that gives items to the first programs, in order. -/
def tableOf (items : List Toml.Value) : Toml.Entries :=
  (Program.all.map Program.name).zip items

theorem mapM_entry?_zip (programs : List Program) (items : List Toml.Value)
    (fits : items.length ≤ programs.length) :
    ((programs.map Program.name).zip items).mapM entry? =
      (items.mapM Toml.Value.address?).map programs.zip := by
  induction programs generalizing items with
  | nil =>
    rw [List.length_nil, Nat.le_zero, List.length_eq_zero_iff] at fits
    subst fits
    rfl
  | cons program programs ih =>
    cases items with
    | nil => rfl
    | cons item items =>
      have rest := ih items (Nat.le_of_succ_le_succ fits)
      have named : Program.ofName? program.name = some program :=
        Program.ofName?_eq_some_iff.mpr rfl
      rw [List.map_cons, List.zip_cons_cons, List.mapM_cons, List.mapM_cons, rest, entry?, named]
      cases item.address? <;> cases items.mapM Toml.Value.address? <;> rfl

theorem ofItems?_eq (items : List Toml.Value) :
    ofItems? items = if items.length ≤ 8 then ofEntries? (tableOf items) else none := by
  rw [ofItems?]
  split
  next fits =>
    have room : items.length ≤ Program.all.length := fits
    rw [ofEntries?_eq, tableOf, mapM_entry?_zip _ items room, guard, if_pos room]
    cases items.mapM Toml.Value.address? with
    | none => rfl
    | some addresses =>
      -- the reader of tables also looks for repeated names, of which there are none
      simp [guard, nodup_zip Program.nodup_all]
  next long =>
    have full : ¬ items.length ≤ Program.all.length := long
    rw [guard, if_neg full]
    rfl

theorem gives_tableOf {origin : Toml.Origin} {items : List Toml.Value} {program : Program}
    {address : Address} :
    (Toml.Value.table origin (tableOf items)).Gives program address ↔
      (Toml.Value.array items).Gives program address := by
  constructor
  · rintro ⟨item, member, names⟩
    obtain ⟨index, found⟩ := List.mem_iff_getElem?.mp member
    rw [tableOf, List.getElem?_zip_eq_some, List.getElem?_map, Option.map_eq_some_iff] at found
    obtain ⟨⟨_, position, same⟩, placed⟩ := found
    obtain rfl := Program.name_injective same
    exact ⟨index, item, position, placed, names⟩
  · rintro ⟨index, item, position, placed, names⟩
    have found : (tableOf items)[index]? = some (program.name, item) := by
      rw [tableOf, List.getElem?_zip_eq_some, List.getElem?_map, position]
      exact ⟨rfl, placed⟩
    exact ⟨item, List.mem_of_getElem? found, names⟩

theorem overridesPrograms_tableOf {origin : Toml.Origin} {items : List Toml.Value}
    (fits : items.length ≤ 8) :
    (Toml.Value.table origin (tableOf items)).OverridesPrograms ↔
      (Toml.Value.array items).OverridesPrograms := by
  constructor
  · rintro ⟨-, named⟩
    refine ⟨fits, fun item member => ?_⟩
    obtain ⟨index, inside, rfl⟩ := List.mem_iff_getElem.mp member
    -- every item has a program, since there are no more items than programs
    have inside' : index < ((Program.all.map Program.name).zip items).length := by
      rw [List.length_zip]
      exact Nat.lt_min.mpr ⟨Nat.lt_of_lt_of_le inside fits, inside⟩
    have paired := List.getElem_mem inside'
    rw [List.getElem_zip] at paired
    exact (named _ _ paired).2
  · rintro ⟨-, each⟩
    have names := Program.nodup_all.map Program.name_injective
    refine ⟨nodup_zip names items, fun name value member => ?_⟩
    obtain ⟨listed, member⟩ := List.of_mem_zip member
    obtain ⟨program, -, named⟩ := List.mem_map.mp listed
    exact ⟨⟨program, named⟩, each value member⟩

/-! ### Values -/

/-- A value is accepted exactly if it overrides programs. -/
theorem exists_ofValue?_iff {value : Toml.Value} :
    (∃ overrides, ofValue? value = some overrides) ↔ value.OverridesPrograms := by
  cases value with
  | table origin entries => exact exists_ofEntries?_iff origin
  | array items =>
    simp only [ofValue?, ofItems?_eq]
    split
    next fits => rw [exists_ofEntries?_iff .braces, overridesPrograms_tableOf fits]
    next long => simp [Toml.Value.OverridesPrograms, long]
  | text _ | boolean _ | number | tables _ => simp [ofValue?, Toml.Value.OverridesPrograms]

/-- An accepted value overrides what it gives. -/
theorem gives_of_ofValue? {value : Toml.Value} {overrides : Overrides}
    (read : ofValue? value = some overrides) {program : Program} {address : Address} :
    overrides program = some address ↔ value.Gives program address := by
  cases value with
  | table origin entries => exact gives_of_ofEntries? origin read
  | array items =>
    rw [ofValue?, ofItems?_eq] at read
    split at read
    next fits => rw [gives_of_ofEntries? .braces read, gives_tableOf]
    next long => cases read
  | text _ | boolean _ | number | tables _ => cases read

end Overrides

end LiquidityController
