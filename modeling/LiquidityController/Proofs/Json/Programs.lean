import LiquidityController.Json.Programs
import LiquidityController.Proofs.Address.Text
import LiquidityController.Proofs.Program
import Mathlib.Data.List.Perm.Basic

/-!
# Program addresses in JSON

A set of programs is written as an object that names each program with the text of its address, or
as an array of these texts. The reader accepts nothing else, except that the entries of the object
may come in any order and between entries that name no program. It is strict because each address
has one text and because a program that is listed twice is refused.

## Main result

`Programs.json_exact`: what is written for a set of programs is read back as that set, and whatever
is read as a set is what is written for it.
-/

namespace LiquidityController

/-! ### What is written -/

/-- The value under which an address is written. -/
def Json.Value.ofAddress (address : Address) : Json.Value :=
  .text (some address.text)

/-- The value is a text that stands for thirty-two bytes in base 58. -/
def Json.Value.IsAddress (value : Json.Value) : Prop :=
  ∃ text bytes, value = .text (some text) ∧ Base58.decode text.toList = some bytes ∧
    bytes.length = 32

/-- The entry has a name, and no program has it. -/
def Json.Foreign (entry : Option String × Json.Value) : Prop :=
  ∃ name, entry.1 = some name ∧ ∀ program : Program, program.name ≠ name

namespace Programs

/-- The entry under which the address of a program is written. -/
def written (pair : Program × Address) : Option String × Json.Value :=
  (some pair.1.name, .ofAddress pair.2)

/-- The programs of a set with their addresses, in order. -/
def table (programs : Programs) : List (Program × Address) :=
  Program.all.map fun program => (program, programs.get program)

/-- The entries of the object that is written for a set of programs, in order. -/
def entries (programs : Programs) : List (Option String × Json.Value) :=
  programs.table.map written

/-- The items of the array that is written for a set of programs. -/
def items (programs : Programs) : List Json.Value :=
  Program.all.map fun program => .ofAddress (programs.get program)

end Programs

/-! ### Addresses -/

theorem Json.Value.address?_eq_some_iff {value : Json.Value} {address : Address} :
    value.address? = some address ↔ value = .ofAddress address := by
  cases value with
  | text content =>
    cases content with
    | none => simp [address?, ofAddress]
    | some content =>
      rw [address?, Address.ofText?_eq_some_iff_text, ofAddress, text.injEq, Option.some.injEq]
  | null | boolean _ | number | array _ | object _ => simp [address?, ofAddress]

theorem Json.Value.isAddress_iff {value : Json.Value} :
    value.IsAddress ↔ ∃ address, value = .ofAddress address := by
  constructor
  · rintro ⟨text, bytes, rfl, decoded, length⟩
    have written : text = Address.text ⟨⟨bytes, length⟩⟩ := by
      rw [Address.text, Base58.decode_eq_some_iff.mp decoded, String.ofList_toList]
    exact ⟨⟨⟨bytes, length⟩⟩, by rw [ofAddress, written]⟩
  · rintro ⟨address, rfl⟩
    exact ⟨_, _, rfl, Base58.decode_eq_some_iff.mpr (by rw [Address.text, String.toList_ofList]),
      address.length⟩

namespace Programs

variable {programs : Programs} {program : Program} {address : Address}

/-! ### Tables -/

theorem mem_table : (program, address) ∈ programs.table ↔ address = programs.get program := by
  simp [table, Program.mem_all, eq_comm]

theorem map_fst_table : programs.table.map Prod.fst = Program.all := by
  rw [table, List.map_map]
  exact List.map_id _

theorem ofTable?_eq_some_iff {table : List (Program × Address)} :
    ofTable? table = some programs ↔
      ∀ program, table.lookup program = some (programs.get program) := by
  constructor
  · intro read program
    simp only [ofTable?, Option.bind_eq_bind, Option.bind_eq_some_iff, Option.pure_def,
      Option.some.injEq] at read
    obtain ⟨_, _, _, _, _, _, _, _, _, _, _, _, _, _, _, _, rfl⟩ := read
    cases program <;> assumption
  · intro listed
    simp only [ofTable?, listed]
    rfl

/-- A table without repetitions determines a set if and only if it lists that set and no more. -/
theorem ofTable?_eq_some_iff_perm {table : List (Program × Address)} :
    (table.map Prod.fst).Nodup ∧ ofTable? table = some programs ↔ table.Perm programs.table := by
  have all_nodup : (programs.table.map Prod.fst).Nodup := by
    rw [map_fst_table]
    exact Program.nodup_all
  rw [ofTable?_eq_some_iff]
  constructor
  · rintro ⟨distinct, listed⟩
    refine (List.perm_ext_iff_of_nodup (.of_map _ distinct) (.of_map _ all_nodup)).mpr ?_
    rintro ⟨program, address⟩
    rw [mem_table, ← lookup_eq_some_iff_mem distinct, listed, Option.some.injEq, eq_comm]
  · intro permuted
    have distinct := (permuted.map Prod.fst).nodup_iff.mpr all_nodup
    refine ⟨distinct, fun program => ?_⟩
    rw [lookup_eq_some_iff_mem distinct, permuted.mem_iff, mem_table]

/-! ### Entries -/

theorem entry?_written (pair : Program × Address) : entry? (written pair) = some (some pair) := by
  have named : Program.ofName? pair.1.name = some pair.1 := Program.ofName?_eq_some_iff.mpr rfl
  have addressed : (Json.Value.ofAddress pair.2).address? = some pair.2 :=
    Json.Value.address?_eq_some_iff.mpr rfl
  simp [written, entry?, named, addressed]

theorem entry?_cases {entry : Option String × Json.Value} {result : Option (Program × Address)}
    (read : entry? entry = some result) :
    (result = none ∧ Json.Foreign entry) ∨ ∃ pair, result = some pair ∧ entry = written pair := by
  obtain ⟨name, value⟩ := entry
  simp only [Option.bind_eq_bind, Option.bind_eq_some_iff, entry?] at read
  obtain ⟨name, rfl, read⟩ := read
  split at read
  next unknown =>
    refine .inl ⟨(Option.some.inj read).symm, name, rfl, fun program named => ?_⟩
    rw [Program.ofName?_eq_some_iff.mpr named] at unknown
    cases unknown
  next program known =>
    obtain ⟨address, addressed, read⟩ := Option.bind_eq_some_iff.mp read
    rw [Program.ofName?_eq_some_iff] at known
    rw [Json.Value.address?_eq_some_iff] at addressed
    exact .inr ⟨(program, address), (Option.some.inj read).symm, by rw [written, known, addressed]⟩

theorem entry?_foreign {entry : Option String × Json.Value} (foreign : Json.Foreign entry) :
    entry? entry = some none := by
  obtain ⟨name, named, unknown⟩ := foreign
  have absent : Program.ofName? name = none := by
    rw [Option.eq_none_iff_forall_ne_some]
    exact fun program found => unknown program (Program.ofName?_eq_some_iff.mp found)
  simp [named, entry?, absent]

/-- Entries that can be read are those that are written for the table, and foreign ones. -/
theorem exists_foreign_of_read {entries : List (Option String × Json.Value)}
    {read : List (Option (Program × Address))} (each : entries.mapM entry? = some read) :
    ∃ others, (∀ entry ∈ others, Json.Foreign entry) ∧
      entries.Perm ((read.filterMap id).map written ++ others) := by
  rw [mapM_eq_some_iff] at each
  induction entries generalizing read with
  | nil =>
    cases read with
    | nil => exact ⟨[], nofun, .nil⟩
    | cons result read => cases each
  | cons entry entries ih =>
    cases read with
    | nil => cases each
    | cons result read =>
      rw [List.map_cons, List.map_cons, List.cons.injEq] at each
      obtain ⟨others, foreign, permuted⟩ := ih each.2
      rcases entry?_cases each.1 with ⟨rfl, unknown⟩ | ⟨pair, rfl, rfl⟩
      · exact ⟨entry :: others, List.forall_mem_cons.mpr ⟨unknown, foreign⟩,
          (permuted.cons entry).trans List.perm_middle.symm⟩
      · exact ⟨others, foreign, permuted.cons (written pair)⟩

theorem exists_read_of_perm {entries others : List (Option String × Json.Value)}
    {table : List (Program × Address)} (foreign : ∀ entry ∈ others, Json.Foreign entry)
    (permuted : entries.Perm (table.map written ++ others)) :
    ∃ read, entries.mapM entry? = some read ∧ (read.filterMap id).Perm table := by
  have readable : ∀ entry ∈ entries, ∃ result, entry? entry = some result := by
    intro entry member
    rcases List.mem_append.mp (permuted.mem_iff.mp member) with listed | other
    · obtain ⟨pair, -, rfl⟩ := List.mem_map.mp listed
      exact ⟨_, entry?_written pair⟩
    · exact ⟨_, entry?_foreign (foreign entry other)⟩
  obtain ⟨read, each⟩ := exists_mapM_eq_some_iff.mpr readable
  refine ⟨read, each, ?_⟩
  -- the results follow the entries through the permutation
  have results : (read.map some).Perm ((table.map some ++ others.map fun _ => none).map some) := by
    have listed : (table.map written).map entry? = (table.map some).map some := by
      rw [List.map_map, List.map_map]
      exact List.map_congr_left fun pair _ => entry?_written pair
    have unlisted : others.map entry? = (others.map fun _ => none).map some := by
      rw [List.map_map]
      exact List.map_congr_left fun entry member => entry?_foreign (foreign entry member)
    rw [← mapM_eq_some_iff.mp each, List.map_append, ← listed, ← unlisted, ← List.map_append]
    exact permuted.map entry?
  have results' := (List.map_perm_map_iff (Option.some_injective _)).mp results
  simpa using results'.filterMap id

theorem ofEntries?_eq (entries : List (Option String × Json.Value)) :
    ofEntries? entries = (do
      let read ← entries.mapM entry?
      guard ((read.filterMap id).map Prod.fst).Nodup
      ofTable? (read.filterMap id)) := rfl

theorem ofEntries?_eq_some_iff {entries : List (Option String × Json.Value)} :
    ofEntries? entries = some programs ↔
      ∃ others, (∀ entry ∈ others, Json.Foreign entry) ∧
        entries.Perm (programs.entries ++ others) := by
  simp only [ofEntries?_eq, Option.bind_eq_bind, Option.bind_eq_some_iff, Option.guard_eq_some',
    exists_const, ofTable?_eq_some_iff_perm]
  constructor
  · rintro ⟨read, each, listed⟩
    obtain ⟨others, foreign, permuted⟩ := exists_foreign_of_read each
    exact ⟨others, foreign, permuted.trans ((listed.map written).append_right others)⟩
  · rintro ⟨others, foreign, permuted⟩
    exact exists_read_of_perm foreign permuted

/-! ### Items -/

theorem mapM_address?_eq_some_iff {items : List Json.Value} {addresses : List Address} :
    items.mapM Json.Value.address? = some addresses ↔ addresses.map .ofAddress = items := by
  have inverse : ∀ (item : Json.Value) (address : Address),
      item.address? = some address ↔ True ∧ Json.Value.ofAddress address = item := by
    intro item address
    rw [Json.Value.address?_eq_some_iff, true_and, eq_comm]
  simpa using mapM_eq_some_iff_of_inverse inverse

/-- A table that lists the programs in order determines a set by position. -/
theorem ofTable?_zip_eq_some_iff {addresses : List Address}
    (length : addresses.length = Program.all.length) :
    ofTable? (Program.all.zip addresses) = some programs ↔
      addresses = Program.all.map programs.get := by
  rw [ofTable?_eq_some_iff]
  constructor
  · intro listed
    refine List.ext_getElem (by rw [length, List.length_map]) fun index inside inside' => ?_
    have position : index < Program.all.length := length ▸ inside
    have member : (Program.all[index], addresses[index]) ∈ Program.all.zip addresses :=
      List.mem_iff_getElem.mpr ⟨index, by simp [inside, position], List.getElem_zip⟩
    have found := (lookup_eq_some_iff_mem (nodup_zip Program.nodup_all addresses)).mpr member
    rw [listed, Option.some.injEq] at found
    rw [List.getElem_map, found]
  · rintro rfl program
    rw [lookup_eq_some_iff_mem (nodup_zip Program.nodup_all _), ← List.map_prod_left_eq_zip]
    exact mem_table.mpr rfl

theorem ofItems?_eq_some_iff {items : List Json.Value} :
    ofItems? items = some programs ↔ items = programs.items := by
  have items_eq : programs.items = (Program.all.map programs.get).map .ofAddress := by
    rw [Programs.items, List.map_map]
    rfl
  simp only [ofItems?, Option.bind_eq_bind, Option.bind_eq_some_iff, Option.guard_eq_some',
    exists_const, mapM_address?_eq_some_iff]
  constructor
  · rintro ⟨length, addresses, rfl, listed⟩
    rw [List.length_map] at length
    rw [items_eq, (ofTable?_zip_eq_some_iff length).mp listed]
  · rintro rfl
    have length : (Program.all.map programs.get).length = Program.all.length := List.length_map _
    exact ⟨by rw [Programs.items, List.length_map], _, items_eq.symm,
      (ofTable?_zip_eq_some_iff length).mpr rfl⟩

/-! ### Refusals -/

/-- An object with a value that is no address under the name of a program is refused. -/
theorem ofEntries?_eq_none_of_mem {entries : List (Option String × Json.Value)}
    {value : Json.Value} (member : (some program.name, value) ∈ entries)
    (malformed : ¬ value.IsAddress) : ofEntries? entries = none := by
  rw [Option.eq_none_iff_forall_ne_some]
  intro programs read
  obtain ⟨others, foreign, permuted⟩ := ofEntries?_eq_some_iff.mp read
  rcases List.mem_append.mp (permuted.mem_iff.mp member) with listed | other
  · obtain ⟨pair, -, same⟩ := List.mem_map.mp listed
    exact malformed (Json.Value.isAddress_iff.mpr ⟨pair.2, (congrArg Prod.snd same).symm⟩)
  · obtain ⟨name, named, unknown⟩ := foreign _ other
    exact unknown program (Option.some.inj named)

theorem countP_entries (programs : Programs) (program : Program) :
    (programs.entries.countP fun entry => entry.1 = some program.name) = 1 := by
  have names : programs.entries.map Prod.fst = Program.all.map (some ·.name) := by
    rw [entries, table, List.map_map, List.map_map]
    rfl
  have listed : ((Program.all.map (some ·.name)).countP (· = some program.name)) = 1 := by
    cases program <;> decide +kernel
  rw [← listed, ← names, List.countP_map]
  rfl

/-- An object that does not list a program exactly once is refused. -/
theorem ofEntries?_eq_none_of_countP {entries : List (Option String × Json.Value)}
    (amiss : (entries.countP fun entry => entry.1 = some program.name) ≠ 1) :
    ofEntries? entries = none := by
  rw [Option.eq_none_iff_forall_ne_some]
  intro programs read
  obtain ⟨others, foreign, permuted⟩ := ofEntries?_eq_some_iff.mp read
  have absent : (others.countP fun entry => entry.1 = some program.name) = 0 := by
    rw [List.countP_eq_zero]
    intro entry member
    obtain ⟨name, named, unknown⟩ := foreign entry member
    simpa [named] using (unknown program).symm
  refine amiss ?_
  rw [permuted.countP_eq, List.countP_append, countP_entries, absent]

theorem ofItems?_eq_none_of_mem {items : List Json.Value} {value : Json.Value}
    (member : value ∈ items) (malformed : ¬ value.IsAddress) : ofItems? items = none := by
  rw [Option.eq_none_iff_forall_ne_some]
  intro programs read
  obtain rfl := ofItems?_eq_some_iff.mp read
  obtain ⟨program, -, rfl⟩ := List.mem_map.mp member
  exact malformed (Json.Value.isAddress_iff.mpr ⟨_, rfl⟩)

theorem ofItems?_eq_none_of_length {items : List Json.Value} (amiss : items.length ≠ 8) :
    ofItems? items = none := by
  rw [Option.eq_none_iff_forall_ne_some]
  intro programs read
  obtain rfl := ofItems?_eq_some_iff.mp read
  exact amiss (List.length_map _)

/-! ### Main theorem -/

/-- An object is read as a set of programs exactly if its entries are those that are written for the
set, in any order, and others that name no program. An array is read as a set exactly if it is the
one that is written for the set. No address has a text that is too long, and the only text that
names an address is its own. So a program that is missing or repeated, an item too many or too few,
and a value that is not a text of an address are all refused. -/
theorem json_exact :
    (∀ (programs : Programs) entries, ofJson? (.object entries) = some programs ↔
      ∃ others, (∀ entry ∈ others, Json.Foreign entry) ∧
        entries.Perm (programs.entries ++ others)) ∧
    (∀ (programs : Programs) items,
      ofJson? (.array items) = some programs ↔ items = programs.items) ∧
    (∀ (address : Address), address.text.length ≤ 44 ∧
      ∀ text, Address.ofText? text = some address ↔ text = address.text) ∧
    (∀ (program : Program) entries,
      (entries.countP fun entry => entry.1 = some program.name) ≠ 1 →
      ofJson? (.object entries) = none) ∧
    (∀ items, items.length ≠ 8 → ofJson? (.array items) = none) ∧
    (∀ value : Json.Value, ¬ value.IsAddress →
      (∀ (program : Program) entries, (some program.name, value) ∈ entries →
        ofJson? (.object entries) = none) ∧
      (∀ items, value ∈ items → ofJson? (.array items) = none)) := by
  refine ⟨?_, ?_, ?_, ?_, ?_, ?_⟩
  · exact fun programs entries => ofEntries?_eq_some_iff
  · exact fun programs items => ofItems?_eq_some_iff
  · exact fun address => ⟨address.length_text_le, fun text => Address.ofText?_eq_some_iff_text⟩
  · exact fun program entries amiss => ofEntries?_eq_none_of_countP amiss
  · exact fun items amiss => ofItems?_eq_none_of_length amiss
  · exact fun value malformed => ⟨fun program entries member =>
      ofEntries?_eq_none_of_mem member malformed, fun items member =>
      ofItems?_eq_none_of_mem member malformed⟩

/-- The public deployments are read from their entries in reverse, also behind a comment, but not
with the exchange listed again. The text of the system program is all leading zeros. -/
theorem json_exact_of_mainnet :
    ofJson? (.object ((some "comment", .null) :: mainnet.entries.reverse)) = some mainnet ∧
    ofJson? (.object (written (.drift, .zero) :: mainnet.entries)) = none ∧
    ofJson? (.array mainnet.items.tail) = none ∧
    ofJson? (.array (.number :: mainnet.items.tail)) = none ∧
    Address.ofText? "11111111111111111111111111111111" = some (mainnet.get .system) := by
  obtain ⟨objects, arrays, addresses, counted, long, malformed⟩ := json_exact
  have comment : Json.Foreign (some "comment", .null) := by
    refine ⟨"comment", rfl, fun program => ?_⟩
    cases program <;> decide +kernel
  have number : ¬ Json.Value.number.IsAddress := by
    rintro ⟨text, bytes, ⟨⟩, -⟩
  refine ⟨(objects _ _).mpr ⟨[_], List.forall_mem_singleton.mpr comment, ?_⟩, counted .drift _ ?_,
    long _ ?_, (malformed _ number).2 _ List.mem_cons_self, ((addresses _).2 _).mpr ?_⟩
  · exact ((List.reverse_perm _).cons _).trans (List.perm_append_singleton _ _).symm
  · rw [List.countP_cons, countP_entries]
    decide
  · rw [List.length_tail, Programs.items, List.length_map]
    decide
  · decide +kernel

end Programs

end LiquidityController
