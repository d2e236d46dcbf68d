import Mathlib.Data.List.Nodup

/-!
# Reading lists

A list is read item by item and fails with the first item that cannot be read. A table is a list of
keys with their values, and as long as no key repeats, looking a key up finds whatever is listed
under it.
-/

namespace LiquidityController

variable {α β κ : Type}

/-- Reading all items succeeds if reading each of them does, and gives what they give. -/
theorem mapM_eq_some_iff {f : α → Option β} {items : List α} {results : List β} :
    items.mapM f = some results ↔ items.map f = results.map some := by
  induction items generalizing results with
  | nil => cases results <;> simp
  | cons item items ih =>
    rw [List.mapM_cons]
    cases results with
    | nil => cases f item <;> cases items.mapM f <;> simp
    | cons result results =>
      rw [List.map_cons, List.map_cons, List.cons.injEq, ← ih]
      cases f item <;> cases items.mapM f <;> simp

theorem exists_mapM_eq_some_iff {f : α → Option β} {items : List α} :
    (∃ results, items.mapM f = some results) ↔ ∀ item ∈ items, ∃ result, f item = some result := by
  induction items with
  | nil => simp
  | cons item items ih =>
    rw [List.forall_mem_cons, ← ih, List.mapM_cons]
    cases f item <;> cases items.mapM f <;> simp

/-- A reader that undoes a writer item by item undoes it on whole lists. -/
theorem mapM_eq_some_iff_of_inverse {f : α → Option β} {g : β → α} {valid : β → Prop}
    (inverse : ∀ item result, f item = some result ↔ valid result ∧ g result = item)
    {items : List α} {results : List β} :
    items.mapM f = some results ↔ (∀ result ∈ results, valid result) ∧ results.map g = items := by
  rw [mapM_eq_some_iff]
  induction items generalizing results with
  | nil => cases results <;> simp
  | cons item items ih =>
    cases results with
    | nil => simp
    | cons result results =>
      rw [List.map_cons, List.map_cons, List.cons.injEq, inverse, ih, List.forall_mem_cons,
        List.map_cons, List.cons.injEq]
      exact and_and_and_comm

theorem mem_of_mapM_eq_some {f : α → Option β} {items : List α} {results : List β}
    (read : items.mapM f = some results) {result : β} :
    result ∈ results ↔ ∃ item ∈ items, f item = some result := by
  have images := mapM_eq_some_iff.mp read
  have member : some result ∈ items.map f ↔ some result ∈ results.map some := by rw [images]
  simpa using member.symm

theorem lookup_eq_some_iff_mem [DecidableEq κ] {table : List (κ × α)}
    (distinct : (table.map Prod.fst).Nodup) {key : κ} {value : α} :
    table.lookup key = some value ↔ (key, value) ∈ table := by
  induction table with
  | nil => simp
  | cons entry table ih =>
    rw [List.map_cons, List.nodup_cons] at distinct
    rw [List.lookup_cons, List.mem_cons]
    by_cases same : key = entry.1
    · subst same
      have other : (entry.1, value) ∉ table := fun member =>
        distinct.1 (List.mem_map.mpr ⟨_, member, rfl⟩)
      simp [other, Prod.ext_iff, eq_comm]
    · have differs : (key == entry.1) = false := beq_false_of_ne same
      simp [differs, same, Prod.ext_iff, ih distinct.2]

theorem nodup_zip {keys : List κ} (distinct : keys.Nodup) (values : List α) :
    ((keys.zip values).map Prod.fst).Nodup := by
  have start : (keys.zip values).map Prod.fst <+: keys := by
    clear distinct
    induction keys generalizing values with
    | nil => exact List.nil_prefix
    | cons key keys ih =>
      cases values with
      | nil => exact List.nil_prefix
      | cons value values => exact (List.prefix_cons_inj key).mpr (ih values)
  exact distinct.sublist start.sublist

end LiquidityController
