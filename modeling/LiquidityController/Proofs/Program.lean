import LiquidityController.Program
import Mathlib.Data.List.Nodup

/-!
# Programs by name

Every program is listed once, and no two share a name, so looking a name up finds its program.
-/

namespace LiquidityController

namespace Program

theorem mem_all (program : Program) : program ∈ all := by
  cases program <;> decide

theorem nodup_all : all.Nodup := by
  decide

theorem ofName?_eq_some_iff {name : String} {program : Program} :
    ofName? name = some program ↔ program.name = name := by
  constructor
  · intro found
    simpa using List.find?_some found
  · rintro rfl
    cases program <;> decide +kernel

theorem name_injective : Function.Injective name := by
  intro program program' same
  have found : ofName? program.name = some program := ofName?_eq_some_iff.mpr rfl
  rw [same, ofName?_eq_some_iff.mpr rfl] at found
  exact (Option.some.inj found).symm

end Program

end LiquidityController
