/-!
# Changes of a field

An update names, for every field of a record, whether the field stays, is emptied or gets a new
value.
-/

namespace LiquidityController

/-- What an update does to one field. -/
inductive Change (α : Type) where
  | unchanged
  | cleared
  | set (value : α)
  deriving DecidableEq, Repr

namespace Change

variable {α : Type}

instance : Inhabited (Change α) :=
  ⟨unchanged⟩

def ofOption : Option α → Change α
  | none => unchanged
  | some value => set value

def isUnchanged : Change α → Bool
  | unchanged => true
  | _ => false

/-- The value to write, if there is one, when an emptied field gets a given value. -/
def valueOr (empty : α) : Change α → Option α
  | unchanged => none
  | cleared => some empty
  | set value => some value

end Change

end LiquidityController
