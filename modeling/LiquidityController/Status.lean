import LiquidityController.Wire.Codec

/-!
# Status

The controller, its permissions, its reserves and its integrations can each be suspended.
-/

namespace LiquidityController

/-- Whether an account takes part in operations. -/
inductive Status where
  | suspended
  | active
  deriving DecidableEq, Repr

def Status.codec : Codec Status :=
  .enumeration [suspended, active]

end LiquidityController
