import LiquidityController.Failure

/-!
# Rate limits

A rate limit bounds how much may leave a reserve or an integration. Amounts are often computed
with more than the 64 bits that a record has room for; such an amount is refused, never cut.
-/

namespace LiquidityController

/-- An amount as a 64 bit number, if it is one; otherwise the refusal names the field. -/
def narrow (field : String) (value : Nat) : Except Failure UInt64 :=
  if value < UInt64.size then .ok (.ofNat value) else .error (.valueOutOfRange field value)

structure RateLimit where
  /-- How much of the allowance comes back, per day. -/
  slope : UInt64
  maxOutflow : UInt64
  deriving DecidableEq, Repr

namespace RateLimit

/-- The cap that stands for no cap. -/
def uncapped : UInt64 := 0xffffffffffffffff

/-- No cap, and nothing that comes back. -/
def unlimited : RateLimit :=
  ⟨0, uncapped⟩

/-- A limit from wider amounts, of which the slope is checked first. -/
def ofWide (slope maxOutflow : Nat) : Except Failure RateLimit := do
  let slope ← narrow "rate_limit_slope" slope
  let maxOutflow ← narrow "rate_limit_max_outflow" maxOutflow
  return ⟨slope, maxOutflow⟩

end RateLimit

end LiquidityController
