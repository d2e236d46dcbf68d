import LiquidityController.Event

/-!
# Computations that report events

A computation that can fail and that reports events on the way. The events reported before a
failure are kept.
-/

namespace LiquidityController

/-- A result together with the events that were reported on the way to it, in order. -/
structure Logged (ε α : Type) where
  events : List Event
  result : Except ε α

namespace Logged

variable {ε α β : Type}

def ofExcept (result : Except ε α) : Logged ε α :=
  ⟨[], result⟩

def bind (first : Logged ε α) (next : α → Logged ε β) : Logged ε β :=
  match first.result with
  | .ok value => ⟨first.events ++ (next value).events, (next value).result⟩
  | .error failure => ⟨first.events, .error failure⟩

instance : Monad (Logged ε) where
  pure value := ofExcept (.ok value)
  bind := bind

instance : MonadLift (Except ε) (Logged ε) where
  monadLift := ofExcept

def report (event : Event) : Logged ε Unit :=
  ⟨[event], .ok ()⟩

/-- Fails and reports why. -/
def reject (event : Event) (failure : ε) : Logged ε α :=
  ⟨[event], .error failure⟩

end Logged

end LiquidityController
