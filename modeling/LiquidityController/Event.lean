import LiquidityController.Environment.Network
import LiquidityController.Failure
import LiquidityController.Integration.Protocol
import LiquidityController.Text.Quoted

/-!
# Events

What the library reports while it works: which addresses it has derived, why it refuses a
request, and where a configuration comes from.
-/

namespace LiquidityController

inductive Level where
  | debug
  | info
  | warn
  deriving DecidableEq, Repr

def Level.text : Level → String
  | debug => "DEBUG"
  | info => "INFO"
  | warn => "WARN"

inductive Event where
  | builderReady (controller controllerAuthority permission authority : Address)
  | permissionDerived (subject permission : Address)
  | reserveDerived (mint reserve vault : Address)
  | oracleDerived (nonce oracle : Address)
  | integrationDerived (protocol : Protocol) (integration : Address)
  | tokenProgramRejected (program : Address)
  | clearRejected (field : String)
  | controllerIdMissing (controller : Address)
  | reservesRejected (obligation : Address) (count : Nat)
  | descriptionRejected (text : String) (failure : Failure)
  | overridesRead (network : Network) (overrides : Overrides)
  | fileOpened (path : String)

namespace Event

/-- The level of an event: a refused request is a warning. -/
def level : Event → Level
  | builderReady .. | permissionDerived .. | reserveDerived .. | oracleDerived ..
  | integrationDerived .. => .debug
  | tokenProgramRejected .. | clearRejected .. | controllerIdMissing .. | reservesRejected ..
  | descriptionRejected .. => .warn
  | overridesRead .. | fileOpened .. => .info

def message : Event → String
  | builderReady controller controllerAuthority permission authority =>
    s!"controller {controller.text}: authority {controllerAuthority.text}, " ++
      s!"permission {permission.text} for {authority.text}"
  | permissionDerived subject permission => s!"permission of {subject.text} is {permission.text}"
  | reserveDerived mint reserve vault =>
    s!"reserve for {mint.text} is {reserve.text}, vault {vault.text}"
  | oracleDerived nonce oracle => s!"oracle for nonce {nonce.text} is {oracle.text}"
  | integrationDerived protocol integration =>
    s!"{protocol.name} integration address is {integration.text}"
  | tokenProgramRejected program => s!"rejecting {program.text} as a token program"
  | clearRejected field => s!"rejecting attempt to clear `{field}`"
  | controllerIdMissing controller =>
    s!"cannot initialize controller {controller.text} without its id"
  | reservesRejected obligation count =>
    s!"obligation {obligation.text} refresh given {count} reserves"
  | descriptionRejected text failure =>
    s!"integration description {Text.quote text} rejected: {failure.message}"
  | overridesRead network overrides =>
    s!"{network.title} program overrides: {overrides.text}"
  | fileOpened path => s!"reading environment config from {path}"

end Event

end LiquidityController
