import LiquidityController.Program

/-!
# Networks and the programs on them

The controller runs on a public network, on one for development and on private ones. A network
uses the public deployment of every program unless its address is overridden.
-/

namespace LiquidityController

inductive Network where
  | mainnet
  | devnet
  | localnet
  deriving DecidableEq, Repr

namespace Network

def name : Network → String
  | mainnet => "mainnet"
  | devnet => "devnet"
  | localnet => "localnet"

/-- The name that a log shows. -/
def title : Network → String
  | mainnet => "Mainnet"
  | devnet => "Devnet"
  | localnet => "Localnet"

def ofName? (name : String) : Option Network :=
  [mainnet, devnet, localnet].find? (·.name == name)

end Network

/-- Addresses that replace those of the public deployments. -/
abbrev Overrides : Type := Program → Option Address

namespace Overrides

def empty : Overrides :=
  fun _ => none

def isEmpty (overrides : Overrides) : Bool :=
  Program.all.all fun program => (overrides program).isNone

def apply (overrides : Overrides) (programs : Programs) : Programs :=
  .ofFn fun program => (overrides program).getD (programs.get program)

def entryText (overrides : Overrides) (program : Program) : String :=
  match overrides program with
  | some address => s!"{program.name}: Some({address.text})"
  | none => s!"{program.name}: None"

def text (overrides : Overrides) : String :=
  "ProgramOverrides \x7b " ++ ", ".intercalate (Program.all.map overrides.entryText) ++ " \x7d"

end Overrides

end LiquidityController
