import LiquidityController.Builder.Basic
import LiquidityController.Toml.Document

/-!
# Environments

A client works in an environment: a network, and the addresses of the programs on it. It is
described by a document that names the network and overrides the addresses of some programs.
-/

namespace LiquidityController

structure Environment where
  network : Network
  programs : Programs
  deriving DecidableEq

/-- What a file holds, as far as opening it tells. -/
inductive FileState where
  | missing
  | directory
  | bytes (content : List UInt8)

inductive FileError where
  | notFound
  | isDirectory
  | notText
  deriving DecidableEq, Repr

def FileError.message : FileError → String
  | notFound => "No such file or directory (os error 2)"
  | isDirectory => "Is a directory (os error 21)"
  | notText => "stream did not contain valid UTF-8"

def FileState.read : FileState → Except FileError String
  | missing => .error .notFound
  | directory => .error .isDirectory
  | bytes content =>
    match String.fromUTF8? ⟨content.toArray⟩ with
    | some text => .ok text
    | none => .error .notText

inductive EnvironmentError where
  | unreadable (path : String) (cause : FileError)
  | malformed
  deriving DecidableEq, Repr

namespace Network

/-- The network that a value chooses: by its name, or by a table in braces whose only entry has
that name and says nothing more. -/
def ofValue? : Toml.Value → Option Network
  | .text name => ofName? name
  | .table .braces [(name, .table .braces [])] => ofName? name
  | _ => none

end Network

def Toml.Value.address? : Toml.Value → Option Address
  | .text content => Address.ofText? content
  | _ => none

namespace Overrides

def ofTable (table : List (Program × Address)) : Overrides :=
  fun program => table.lookup program

/-- The overrides that the entries of a table describe. Every entry has to name a program, and
no program may be named twice. -/
def ofEntries? (entries : Toml.Entries) : Option Overrides := do
  let table ← entries.mapM fun (name, value) => do
    return (← Program.ofName? name, ← value.address?)
  guard (table.map Prod.fst).Nodup
  return ofTable table

/-- The overrides that the items of an array describe, for the first programs in order. -/
def ofItems? (items : List Toml.Value) : Option Overrides := do
  guard (items.length ≤ Program.all.length)
  return ofTable (Program.all.zip (← items.mapM Toml.Value.address?))

def ofValue? : Toml.Value → Option Overrides
  | .table _ entries => ofEntries? entries
  | .array items => ofItems? items
  | _ => none

end Overrides

/-- The values under a name that may occur once. -/
def Toml.Entries.atMostOne? (name : String) (entries : Toml.Entries) :
    Option (Option Toml.Value) :=
  match entries.filter (·.1 == name) with
  | [] => some none
  | [entry] => some (some entry.2)
  | _ => none

/-- The network and the overrides that the table of a document describes. The network is
required; entries with other names are passed over. -/
def Environment.choices? (entries : Toml.Entries) : Option (Network × Overrides) := do
  let network ← (← entries.atMostOne? "network") >>= Network.ofValue?
  match ← entries.atMostOne? "programs" with
  | none => return (network, .empty)
  | some value => return (network, ← Overrides.ofValue? value)

/-- The network that a document chooses by consisting of nothing but one header, which starts
with the name of the entry and ends with that of the network. -/
def Network.ofSoleHeader? (document : Toml.Document) : Option Network :=
  match document.entries, document.sections with
  | [], [⟨"network" :: path, _, []⟩] => path.getLast? >>= ofName?
  | _, _ => none

def Environment.ofDocument? (document : Toml.Document) : Option (Network × Overrides) :=
  match Network.ofSoleHeader? document with
  | some network => some (network, .empty)
  | none => document.table? >>= choices?

namespace Environment

def ofNetwork (network : Network) : Environment :=
  ⟨network, .mainnet⟩

/-- The environment with the overrides in place, which are reported if there are any. -/
def ofChoices (network : Network) (overrides : Overrides) :
    Logged EnvironmentError Environment := do
  unless overrides.isEmpty do
    .report (.overridesRead network overrides)
  return ⟨network, overrides.apply .mainnet⟩

def ofTable (entries : Toml.Entries) : Logged EnvironmentError Environment :=
  match choices? entries with
  | some (network, overrides) => ofChoices network overrides
  | none => .ofExcept (.error .malformed)

def parse (text : String) : Logged EnvironmentError Environment :=
  match Toml.Document.parse? text >>= ofDocument? with
  | some (network, overrides) => ofChoices network overrides
  | none => .ofExcept (.error .malformed)

def load (path : String) (file : FileState) : Logged EnvironmentError Environment := do
  -- the file is reported even if it cannot be opened
  .report (.fileOpened path)
  match file.read with
  | .error cause => .ofExcept (.error (.unreadable path cause))
  | .ok text => parse text

def builder (environment : Environment) (id : UInt16) (authority : Address) :
    Logged Failure Builder :=
  Builder.ofId environment.programs id authority

end Environment

/-- The wording of an error that has one: how a text is malformed is not told. -/
def EnvironmentError.message? : EnvironmentError → Option String
  | unreadable path cause => some s!"failed while trying I/O on {path}: {cause.message}"
  | malformed => none

end LiquidityController
