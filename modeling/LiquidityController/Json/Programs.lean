import LiquidityController.Json.Value
import LiquidityController.Program

/-!
# Program addresses in JSON

A set of programs is an object with one entry for each program, or an array with the addresses
in the order of the programs. Other entries of the object are passed over; an entry that a
program has twice, or not at all, is refused.
-/

namespace LiquidityController

def Json.Value.address? : Json.Value → Option Address
  | .text (some content) => Address.ofText? content
  | _ => none

namespace Programs

def ofTable? (table : List (Program × Address)) : Option Programs := do
  return {
    controller := ← table.lookup .controller
    token := ← table.lookup .token
    token2022 := ← table.lookup .token2022
    associatedToken := ← table.lookup .associatedToken
    system := ← table.lookup .system
    kaminoLend := ← table.lookup .kaminoLend
    kaminoFarms := ← table.lookup .kaminoFarms
    drift := ← table.lookup .drift }

/-- What an entry says about a program, if it is the entry of one. -/
def entry? (entry : Option String × Json.Value) : Option (Option (Program × Address)) := do
  let name ← entry.1
  match Program.ofName? name with
  | none => return none
  | some program => return some (program, ← entry.2.address?)

def ofEntries? (entries : List (Option String × Json.Value)) : Option Programs := do
  let table := (← entries.mapM entry?).filterMap id
  guard (table.map Prod.fst).Nodup
  ofTable? table

def ofItems? (items : List Json.Value) : Option Programs := do
  guard (items.length = Program.all.length)
  ofTable? (Program.all.zip (← items.mapM Json.Value.address?))

def ofJson? : Json.Value → Option Programs
  | .object entries => ofEntries? entries
  | .array items => ofItems? items
  | _ => none

/-- The set of programs that a text describes. -/
def ofJsonText? (text : String) : Option Programs :=
  Json.parse? text >>= ofJson?

end Programs

end LiquidityController
