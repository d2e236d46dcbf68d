import LiquidityController.Toml.Value

/-!
# Configuration documents

A document is a sequence of lines, each with a header or with a key and its value. A header
starts a new table and says where it hangs in the table of the whole document; headers in double
brackets add an element to an array of tables. What has been placed once must not be placed
again, except that a table may get its own header after the headers of its inner tables.
-/

namespace LiquidityController.Toml

inductive Line where
  | header (path : List String) (repeated : Bool)
  | entry (path : List String) (value : Value)

/-- What follows a line that ends here, perhaps with a comment. -/
def endOfLine? (tokens : List Token) : Option (List Token) :=
  match skipBlank tokens with
  | [] | [.comment] => some []
  | .newline :: rest | .comment :: .newline :: rest => some rest
  | _ => none

/-- A header of which the first bracket has been read, and what follows its line. -/
def header? (fuel : Nat) (tokens : List Token) : Option (Line × List Token) :=
  match tokens with
  | .leftBracket :: rest => do
    let (path, rest) ← dottedKey? fuel (skipBlank rest)
    match rest with
    | .rightBracket :: .rightBracket :: rest =>
      return (.header path true, ← endOfLine? rest)
    | _ => none
  | tokens => do
    let (path, rest) ← dottedKey? fuel (skipBlank tokens)
    match rest with
    | .rightBracket :: rest => return (.header path false, ← endOfLine? rest)
    | _ => none

/-- A key with its value, and what follows their line. -/
def entry? (fuel : Nat) (tokens : List Token) : Option (Line × List Token) := do
  let (path, rest) ← dottedKey? fuel tokens
  match rest with
  | .equals :: rest =>
    -- each bracket takes two steps: it opens an array or a table, and its contents
    let (value, rest) ← value? (2 * fuel) (skipBlank rest)
    return (.entry path value, ← endOfLine? rest)
  | _ => none

def lines? : Nat → List Token → Option (List Line)
  | 0, tokens => if skipLines tokens = [] then some [] else none
  | fuel + 1, tokens =>
    match skipLines tokens with
    | [] => some []
    | .leftBracket :: rest => do
      let (line, rest) ← header? (fuel + 1) rest
      return line :: (← lines? fuel rest)
    | tokens => do
      let (line, rest) ← entry? (fuel + 1) tokens
      return line :: (← lines? fuel rest)

structure Section where
  path : List String
  repeated : Bool
  entries : Entries

/-- A document: the entries before the first header, and the tables under headers. -/
structure Document where
  entries : Entries
  sections : List Section

/-- The entries up to the first header, added to those that have been read, and the tables under
headers. -/
def Document.ofLines? : Entries → List Line → Option Document
  | entries, [] => some ⟨entries, []⟩
  | entries, .entry path value :: lines => do
    let entries ← entries.insertDotted value path
    ofLines? entries lines
  | entries, .header path repeated :: lines => do
    let ⟨own, sections⟩ ← ofLines? [] lines
    return ⟨entries, ⟨path, repeated, own⟩ :: sections⟩

def Document.parse? (text : String) : Option Document := do
  let text := Token.foldLineEnds (Token.dropByteOrderMark text.toList)
  -- there are no more tokens and no more lines than characters
  let lines ← lines? text.length (Token.scan text)
  ofLines? [] lines

/-- Whether headers have made a value. -/
def Value.isPlaced : Value → Bool
  | table .header _ | table .outerHeader _ | tables _ => true
  | _ => false

/-- Replaces the value that headers have placed under a name, or adds one at the end. -/
def Entries.updatePlaced (name : String) (change : Option Value → Option Value)
    (entries : Entries) : Option Entries :=
  let isThere (entry : String × Value) : Bool := entry.1 == name && entry.2.isPlaced
  match entries.findIdx? isThere with
  | none => (change none).map fun value => entries ++ [(name, value)]
  | some index =>
    (change (entries[index]?.map Prod.snd)).map fun value => entries.set index (name, value)

/-- Places the table under a header. An outer name that stands for an array of tables means its
last element. -/
def Entries.place (own : Entries) (repeated : Bool) : List String → Entries → Option Entries
  | [], _ => none
  | [name], entries => entries.updatePlaced name fun
    | none => some (if repeated then .tables [own] else .table .header own)
    | some (.table .outerHeader inner) =>
      if repeated then none else some (.table .header (own ++ inner))
    | some (.tables elements) => if repeated then some (.tables (elements ++ [own])) else none
    | some _ => none
  | name :: path, entries => entries.updatePlaced name fun
    | none => (place own repeated path []).map (.table .outerHeader ·)
    | some (.table origin inner) => (place own repeated path inner).map (.table origin ·)
    | some (.tables elements) =>
      (place own repeated path (elements.getLastD [])).map fun last =>
        .tables (elements.dropLast ++ [last])
    | some _ => none

def Document.table? (document : Document) : Option Entries := do
  let placed ← document.sections.foldlM
    (fun entries part => Entries.place part.entries part.repeated part.path entries) []
  -- a name that has a value before the first header and a table under one occurs twice
  return document.entries ++ placed

end LiquidityController.Toml
