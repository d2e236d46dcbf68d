import LiquidityController.Toml.Number

/-!
# Values of a configuration document

A table knows how it came about, because a table that is closed by its own braces cannot be
extended later, while one that only headers or dotted keys have mentioned can.
-/

namespace LiquidityController.Toml

/-- How a table was written. -/
inductive Origin where
  | braces
  /-- As the first part of a dotted key. -/
  | dottedKey
  /-- Under a header of its own. -/
  | header
  /-- Only as a part of the headers of other tables. -/
  | outerHeader
  deriving DecidableEq, Repr

/-- A value. Numbers, dates and times are checked when they are read, and not kept. -/
inductive Value where
  | text (content : String)
  | boolean (value : Bool)
  | number
  | array (items : List Value)
  | table (origin : Origin) (entries : List (String × Value))
  /-- The tables under one repeated header of double brackets. -/
  | tables (elements : List (List (String × Value)))

/-- The names and values of a table, in order. Names may repeat. -/
abbrev Entries : Type := List (String × Value)

/-- Puts a value under a dotted key. The parts before the last name tables that dotted keys
alone have made; the last name is added whether or not it is there already. -/
def Entries.insertDotted (value : Value) : List String → Entries → Option Entries
  | [], _ => none
  | [name], entries => some (entries ++ [(name, value)])
  | name :: path, entries =>
    match entries.findIdx? (·.1 == name) with
    | none => do
      let inner ← insertDotted value path []
      return entries ++ [(name, .table .dottedKey inner)]
    | some index =>
      match entries[index]? with
      | some (_, .table .dottedKey inner) => do
        let inner ← insertDotted value path inner
        return entries.set index (name, .table .dottedKey inner)
      | _ => none

def skipBlank : List Token → List Token
  | .blank _ :: rest => rest
  | tokens => tokens

def skipLines : List Token → List Token
  | .blank _ :: rest => skipLines rest
  | .comment :: rest => skipLines rest
  | .newline :: rest => skipLines rest
  | tokens => tokens

/-- A part of a key: a word, or a quoted text on one line. -/
def keyPart? : List Token → Option (String × List Token)
  | .word text :: rest => some (.ofList text, rest)
  | .quoted text false :: rest => some (.ofList text, rest)
  | _ => none

/-- The parts of a key, of which there are at most as many as `fuel` says, and what follows the
blank after it. -/
def dottedKey? : Nat → List Token → Option (List String × List Token)
  | 0, _ => none
  | fuel + 1, tokens => do
    let (name, rest) ← keyPart? tokens
    match skipBlank rest with
    | .period :: rest =>
      let (path, rest) ← dottedKey? fuel (skipBlank rest)
      return (name :: path, rest)
    | rest => return ([name], rest)

mutual

/-- A value and what follows it. -/
def value? : Nat → List Token → Option (Value × List Token)
  -- values that are nested deeper than the fuel says are given up
  | 0, _ => none
  | fuel + 1, tokens =>
    match tokens with
    | .quoted text _ :: rest => some (.text (.ofList text), rest)
    | .word text :: rest =>
      if text = "true".toList then some (.boolean true, rest)
      else if text = "false".toList then some (.boolean false, rest)
      else if text = "inf".toList ∨ text = "nan".toList ∨
          text.head?.any (fun c => c == '-' || Text.isDigit 10 c) then
        (numberOrDate? text rest).map fun rest => (.number, rest)
      else none
    | .plus :: .word text :: rest => (number? text rest).map fun rest => (.number, rest)
    | .leftBracket :: rest => (items? fuel rest).map fun (items, rest) => (.array items, rest)
    | .leftBrace :: rest =>
      match skipBlank rest with
      | .rightBrace :: rest => some (.table .braces [], rest)
      | rest => (pairs? fuel [] rest).map fun (entries, rest) => (.table .braces entries, rest)
    | _ => none

/-- The items of an array up to its closing bracket. Line ends may stand between them, and a
comma may follow the last one. -/
def items? : Nat → List Token → Option (List Value × List Token)
  | 0, _ => none
  | fuel + 1, tokens =>
    match skipLines tokens with
    | .rightBracket :: rest => some ([], rest)
    | tokens => do
      let (item, rest) ← value? fuel tokens
      match skipLines rest with
      | .comma :: rest =>
        let (items, rest) ← items? fuel rest
        return (item :: items, rest)
      | .rightBracket :: rest => return ([item], rest)
      | _ => none

/-- The entries of a table up to its closing brace, after those that have been read. They stand
on one line, and no comma follows the last one. -/
def pairs? : Nat → Entries → List Token → Option (Entries × List Token)
  | 0, _, _ => none
  | fuel + 1, entries, tokens => do
    let (path, rest) ← dottedKey? (fuel + 1) tokens
    match rest with
    | .equals :: rest =>
      let (value, rest) ← value? fuel (skipBlank rest)
      let entries ← entries.insertDotted value path
      match skipBlank rest with
      | .rightBrace :: rest => return (entries, rest)
      | .comma :: rest => pairs? fuel entries (skipBlank rest)
      | _ => none
    | _ => none

end

end LiquidityController.Toml
