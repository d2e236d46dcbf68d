import LiquidityController.Text.Digit

/-!
# JSON texts

A strict reader that keeps the order of entries and their repetitions. The grammar lets strings
name halves of surrogate pairs; a string in which a half stands alone is no text.
-/

namespace LiquidityController.Json

/-- A value. Numbers are checked when they are read, and not kept. -/
inductive Value where
  | null
  | boolean (value : Bool)
  | number
  | text (content : Option String)
  | array (items : List Value)
  | object (entries : List (Option String × Value))

def skipSpace (text : List Char) : List Char :=
  text.dropWhile fun c => c == ' ' || c == '\n' || c == '\t' || c == '\r'

/-- A unit of a string: a character, or half of a surrogate pair. -/
inductive Unit where
  | char (c : Char)
  | high (half : Nat)
  | low (half : Nat)
  deriving DecidableEq

def Unit.ofNat (number : Nat) : Unit :=
  if 0xd800 ≤ number ∧ number < 0xdc00 then high (number - 0xd800)
  else if 0xdc00 ≤ number ∧ number < 0xe000 then low (number - 0xdc00)
  else char (.ofNat number)

/-- The characters that units stand for; none if a half stands alone. -/
def Unit.join : List Unit → Option (List Char)
  | [] => some []
  | char c :: rest => (join rest).map (c :: ·)
  | high first :: low second :: rest =>
    (join rest).map (.ofNat (0x10000 + first * 0x400 + second) :: ·)
  | _ => none

/-- The character that a letter denotes after a backslash. -/
def escaped? : Char → Option Char
  | '"' => some '"'
  | '\\' => some '\\'
  | '/' => some '/'
  | 'b' => some '\x08'
  | 'f' => some '\x0c'
  | 'n' => some '\n'
  | 'r' => some '\r'
  | 't' => some '\t'
  | _ => none

/-- The units of a string of which the opening quote has been read, and what follows it. -/
def units? : List Char → Option (List Unit × List Char)
  | [] => none
  | '"' :: rest => some ([], rest)
  | '\\' :: 'u' :: a :: b :: c :: d :: rest => do
    let number ← Text.number? 16 [a, b, c, d]
    let (units, rest) ← units? rest
    return (.ofNat number :: units, rest)
  | '\\' :: letter :: rest => do
    let c ← escaped? letter
    let (units, rest) ← units? rest
    return (.char c :: units, rest)
  | c :: rest =>
    if c.toNat < 0x20 ∨ c = '\\' then none
    else do
      let (units, rest) ← units? rest
      return (.char c :: units, rest)

def string? (text : List Char) : Option (Option String × List Char) := do
  let (units, rest) ← units? text
  return ((Unit.join units).map String.ofList, rest)

/-- Text without the digits at its start, of which there has to be one. -/
def digits? (text : List Char) : Option (List Char) :=
  if text.head?.any Char.isDigit then some (text.dropWhile Char.isDigit) else none

def fraction? : List Char → Option (List Char)
  | '.' :: rest => digits? rest
  | text => some text

def exponent? : List Char → Option (List Char)
  | 'e' :: rest | 'E' :: rest =>
    match rest with
    | '+' :: rest | '-' :: rest => digits? rest
    | rest => digits? rest
  | text => some text

/-- Text without the number at its start. -/
def number? (text : List Char) : Option (List Char) := do
  let text := match text with
    | '-' :: rest => rest
    | text => text
  -- a number has no leading zeros
  let rest ← match text with
    | '0' :: rest => if rest.head?.any Char.isDigit then none else some rest
    | text => digits? text
  exponent? (← fraction? rest)

mutual

/-- A value and what follows it. The reader gives up on values that are nested deeper than `fuel`
says. -/
def value? : Nat → List Char → Option (Value × List Char)
  | 0, _ => none
  | fuel + 1, text =>
    match skipSpace text with
    | 'n' :: 'u' :: 'l' :: 'l' :: rest => some (.null, rest)
    | 't' :: 'r' :: 'u' :: 'e' :: rest => some (.boolean true, rest)
    | 'f' :: 'a' :: 'l' :: 's' :: 'e' :: rest => some (.boolean false, rest)
    | '"' :: rest => (string? rest).map fun (content, rest) => (.text content, rest)
    | '[' :: rest =>
      match skipSpace rest with
      | ']' :: rest => some (.array [], rest)
      | rest => (items? fuel rest).map fun (items, rest) => (.array items, rest)
    | '\x7b' :: rest =>
      match skipSpace rest with
      | '\x7d' :: rest => some (.object [], rest)
      | rest => (entries? fuel rest).map fun (entries, rest) => (.object entries, rest)
    | text => (number? text).map fun rest => (.number, rest)

/-- The items of an array, of which there is at least one, up to its closing bracket. -/
def items? : Nat → List Char → Option (List Value × List Char)
  | 0, _ => none
  | fuel + 1, text => do
    let (item, rest) ← value? fuel text
    match skipSpace rest with
    | ',' :: rest =>
      let (items, rest) ← items? fuel rest
      return (item :: items, rest)
    | ']' :: rest => return ([item], rest)
    | _ => none

/-- The entries of an object, of which there is at least one, up to its closing brace. -/
def entries? : Nat → List Char → Option (List (Option String × Value) × List Char)
  | 0, _ => none
  | fuel + 1, text =>
    match skipSpace text with
    | '"' :: rest => do
      let (name, rest) ← string? rest
      match skipSpace rest with
      | ':' :: rest =>
        let (value, rest) ← value? fuel rest
        match skipSpace rest with
        | ',' :: rest =>
          let (entries, rest) ← entries? fuel rest
          return ((name, value) :: entries, rest)
        | '\x7d' :: rest => return ([(name, value)], rest)
        | _ => none
      | _ => none
    | _ => none

end

def parse? (text : String) : Option Value := do
  -- between two steps of the reader that go deeper at least one character is read
  let (value, rest) ← value? (2 * text.length + 2) text.toList
  guard (skipSpace rest).isEmpty
  return value

end LiquidityController.Json
