import LiquidityController.Text.Digit

/-!
# Tokens of a configuration document

A document is cut into punctuation, words, quoted texts, blanks, comments and line ends. A line
may end in a carriage return and a line feed, which count as one line end. Where no token can be
cut off, the rest of the document becomes the last token.
-/

namespace LiquidityController.Toml

inductive Token where
  | newline
  | blank (text : List Char)
  | comment
  | equals
  | period
  | comma
  | colon
  | plus
  | leftBrace
  | rightBrace
  | leftBracket
  | rightBracket
  | word (text : List Char)
  | quoted (text : List Char) (multiline : Bool)
  | unreadable (rest : List Char)
  deriving DecidableEq, Repr

namespace Token

def isWordChar (c : Char) : Bool :=
  ('A' ≤ c && c ≤ 'Z') || ('a' ≤ c && c ≤ 'z') || ('0' ≤ c && c ≤ '9') || c == '-' || c == '_'

def isBlank (c : Char) : Bool :=
  c == ' ' || c == '\t'

def isCommentChar (c : Char) : Bool :=
  c == '\t' || 0x20 ≤ c.toNat

def isTextChar (c : Char) : Bool :=
  c == '\t' || (0x20 ≤ c.toNat && c.toNat != 0x7f)

def escaped? : Char → Option Char
  | '"' => some '"'
  | '\\' => some '\\'
  | 'b' => some '\x08'
  | 'f' => some '\x0c'
  | 'n' => some '\n'
  | 'r' => some '\r'
  | 't' => some '\t'
  | _ => none

inductive Mode where
  | text
  /-- Blanks between a backslash and the end of its line. -/
  | lineEnd
  /-- Blanks and line ends after a backslash at the end of a line. -/
  | indent
  deriving DecidableEq

/-- The quotes that end a text of several lines may follow up to two quotes of the text. -/
def closing (quote : Char) : List Char → List Char × List Char
  | [] => ([], [])
  | c :: rest =>
    if c != quote then ([], c :: rest)
    else match rest with
      | [] => ([quote], [])
      | d :: rest => if d == quote then ([quote, quote], rest) else ([quote], d :: rest)

/-- A quoted text without its opening quotes, and what follows it. Texts between double quotes
have escapes, texts between single quotes have none. -/
def quotedText (quote : Char) (multiline : Bool) :
    Mode → List Char → Option (List Char × List Char)
  | _, [] => none
  | .lineEnd, c :: rest =>
    if isBlank c then quotedText quote multiline .lineEnd rest
    else if c == '\n' then quotedText quote multiline .indent rest
    else none
  | mode, c :: rest =>
    if mode = .indent ∧ (isBlank c || c == '\n') then quotedText quote multiline .indent rest
    else if c == quote then
      if multiline then
        match rest with
        | d :: e :: after =>
          if d == quote && e == quote then
            let (quotes, after) := closing quote after
            some (quotes, after)
          else consText c (quotedText quote multiline .text (d :: e :: after))
        | _ => none
      else some ([], rest)
    else if c == '\n' then
      if multiline then consText c (quotedText quote multiline .text rest) else none
    else if c == '\\' && quote == '"' then
      match rest with
      | 'u' :: a :: b :: c :: d :: after => do
        let c ← Text.number? 16 [a, b, c, d] >>= Text.scalar?
        consText c (quotedText quote multiline .text after)
      | 'U' :: a :: b :: c :: d :: e :: f :: g :: h :: after => do
        let c ← Text.number? 16 [a, b, c, d, e, f, g, h] >>= Text.scalar?
        consText c (quotedText quote multiline .text after)
      | d :: after =>
        if multiline && d == '\n' then quotedText quote multiline .indent after
        else if multiline && isBlank d then quotedText quote multiline .lineEnd after
        else do
          let c ← escaped? d
          consText c (quotedText quote multiline .text after)
      | [] => none
    else if isTextChar c then consText c (quotedText quote multiline .text rest)
    else none
where
  consText (c : Char) (read : Option (List Char × List Char)) : Option (List Char × List Char) :=
    read.map fun (text, rest) => (c :: text, rest)

/-- A quoted text of which the first quote has been read. Three quotes open a text of several
lines, which does not start with the end of the first line. -/
def afterQuote (quote : Char) : List Char → Option (Token × List Char)
  | [] => none
  | c :: rest =>
    if c != quote then
      (quotedText quote false .text (c :: rest)).map fun (text, rest) => (quoted text false, rest)
    else match rest with
      | [] => some (quoted [] false, [])
      | d :: rest =>
        if d != quote then some (quoted [] false, d :: rest)
        else
          let body := match rest with
            | '\n' :: rest => rest
            | rest => rest
          (quotedText quote true .text body).map fun (text, rest) => (quoted text true, rest)

def next (c : Char) (rest : List Char) : Option (Token × List Char) :=
  match c with
  | '\n' => some (newline, rest)
  | '=' => some (equals, rest)
  | '.' => some (period, rest)
  | ',' => some (comma, rest)
  | ':' => some (colon, rest)
  | '+' => some (plus, rest)
  | '\x7b' => some (leftBrace, rest)
  | '\x7d' => some (rightBrace, rest)
  | '[' => some (leftBracket, rest)
  | ']' => some (rightBracket, rest)
  | '#' => some (comment, rest.dropWhile isCommentChar)
  | '"' => afterQuote '"' rest
  | '\'' => afterQuote '\'' rest
  | c =>
    if isBlank c then some (blank (c :: rest.takeWhile isBlank), rest.dropWhile isBlank)
    else if isWordChar c then
      some (word (c :: rest.takeWhile isWordChar), rest.dropWhile isWordChar)
    else none

def scanUpTo : Nat → List Char → List Token
  | _, [] => []
  | 0, rest => [unreadable rest]
  | fuel + 1, c :: rest =>
    match next c rest with
    | some (token, rest) => token :: scanUpTo fuel rest
    | none => [unreadable (c :: rest)]

/-- The tokens of a text. Every token takes at least one character. -/
def scan (text : List Char) : List Token :=
  scanUpTo text.length text

/-- The text with one character for every line end. -/
def foldLineEnds : List Char → List Char
  | '\r' :: '\n' :: rest => '\n' :: foldLineEnds rest
  | c :: rest => c :: foldLineEnds rest
  | [] => []

/-- A text without the mark that may stand at its start. -/
def dropByteOrderMark : List Char → List Char
  | '\ufeff' :: rest => rest
  | text => text

end Token

end LiquidityController.Toml
