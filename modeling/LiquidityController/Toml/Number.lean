import LiquidityController.Bytes.Number
import LiquidityController.Toml.Token

/-!
# Numbers, dates and times

The written forms of numbers, dates and times. Their values do not matter to a configuration, so
they are only checked: a number has to fit its type, while dates and times are told apart from
numbers by their punctuation and not looked at any closer.

A literal may span several tokens, since words hold neither points, colons nor plus signs; a
check therefore takes the first word and the tokens after it, and returns what follows.
-/

namespace LiquidityController.Toml

/-- Whether single underscores stand between the characters of a string, and nowhere else. -/
def underscoresSeparate (text : List Char) : Bool :=
  text.head?.any (· != '_') && text.getLast?.any (· != '_') &&
    (text.zip text.tail).all fun (c, d) => c != '_' || d != '_'

/-- The digits at the start of a string, without the underscores between them, and the rest. -/
def digitRun? (base : Nat) (leadingZeros : Bool) (text : List Char) :
    Option (List Char × List Char) :=
  let inRun (c : Char) : Bool := c == '_' || Text.isDigit base c
  let run := text.takeWhile inRun
  if underscoresSeparate run && (leadingZeros || run == ['0'] || run.head? != some '0') then
    some (run.filter (· != '_'), text.dropWhile inRun)
  else none

def splitSign : List Char → Bool × List Char
  | '-' :: rest => (true, rest)
  | text => (false, text)

/-- Two to the power of 63. Signed words of 64 bits reach from its negative to just below it. -/
def wordBound : Nat := Nat.pow 2 63

def isInteger (text : List Char) : Bool :=
  let (negative, text) := splitSign text
  match digitRun? 10 false text with
  | some (digits, []) =>
    match Text.number? 10 digits with
    | some value => if negative then value ≤ wordBound else value < wordBound
    | none => false
  | _ => false

def isRadixInteger (base : Nat) (text : List Char) : Bool :=
  match digitRun? base true text with
  | some (digits, []) => (Text.number? base digits).any (· < wordBound)
  | _ => false

/-- Whether `mantissa * 10 ^ exponent` rounds to a finite number of 64 bits: it has to lie below
the middle between the largest of them and the next power of two. -/
def isFinite (mantissa : Nat) (exponent : Int) : Bool :=
  -- a mantissa whose number of digits decides is not multiplied out
  let scale := (toDigits 10 mantissa).length + exponent
  mantissa == 0 || scale < 308 ||
    (scale < 311 &&
      mantissa * Nat.pow 10 exponent.toNat <
        (Nat.pow 2 1024 - Nat.pow 2 970) * Nat.pow 10 (-exponent).toNat)

/-- The exponent that ends a number, which may lie in the tokens after it. -/
def exponent? (suffix : List Char) (tokens : List Token) : Option (Int × List Token) :=
  match suffix with
  | [] => some (0, tokens)
  | mark :: digits =>
    if mark == 'e' || mark == 'E' then
      match digits, tokens with
      | [], .plus :: .word digits :: rest => unsigned false digits rest
      | [], .word digits :: rest => unsigned false digits rest
      | [], _ => none
      | digits, rest =>
        let (negative, digits) := splitSign digits
        unsigned negative digits rest
    else none
where
  unsigned (negative : Bool) (digits : List Char) (rest : List Token) :
      Option (Int × List Token) :=
    match digitRun? 10 true digits with
    | some (digits, []) => do
      let value ← Text.number? 10 digits
      return (if negative then -value else value, rest)
    | _ => none

def float? (text : List Char) (fraction : Option (List Char)) (tokens : List Token) :
    Option (List Token) := do
  let (whole, suffix) ← digitRun? 10 false (splitSign text).2
  let (part, suffix) ← match fraction with
    | none => some ([], suffix)
    | some digits => if suffix.isEmpty then digitRun? 10 true digits else none
  let (exponent, rest) ← exponent? suffix tokens
  let mantissa ← Text.number? 10 (whole ++ part)
  guard (isFinite mantissa (exponent - part.length))
  return rest

def number? (text : List Char) (tokens : List Token) : Option (List Token) :=
  match text with
  | '0' :: 'x' :: digits => if isRadixInteger 16 digits then some tokens else none
  | '0' :: 'o' :: digits => if isRadixInteger 8 digits then some tokens else none
  | '0' :: 'b' :: digits => if isRadixInteger 2 digits then some tokens else none
  | text =>
    if text.contains 'e' || text.contains 'E' then float? text none tokens
    else match tokens with
      | .period :: .word fraction :: rest => float? text (some fraction) rest
      | .period :: _ => none
      | tokens =>
        if ["inf".toList, "-inf".toList, "nan".toList, "-nan".toList].contains text ||
          isInteger text then some tokens
        else none

def containsPair (first second : Char) (text : List Char) : Bool :=
  (text.zip text.tail).contains (first, second)

/-- Whether a word starts a date or a moment rather than a number: it holds the letter that
separates date and time, or a dash that is neither a sign nor part of an exponent. -/
def startsDate (text : List Char) : Bool :=
  text.contains 'T' || text.contains 't' ||
    (text.tail.contains '-' && !containsPair 'e' '-' text && !containsPair 'E' '-' text)

/-- Drops a word, if the tokens start with one that a mark precedes. -/
def afterMark (mark : Token) (tokens : List Token) : Option (List Token) :=
  match tokens with
  | token :: rest =>
    if token = mark then
      match rest with
      | .word _ :: rest => some rest
      | _ => none
    else some tokens
  | [] => some []

/-- Checks what follows the hour of a time: minutes, seconds, and maybe a fraction of a second
and an offset. -/
def timeAfterHour? : List Token → Option (List Token)
  | .word _ :: .colon :: .word _ :: rest => do
    let rest ← afterMark .period rest
    let rest ← afterMark .plus rest
    afterMark .colon rest
  | _ => none

/-- Drops the hour of a time that a single space separates from its date. -/
def dropSpacedHour : List Token → List Token
  | .blank [' '] :: .word _ :: rest => rest
  | tokens => tokens

def date? (tokens : List Token) : Option (List Token) :=
  match dropSpacedHour tokens with
  | .colon :: rest => timeAfterHour? rest
  | rest => some rest

def numberOrDate? (text : List Char) (tokens : List Token) : Option (List Token) :=
  if startsDate text then date? tokens
  else match tokens with
    | .colon :: rest => timeAfterHour? (dropSpacedHour rest)
    | tokens => number? text tokens

end LiquidityController.Toml
