import LiquidityController.Text.Combining
import LiquidityController.Text.Hidden

/-!
# Quoted text

A text is quoted so that each of its characters can be told and its end can be seen: quotes and
backslashes get a backslash, the common control characters a letter, and all other characters
that cannot be seen on their own their number.
-/

namespace LiquidityController.Text

/-- The letter that stands for a character after a backslash. -/
def escapeLetter? : Char → Option Char
  | '"' => some '"'
  | '\\' => some '\\'
  | '\t' => some 't'
  | '\n' => some 'n'
  | '\r' => some 'r'
  | '\x00' => some '0'
  | _ => none

def quoteChar (c : Char) : List Char :=
  match escapeLetter? c with
  | some letter => ['\\', letter]
  | none =>
    if isCombining c || isHidden c then
      "\\u\x7b".toList ++ Nat.toDigits 16 c.toNat ++ ['\x7d']
    else [c]

def quote (text : String) : String :=
  String.ofList ('"' :: text.toList.flatMap quoteChar ++ ['"'])

end LiquidityController.Text
