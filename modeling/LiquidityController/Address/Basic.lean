import LiquidityController.Bytes.Base58

/-!
# Addresses

An address is thirty-two bytes, written in base 58.
-/

namespace LiquidityController

structure Address extends Block 32
  deriving DecidableEq

namespace Address

/-- The address of thirty-two zero bytes, which stands for an absent account. -/
def zero : Address :=
  ⟨Block.zero 32⟩

def text (address : Address) : String :=
  String.ofList (Base58.encode address.bytes)

/-- The length, in bytes, of the longest text that can name an address. -/
def maxTextLength : Nat := 44

/-- The address with a given text. A text that is too long is refused before it is read. -/
def ofText? (text : String) : Option Address := do
  guard (text.utf8ByteSize ≤ maxTextLength)
  let bytes ← Base58.decode text.toList
  let block ← Block.ofList? bytes
  return ⟨block⟩

def ofText (text : String) (valid : (ofText? text).isSome := by decide +kernel) : Address :=
  (ofText? text).get valid

end Address

end LiquidityController
