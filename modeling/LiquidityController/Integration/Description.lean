import LiquidityController.Failure
import LiquidityController.Wire.Codec

/-!
# Descriptions

An integration carries a short text in a buffer of fixed length, filled up with zero bytes. A
text that does not fit is refused rather than cut.
-/

namespace LiquidityController

/-- The buffer of a description. Not every buffer holds a text. -/
structure Description extends Block descriptionLength
  deriving DecidableEq

namespace Description

def empty : Description :=
  ⟨Block.zero descriptionLength⟩

def ofText (text : String) : Except Failure Description :=
  let bytes := text.toUTF8.toList
  if fits : bytes.length ≤ descriptionLength then .ok ⟨Block.zeroFilled bytes fits⟩
  else .error (.descriptionTooLong bytes.length)

/-- The bytes before the zeros at the end. -/
def content (description : Description) : List UInt8 :=
  (description.bytes.reverse.dropWhile (· == 0)).reverse

/-- The text in a buffer, if the bytes before the zeros at its end are one. -/
def text? (description : Description) : Option String :=
  String.fromUTF8? ⟨description.content.toArray⟩

def codec : Codec Description :=
  (Codec.block descriptionLength).iso mk toBlock

end Description

end LiquidityController
