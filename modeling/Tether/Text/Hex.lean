import Tether.Text.Digit

/-!
# Bytes in hexadecimal digits

Every byte is written as two digits in lower case. Both cases are read.
-/

namespace Tether

namespace Text

def toHex (bytes : List UInt8) : String :=
  String.ofList (bytes.flatMap fun b => [hexDigit (b.toNat / 16), hexDigit (b.toNat % 16)])

/-- The bytes of pairs of digits. -/
def bytesOfDigits? : List Char → Option (List UInt8)
  | [] => some []
  | high :: low :: rest =>
      if isHexDigit high && isHexDigit low then
        (bytesOfDigits? rest).map (UInt8.ofNat (valueInBase 16 [high, low]) :: ·)
      else none
  | [_] => none

def ofHex? (digits : String) : Option (List UInt8) :=
  bytesOfDigits? digits.toList

end Text

end Tether
