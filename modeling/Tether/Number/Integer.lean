import Tether.Text.Digit

/-!
# Reading integers

An integer is a sign or none and at least one decimal digit, and has at most 64 bits. The first
character that does not fit decides why a text is refused.
-/

namespace Tether

/-- Why a text is no integer of 64 bits. -/
inductive IntegerError where
  | badDigit
  | tooLarge
  | tooSmall
deriving DecidableEq, Repr

def IntegerError.message : IntegerError → String
  | .badDigit => "invalid digit found in string"
  | .tooLarge => "number too large to fit in target type"
  | .tooSmall => "number too small to fit in target type"

namespace Text

def appendDigits (negative : Bool) : Int → List Char → Except IntegerError Int
  | n, [] => .ok n
  | n, c :: rest =>
      if !isDigit c then .error .badDigit
      else
        let next : Int := if negative then 10 * n - digitValue c else 10 * n + digitValue c
        if next < -9223372036854775808 then .error .tooSmall
        else if 9223372036854775807 < next then .error .tooLarge
        else appendDigits negative next rest

def readInteger (cs : List Char) : Except IntegerError Int :=
  let (negative, digits) := splitSign cs
  if digits = [] then .error .badDigit else appendDigits negative 0 digits

end Text

end Tether
