import Tether.Number.Decimal
import Tether.Number.Integer

/-!
# Values typed at the console

Whole numbers have 32 bits. They are read with 64 bits first, so that a number between the two
limits is reported as such. F-numbers are decimal numbers, with or without the mark `f` or `f/`, and
are kept in hundredths.
-/

namespace Tether

namespace Console

open Text

/-- Why a word is not the value of an argument. -/
inductive ValueError where
  | notInteger (reason : IntegerError)
  /-- A whole number does not fit 32 bits. -/
  | outOfRange (n : Int)
  | notFNumber (typed : String)
  | fNumberOutOfRange (typed : String)
deriving DecidableEq, Repr

def ValueError.message : ValueError → String
  | .notInteger reason => reason.message
  | .outOfRange n => toString n ++ " is not in -2147483648..=2147483647"
  | .notFNumber typed => "not an f-number: " ++ typed
  | .fNumberOutOfRange typed => "f-number out of range: " ++ typed

/-! ## Whole numbers -/

/-- The integer of 32 bits that a word is. -/
def integer (word : String) : Except ValueError Int32 :=
  match readInteger word.toList with
  | .error reason => .error (.notInteger reason)
  | .ok n =>
      if -2147483648 ≤ n ∧ n ≤ 2147483647 then .ok (Int32.ofInt n) else .error (.outOfRange n)

/-! ## F-numbers -/

/-- A text without the mark of an F-number in front. -/
def withoutMark : List Char → List Char
  | 'f' :: '/' :: rest => rest
  | 'f' :: rest => rest
  | cs => cs

/-- The exponent that a text is: nothing, or the letter `e`, a sign or none, and digits. -/
def exponent? : List Char → Option Int
  | [] => some 0
  | 'e' :: rest =>
      let (negative, digits) := splitSign rest
      if digits = [] ∨ !digits.all isDigit then none
      else some (if negative then -(digitsValue digits : Int) else digitsValue digits)
  | _ => none

/-- The digits behind a point at the head of a text, none without a point, and what follows. -/
def splitFraction : List Char → List Char × List Char
  | '.' :: rest => splitDigits isDigit rest
  | cs => ([], cs)

/-- The decimal number that a text without a sign is. It has a digit on one side of the point. -/
def decimal? (cs : List Char) : Option DecimalText :=
  let (whole, rest) := splitDigits isDigit cs
  let (fraction, rest) := splitFraction rest
  if whole = [] ∧ fraction = [] then none
  else (exponent? rest).map fun exponent => ⟨whole, fraction, exponent⟩

/-- The 32-bit float that a text in lower case is. Not-a-number lies in no range, and so an infinity
stands for it. -/
def single? (cs : List Char) : Option Binary :=
  let (negative, digits) := splitSign cs
  if ["inf", "infinity", "nan"].contains (String.ofList digits) then some (.infinite negative)
  else (decimal? digits).map (FloatFormat.single.ofDecimal negative)

/-- The hundredths of an F-number, rounded in the 32-bit format and then to the nearest integer. -/
def hundredths (x : Binary) : Int32 :=
  Int32.ofNat (FloatFormat.single.mul x (FloatFormat.single.ofNat 100)).nearestNat

/-- The hundredths of the F-number that a word is. F-numbers lie between 0.5 and 128. -/
def fNumber (word : String) : Except ValueError Int32 :=
  match single? (withoutMark (word.toList.map Char.toLower)) with
  | none => .error (.notFNumber word)
  | some x =>
      if x.isBetween (1, 2) (128, 1) then .ok (hundredths x) else .error (.fNumberOutOfRange word)

end Console

end Tether
