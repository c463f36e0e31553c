import Tether.Number.Binary
import Tether.Text.Digit

/-!
# Decimal numbers

A decimal number is kept as its digits before and behind the point and a power of ten. It is rounded
once, to the nearest number of a binary format.
-/

namespace Tether

/-- The decimal number `whole.fraction · 10 ^ exponent`. -/
structure DecimalText where
  whole : List Char
  fraction : List Char
  exponent : Int
deriving DecidableEq, Repr

namespace DecimalText

/-- All digits of a number without the zeros in front. -/
def significand (x : DecimalText) : List Char :=
  (x.whole ++ x.fraction).dropWhile (· == '0')

/-- The power of ten of the last digit. -/
def lastPower (x : DecimalText) : Int :=
  x.exponent - x.fraction.length

/-- The number is zero or less than ten to this power. -/
def magnitude (x : DecimalText) : Int :=
  x.significand.length + x.lastPower

end DecimalText

/-- The number of a format nearest to a decimal number. Every format here lies well within 400
powers of ten of one, which settles the numbers beyond without their powers. -/
def FloatFormat.ofDecimal (format : FloatFormat) (negative : Bool) (x : DecimalText) : Binary :=
  if x.significand = [] ∨ x.magnitude < -400 then format.round negative 0 1
  else if 400 < x.magnitude then .infinite negative
  else if 0 ≤ x.lastPower then
    format.round negative (Text.digitsValue x.significand * Nat.pow 10 x.lastPower.toNat) 1
  else format.round negative (Text.digitsValue x.significand) (Nat.pow 10 (-x.lastPower).toNat)

end Tether
