import Tether.Number.Decimal

/-!
# TOML values

Dates and times are kept as texts and floats as their digits, since nothing calculates with them.
Whether a number can be read is asked only where it is used, so a value can hold numbers that
nobody could read.
-/

namespace Tether

namespace Toml

/-- A float as it was written: an infinity or not-a-number, or a decimal number. -/
inductive FloatText where
  | special
  | decimal (x : DecimalText)
deriving DecidableEq

inductive Value where
  | string (value : String)
  | integer (value : Int)
  /-- A word of the form of an integer that stands for none. -/
  | brokenInteger
  | float (value : FloatText)
  | boolean (value : Bool)
  | datetime (text : String)
  | array (items : List Value)
  | table (entries : List (String × Value))

/-- Whether a float is within the range of 64-bit floats. -/
def FloatText.isInRange : FloatText → Bool
  | .special => true
  | .decimal x => !(FloatFormat.double.ofDecimal false x).isInfinite

mutual

/-- Whether all numbers in a value can be read: integers of 128 bits and floats of 64 bits. -/
def Value.isReadable : Value → Bool
  | .integer n => decide (-(Nat.pow 2 127 : Int) ≤ n ∧ n < (Nat.pow 2 128 : Int))
  | .brokenInteger => false
  | .float x => x.isInRange
  | .array items => itemsReadable items
  | .table entries => entriesReadable entries
  | .string _ | .boolean _ | .datetime _ => true

def itemsReadable : List Value → Bool
  | [] => true
  | item :: rest => item.isReadable && itemsReadable rest

/-- Whether all numbers in the values of some entries can be read. -/
def entriesReadable : List (String × Value) → Bool
  | [] => true
  | (_, value) :: rest => value.isReadable && entriesReadable rest

end

end Toml

end Tether
