import Tether.Json.Basic
import Tether.Text.Digit

/-!
# Reading JSON numbers

A number is split into its sign, its digits before and after the point, and its exponent. Whole
numbers that fit 64 bits are integers. All others become 64-bit floats from a significand of at
most 64 bits: digits that no longer fit are dropped, and the significand is rounded once, then
multiplied or divided by rounded powers of ten. A number too large for the format is refused.
-/

namespace Tether

namespace Json

open Text

/-- The parts of a number's text; the flag of the exponent is set when it is negative. -/
structure NumberText where
  negative : Bool
  whole : List Char
  fraction : List Char
  exponent : Option (Bool × List Char)
deriving DecidableEq, Repr

/-- The digits before the point: a lone zero, or digits that do not start with one. -/
def readWhole (cs : List Char) : Option (List Char × List Char) :=
  match splitDigits isDigit cs with
  | ([], _) => none
  | (['0'], rest) => some (['0'], rest)
  | ('0' :: _, _) => none
  | (digits, rest) => some (digits, rest)

/-- The digits after a point, if there is one; a point needs a digit after it. -/
def readFraction : List Char → Option (List Char × List Char)
  | '.' :: rest =>
      match splitDigits isDigit rest with
      | ([], _) => none
      | (digits, rest) => some (digits, rest)
  | rest => some ([], rest)

/-- The exponent of a number, if there is one; its mark needs a digit after it. -/
def readExponent (cs : List Char) : Option (Option (Bool × List Char) × List Char) :=
  match cs with
  | c :: rest =>
      if c = 'e' ∨ c = 'E' then
        let (negative, rest) := splitSign rest
        match splitDigits isDigit rest with
        | ([], _) => none
        | (digits, rest) => some (some (negative, digits), rest)
      else some (none, c :: rest)
  | [] => some (none, [])

/-- The number at the head of a text, and what follows it. -/
def readNumberText (cs : List Char) : Option (NumberText × List Char) :=
  let (negative, cs) :=
    match cs with
    | '-' :: rest => (true, rest)
    | _ => (false, cs)
  match readWhole cs with
  | none => none
  | some (whole, rest) =>
      match readFraction rest with
      | none => none
      | some (fraction, rest) =>
          match readExponent rest with
          | none => none
          | some (exponent, rest) => some (⟨negative, whole, fraction, exponent⟩, rest)

/-- The greatest significand. -/
def maxSignificand : Nat := Nat.pow 2 64 - 1

/-- Appends digits to a significand while it fits, and counts the digits left over. -/
def extendSignificand : Nat → List Char → Nat × Nat
  | significand, [] => (significand, 0)
  | significand, c :: rest =>
      let next := significand * 10 + digitValue c
      if next ≤ maxSignificand then extendSignificand next rest
      else (significand, rest.length + 1)

def powerOfTen (n : Nat) : Binary :=
  FloatFormat.double.ofNat (Nat.pow 10 n)

/-- `x · 10 ^ exponent` with a rounding after each factor `10 ^ 308` and one at the end; refused
when it is too large. A significand divided three times by `10 ^ 308` is zero. -/
def scaleByTen (x : Binary) (exponent : Int) : Nat → Option Binary
  | 0 => some x
  | steps + 1 =>
      if exponent.natAbs ≤ 308 then
        if 0 ≤ exponent then
          let product := FloatFormat.double.mul x (powerOfTen exponent.natAbs)
          if product.isInfinite then none else some product
        else some (FloatFormat.double.div x (powerOfTen exponent.natAbs))
      else if x.isZero then some x
      else if 0 ≤ exponent then none
      else scaleByTen (FloatFormat.double.div x (powerOfTen 308)) (exponent + 308) steps

def exponentValue : Option (Bool × List Char) → Int
  | none => 0
  | some (true, digits) => -(digitsValue digits : Int)
  | some (false, digits) => (digitsValue digits : Int)

/-- The JSON value of a number, unless it is too large. -/
def NumberText.value? (text : NumberText) : Option Json :=
  let (significand, dropped) := extendSignificand 0 text.whole
  if text.fraction = [] ∧ text.exponent = none ∧ dropped = 0 then
    if !text.negative then some (.int significand)
    else if 0 < significand ∧ significand ≤ Nat.pow 2 63 then some (.int (-(significand : Int)))
    else some (.float (FloatFormat.double.ofNat significand).neg)
  else
    let (significand, unread) := extendSignificand significand text.fraction
    let exponent : Int :=
      (dropped : Int) - ((text.fraction.length - unread : Nat) : Int) + exponentValue text.exponent
    (scaleByTen (FloatFormat.double.ofNat significand) exponent 4).map fun x =>
      .float (if text.negative then x.neg else x)

/-- The number at the head of a text as a JSON value, and what follows it. -/
def readNumber (cs : List Char) : Option (Json × List Char) :=
  match readNumberText cs with
  | none => none
  | some (text, rest) => text.value?.map fun value => (value, rest)

end Json

end Tether
