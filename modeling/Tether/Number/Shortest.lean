import Tether.Number.Binary

/-!
# Shortest decimal text of a binary number

Of all decimals that round to a given number of a format, the one with the fewest digits is
written; of several with that many digits, the nearest, and of two equally near the even one.
-/

namespace Tether

/-- `digits · 10 ^ exponent`. -/
structure Decimal where
  digits : Nat
  exponent : Int
deriving DecidableEq, Repr

/-- Drops the trailing zeros of the digits, at most as many as `fuel`. -/
def Decimal.strip (d : Decimal) : Nat → Decimal
  | 0 => d
  | fuel + 1 =>
      if d.digits ≠ 0 ∧ d.digits % 10 = 0 then
        Decimal.strip ⟨d.digits / 10, d.exponent + 1⟩ fuel
      else d

namespace FloatFormat

/-- The decimals that round to `mantissa · 2 ^ exponent`, as bounds in quarters of its last bit. -/
def roundingBounds (format : FloatFormat) (mantissa : Nat) (exponent : Int) : Nat × Nat :=
  let below :=
    if mantissa = Nat.pow 2 (format.precision - 1) ∧ format.minExponent < exponent then 1 else 2
  (4 * mantissa - below, 4 * mantissa + 2)

/-- Whether `digits · 10 ^ power` rounds to `mantissa · 2 ^ exponent`. The ends of the interval of
such decimals belong to it when the mantissa is even. -/
def readsBack (format : FloatFormat) (mantissa : Nat) (exponent : Int)
    (digits : Nat) (power : Int) : Bool :=
  let (low, high) := format.roundingBounds mantissa exponent
  let shift := exponent - 2
  let candidate := digits * Nat.pow 10 power.toNat * Nat.pow 2 (-shift).toNat
  let unit := Nat.pow 10 (-power).toNat * Nat.pow 2 shift.toNat
  if mantissa % 2 = 0 then
    decide (low * unit ≤ candidate) && decide (candidate ≤ high * unit)
  else
    decide (low * unit < candidate) && decide (candidate < high * unit)

/-- The greatest `power` with `10 ^ power ≤ mantissa · 2 ^ exponent`, for a positive mantissa. -/
def decimalMagnitude (mantissa : Nat) (exponent : Int) : Int :=
  let guess := ((mantissa.log2 : Int) + exponent) * 30103 / 100000
  let (num, den) := scaleFraction mantissa 1 exponent
  let next := guess + 1
  if Nat.pow 10 next.toNat * den ≤ num * Nat.pow 10 (-next).toNat then next else guess

/-- The better of the two neighbours of a number on the grid of multiples of `10 ^ power`, if one of
them reads back. -/
def onGrid (format : FloatFormat) (mantissa : Nat) (exponent power : Int) : Option Decimal :=
  let (num, den) := scaleFraction mantissa 1 exponent
  let num := num * Nat.pow 10 (-power).toNat
  let den := den * Nat.pow 10 power.toNat
  let floor := num / den
  let rest := 2 * (num % den)
  let lowReads := format.readsBack mantissa exponent floor power
  let highReads := format.readsBack mantissa exponent (floor + 1) power
  if lowReads && highReads then
    let nearest :=
      if rest < den then floor
      else if den < rest then floor + 1
      else if floor % 2 = 0 then floor else floor + 1
    some ⟨nearest, power⟩
  else if lowReads then some ⟨floor, power⟩
  else if highReads then some ⟨floor + 1, power⟩
  else none

/-- The first grid with a decimal that reads back, from `count` digits before the last grid. -/
def firstGrid (format : FloatFormat) (mantissa : Nat) (exponent power : Int) : Nat → Decimal
  | 0 => ⟨0, 0⟩
  | count + 1 =>
      match format.onGrid mantissa exponent power with
      | some d => d
      | none => firstGrid format mantissa exponent (power - 1) count

/-- The shortest decimal that rounds to `mantissa · 2 ^ exponent`; seventeen digits always do. -/
def shortest (format : FloatFormat) (mantissa : Nat) (exponent : Int) : Decimal :=
  if mantissa = 0 then ⟨0, 0⟩
  else
    let found := format.firstGrid mantissa exponent (decimalMagnitude mantissa exponent) 18
    found.strip 20

end FloatFormat

/-- The decimal digits of a natural number, most significant first. -/
def natDigits (n : Nat) : List Char :=
  if n < 10 then [Char.ofNat (48 + n)]
  else natDigits (n / 10) ++ [Char.ofNat (48 + n % 10)]

def intDigits (n : Int) : List Char :=
  if n < 0 then '-' :: natDigits n.natAbs else natDigits n.natAbs

/-- Positional text between a hundred-thousandth and ten to the sixteenth, scientific text with a
signed exponent outside; a whole number keeps a fraction of zero in positional text. -/
def Decimal.toChars (d : Decimal) : List Char :=
  let digits := natDigits d.digits
  let count : Int := digits.length
  let point := count + d.exponent
  if d.digits = 0 then ['0', '.', '0']
  else if 0 ≤ d.exponent ∧ point ≤ 16 then
    digits ++ List.replicate d.exponent.toNat '0' ++ ['.', '0']
  else if 0 < point ∧ point ≤ 16 then
    digits.take point.toNat ++ '.' :: digits.drop point.toNat
  else if -5 < point ∧ point ≤ 0 then
    '0' :: '.' :: (List.replicate (-point).toNat '0' ++ digits)
  else
    let scale := point - 1
    let sign := if scale < 0 then '-' else '+'
    let tail := 'e' :: sign :: natDigits scale.natAbs
    match digits with
    | [] => tail
    | [only] => only :: tail
    | first :: rest => first :: '.' :: (rest ++ tail)

/-- The shortest text that reads back as the given number of a format. -/
def Binary.toChars (format : FloatFormat) : Binary → List Char
  | .finite negative mantissa exponent =>
      let text := (format.shortest mantissa exponent).toChars
      if negative then '-' :: text else text
  | .infinite negative => if negative then ['-', 'i', 'n', 'f'] else ['i', 'n', 'f']

end Tether
