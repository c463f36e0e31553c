import Tether.Number.Binary

/-!
# Signed arithmetic and the binary logarithm

Differences, comparison and the logarithm to base two of numbers of a binary format, each computed
as a fraction and rounded once.
-/

namespace Tether

namespace Binary

/-- A finite number as a fraction; an infinity counts as zero. -/
def toFraction : Binary → Int × Nat
  | .finite negative mantissa exponent =>
      let (num, den) := scaleFraction mantissa 1 exponent
      (if negative then -(num : Int) else (num : Int), den)
  | .infinite _ => (0, 1)

def lt (x y : Binary) : Bool :=
  match x, y with
  | .infinite s, .infinite t => s && !t
  | .infinite s, .finite .. => s
  | .finite .., .infinite t => !t
  | x, y =>
      let (a, b) := x.toFraction
      let (c, d) := y.toFraction
      decide (a * d < c * b)

/-- The number brought between two bounds. -/
def clamp (x low high : Binary) : Binary :=
  if x.lt low then low else if high.lt x then high else x

/-- One step of the fixed-point logarithm: squares a number between one and two, given in units of
`2 ^ -bits`, and gives the next binary digit of its logarithm. -/
def squareStep (bits y : Nat) : Nat × Nat :=
  let square := y * y / Nat.pow 2 bits
  if 2 * Nat.pow 2 bits ≤ square then (square / 2, 1) else (square, 0)

/-- The first `count` binary digits of the logarithm of a number between one and two. -/
def logarithmDigits (bits : Nat) : Nat → Nat → Nat → Nat
  | 0, _, digits => digits
  | count + 1, y, digits =>
      let (next, digit) := squareStep bits y
      logarithmDigits bits count next (2 * digits + digit)

end Binary

namespace FloatFormat

/-- The number of the format nearest to a signed fraction. -/
def roundFraction (format : FloatFormat) (num : Int) (den : Nat) : Binary :=
  format.round (decide (num < 0)) num.natAbs den

/-- The rounded difference of two finite numbers. -/
def sub (format : FloatFormat) (x y : Binary) : Binary :=
  let (a, b) := x.toFraction
  let (c, d) := y.toFraction
  format.roundFraction (a * d - c * b) (b * d)

/-- The logarithm to base two of a positive number, from sixty digits after the point. -/
def log2 (format : FloatFormat) (x : Binary) : Binary :=
  match x with
  | .finite _ mantissa exponent =>
      if mantissa = 0 then .infinite true
      else
        let whole : Int := (mantissa.log2 : Int) + exponent
        let start := mantissa * Nat.pow 2 128 / Nat.pow 2 mantissa.log2
        let digits := Binary.logarithmDigits 128 60 start 0
        format.roundFraction (whole * Nat.pow 2 60 + digits) (Nat.pow 2 60)
  | .infinite negative => .infinite negative

end FloatFormat

end Tether
