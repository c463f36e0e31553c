/-!
# Binary floating-point numbers

A number of a binary format is `± mantissa · 2 ^ exponent` or an infinity. All arithmetic here is
exact arithmetic on natural numbers followed by one rounding to the nearest number of the format,
ties going to the even mantissa. A format has no not-a-number: nothing in this library computes one.
-/

namespace Tether

/-- A binary format: its significant bits and the range of the exponent of the last bit. -/
structure FloatFormat where
  precision : Nat
  minExponent : Int
  maxExponent : Int
deriving DecidableEq, Repr

def FloatFormat.double : FloatFormat := ⟨53, -1074, 971⟩

def FloatFormat.single : FloatFormat := ⟨24, -149, 104⟩

/-- A signed number `mantissa · 2 ^ exponent`, or a signed infinity. -/
inductive Binary where
  | finite (negative : Bool) (mantissa : Nat) (exponent : Int)
  | infinite (negative : Bool)
deriving DecidableEq, Repr

instance : Inhabited Binary := ⟨.finite false 0 0⟩

/-- The quotient rounded to the nearest natural number, a half going to the even one. -/
def roundQuotient (num den : Nat) : Nat :=
  let quotient := num / den
  let rest := 2 * (num % den)
  if rest < den then quotient
  else if den < rest then quotient + 1
  else if quotient % 2 = 0 then quotient else quotient + 1

def scaleFraction (num den : Nat) (shift : Int) : Nat × Nat :=
  (num * Nat.pow 2 shift.toNat, den * Nat.pow 2 (-shift).toNat)

namespace FloatFormat

/-- The exponent at which `num / den` has exactly the significant bits of the format, or the least
exponent of the format if that is larger. -/
def exponentFor (format : FloatFormat) (num den : Nat) : Int :=
  let guess : Int := (num.log2 : Int) - (den.log2 : Int) - (format.precision : Int)
  let (scaledNum, scaledDen) := scaleFraction num den (-guess)
  let exact := if Nat.pow 2 format.precision * scaledDen ≤ scaledNum then guess + 1 else guess
  max exact format.minExponent

/-- The number of the format nearest to `± num / den`, a half going to the even mantissa. -/
def round (format : FloatFormat) (negative : Bool) (num den : Nat) : Binary :=
  if num = 0 then .finite negative 0 format.minExponent
  else
    let exponent := format.exponentFor num den
    let (scaledNum, scaledDen) := scaleFraction num den (-exponent)
    let mantissa := roundQuotient scaledNum scaledDen
    let (mantissa, exponent) :=
      if mantissa = Nat.pow 2 format.precision then
        (Nat.pow 2 (format.precision - 1), exponent + 1)
      else (mantissa, exponent)
    if format.maxExponent < exponent then .infinite negative
    else .finite negative mantissa exponent

/-- The number of the format nearest to a natural number. -/
def ofNat (format : FloatFormat) (n : Nat) : Binary :=
  format.round false n 1

/-- The number of the format nearest to an integer. -/
def ofInt (format : FloatFormat) (n : Int) : Binary :=
  format.round (decide (n < 0)) n.natAbs 1

/-- The number of the format nearest to a number of another one. -/
def convert (format : FloatFormat) : Binary → Binary
  | .finite negative mantissa exponent =>
      let (num, den) := scaleFraction mantissa 1 exponent
      format.round negative num den
  | .infinite negative => .infinite negative

def mul (format : FloatFormat) : Binary → Binary → Binary
  | .finite s m e, .finite t n f =>
      let (num, den) := scaleFraction (m * n) 1 (e + f)
      format.round (s != t) num den
  | .finite s _ _, .infinite t => .infinite (s != t)
  | .infinite s, .finite t _ _ => .infinite (s != t)
  | .infinite s, .infinite t => .infinite (s != t)

/-- The rounded quotient by a power of ten that is itself a number of the format. -/
def div (format : FloatFormat) : Binary → Binary → Binary
  | .finite s m e, .finite t n f =>
      if n = 0 then .infinite (s != t)
      else
        let (num, den) := scaleFraction m n (e - f)
        format.round (s != t) num den
  | .finite s _ _, .infinite t => .finite (s != t) 0 format.minExponent
  | .infinite s, .finite t _ _ => .infinite (s != t)
  | .infinite s, .infinite t => .infinite (s != t)

end FloatFormat

namespace Binary

def neg : Binary → Binary
  | .finite negative mantissa exponent => .finite (!negative) mantissa exponent
  | .infinite negative => .infinite (!negative)

def isZero : Binary → Bool
  | .finite _ mantissa _ => mantissa == 0
  | .infinite _ => false

def isInfinite : Binary → Bool
  | .finite .. => false
  | .infinite _ => true

/-- Whether the number is at least `num / den` and at most `num' / den'`; false of an infinity. -/
def isBetween (x : Binary) (low high : Nat × Nat) : Bool :=
  match x with
  | .finite negative mantissa exponent =>
      let (num, den) := scaleFraction mantissa 1 exponent
      (!negative || mantissa == 0)
        && decide (low.1 * den ≤ num * low.2) && decide (num * high.2 ≤ high.1 * den)
  | .infinite _ => false

/-- The nearest natural number to the magnitude, a half going up; zero for an infinity. -/
def nearestNat : Binary → Nat
  | .finite _ mantissa exponent =>
      let (num, den) := scaleFraction mantissa 1 exponent
      (2 * num + den) / (2 * den)
  | .infinite _ => 0

end Binary

end Tether
