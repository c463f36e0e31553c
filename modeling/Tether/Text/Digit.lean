/-!
# Digits

The decimal and the hexadecimal digits of ASCII, and the numbers that rows of them stand for.
-/

namespace Tether

namespace Text

def isDigit (c : Char) : Bool :=
  decide ('0' ≤ c) && decide (c ≤ '9')

/-- Whether a character is a hexadecimal digit of either case. -/
def isHexDigit (c : Char) : Bool :=
  isDigit c || decide (('a' ≤ c ∧ c ≤ 'f') ∨ ('A' ≤ c ∧ c ≤ 'F'))

def digitValue (c : Char) : Nat :=
  if isDigit c then c.toNat - 48
  else if 'a' ≤ c then c.toNat - 87
  else c.toNat - 55

/-- The hexadecimal digit of a number below 16, in lower case. -/
def hexDigit (n : Nat) : Char :=
  Char.ofNat (if n < 10 then 48 + n else 87 + n)

/-- The hexadecimal digits of a number in lower case, the most significant first. -/
def hexDigits (n : Nat) : List Char :=
  if n < 16 then [hexDigit n] else hexDigits (n / 16) ++ [hexDigit (n % 16)]

/-- The number that digits stand for in a base. -/
def valueInBase (base : Nat) (digits : List Char) : Nat :=
  digits.foldl (fun n c => base * n + digitValue c) 0

def digitsValue (digits : List Char) : Nat :=
  valueInBase 10 digits

/-- The digits of a kind at the head of a text, and what follows them. -/
def splitDigits (digit : Char → Bool) (cs : List Char) : List Char × List Char :=
  (cs.takeWhile digit, cs.dropWhile digit)

/-- Splits a sign off a text; the flag is set for a minus. -/
def splitSign : List Char → Bool × List Char
  | '+' :: rest => (false, rest)
  | '-' :: rest => (true, rest)
  | cs => (false, cs)

end Text

end Tether
