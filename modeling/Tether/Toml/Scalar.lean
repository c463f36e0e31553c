import Tether.Toml.Basic

/-!
# Numbers, truth values, dates and times

A plain value is a word without blanks; only between a date and a time one blank may stand. The form
of a word decides what it is. A minus or a colon behind its first digits makes it a date or a time,
a point or the letter of an exponent makes it a float, and a zero and a letter in front make it an
integer in another base. Of an integer in decimal digits only the first digits and the places of the
underscores are checked: what else is wrong with it shows when it is read.
-/

namespace Tether

namespace Toml

open Text

/-- Whether the parts of a number between its underscores meet at digits of a kind. Before the first
underscore a sign may stand instead. -/
def meetAtDigits (digit : Char → Bool) : List (List Char) → Bool
  | left :: right :: rest =>
      (left == ['+'] || left == ['-'] || left.getLast?.any digit) && right.head?.any digit
        && meetAtDigits digit (right :: rest)
  | _ => true

/-- Whether each underscore of a number stands between two digits of a kind, or right behind a sign
in front. -/
def isGrouped (digit : Char → Bool) (cs : List Char) : Bool :=
  meetAtDigits digit (cs.splitOnP (· == '_'))

def withoutUnderscores (cs : List Char) : List Char :=
  cs.filter (· != '_')

/-- The digits of a decimal number, which is nothing but digits and underscores. -/
def decimalDigits? (cs : List Char) : Option (List Char) :=
  let digits := withoutUnderscores cs
  if digits ≠ [] ∧ digits.all isDigit then some digits else none

/-! ## Integers -/

/-- The base of a number that starts with a zero and the letter of the base, the digits of this base
and what follows the letter. -/
def base? : List Char → Option (Nat × (Char → Bool) × List Char)
  | '0' :: 'x' :: rest => some (16, isHexDigit, rest)
  | '0' :: 'o' :: rest => some (8, fun c => decide ('0' ≤ c ∧ c ≤ '7'), rest)
  | '0' :: 'b' :: rest => some (2, fun c => c == '0' || c == '1', rest)
  | _ => none

/-- The integer of the digits in a base. It may have no digits, but then it cannot be read. -/
def integerInBase? (base : Nat) (digit : Char → Bool) (cs : List Char) : Option Value :=
  let digits := withoutUnderscores cs
  if digits.all digit ∧ isGrouped isHexDigit cs then
    if digits = [] then some .brokenInteger else some (.integer (valueInBase base digits))
  else none

/-- The integer of a word in decimal digits. Behind its first underscore other characters may stand,
but then it cannot be read. -/
def decimalInteger? (cs : List Char) : Option Value :=
  let (negative, unsigned) := splitSign cs
  if unsigned = [] ∨ (unsigned.head? = some '0' ∧ unsigned ≠ ['0']) ∨
    !isGrouped isHexDigit cs then
    none
  else
    match unsigned.dropWhile isDigit with
    | [] | '_' :: _ =>
        match decimalDigits? unsigned with
        | some digits =>
            let magnitude : Int := digitsValue digits
            some (.integer (if negative then -magnitude else magnitude))
        | none => some .brokenInteger
    | _ => none

/-! ## Floats -/

/-- The digits of the whole part of a float, without a superfluous zero in front. -/
def wholeDigits? (cs : List Char) : Option (List Char) :=
  match decimalDigits? cs with
  | some digits => if cs.head? = some '0' ∧ 1 < digits.length then none else some digits
  | none => none

/-- The exponent of a float behind its letter. -/
def exponent? (cs : List Char) : Option Int :=
  let (negative, digits) := splitSign cs
  (decimalDigits? digits).map fun digits =>
    if negative then -(digitsValue digits : Int) else digitsValue digits

/-- Splits a word at the first character of a kind, which belongs to neither part. -/
def splitAtFirst (p : Char → Bool) (cs : List Char) : List Char × Option (List Char) :=
  match cs.dropWhile fun c => !p c with
  | [] => (cs, none)
  | _ :: rest => (cs.takeWhile fun c => !p c, some rest)

def isExponentLetter (c : Char) : Bool :=
  c == 'e' || c == 'E'

/-- The float of a word with a fraction or an exponent. -/
def float? (cs : List Char) : Option FloatText :=
  let (mantissa, exponent) := splitAtFirst isExponentLetter (splitSign cs).2
  let (whole, fraction) := splitAtFirst (· == '.') mantissa
  let fraction :=
    match fraction with
    | some digits => decimalDigits? digits
    | none => some []
  let exponent :=
    match exponent with
    | some digits => exponent? digits
    | none => some 0
  match wholeDigits? whole, fraction, exponent with
  | some whole, some fraction, some exponent =>
      if isGrouped isDigit cs then some (.decimal ⟨whole, fraction, exponent⟩) else none
  | _, _, _ => none

/-! ## Dates and times -/

/-- The number of a fixed count of digits, and what follows. -/
def fixedDigits? (count : Nat) (cs : List Char) : Option (Nat × List Char) :=
  let digits := cs.take count
  if digits.length = count ∧ digits.all isDigit then some (digitsValue digits, cs.drop count)
  else none

def daysInMonth (year month : Nat) : Nat :=
  if month = 2 then
    if year % 4 = 0 ∧ (year % 100 ≠ 0 ∨ year % 400 = 0) then 29 else 28
  else if month = 4 ∨ month = 6 ∨ month = 9 ∨ month = 11 then 30
  else 31

def afterDate? (cs : List Char) : Option (List Char) :=
  match fixedDigits? 4 cs with
  | some (year, '-' :: rest) =>
      match fixedDigits? 2 rest with
      | some (month, '-' :: rest) =>
          match fixedDigits? 2 rest with
          | some (day, rest) =>
              if 1 ≤ month ∧ month ≤ 12 ∧ 1 ≤ day ∧ day ≤ daysInMonth year month then
                some rest
              else none
          | none => none
      | _ => none
  | _ => none

/-- What follows the fraction of a second, if there is one. -/
def afterFraction? : List Char → Option (List Char)
  | '.' :: rest =>
      match rest with
      | c :: _ => if isDigit c then some (rest.dropWhile isDigit) else none
      | [] => none
  | cs => some cs

/-- What follows the seconds of a time, if there are any. -/
def afterSeconds? : List Char → Option (List Char)
  | ':' :: rest =>
      match fixedDigits? 2 rest with
      | some (second, rest) => if second ≤ 60 then afterFraction? rest else none
      | none => none
  | cs => some cs

/-- What follows hours and minutes. -/
def afterMinutes? (cs : List Char) : Option (List Char) :=
  match fixedDigits? 2 cs with
  | some (hour, ':' :: rest) =>
      match fixedDigits? 2 rest with
      | some (minute, rest) => if hour ≤ 23 ∧ minute ≤ 59 then some rest else none
      | none => none
  | _ => none

def afterTime? (cs : List Char) : Option (List Char) :=
  (afterMinutes? cs).bind afterSeconds?

/-- Whether a word is nothing, or the distance of a time zone. -/
def isOffset : List Char → Bool
  | [] => true
  | ['Z'] | ['z'] => true
  | '+' :: rest | '-' :: rest => afterMinutes? rest == some []
  | _ => false

/-- Whether a word is a date, a time, or a date and a time. -/
def isDatetime (cs : List Char) : Bool :=
  match afterDate? cs with
  | some [] => true
  | some (separator :: rest) =>
      (separator == 'T' || separator == 't' || separator == ' ')
        && ((afterTime? rest).map isOffset).getD false
  | none => afterTime? cs == some []

/-! ## Words -/

/-- The value of a number, a date or a time. -/
def number? (cs : List Char) : Option Value :=
  let unsigned := (splitSign cs).2
  match base? cs, unsigned.dropWhile isDigit with
  | some (base, digit, digits), _ => integerInBase? base digit digits
  | none, '-' :: _ | none, ':' :: _ =>
      if isDatetime cs then some (.datetime (String.ofList cs)) else none
  | none, rest =>
      if rest.any fun c => c == '.' || isExponentLetter c then (float? cs).map .float
      else decimalInteger? cs

def word? (cs : List Char) : Option Value :=
  let unsigned := (splitSign cs).2
  if cs = ['t', 'r', 'u', 'e'] then some (.boolean true)
  else if cs = ['f', 'a', 'l', 's', 'e'] then some (.boolean false)
  else if unsigned = ['i', 'n', 'f'] ∨ unsigned = ['n', 'a', 'n'] then some (.float .special)
  else number? cs

end Toml

end Tether
