import Tether.Json.Printer
import Tether.Toml.Scalar

/-!
# Internet addresses

Addresses of four bytes are written with points, those of eight groups of 16 bits with colons. The
longest run of at least two zero groups is left out, the first one of several; an address of the
second kind that stands for one of the first keeps the points.
-/

namespace Tether

/-- An internet address. -/
inductive Address where
  | v4 (a b c d : UInt8)
  /-- Eight groups of 16 bits. -/
  | v6 (groups : List UInt16)
deriving DecidableEq, Repr

namespace Address

/-! ## Reading -/

open Text

/-- A decimal number below 256 without a superfluous zero, and what follows it. -/
def readByte? (cs : List Char) : Option (UInt8 × List Char) :=
  let (digits, rest) := splitDigits isDigit cs
  let n := digitsValue digits
  if digits = [] ∨ 3 < digits.length ∨ (digits.head? = some '0' ∧ 1 < digits.length) ∨
    255 < n then
    none
  else some (UInt8.ofNat n, rest)

/-- A byte after a point, and what follows it. -/
def readNextByte? : List Char → Option (UInt8 × List Char)
  | '.' :: rest => readByte? rest
  | _ => none

/-- Four bytes with points between them, and what follows them. -/
def readV4? (cs : List Char) : Option ((UInt8 × UInt8 × UInt8 × UInt8) × List Char) :=
  (readByte? cs).bind fun (a, rest) =>
    (readNextByte? rest).bind fun (b, rest) =>
      (readNextByte? rest).bind fun (c, rest) =>
        (readNextByte? rest).map fun (d, rest) => ((a, b, c, d), rest)

/-- A hexadecimal number of at most four digits, and what follows it. -/
def readGroup? (cs : List Char) : Option (UInt16 × List Char) :=
  let (digits, rest) := splitDigits isHexDigit cs
  if digits = [] ∨ 4 < digits.length then none
  else some (UInt16.ofNat (valueInBase 16 digits), rest)

/-- What follows the colon before a group; the first group has none. -/
def afterSeparator? (first : Bool) : List Char → Option (List Char)
  | cs =>
      if first then some cs
      else
        match cs with
        | ':' :: rest => some rest
        | _ => none

def pair (high low : UInt8) : UInt16 :=
  UInt16.ofNat (256 * high.toNat + low.toNat)

/-- At most `limit` groups, the last two perhaps written as four bytes; the result also says whether
they were, and what follows. -/
def readGroups (first : Bool) : Nat → List Char → List UInt16 × Bool × List Char
  | 0, cs => ([], false, cs)
  | limit + 1, cs =>
      match afterSeparator? first cs with
      | none => ([], false, cs)
      | some rest =>
          match if limit = 0 then none else readV4? rest with
          | some ((a, b, c, d), rest) => ([pair a b, pair c d], true, rest)
          | none =>
              match readGroup? rest with
              | none => ([], false, cs)
              | some (group, rest) =>
                  let (groups, dotted, rest) := readGroups false limit rest
                  (group :: groups, dotted, rest)

/-- Eight groups, a run of which may be left out between two colons, and what follows them. -/
def readV6? (cs : List Char) : Option (List UInt16 × List Char) :=
  let (head, dotted, rest) := readGroups true 8 cs
  if head.length = 8 then some (head, rest)
  else if dotted then none
  else
    match rest with
    | ':' :: ':' :: rest =>
        let (tail, _, rest) := readGroups true (7 - head.length) rest
        some (head ++ List.replicate (8 - head.length - tail.length) 0 ++ tail, rest)
    | _ => none

/-- The address that a text consists of. -/
def parse? (text : String) : Option Address :=
  let cs := text.toList
  match readV4? cs with
  | some ((a, b, c, d), rest) => if rest = [] then some (.v4 a b c d) else none
  | none =>
      match readV6? cs with
      | some (groups, rest) => if rest = [] then some (.v6 groups) else none
      | none => none

/-! ## Writing -/

def joinWith (separator : List Char) : List (List Char) → List Char
  | [] => []
  | [text] => text
  | text :: rest => text ++ separator ++ joinWith separator rest

def v4Chars (a b c d : UInt8) : List Char :=
  joinWith ['.'] ([a, b, c, d].map fun byte => natDigits byte.toNat)

def groupChars (groups : List UInt16) : List Char :=
  joinWith [':'] (groups.map fun group => hexDigits group.toNat)

def leadingZeros (groups : List UInt16) : Nat :=
  (groups.takeWhile (· == 0)).length

/-- The place and the length of the first longest run of zero groups. -/
def longestZeros (groups : List UInt16) : Nat × Nat :=
  (List.range groups.length).foldl
    (fun (place, length) i =>
      let here := leadingZeros (groups.drop i)
      if length < here then (i, here) else (place, length))
    (0, 0)

def v6Chars (groups : List UInt16) : List Char :=
  match groups with
  | [0, 0, 0, 0, 0, 0xFFFF, high, low] =>
      [':', ':', 'f', 'f', 'f', 'f', ':']
        ++ v4Chars (UInt8.ofNat (high.toNat / 256)) (UInt8.ofNat high.toNat)
          (UInt8.ofNat (low.toNat / 256)) (UInt8.ofNat low.toNat)
  | _ =>
      let (place, length) := longestZeros groups
      if 1 < length then
        groupChars (groups.take place) ++ [':', ':'] ++ groupChars (groups.drop (place + length))
      else groupChars groups

def render : Address → String
  | .v4 a b c d => String.ofList (v4Chars a b c d)
  | .v6 groups => String.ofList (v6Chars groups)

def renderWithPort (address : Address) (port : Nat) : String :=
  match address with
  | .v4 .. => address.render ++ ":" ++ toString port
  | .v6 _ => "[" ++ address.render ++ "]:" ++ toString port

end Address

end Tether
