import Tether.Toml.Scalar

/-!
# Strings, comments and line ends

A line ends with a line feed, before which a carriage return may stand; a carriage return stands
nowhere else. Control characters other than the tabulator are never allowed.
-/

namespace Tether

namespace Toml

/-- Whether a character may stand in a comment or between quotes on one line. -/
def isPlain (c : Char) : Bool :=
  c == '\t' || decide (32 ≤ c.toNat ∧ c.toNat ≠ 127)

def isBlank (c : Char) : Bool :=
  c == ' ' || c == '\t'

def skipBlanks (cs : List Char) : List Char :=
  cs.dropWhile isBlank

/-- What follows a line end. -/
def afterNewline? : List Char → Option (List Char)
  | '\n' :: rest => some rest
  | '\r' :: '\n' :: rest => some rest
  | _ => none

def afterComment (cs : List Char) : List Char :=
  cs.dropWhile isPlain

/-- The character of a hexadecimal number, if it has one. -/
def scalar? (digits : List Char) : Option Char :=
  if digits.all Text.isHexDigit then
    let n := Text.valueInBase 16 digits
    if n < 0xD800 ∨ (0xDFFF < n ∧ n < 0x110000) then some (Char.ofNat n) else none
  else none

/-- The character of an escape by a number of `count` digits, and how many characters it takes. -/
def readScalar? (count : Nat) (cs : List Char) : Option (Char × Nat) :=
  if (cs.take count).length = count then (scalar? (cs.take count)).map fun c => (c, count + 1)
  else none

/-- The character of an escape behind its backslash, and how many characters it takes. -/
def readEscape? : List Char → Option (Char × Nat)
  | 'b' :: _ => some (Char.ofNat 8, 1)
  | 't' :: _ => some ('\t', 1)
  | 'n' :: _ => some ('\n', 1)
  | 'f' :: _ => some (Char.ofNat 12, 1)
  | 'r' :: _ => some ('\r', 1)
  | 'e' :: _ => some (Char.ofNat 27, 1)
  | '"' :: _ => some ('"', 1)
  | '\\' :: _ => some ('\\', 1)
  | 'x' :: rest => readScalar? 2 rest
  | 'u' :: rest => readScalar? 4 rest
  | 'U' :: rest => readScalar? 8 rest
  | _ => none

/-- The text of a string on one line after its opening quote, and what follows the closing one. -/
def readBasic (cs : List Char) : Option (List Char × List Char) :=
  match cs with
  | [] => none
  | '"' :: rest => some ([], rest)
  | '\\' :: rest =>
      match readEscape? rest with
      | none => none
      | some (c, count) => (readBasic (rest.drop count)).map fun (text, rest) => (c :: text, rest)
  | c :: rest =>
      if isPlain c then (readBasic rest).map fun (text, rest) => (c :: text, rest) else none
termination_by cs.length
decreasing_by
  · simp only [List.length_cons, List.length_drop]; omega
  · simp only [List.length_cons]; omega

/-- The text of a string without escapes on one line after its opening quote, and what follows the
closing one. -/
def readLiteral : List Char → Option (List Char × List Char)
  | [] => none
  | '\'' :: rest => some ([], rest)
  | c :: rest =>
      if isPlain c then (readLiteral rest).map fun (text, rest) => (c :: text, rest) else none

/-- What follows the line end right behind the opening quotes of a string of several lines. -/
def trimFirstNewline (cs : List Char) : List Char :=
  (afterNewline? cs).getD cs

/-- What follows blanks and line ends. -/
def skipBlankLines : List Char → List Char
  | '\r' :: '\n' :: rest => skipBlankLines rest
  | c :: rest => if isBlank c || c == '\n' then skipBlankLines rest else c :: rest
  | [] => []

/-- What follows a backslash at the end of a line and all blanks and line ends behind it. -/
def afterContinuation? (cs : List Char) : Option (List Char) :=
  (afterNewline? (skipBlanks cs)).map skipBlankLines

/-- How many quotes a text starts with, five at most. -/
def leadingQuotes (quote : Char) (cs : List Char) : Nat :=
  ((cs.take 5).takeWhile (· == quote)).length

/-- The text of a string of several lines after its opening quotes, and what follows the closing
ones. Up to two quotes may stand right before those. -/
def readMultiline (quote : Char) (escapes : Bool) (cs : List Char) :
    Option (List Char × List Char) :=
  match cs with
  | [] => none
  | c :: rest =>
      if c = quote then
        let quotes := leadingQuotes quote (c :: rest)
        if 3 ≤ quotes then
          some (List.replicate (quotes - 3) quote, (c :: rest).drop quotes)
        else (readMultiline quote escapes rest).map fun (text, rest) => (c :: text, rest)
      else if escapes ∧ c = '\\' then
        match afterContinuation? rest with
        | some after =>
            if after.length < (c :: rest).length then readMultiline quote escapes after else none
        | none =>
            match readEscape? rest with
            | none => none
            | some (c, count) =>
                (readMultiline quote escapes (rest.drop count)).map fun (text, rest) =>
                  (c :: text, rest)
      else if c = '\n' ∨ isPlain c ∨ (c = '\r' ∧ rest.head? = some '\n') then
        (readMultiline quote escapes rest).map fun (text, rest) => (c :: text, rest)
      else none
termination_by cs.length
decreasing_by
  · simp only [List.length_cons]; omega
  · assumption
  · simp only [List.length_cons, List.length_drop]; omega
  · simp only [List.length_cons]; omega

/-- The text of a string, and what follows it. -/
def readText : List Char → Option (List Char × List Char)
  | '"' :: '"' :: '"' :: rest => readMultiline '"' true (trimFirstNewline rest)
  | '\'' :: '\'' :: '\'' :: rest => readMultiline '\'' false (trimFirstNewline rest)
  | '"' :: rest => readBasic rest
  | '\'' :: rest => readLiteral rest
  | _ => none

end Toml

end Tether
