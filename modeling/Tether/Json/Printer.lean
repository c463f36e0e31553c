import Tether.Json.Basic
import Tether.Text.Digit

/-!
# Compact JSON text

No blanks, fields in the order of the value, and the fewest escapes: the quote, the backslash and
the control characters below the blank. All other characters stand for themselves.
-/

namespace Tether

namespace Json

def escapeChar (c : Char) : List Char :=
  if c = '"' then ['\\', '"']
  else if c = '\\' then ['\\', '\\']
  else if c.toNat = 8 then ['\\', 'b']
  else if c.toNat = 9 then ['\\', 't']
  else if c.toNat = 10 then ['\\', 'n']
  else if c.toNat = 12 then ['\\', 'f']
  else if c.toNat = 13 then ['\\', 'r']
  else if c.toNat < 32 then
    ['\\', 'u', '0', '0', Text.hexDigit (c.toNat / 16), Text.hexDigit (c.toNat % 16)]
  else [c]

def escapeChars (cs : List Char) : List Char :=
  cs.flatMap escapeChar

def stringChars (s : String) : List Char :=
  '"' :: (escapeChars s.toList ++ ['"'])

mutual

/-- The compact text of a value. -/
def chars : Json → List Char
  | .null => ['n', 'u', 'l', 'l']
  | .bool true => ['t', 'r', 'u', 'e']
  | .bool false => ['f', 'a', 'l', 's', 'e']
  | .int n => intDigits n
  | .float x => if x.isInfinite then ['n', 'u', 'l', 'l'] else x.toChars .double
  | .str s => stringChars s
  | .arr items => '[' :: (itemChars items ++ [']'])
  | .obj fields => '{' :: (fieldChars fields ++ ['}'])

/-- The texts of the items of an array with commas between them. -/
def itemChars : List Json → List Char
  | [] => []
  | [item] => chars item
  | item :: rest => chars item ++ ',' :: itemChars rest

/-- The texts of the fields of an object with commas between them. -/
def fieldChars : List (String × Json) → List Char
  | [] => []
  | [(key, value)] => stringChars key ++ ':' :: chars value
  | (key, value) :: rest => stringChars key ++ ':' :: (chars value ++ ',' :: fieldChars rest)

end

/-- The compact text of a value. -/
def render (json : Json) : String :=
  String.ofList json.chars

/-- The compact text of a value in UTF-8. -/
def toBytes (json : Json) : List UInt8 :=
  json.render.toUTF8.data.toList

end Json

end Tether
