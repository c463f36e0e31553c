import Tether.Text.Digit
import Tether.Text.Unprintable

/-!
# Quoted text in messages

A text is quoted by double quotes. Quotes, backslashes and the usual controls are escaped by a
letter; any other unprintable character by its code point in hexadecimal between braces.
-/

namespace Tether

namespace Text

def quoteChar (c : Char) : List Char :=
  if c.toNat = 0 then ['\\', '0']
  else if c = '\t' then ['\\', 't']
  else if c = '\r' then ['\\', 'r']
  else if c = '\n' then ['\\', 'n']
  else if c = '"' then ['\\', '"']
  else if c = '\\' then ['\\', '\\']
  else if isUnprintable c then ['\\', 'u', '{'] ++ hexDigits c.toNat ++ ['}']
  else [c]

def quote (s : String) : String :=
  String.ofList ('"' :: (s.toList.flatMap quoteChar ++ ['"']))

end Text

end Tether
