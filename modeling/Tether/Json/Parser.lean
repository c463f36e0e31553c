import Tether.Json.Number

/-!
# Strict JSON text

The grammar of RFC 8259: four blanks, no raw control characters in strings, no escape that leaves a
lone surrogate, no number too large for a 64-bit float, and arrays and objects nested at most
`maxDepth` deep.
-/

namespace Tether

namespace Json

def maxDepth : Nat := 127

/-- The blanks between tokens. -/
def isSpace (c : Char) : Bool :=
  c = ' ' || c = '\n' || c = '\t' || c = '\r'

/-- A text without the blanks at its head. -/
def skipSpace (cs : List Char) : List Char :=
  cs.dropWhile isSpace

def hexValue? (c : Char) : Option Nat :=
  if Text.isHexDigit c then some (Text.digitValue c) else none

/-- The value of four hexadecimal digits at the head of a text. -/
def readUnit? : List Char → Option Nat
  | a :: b :: c :: d :: _ => do
      let a ← hexValue? a
      let b ← hexValue? b
      let c ← hexValue? c
      let d ← hexValue? d
      some (((a * 16 + b) * 16 + c) * 16 + d)
  | _ => none

/-- The character that the text after a backslash and a `u` stands for, and how much text that is:
four digits, or ten characters for a pair of surrogates. A lone surrogate is refused. -/
def readUnicode? (cs : List Char) : Option (Char × Nat) :=
  match readUnit? cs with
  | none => none
  | some unit =>
      if 0xDC00 ≤ unit ∧ unit ≤ 0xDFFF then none
      else if 0xD800 ≤ unit ∧ unit ≤ 0xDBFF then
        match cs.drop 4 with
        | '\\' :: 'u' :: rest =>
            match readUnit? rest with
            | none => none
            | some low =>
                if 0xDC00 ≤ low ∧ low ≤ 0xDFFF then
                  some (Char.ofNat (0x10000 + (unit - 0xD800) * 0x400 + (low - 0xDC00)), 10)
                else none
        | _ => none
      else some (Char.ofNat unit, 4)

/-- The character that a letter after a backslash stands for. -/
def simpleEscape? (c : Char) : Option Char :=
  if c = '"' then some '"'
  else if c = '\\' then some '\\'
  else if c = '/' then some '/'
  else if c = 'b' then some (Char.ofNat 8)
  else if c = 'f' then some (Char.ofNat 12)
  else if c = 'n' then some '\n'
  else if c = 'r' then some '\r'
  else if c = 't' then some '\t'
  else none

/-- The characters of a string after its opening quote, and what follows its closing quote. -/
def readString (cs : List Char) : Option (List Char × List Char) :=
  match cs with
  | [] => none
  | c :: rest =>
      if c = '"' then some ([], rest)
      else if c = '\\' then
        match rest with
        | [] => none
        | e :: rest =>
            if e = 'u' then
              match readUnicode? rest with
              | none => none
              | some (value, count) =>
                  (readString (rest.drop count)).map fun (text, rest) => (value :: text, rest)
            else
              match simpleEscape? e with
              | none => none
              | some value => (readString rest).map fun (text, rest) => (value :: text, rest)
      else if c.toNat < 32 then none
      else (readString rest).map fun (text, rest) => (c :: text, rest)
termination_by cs.length
decreasing_by
  · simp only [List.length_cons, List.length_drop]; omega
  · simp only [List.length_cons]; omega
  · simp only [List.length_cons]; omega

/-- The items of an array after its bracket and at least up to the closing one. -/
def readItems (readItem : List Char → Option (Json × List Char)) (cs : List Char) :
    Option (List Json × List Char) :=
  match readItem cs with
  | none => none
  | some (item, rest) =>
      match skipSpace rest with
      | ']' :: rest => some ([item], rest)
      | ',' :: rest =>
          if rest.length < cs.length then
            (readItems readItem rest).map fun (items, rest) => (item :: items, rest)
          else none
      | _ => none
termination_by cs.length

/-- The key of a field with its colon. -/
def readKey (cs : List Char) : Option (String × List Char) :=
  match skipSpace cs with
  | '"' :: rest =>
      match readString rest with
      | none => none
      | some (key, rest) =>
          match skipSpace rest with
          | ':' :: rest => some (String.ofList key, rest)
          | _ => none
  | _ => none

/-- The fields of an object after its brace and at least up to the closing one. -/
def readFields (readItem : List Char → Option (Json × List Char)) (cs : List Char) :
    Option (List (String × Json) × List Char) :=
  match readKey cs with
  | none => none
  | some (key, rest) =>
      match readItem rest with
      | none => none
      | some (item, rest) =>
          match skipSpace rest with
          | '}' :: rest => some ([(key, item)], rest)
          | ',' :: rest =>
              if rest.length < cs.length then
                (readFields readItem rest).map fun (fields, rest) => ((key, item) :: fields, rest)
              else none
          | _ => none
termination_by cs.length

/-- The value at the head of a text, nested at most `depth` deep, and what follows it. -/
def readValue : Nat → List Char → Option (Json × List Char)
  | depth, cs =>
      match skipSpace cs with
      | 'n' :: 'u' :: 'l' :: 'l' :: rest => some (.null, rest)
      | 't' :: 'r' :: 'u' :: 'e' :: rest => some (.bool true, rest)
      | 'f' :: 'a' :: 'l' :: 's' :: 'e' :: rest => some (.bool false, rest)
      | '"' :: rest => (readString rest).map fun (text, rest) => (.str (String.ofList text), rest)
      | '[' :: rest =>
          match depth with
          | 0 => none
          | depth + 1 =>
              match skipSpace rest with
              | ']' :: rest => some (.arr [], rest)
              | _ => (readItems (readValue depth) rest).map fun (items, rest) => (.arr items, rest)
      | '{' :: rest =>
          match depth with
          | 0 => none
          | depth + 1 =>
              match skipSpace rest with
              | '}' :: rest => some (.obj [], rest)
              | _ => (readFields (readValue depth) rest).map fun (fields, rest) =>
                  (Json.ofFields fields, rest)
      | rest => readNumber rest

/-- The value at the head of a text, and what follows it. -/
def parseFirst? (text : String) : Option (Json × List Char) :=
  readValue maxDepth text.toList

/-- The value that a text consists of. -/
def parse? (text : String) : Option Json :=
  match parseFirst? text with
  | some (json, rest) => if skipSpace rest = [] then some json else none
  | none => none

/-- The value whose text in UTF-8 a byte string is. -/
def ofBytes? (bytes : List UInt8) : Option Json :=
  match String.fromUTF8? (ByteArray.mk bytes.toArray) with
  | some text => parse? text
  | none => none

end Json

end Tether
