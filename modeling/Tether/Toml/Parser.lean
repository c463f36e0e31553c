import Tether.Toml.Text
import Tether.Toml.Tree

/-!
# Reading TOML

A document is a sequence of lines: assignments, headers of tables, headers of elements of lists of
tables, and comments. Arrays and inline tables may span lines and end with a comma.
-/

namespace Tether

namespace Toml

/-- How deep arrays and inline tables may be nested, and how many parts a key may have. -/
def maxDepth : Nat := 80

/-- What follows blanks, line ends and comments, where the text may start within a comment. A
character that no comment may hold ends it, and then nothing can be read from there. -/
def skipTriviaFrom : Bool → List Char → List Char
  | _, [] => []
  | _, '\n' :: rest => skipTriviaFrom false rest
  | _, '\r' :: '\n' :: rest => skipTriviaFrom false rest
  | false, '#' :: rest => skipTriviaFrom true rest
  | inComment, c :: rest =>
      if isBlank c || (inComment && isPlain c) then skipTriviaFrom inComment rest else c :: rest

/-- What follows blanks, line ends and comments. -/
def skipTrivia (cs : List Char) : List Char :=
  skipTriviaFrom false cs

/-- Whether a character may stand in a key without quotes. -/
def isKeyChar (c : Char) : Bool :=
  c.isAlphanum || c == '_' || c == '-'

/-- One part of a key, and what follows it. -/
def readSimpleKey : List Char → Option (String × List Char)
  | '"' :: rest => (readBasic rest).map fun (text, rest) => (String.ofList text, rest)
  | '\'' :: rest => (readLiteral rest).map fun (text, rest) => (String.ofList text, rest)
  | cs =>
      match cs.takeWhile isKeyChar with
      | [] => none
      | key => some (String.ofList key, cs.dropWhile isKeyChar)

/-- The parts of a dotted key of at most `limit` parts, and what follows the key and blanks. -/
def readKeyUpTo : Nat → List Char → Option (List String × List Char)
  | 0, _ => none
  | limit + 1, cs =>
      match readSimpleKey (skipBlanks cs) with
      | none => none
      | some (key, rest) =>
          match skipBlanks rest with
          | '.' :: rest => (readKeyUpTo limit rest).map fun (keys, rest) => (key :: keys, rest)
          | rest => some ([key], rest)

/-- A dotted key as the path to its last part and that part, and what follows the key and blanks. -/
def readKey (cs : List Char) : Option (List String × String × List Char) :=
  match readKeyUpTo maxDepth cs with
  | none => none
  | some (keys, rest) =>
      match keys.getLast? with
      | some key => some (keys.dropLast, key, rest)
      | none => none

def endsWord (c : Char) : Bool :=
  isBlank c || c == '\n' || c == '\r' || c == '#' || c == ',' || c == '=' || c == '['
    || c == ']' || c == '{' || c == '}'

/-- A plain value, and what follows it. A blank after a date belongs to the value if a digit
follows. -/
def readWord (cs : List Char) : Option (Value × List Char) :=
  let word := cs.takeWhile fun c => !endsWord c
  let rest := cs.dropWhile fun c => !endsWord c
  match rest with
  | ' ' :: c :: more =>
      if Text.isDigit c ∧ afterDate? word = some [] then
        let time := (c :: more).takeWhile fun c => !endsWord c
        (word? (word ++ ' ' :: time)).map fun value =>
          (value, (c :: more).dropWhile fun c => !endsWord c)
      else (word? word).map fun value => (value, rest)
  | _ => (word? word).map fun value => (value, rest)

/-- An assignment, and what follows it. -/
def readAssignment (readItem : List Char → Option (Value × List Char)) (cs : List Char) :
    Option (List String × String × Value × List Char) :=
  match readKey cs with
  | some (path, key, '=' :: rest) =>
      (readItem (skipBlanks rest)).map fun (value, rest) => (path, key, value, rest)
  | _ => none

/-- The items of an array from behind its bracket or a comma, in at most `fuel` steps, and what
follows the closing bracket. -/
def readItems (readItem : List Char → Option (Value × List Char)) :
    Nat → List Char → Option (List Value × List Char)
  | 0, _ => none
  | fuel + 1, cs =>
      match skipTrivia cs with
      | ']' :: rest => some ([], rest)
      | cs =>
          match readItem cs with
          | none => none
          | some (item, rest) =>
              match skipTrivia rest with
              | ']' :: rest => some ([item], rest)
              | ',' :: rest =>
                  (readItems readItem fuel rest).map fun (items, rest) => (item :: items, rest)
              | _ => none

/-- The entries of an inline table from behind its brace or a comma, in at most `fuel` steps, and
what follows the closing brace. -/
def readEntries (readItem : List Char → Option (Value × List Char)) :
    Nat → Draft → List Char → Option (Draft × List Char)
  | 0, _, _ => none
  | fuel + 1, draft, cs =>
      match skipTrivia cs with
      | '}' :: rest => some (draft, rest)
      | cs =>
          match readAssignment readItem cs with
          | none => none
          | some (path, key, value, rest) =>
              match draft.assign path key value with
              | none => none
              | some draft =>
                  match skipTrivia rest with
                  | '}' :: rest => some (draft, rest)
                  | ',' :: rest => readEntries readItem fuel draft rest
                  | _ => none

/-- A value that is nested at most `depth` deep, and what follows it. -/
def readValue : Nat → List Char → Option (Value × List Char)
  | depth, cs =>
      match cs with
      | '"' :: _ | '\'' :: _ =>
          (readText cs).map fun (text, rest) => (.string (String.ofList text), rest)
      | '[' :: rest =>
          match depth with
          | 0 => none
          | depth + 1 =>
              (readItems (readValue depth) (rest.length + 1) rest).map fun (items, rest) =>
                (.array items, rest)
      | '{' :: rest =>
          match depth with
          | 0 => none
          | depth + 1 =>
              (readEntries (readValue depth) (rest.length + 1) .empty rest).map
                fun (draft, rest) => (.table (entryValues draft.entries), rest)
      | _ => readWord cs

/-- What follows the end of a line, before which a comment may stand. -/
def afterLine? (cs : List Char) : Option (List Char) :=
  let rest :=
    match skipBlanks cs with
    | '#' :: comment => afterComment comment
    | rest => rest
  match rest with
  | [] => some []
  | rest => afterNewline? rest

/-- A document that has been read in part, and the header of the table that is open. -/
structure Reading where
  draft : Draft
  header : List String

/-- Reads one line that is not blank. -/
def readLine (reading : Reading) (cs : List Char) : Option (Reading × List Char) :=
  match cs with
  | '[' :: '[' :: rest =>
      match readKey rest with
      | some (path, key, ']' :: ']' :: rest) =>
          (reading.draft.openElement path key).map fun draft => (⟨draft, path ++ [key]⟩, rest)
      | _ => none
  | '[' :: rest =>
      match readKey rest with
      | some (path, key, ']' :: rest) =>
          (reading.draft.openTable path key).map fun draft => (⟨draft, path ++ [key]⟩, rest)
      | _ => none
  | _ =>
      match readAssignment (readValue maxDepth) cs with
      | none => none
      | some (path, key, value, rest) =>
          (reading.draft.assignWithin reading.header path key value).map fun draft =>
            (⟨draft, reading.header⟩, rest)

/-- Reads at most `fuel` lines. -/
def readLines : Nat → Reading → List Char → Option Draft
  | 0, _, _ => none
  | fuel + 1, reading, cs =>
      match skipTrivia cs with
      | [] => some reading.draft
      | cs =>
          match readLine reading cs with
          | none => none
          | some (reading, rest) =>
              match afterLine? rest with
              | none => none
              | some rest => readLines fuel reading rest

/-- The entries of a document. A byte order mark in front of it is skipped. -/
def parse? (text : String) : Option (List (String × Value)) :=
  let cs :=
    match text.toList with
    | c :: rest => if c.toNat = 0xFEFF then rest else c :: rest
    | [] => []
  (readLines (cs.length + 1) ⟨.empty, []⟩ cs).map fun draft => entryValues draft.entries

end Toml

end Tether
