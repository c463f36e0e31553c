import Tether.Console.Grammar

/-!
# Console sessions

A session reads lines until one asks to quit, one is no text in UTF-8, or the input ends. Blank
lines and requests for help post nothing, and a line that is no command is counted and otherwise
ignored.
-/

namespace Tether

namespace Console

/-- What a line means. -/
inductive Meaning where
  /-- The line is blank. -/
  | nothing
  | help
  | quit
  | post (event : Event)
  | reject (reason : Rejection)
deriving DecidableEq

def Meaning.ofLine (line : String) : Meaning :=
  let text := String.ofList (Text.trim line.toList)
  if text = "" then .nothing
  else if text = "help" then .help
  else if text = "quit" ∨ text = "exit" then .quit
  else
    match parse text with
    | .ok event => .post event
    | .error reason => .reject reason

/-- The text of a line that is no text in UTF-8. -/
def undecodable : String := "stream did not contain valid UTF-8"

/-- A byte string cut behind each line end; `current` holds the reversed start of a line. A carriage
return before a line end belongs to it. -/
def linesFrom : List UInt8 → List UInt8 → List (List UInt8)
  | [], [] => []
  | current, [] => [current.reverse]
  | current, byte :: rest =>
      if byte = 10 then
        let line := if current.head? = some 13 then current.tail else current
        line.reverse :: linesFrom [] rest
      else linesFrom (byte :: current) rest

def lines (input : List UInt8) : List (List UInt8) :=
  linesFrom [] input

/-- A session: whether the program is still to run, the events posted so far in order, and how many
lines were rejected. -/
structure Session where
  running : Bool
  posted : List Event
  rejected : Nat
  /-- Whether a line was no text. -/
  failed : Bool
deriving DecidableEq

namespace Session

def new (running : Bool) : Session :=
  ⟨running, [], 0, false⟩

def step (session : Session) (line : List UInt8) : Session :=
  match String.fromUTF8? ⟨line.toArray⟩ with
  | none => { session with failed := true }
  | some text =>
      match Meaning.ofLine text with
      | .nothing | .help => session
      | .quit => { session with running := false }
      | .post event => { session with posted := session.posted ++ [event] }
      | .reject _ => { session with rejected := session.rejected + 1 }

/-- Reads lines until the session is over. -/
def read (session : Session) : List (List UInt8) → Session
  | [] => session
  | line :: rest =>
      if session.running ∧ session.failed = false then read (session.step line) rest else session

def run (running : Bool) (input : List UInt8) : Session :=
  (new running).read (lines input)

end Session

end Console

end Tether
