import Tether.Console.Value
import Tether.Event
import Tether.Text.Blank

/-!
# Console commands

A command is a row of words: one or two keywords and then the arguments. The table of commands gives
each keyword the shape of its arguments and the event that they make. Flags are unknown to every
command. Behind a word `--` a word with a minus in front is an argument like any other.

* `Console.commands` is the table.
* `Console.parse` reads a line as the event of a command, or says why it is none.
-/

namespace Tether

namespace Console

/-- Why a line is no command. -/
inductive Rejection where
  /-- There is no word at all. -/
  | empty
  /-- A keyword is missing. -/
  | incomplete
  | unknownCommand (word : String)
  /-- A flag, a word too many, or a keyword behind `--`. -/
  | unknownArgument (argument : String)
  /-- Arguments are missing. -/
  | missing (labels : List String)
  /-- A word is none of the choices of an argument. -/
  | notChoice (label value : String)
  | badValue (label value : String) (reason : ValueError)
deriving DecidableEq, Repr

/-- The text that goes with a rejection, if there is one. -/
def Rejection.message? : Rejection → Option String
  | .empty => some "empty command"
  | .badValue _ _ reason => some reason.message
  | _ => none

/-! ## Shapes -/

/-- The place of an argument. -/
structure Slot where
  label : String
  /-- Whether a number with a minus in front is taken for the argument and not for a flag. -/
  signed : Bool
  /-- Whether the argument takes all further words. -/
  repeats : Bool
deriving DecidableEq, Repr

/-- The arguments of a command and the event that they make. -/
inductive Shape where
  | bare (event : Event)
  | switch (event : Bool → Event)
  | choice (label : String) (choices : List (String × Event))
  | integer (label : String) (signed : Bool) (event : Int32 → Event)
  | fNumber (event : Int32 → Event)
  /-- A time in milliseconds and a count. -/
  | pace (event : Int32 → Int32 → Event)
  /-- A name of one or more words. -/
  | name (event : String → Event)

/-- The spellings of the positions of a switch. -/
def positions : List (String × Bool) :=
  [("on", true), ("true", true), ("1", true), ("off", false), ("false", false), ("0", false)]

def Shape.slots : Shape → List Slot
  | .bare _ => []
  | .switch _ => [⟨"<ENABLED>", false, false⟩]
  | .choice label _ => [⟨label, false, false⟩]
  | .integer label signed _ => [⟨label, signed, false⟩]
  | .fNumber _ => [⟨"<F_NUMBER>", false, false⟩]
  | .pace _ => [⟨"<MS>", true, false⟩, ⟨"<COUNT>", false, false⟩]
  | .name _ => [⟨"<NAME>...", false, true⟩]

def pick {α : Type} (label : String) (choices : List (String × α)) (word : String) :
    Except Rejection α :=
  match choices.lookup word with
  | some value => .ok value
  | none => .error (.notChoice label word)

def read {α : Type} (label : String) (reader : String → Except ValueError α) (word : String) :
    Except Rejection α :=
  match reader word with
  | .ok value => .ok value
  | .error reason => .error (.badValue label word reason)

/-- The event that a shape makes of words, of which there are no more than places. A word that is no
value is reported before one that is missing. -/
def Shape.make (shape : Shape) (words : List String) : Except Rejection Event :=
  let missing : Except Rejection Event :=
    .error (.missing ((shape.slots.drop words.length).map Slot.label))
  match shape, words with
  | .bare event, _ => .ok event
  | .switch event, word :: _ => (pick "<ENABLED>" positions word).map event
  | .choice label choices, word :: _ => pick label choices word
  | .integer label _ event, word :: _ => (read label Console.integer word).map event
  | .fNumber event, word :: _ => (read "<F_NUMBER>" Console.fNumber word).map event
  | .pace event, [time, count] => do
      let time ← read "<MS>" Console.integer time
      let count ← read "<COUNT>" Console.integer count
      return event time count
  | .pace _, time :: _ => (read "<MS>" Console.integer time).bind fun _ => missing
  | .name event, word :: rest => .ok (event (" ".intercalate (word :: rest)))
  | _, [] => missing

/-! ## Filling the places -/

/-- Whether a text is digits, at most one point behind the first of them, and perhaps a letter `e`
with more digits. -/
def isNumber (cs : List Char) : Bool :=
  let (whole, rest) := Text.splitDigits Text.isDigit cs
  let (_, rest) := splitFraction rest
  !whole.isEmpty &&
    match rest with
    | [] => true
    | 'e' :: digits => !digits.isEmpty && digits.all Text.isDigit
    | _ => false

/-- The flag that a word is. A long flag ends before a sign of equality, and a short one has one
letter. Neither `-` nor `--` is a flag. -/
def flag? (word : String) : Option String :=
  match word.toList with
  | '-' :: '-' :: _ :: _ => some (String.ofList (word.toList.takeWhile (· != '=')))
  | ['-', '-'] => none
  | '-' :: letter :: _ => some (String.ofList ['-', letter])
  | _ => none

/-- Whether a word is a negative number where the next place takes one. -/
def isSigned (slots : List Slot) (word : String) : Bool :=
  match slots, word.toList with
  | slot :: _, '-' :: rest => slot.signed && isNumber rest
  | _, _ => false

/-- The words that fill places, and what stopped the filling before the end. -/
structure Filling where
  words : List String
  stop : Option Rejection
deriving DecidableEq, Repr

/-- Fills places with words; `literal` is set behind a word `--`. -/
def fill (slots : List Slot) (literal : Bool) : List String → Filling
  | [] => ⟨[], none⟩
  | word :: rest =>
      if literal = false ∧ word = "--" then fill slots true rest
      else
        match if literal || isSigned slots word then none else flag? word with
        | some flag => ⟨[], some (.unknownArgument flag)⟩
        | none =>
            match slots with
            | [] => ⟨[], some (.unknownArgument word)⟩
            | slot :: others =>
                let filling := fill (if slot.repeats then slots else others) literal rest
                { filling with words := word :: filling.words }

/-- The event that a shape makes of the words behind its keyword. What stops the filling is reported
before the last word ahead of it is looked at, and after the others. -/
def Shape.parse (shape : Shape) (words : List String) : Except Rejection Event :=
  let filling := fill shape.slots false words
  match filling.stop with
  | none => shape.make filling.words
  | some stop =>
      match shape.make filling.words.dropLast with
      | .error (.notChoice label value) => .error (.notChoice label value)
      | .error (.badValue label value reason) => .error (.badValue label value reason)
      | _ => .error stop

/-! ## The table -/

/-- What a keyword stands for: a command, or a group of commands. -/
inductive Entry where
  | command (shape : Shape)
  | group (commands : List (String × Shape))

/-- The settings that can be read. -/
def settings : List (String × Event) :=
  [("shutter", .getShutterSpeed), ("aperture", .getAperture), ("iso", .getIso),
    ("auto_iso", .getAutoIso), ("battery", .getBattery), ("focal", .getFocalLength),
    ("focus", .getFocusMode), ("nr", .getLongExposureNr), ("vr", .getVibrationReduction),
    ("target", .getCaptureTarget), ("program", .getExposureProgram), ("meter", .getLightMeter),
    ("all", .getAll)]

/-- The settings whose values can be listed. -/
def listed : List (String × Event) :=
  [("shutter", .getShutterSpeedChoices), ("aperture", .getApertureChoices),
    ("iso", .getIsoChoices)]

/-- The commands that change a setting. -/
def assignments : List (String × Shape) :=
  [("shutter", .integer "<US>" true .setShutterSpeed), ("aperture", .fNumber .setAperture),
    ("iso", .integer "<ISO>" false .setIso), ("auto_iso", .switch .setAutoIso),
    ("nr", .switch .setLongExposureNr), ("vr", .switch .setVibrationReduction),
    ("target", .name .setCaptureTarget), ("focus", .choice "<STEP>" [("next", .nextFocusMode)])]

def commands : List (String × Entry) :=
  [("connect", .command (.bare .connect)), ("disconnect", .command (.bare .disconnect)),
    ("capture", .command (.bare .capture)), ("ignore", .command (.bare .ignoreError)),
    ("state", .command (.bare .getCameraState)), ("mode", .command (.bare .getMode)),
    ("stop", .command (.bare .stopMode)), ("download", .command (.switch .setDownload)),
    ("low_latency", .command (.switch .setLowLatency)),
    ("get", .command (.choice "<SETTING>" settings)),
    ("choices", .command (.choice "<SETTING>" listed)), ("set", .group assignments),
    ("interval", .command (.pace .runIntervalometer))]

/-! ## Reading a line -/

/-- What the keyword at the head of some words stands for, and the words behind it. No word behind
`--` is a keyword. -/
def choose {α : Type} (table : List (String × α)) :
    List String → Except Rejection (α × List String)
  | [] => .error .incomplete
  | word :: rest =>
      if word = "--" then
        match rest with
        | [] => .error .incomplete
        | literal :: _ =>
            if (table.lookup literal).isSome then .error (.unknownArgument literal)
            else .error (.unknownCommand literal)
      else
        match table.lookup word, flag? word with
        | some entry, _ => .ok (entry, rest)
        | none, some flag => .error (.unknownArgument flag)
        | none, none => .error (.unknownCommand word)

def parseWords (words : List String) : Except Rejection Event :=
  match choose commands words with
  | .error e => .error e
  | .ok (.command shape, rest) => shape.parse rest
  | .ok (.group table, rest) =>
      match choose table rest with
      | .error e => .error e
      | .ok (shape, rest) => shape.parse rest

def parse (line : String) : Except Rejection Event :=
  match Text.words line.toList with
  | [] => .error .empty
  | words => parseWords (words.map String.ofList)

end Console

end Tether
