import Tether.Json.Printer
import Tether.Text.Quoted

/-!
# Reading typed values from JSON

Each reader accepts one type and otherwise says what it found and what it wanted.
-/

namespace Tether

namespace Json

/-- Why a JSON value does not have a wanted type. -/
inductive Mismatch where
  /-- A value of another type. -/
  | wrongType (found : Json) (wanted : String)
  /-- An integer outside the range of the wanted type. -/
  | outOfRange (found : Int) (wanted : String)
  /-- A missing member. -/
  | missing (name : String)
  /-- A list of the wrong length. -/
  | wrongLength (found : Nat) (wanted : String)

/-- How a message names a value of a wrong type. -/
def describe : Json → String
  | .null => "null"
  | .bool true => "boolean `true`"
  | .bool false => "boolean `false`"
  | .int n => "integer `" ++ String.ofList (intDigits n) ++ "`"
  | .float x => "floating point `" ++ String.ofList (x.toChars .double) ++ "`"
  | .str s => "string " ++ Text.quote s
  | .arr _ => "sequence"
  | .obj _ => "map"

def Mismatch.message : Mismatch → String
  | .wrongType found wanted => "invalid type: " ++ found.describe ++ ", expected " ++ wanted
  | .outOfRange found wanted =>
      "invalid value: integer `" ++ String.ofList (intDigits found) ++ "`, expected " ++ wanted
  | .missing name => "missing field `" ++ name ++ "`"
  | .wrongLength found wanted =>
      "invalid length " ++ String.ofList (natDigits found) ++ ", expected " ++ wanted

def toBool : Json → Except Mismatch Bool
  | .bool value => .ok value
  | other => .error (.wrongType other "a boolean")

def toText : Json → Except Mismatch String
  | .str value => .ok value
  | other => .error (.wrongType other "a string")

def toInt32 : Json → Except Mismatch Int32
  | .int n =>
      if -2147483648 ≤ n ∧ n ≤ 2147483647 then .ok (Int32.ofInt n)
      else .error (.outOfRange n "i32")
  | other => .error (.wrongType other "i32")

/-- Reads a list of 32-bit integers; the first bad item decides. -/
def toInt32s : Json → Except Mismatch (List Int32)
  | .arr items => items.mapM toInt32
  | other => .error (.wrongType other "a sequence")

/-- Reads a number as a 32-bit float. -/
def toSingle : Json → Except Mismatch Binary
  | .int n => .ok (FloatFormat.single.ofInt n)
  | .float x => .ok (FloatFormat.single.convert x)
  | other => .error (.wrongType other "f32")

def toNat : Json → Except Mismatch Nat
  | .int (.ofNat n) => .ok n
  | other => .error (.wrongType other "a natural number")

def toItems : Json → Except Mismatch (List Json)
  | .arr items => .ok items
  | other => .error (.wrongType other "a sequence")

def toMembers : Json → Except Mismatch (List (String × Json))
  | .obj fields => .ok fields
  | other => .error (.wrongType other "a map")

/-- A member of an object, null if there is none. -/
def member (json : Json) (key : String) : Json :=
  (json.get? key).getD .null

/-- Reads a member of an object. -/
def read {α : Type} (json : Json) (key : String) (reader : Json → Except Mismatch α) :
    Except Mismatch α :=
  reader (json.member key)

/-- Reads a member of an object that may be missing or null. -/
def read? {α : Type} (json : Json) (key : String) (reader : Json → Except Mismatch α) :
    Except Mismatch (Option α) :=
  match json.member key with
  | .null => .ok none
  | value => (reader value).map some

/-- Reads a member of an object, with a value for when it is missing or null. -/
def readOr {α : Type} (json : Json) (key : String) (reader : Json → Except Mismatch α)
    (default : α) : Except Mismatch α :=
  (json.read? key reader).map fun value => value.getD default

def ofInt32s (items : List Int32) : Json :=
  .arr (items.map fun n => .int n.toInt)

def ofNat (n : Nat) : Json :=
  .int n

def ofTexts (items : List String) : Json :=
  .arr (items.map .str)

end Json

end Tether
