import Tether.Number.Shortest

/-!
# JSON values

Objects are lists of fields in strictly increasing order of their keys, so two objects are equal
exactly when they hold the same fields. `Json.insert` keeps that order; `Json.ofFields` builds an
object from fields in any order, the last of two equal keys winning.

A number is an integer when its text has neither fraction nor exponent and it fits 64 bits; every
other number is a 64-bit float.
-/

namespace Tether

inductive Json where
  | null
  | bool (value : Bool)
  | int (value : Int)
  | float (value : Binary)
  | str (value : String)
  | arr (items : List Json)
  | obj (fields : List (String × Json))
deriving Inhabited

namespace Json

/-- Puts a field into an ordered field list, replacing an equal key. -/
def insertField (key : String) (value : Json) : List (String × Json) → List (String × Json)
  | [] => [(key, value)]
  | (other, old) :: rest =>
      if key = other then (key, value) :: rest
      else if key < other then (key, value) :: (other, old) :: rest
      else (other, old) :: insertField key value rest

/-- The ordered field list of fields in any order; the last of two equal keys wins. -/
def orderFields (fields : List (String × Json)) : List (String × Json) :=
  fields.foldl (fun ordered field => insertField field.1 field.2 ordered) []

def ofFields (fields : List (String × Json)) : Json :=
  .obj (orderFields fields)

/-- The value of a field of an object; other values have no fields. -/
def get? (json : Json) (key : String) : Option Json :=
  match json with
  | .obj fields => fields.lookup key
  | _ => none

/-- A 32-bit float as a JSON number, widened to 64 bits; an infinity has no JSON number. -/
def ofSingle : Binary → Json
  | .finite negative mantissa exponent =>
      .float (FloatFormat.double.convert (.finite negative mantissa exponent))
  | .infinite _ => .null

end Json

end Tether
