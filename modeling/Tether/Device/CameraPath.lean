import Tether.Json.Fields

/-!
# Files on the camera

A picture is found on the camera's own storage by its folder and its name.
-/

namespace Tether

/-- The place of a file on the camera. -/
structure CameraPath where
  folder : String
  name : String
deriving DecidableEq, Repr, Inhabited

namespace CameraPath

/-- The path that names no file. -/
def none : CameraPath := ⟨"", ""⟩

/-- The folder and the name with a slash between them. -/
def display (path : CameraPath) : String :=
  path.folder ++ "/" ++ path.name

def toJson (path : CameraPath) : Json :=
  .ofFields [("folder", .str path.folder), ("name", .str path.name)]

def textField (fields : List (String × Json)) (key : String) :
    Except Json.Mismatch (Option String) :=
  match fields.lookup key with
  | some value => value.toText.map some
  | .none => .ok .none

/-- Reads a path from an object with both fields, or from a list of the folder and the name. Fields
that are present are checked before fields that are missing. -/
def ofJson (json : Json) : Except Json.Mismatch CameraPath :=
  match json with
  | .obj fields => do
      let folder ← textField fields "folder"
      let name ← textField fields "name"
      match folder, name with
      | .none, _ => throw (.missing "folder")
      | _, .none => throw (.missing "name")
      | some folder, some name => return ⟨folder, name⟩
  | .arr [] => .error (.wrongLength 0 "struct CameraPath with 2 elements")
  | .arr [folder] => do
      let _ ← folder.toText
      throw (.wrongLength 1 "struct CameraPath with 2 elements")
  | .arr (folder :: name :: rest) => do
      let folder ← folder.toText
      let name ← name.toText
      if rest.isEmpty then return ⟨folder, name⟩
      else throw (.wrongLength (rest.length + 2) "fewer elements in array")
  | other => .error (.wrongType other "struct CameraPath")

end CameraPath

end Tether
