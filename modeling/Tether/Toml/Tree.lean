import Tether.Toml.Basic

/-!
# Putting a document together

The tables of a document are built up from headers and assignments in any order, but each only once.
A table that so far only stands on the way to another may still be opened by its own header; a table
that was made by dotted keys may not, and dotted keys reach only into tables made by dotted keys. A
value that is written as a whole is closed.
-/

namespace Tether

namespace Toml

/-- How a table came about. -/
inductive Origin where
  /-- By its own header. -/
  | header
  /-- On the way of a header to another table. -/
  | onTheWay
  /-- By dotted keys. -/
  | dottedKey
deriving DecidableEq

/-- What a key of an unfinished document stands for. -/
inductive Node where
  | value (value : Value)
  | table (origin : Origin) (entries : List (String × Node))
  /-- The tables of a list of tables, the last one first; only that one can be added to. -/
  | tables (last : List (String × Node)) (before : List (List (String × Node)))

/-- An unfinished table. -/
structure Draft where
  origin : Origin
  entries : List (String × Node)

namespace Draft

def empty : Draft := ⟨.header, []⟩

def add (draft : Draft) (key : String) (node : Node) : Draft :=
  { draft with entries := draft.entries ++ [(key, node)] }

def set (draft : Draft) (key : String) (node : Node) : Draft :=
  { draft with
    entries := draft.entries.map fun entry => if entry.1 = key then (key, node) else entry }

/-- Changes the table at the end of a path, making the tables on the way. -/
def descend (dotted : Bool) (change : Draft → Option Draft) :
    List String → Draft → Option Draft
  | [], draft => change draft
  | key :: path, draft =>
      match draft.entries.lookup key with
      | none =>
          (descend dotted change path ⟨if dotted then .dottedKey else .onTheWay, []⟩).map
            fun inner => draft.add key (.table inner.origin inner.entries)
      | some (.table origin entries) =>
          if dotted && origin == .header then none
          else
            (descend dotted change path ⟨origin, entries⟩).map fun inner =>
              draft.set key (.table inner.origin inner.entries)
      | some (.tables last before) =>
          (descend dotted change path ⟨.header, last⟩).map fun inner =>
            draft.set key (.tables inner.entries before)
      | some (.value _) => none

/-- Assigns a value to a new key at the end of a path of dotted keys. -/
def assign (path : List String) (key : String) (value : Value) (draft : Draft) : Option Draft :=
  descend true
    (fun inner =>
      if (inner.origin == .dottedKey) = path.isEmpty then none
      else if (inner.entries.lookup key).isSome then none
      else some (inner.add key (.value value)))
    path draft

def openTable (path : List String) (key : String) (draft : Draft) : Option Draft :=
  descend false
    (fun inner =>
      match inner.entries.lookup key with
      | none => some (inner.add key (.table .header []))
      | some (.table .onTheWay entries) => some (inner.set key (.table .header entries))
      | some _ => none)
    path draft

/-- Opens a new table at the end of a list of tables. -/
def openElement (path : List String) (key : String) (draft : Draft) : Option Draft :=
  descend false
    (fun inner =>
      match inner.entries.lookup key with
      | none => some (inner.add key (.tables [] []))
      | some (.tables last before) => some (inner.set key (.tables [] (last :: before)))
      | some _ => none)
    path draft

/-- Assigns a value within the table that was opened last. -/
def assignWithin (header path : List String) (key : String) (value : Value) (draft : Draft) :
    Option Draft :=
  descend false (assign path key value) header draft

end Draft

mutual

def Node.toValue : Node → Value
  | .value value => value
  | .table _ entries => .table (entryValues entries)
  | .tables last before => .array ((elementValues before).reverse ++ [.table (entryValues last)])

def entryValues : List (String × Node) → List (String × Value)
  | [] => []
  | (key, node) :: rest => (key, node.toValue) :: entryValues rest

def elementValues : List (List (String × Node)) → List Value
  | [] => []
  | entries :: rest => .table (entryValues entries) :: elementValues rest

end

end Toml

end Tether
