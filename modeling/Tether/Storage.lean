/-!
# Local files

A small tree of directories and files, and the working directory that relative paths start from.
Paths are walked component by component: every component but the last must name a directory, a dot
stays, two dots go up, and a slash at the end asks for a directory, which nobody can write to.
-/

namespace Tether

/-- What a path can lead to. -/
inductive FileNode where
  | directory
  | file (content : List UInt8)
  /-- A file that is always empty and swallows what is written to it. -/
  | sink
deriving DecidableEq

/-- Why a path cannot be used. -/
inductive FileError where
  | notFound
  | notADirectory
  | isADirectory
  | nameTooLong
  | nulByte
deriving DecidableEq, Repr

def FileError.message : FileError → String
  | .notFound => "No such file or directory (os error 2)"
  | .notADirectory => "Not a directory (os error 20)"
  | .isADirectory => "Is a directory (os error 21)"
  | .nameTooLong => "File name too long (os error 36)"
  | .nulByte => "file name contained an unexpected NUL byte"

/-- The nodes of a file tree by their absolute paths, and the absolute path of the working
directory. The root is always there. -/
structure Storage where
  nodes : List (List String × FileNode)
  workingDirectory : List String

namespace Storage

/-- A tree with the usual top-level directories, and a working directory that holds nothing but an
empty directory `out`. -/
def scratch : Storage where
  nodes :=
    ([["bin"], ["boot"], ["dev"], ["etc"], ["home"], ["lib"], ["media"], ["mnt"], ["opt"], ["proc"],
      ["root"], ["run"], ["sbin"], ["srv"], ["sys"], ["tmp"], ["tmp", "scratch"],
      ["tmp", "scratch", "out"], ["usr"], ["usr", "bin"], ["usr", "lib"], ["usr", "local"],
      ["usr", "share"], ["var"], ["var", "lib"], ["var", "log"], ["var", "tmp"]].map
        fun path => (path, .directory))
      ++ [(["dev", "null"], .sink)]
  workingDirectory := ["tmp", "scratch"]

instance : Inhabited Storage := ⟨scratch⟩

/-- A tree with nothing but its root, which is the working directory. -/
def bare : Storage := ⟨[], []⟩

/-- The node at an absolute path. -/
def node? (storage : Storage) (path : List String) : Option FileNode :=
  if path = [] then some .directory else storage.nodes.lookup path

/-- Where a path leads: to a node, or to a free name in a directory. -/
inductive Target where
  | existing (path : List String) (node : FileNode)
  | free (path : List String)

/-- The components of a path between its slashes. -/
def components (path : String) : List String :=
  (path.toList.splitOnP (· == '/')).map String.ofList

/-- Walks the components of a path from an absolute path whose node is given. -/
def walk (storage : Storage) : List String → FileNode → List String → Except FileError Target
  | current, node, [] => .ok (.existing current node)
  | current, node, name :: rest =>
      if node ≠ .directory then .error .notADirectory
      else if name = "" ∨ name = "." then walk storage current node rest
      else if name = ".." then walk storage current.dropLast .directory rest
      else if 255 < name.utf8ByteSize then .error .nameTooLong
      else
        match storage.node? (current ++ [name]) with
        | some next => walk storage (current ++ [name]) next rest
        | none =>
            if rest = [] then .ok (.free (current ++ [name])) else .error .notFound

/-- Where a path with given components leads. -/
def resolveAs (storage : Storage) (path : String) (names : List String) :
    Except FileError Target :=
  if path = "" then .error .notFound
  else if path.toList.contains (Char.ofNat 0) then .error .nulByte
  else if 4096 ≤ path.utf8ByteSize then .error .nameTooLong
  else
    let start := if path.toList.head? = some '/' then [] else storage.workingDirectory
    storage.walk start .directory names

def resolve (storage : Storage) (path : String) : Except FileError Target :=
  storage.resolveAs path (components path)

/-- The components that are walked to write to a path. A name behind which only slashes stand is not
looked up, because no directory can be written to: the one around it stands for it. -/
def writtenComponents (path : String) : List String :=
  let names := components path
  match names.reverse.dropWhile (· = "") with
  | name :: before =>
      if names.getLast? = some "" ∧ name ≠ "." ∧ name ≠ ".." then before.reverse ++ ["."]
      else names
  | [] => names

def isDirectory (storage : Storage) (path : String) : Bool :=
  match storage.resolve path with
  | .ok (.existing _ .directory) => true
  | _ => false

def read (storage : Storage) (path : String) : Except FileError (List UInt8) :=
  match storage.resolve path with
  | .ok (.existing _ .directory) => .error .isADirectory
  | .ok (.existing _ (.file content)) => .ok content
  | .ok (.existing _ .sink) => .ok []
  | .ok (.free _) => .error .notFound
  | .error e => .error e

/-- Replaces the content of a file, or makes the file. -/
def write (storage : Storage) (path : String) (content : List UInt8) :
    Except FileError Storage :=
  match storage.resolveAs path (writtenComponents path) with
  | .ok (.existing _ .directory) => .error .isADirectory
  | .ok (.existing _ .sink) => .ok storage
  | .ok (.existing place (.file _)) =>
      .ok { storage with
        nodes := storage.nodes.map fun entry =>
          if entry.1 = place then (place, .file content) else entry }
  | .ok (.free place) => .ok { storage with nodes := storage.nodes ++ [(place, .file content)] }
  | .error e => .error e

/-- Makes a directory at every place along a path that has no node yet. -/
def makeDirectories (storage : Storage) (path : String) : Storage :=
  let start := if path.toList.head? = some '/' then [] else storage.workingDirectory
  ((components path).foldl
    (fun (storage, current) name =>
      if name = "" ∨ name = "." then (storage, current)
      else if name = ".." then (storage, current.dropLast)
      else
        let current := current ++ [name]
        match storage.node? current with
        | some _ => (storage, current)
        | none => ({ storage with nodes := storage.nodes ++ [(current, .directory)] }, current))
    (storage, start)).1

/-- The files of a tree by their paths from the working directory, with their content. -/
def files (storage : Storage) : List (String × List UInt8) :=
  storage.nodes.filterMap fun
    | (path, .file content) =>
        let directory := storage.workingDirectory
        if directory.isPrefixOf path then
          some ("/".intercalate (path.drop directory.length), content)
        else some ("/" ++ "/".intercalate path, content)
    | _ => none

/-- A name inside a directory; an absolute name stands for itself. -/
def join (directory name : String) : String :=
  if name.toList.head? = some '/' then name
  else if directory = "" then name
  else if directory.toList.getLast? = some '/' then directory ++ name
  else directory ++ "/" ++ name

end Storage

end Tether
