import Tether.Device.Simulated

/-!
# The registry of drivers

Drivers are registered by name, each name once, and looked up when a camera is made from the name in
a configuration. Names are listed in their order as texts.
-/

namespace Tether

/-- A driver together with the memory of one camera, and the files that the camera stores. -/
structure Device where
  δ : Type
  driver : Driver δ
  memory : δ
  files : δ → Storage

/-- Registered things by name, in strictly increasing order of the names. -/
structure Registry (α : Type 1) where
  entries : List (String × α)

/-- Why the registry refuses. -/
inductive RegistryError where
  | alreadyRegistered (name : String)
  | notFound (name : String)
deriving DecidableEq, Repr

def RegistryError.message : RegistryError → String
  | .alreadyRegistered name => "Device driver '" ++ name ++ "' is already registered"
  | .notFound name => "Device driver not found: " ++ name

namespace Registry

variable {α : Type 1}

def empty : Registry α := ⟨[]⟩

/-- What is registered under a name. -/
def get? (registry : Registry α) (name : String) : Option α :=
  registry.entries.lookup name

def contains (registry : Registry α) (name : String) : Bool :=
  (registry.get? name).isSome

/-- Puts an entry at its place in the order of the names. -/
def place (name : String) (item : α) : List (String × α) → List (String × α)
  | [] => [(name, item)]
  | (other, old) :: rest =>
      if other < name then (other, old) :: place name item rest
      else (name, item) :: (other, old) :: rest

def register (registry : Registry α) (name : String) (item : α) :
    Except RegistryError (Registry α) :=
  if registry.contains name then .error (.alreadyRegistered name)
  else .ok ⟨place name item registry.entries⟩

/-- What is registered under a name, which must be known. -/
def create (registry : Registry α) (name : String) : Except RegistryError α :=
  match registry.get? name with
  | some item => .ok item
  | none => .error (.notFound name)

/-- The registered names in their order. -/
def names (registry : Registry α) : List String :=
  registry.entries.map (·.1)

end Registry

/-- A simulated camera that is never late. -/
def Device.simulation (storage : Storage) (bulbMicroseconds : Nat) : Device where
  δ := Simulated
  driver := Simulated.driver fun _ => 0
  memory := .new storage bulbMicroseconds
  files := Simulated.storage

/-- The bulb exposure of a new simulated camera, in microseconds. -/
def Device.defaultBulb : Nat := 1000000

/-- The registry of all drivers that come with the program. -/
def Registry.builtin (storage : Storage) : Registry Device :=
  ⟨[(Simulated.driverName, Device.simulation storage Device.defaultBulb)]⟩

end Tether
