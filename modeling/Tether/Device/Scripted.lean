import Tether.Device.Basic

/-!
# Cameras that fail on demand

A script says which calls fail, and how. Every call is logged; one that fails by the script does not
reach the camera behind it. Closing a session cannot fail.
-/

namespace Tether

/-- The faults of calls by the names of the calls. -/
structure FaultScript where
  /-- The outcomes of the next calls; a call without a fault succeeds. -/
  queued : List (String × List (Option Fault))
  /-- The faults of all later calls. -/
  always : List (String × Fault)

namespace FaultScript

/-- The script without faults. -/
def none : FaultScript := ⟨[], []⟩

/-- The outcome of the next call of a name, and the script after it. -/
def next (script : FaultScript) (call : String) : Option Fault × FaultScript :=
  match script.queued.lookup call with
  | some (outcome :: rest) =>
      (outcome,
        { script with
          queued := script.queued.map fun entry => if entry.1 = call then (call, rest) else entry })
  | _ => (script.always.lookup call, script)

end FaultScript

/-- A camera behind a script, and the calls so far, the last one first. -/
structure Scripted (δ : Type) where
  camera : δ
  script : FaultScript
  calls : List Call

namespace Scripted

variable {δ : Type}

/-- A camera behind a script, without calls so far. -/
def new (camera : δ) (script : FaultScript) : Scripted δ :=
  ⟨camera, script, []⟩

/-- The lines of the log of calls in their order. -/
def log (scripted : Scripted δ) : List String :=
  scripted.calls.reverse.map Call.display

def clearLog (scripted : Scripted δ) : Scripted δ :=
  { scripted with calls := [] }

/-- Passes a call on to the camera. -/
def forward (driver : Driver δ) (call : Call) (scripted : Scripted δ) :
    Except Fault call.Reply × Scripted δ :=
  let (reply, camera) := driver.perform call scripted.camera
  (reply, { scripted with camera := camera })

def driver (inner : Driver δ) : Driver (Scripted δ) where
  name _ := "scripted"
  isConnected scripted := inner.isConnected scripted.camera
  perform call scripted :=
    let scripted := { scripted with calls := call :: scripted.calls }
    if call = .disconnect then forward inner call scripted
    else
      match scripted.script.next call.name with
      | (some fault, script) => (.error fault, { scripted with script := script })
      | (none, script) => forward inner call { scripted with script := script }

end Scripted

end Tether
