/-!
# Workers

A worker runs one body on a thread of its own, once: it is idle until it is started, runs until it
is stopped, and never runs again. Stopping clears the flag that the body watches and calls a hook
that wakes a blocked body.
-/

namespace Tether

inductive Lifecycle where
  | idle
  | running
  | stopped
deriving DecidableEq, Repr, Inhabited

namespace Lifecycle

/-- Starting has an effect once. -/
def start : Lifecycle → Lifecycle
  | .idle => .running
  | other => other

/-- Stopping is final. -/
def stop : Lifecycle → Lifecycle
  | _ => .stopped

end Lifecycle

/-- A worker, with how many bodies it has started and how often its hook was called. -/
structure Worker where
  name : String
  lifecycle : Lifecycle
  spawned : Nat
  unblocked : Nat
deriving DecidableEq, Repr

namespace Worker

def new (name : String) : Worker :=
  ⟨name, .idle, 0, 0⟩

instance : Inhabited Worker := ⟨new ""⟩

/-- Whether the body has been started and not been stopped. -/
def isRunning (worker : Worker) : Bool :=
  worker.lifecycle == .running

/-- Starts the body of an idle worker; any other worker stays as it is. -/
def start (worker : Worker) : Worker :=
  match worker.lifecycle with
  | .idle => { worker with lifecycle := .running, spawned := worker.spawned + 1 }
  | _ => worker

/-- Ends the worker. Only a running body is woken. -/
def stop (worker : Worker) : Worker :=
  match worker.lifecycle with
  | .idle => { worker with lifecycle := .stopped }
  | .running => { worker with lifecycle := .stopped, unblocked := worker.unblocked + 1 }
  | .stopped => worker

/-- The name of the thread of the body, once there is one. -/
def thread? (worker : Worker) : Option String :=
  if worker.spawned = 0 then none else some worker.name

end Worker

end Tether
