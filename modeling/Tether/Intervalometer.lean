import Tether.Statechart.Basic

/-!
# The intervalometer

A sequence of captures. Each capture starts a deadline of one interval. When the camera reports the
capture done, the machine waits out the rest of the interval, or captures again at once if the
deadline is already over. Without a positive interval captures follow back to back, and without a
positive total they go on until the mode is stopped.

A camera error parks the sequence. It goes on where it was once the camera is connected again, or
with the next capture if the deadline passed meanwhile.
-/

namespace Tether

namespace Intervalometer

inductive State where
  | super
  | ready
  | running
  | capturing
  | waiting
  | error
deriving DecidableEq, Repr

def State.name : State → String
  | .super => "Super"
  | .ready => "Ready"
  | .running => "Running"
  | .capturing => "Capturing"
  | .waiting => "Waiting"
  | .error => "Error"

/-- The status that observers see of a state. -/
def State.label : State → String
  | .super | .ready => "ready"
  | .running | .capturing => "capturing"
  | .waiting => "waiting"
  | .error => "error"

def topics : List Topic := [.modeFsm, .remoteCmd, .cameraEvent]

/-- The topics that the machine speaks on. -/
def spokenTopics : List Topic := [.modeState, .modeController, .modeFsm, .cameraCmd]

structure Memory where
  /-- The time from one capture to the next, in milliseconds. -/
  interval : Int32
  /-- How many captures make a sequence. -/
  total : Int32
  /-- How many captures of the sequence are done. -/
  captures : Int32
  /-- Whether the interval of the last capture is over. -/
  expired : Bool
  /-- The timer of the interval of the last capture. -/
  deadline : Option Nat
  /-- The state to go back to after a camera error. -/
  resume : State
  /-- The state that observers have been told about. -/
  status : State
deriving DecidableEq

def Memory.new : Memory :=
  ⟨0, 0, 0, false, none, .capturing, .ready⟩

instance : Inhabited Memory := ⟨Memory.new⟩

/-- The progress report for observers. -/
def Memory.report (memory : Memory) : Event :=
  .intervalometerState memory.status.label memory.interval memory.captures memory.total

def Memory.isComplete (memory : Memory) : Bool :=
  decide (0 < memory.total ∧ memory.total ≤ memory.captures)

/-- Whether the next capture may follow at once. -/
def Memory.isDue (memory : Memory) : Bool :=
  decide (memory.interval ≤ 0) || memory.expired

def update (scope : Scope State Memory) (change : Memory → Memory) : Scope State Memory :=
  scope.setMemory (change scope.memory)

def report (scope : Scope State Memory) : Scope State Memory :=
  scope.post scope.memory.report .modeState

/-- Notes a new state and reports it. -/
def enterLeaf (scope : Scope State Memory) (state : State) : Scope State Memory :=
  report (update scope fun memory => { memory with status := state })

def cancelDeadline (scope : Scope State Memory) : Scope State Memory :=
  (update scope fun memory => { memory with deadline := none }).cancel? scope.memory.deadline

/-- Forgets the deadline that was set last, which has fired. -/
def forgetDeadline (scope : Scope State Memory) : Scope State Memory :=
  update scope fun memory => { memory with deadline := none }

/-- Notes that the interval is over. -/
def noteExpiry (scope : Scope State Memory) : Scope State Memory :=
  update (forgetDeadline scope) fun memory => { memory with expired := true }

/-- Sets the deadline of a capture if there is an interval. -/
def setDeadline (scope : Scope State Memory) : Scope State Memory :=
  if 0 < scope.memory.interval then
    let (scope, id) :=
      scope.schedule .intervalometerDeadline .modeFsm scope.memory.interval.toInt.toNat
    update scope fun memory => { memory with deadline := some id }
  else scope

/-- Begins a capture: reports it, drops the old deadline, asks the camera and sets a deadline. -/
def beginCapture (scope : Scope State Memory) : Scope State Memory :=
  let scope := enterLeaf scope .capturing
  let scope := update scope fun memory => { memory with expired := false }
  let scope := (cancelDeadline scope).post .capture .cameraCmd
  setDeadline scope

/-- The state after a capture was counted. -/
def afterCapture (memory : Memory) : State :=
  if memory.isComplete then .ready
  else if memory.isDue then .capturing
  else .waiting

/-- Parks the sequence, to go back to a state later. -/
def park (scope : Scope State Memory) (resume : State) : Scope State Memory × Reaction State :=
  (update scope fun memory => { memory with resume := resume }, .transition .error)

/-- The state around all others. -/
def super (scope : Scope State Memory) : Signal → Scope State Memory × Reaction State
  | .entry => (scope, .handled)
  | .exit => (scope, .handled)
  | .init => (scope, .transition .ready)
  | .event .getMode => (report scope, .handled)
  | .event _ => (scope, .delegate)

def ready (scope : Scope State Memory) : Signal → Scope State Memory × Reaction State
  | .entry => (enterLeaf scope .ready, .handled)
  | .exit => (scope, .handled)
  | .init => (scope, .handled)
  | .event (.intervalometerStart interval total) =>
      (update scope fun memory =>
        { memory with interval := interval, total := total, captures := 0 },
        .transition .capturing)
  | .event _ => (scope, .delegate)

def running (scope : Scope State Memory) : Signal → Scope State Memory × Reaction State
  | .entry => (scope, .handled)
  -- Whatever ends a sequence leaves this state, so this is the only report of its end.
  | .exit => ((cancelDeadline scope).post .modeStopped .modeController, .handled)
  | .init => (scope, .transition .capturing)
  | .event .stopMode => (scope, .transition .ready)
  | .event _ => (scope, .delegate)

/-- The camera is busy with a capture of the sequence. -/
def capturing (scope : Scope State Memory) : Signal → Scope State Memory × Reaction State
  | .entry => (beginCapture scope, .handled)
  | .exit => (scope, .handled)
  | .init => (scope, .handled)
  | .event .intervalometerDeadline => (noteExpiry scope, .handled)
  | .event (.captureDone ..) =>
      let scope := update scope fun memory => { memory with captures := memory.captures + 1 }
      (scope, .transition (afterCapture scope.memory))
  | .event .cameraError => park scope .capturing
  | .event _ => (scope, .delegate)

/-- The rest of the interval passes. -/
def waiting (scope : Scope State Memory) : Signal → Scope State Memory × Reaction State
  | .entry => (enterLeaf scope .waiting, .handled)
  | .exit => (scope, .handled)
  | .init => (scope, .handled)
  | .event .intervalometerDeadline => (forgetDeadline scope, .transition .capturing)
  | .event .cameraError => park scope .waiting
  | .event _ => (scope, .delegate)

/-- The camera is in trouble. -/
def error (scope : Scope State Memory) : Signal → Scope State Memory × Reaction State
  | .entry => (enterLeaf scope .error, .handled)
  | .exit => (scope, .handled)
  | .init => (scope, .handled)
  | .event .intervalometerDeadline => (noteExpiry scope, .handled)
  | .event .cameraConnected =>
      (scope, .transition (if scope.memory.expired then .capturing else scope.memory.resume))
  | .event _ => (scope, .delegate)

section Becomes

variable (scope : Scope State Memory)

theorem update_becomes (change : Memory → Memory) :
    scope.BecomesOn spokenTopics (update scope change) :=
  (Scope.BecomesOn.refl scope).setMemory _

theorem enterLeaf_becomes (state : State) : scope.BecomesOn spokenTopics (enterLeaf scope state) :=
  (update_becomes scope _).post _ (by decide)

theorem cancelDeadline_becomes : scope.BecomesOn spokenTopics (cancelDeadline scope) :=
  (update_becomes scope _).cancel? _

theorem noteExpiry_becomes : scope.BecomesOn spokenTopics (noteExpiry scope) :=
  (update_becomes scope _).trans (update_becomes _ _)

theorem setDeadline_becomes : scope.BecomesOn spokenTopics (setDeadline scope) := by
  unfold setDeadline
  split
  · exact ((Scope.BecomesOn.refl scope).schedule _ (by decide) _).trans (update_becomes _ _)
  · exact .refl scope

theorem beginCapture_becomes : scope.BecomesOn spokenTopics (beginCapture scope) :=
  ((((enterLeaf_becomes scope .capturing).trans (update_becomes _ _)).trans
    (cancelDeadline_becomes _)).post _ (by decide)).trans (setDeadline_becomes _)

theorem super_becomes (signal : Signal) : scope.BecomesOn spokenTopics (super scope signal).1 := by
  unfold super
  split
  · exact .refl scope
  · exact .refl scope
  · exact .refl scope
  · exact (Scope.BecomesOn.refl scope).post _ (by decide)
  · exact .refl scope

theorem ready_becomes (signal : Signal) : scope.BecomesOn spokenTopics (ready scope signal).1 := by
  unfold ready
  split
  · exact enterLeaf_becomes scope .ready
  · exact .refl scope
  · exact .refl scope
  · exact (Scope.BecomesOn.refl scope).setMemory _
  · exact .refl scope

theorem running_becomes (signal : Signal) :
    scope.BecomesOn spokenTopics (running scope signal).1 := by
  unfold running
  split
  · exact .refl scope
  · exact (cancelDeadline_becomes scope).post _ (by decide)
  · exact .refl scope
  · exact .refl scope
  · exact .refl scope

theorem capturing_becomes (signal : Signal) :
    scope.BecomesOn spokenTopics (capturing scope signal).1 := by
  unfold capturing
  split
  · exact beginCapture_becomes scope
  · exact .refl scope
  · exact .refl scope
  · exact noteExpiry_becomes scope
  · exact (Scope.BecomesOn.refl scope).setMemory _
  · exact (Scope.BecomesOn.refl scope).setMemory _
  · exact .refl scope

theorem waiting_becomes (signal : Signal) :
    scope.BecomesOn spokenTopics (waiting scope signal).1 := by
  unfold waiting
  split
  · exact enterLeaf_becomes scope .waiting
  · exact .refl scope
  · exact .refl scope
  · exact (Scope.BecomesOn.refl scope).setMemory _
  · exact (Scope.BecomesOn.refl scope).setMemory _
  · exact .refl scope

theorem error_becomes (signal : Signal) : scope.BecomesOn spokenTopics (error scope signal).1 := by
  unfold error
  split
  · exact enterLeaf_becomes scope .error
  · exact .refl scope
  · exact .refl scope
  · exact noteExpiry_becomes scope
  · exact .refl scope
  · exact .refl scope

end Becomes

def chart : Chart State Memory where
  name := "intervalometer"
  states := [.super, .ready, .running, .capturing, .waiting, .error]
  initial := .super
  parent
    | .super => none
    | .ready | .running => some .super
    | .capturing | .waiting | .error => some .running
  handle state signal scope :=
    match state with
    | .super => super scope signal
    | .ready => ready scope signal
    | .running => running scope signal
    | .capturing => capturing scope signal
    | .waiting => waiting scope signal
    | .error => error scope signal
  handle_becomes
    | .super, signal, scope => (super_becomes scope signal).becomes
    | .ready, signal, scope => (ready_becomes scope signal).becomes
    | .running, signal, scope => (running_becomes scope signal).becomes
    | .capturing, signal, scope => (capturing_becomes scope signal).becomes
    | .waiting, signal, scope => (waiting_becomes scope signal).becomes
    | .error, signal, scope => (error_becomes scope signal).becomes

end Intervalometer

end Tether
