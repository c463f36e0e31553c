import Tether.Statechart.Basic

/-!
# The mode controller

The controller starts in manual mode. A request for the intervalometer starts it and hands control
over until it reports that it has stopped. Meanwhile the controller keeps the heartbeat going: each
heartbeat that arrives arms the next one.
-/

namespace Tether

namespace Mode

inductive State where
  | super
  | selection
  | running
deriving DecidableEq, Repr

def State.name : State → String
  | .super => "Super"
  | .selection => "ModeSelection"
  | .running => "Running"

def topics : List Topic := [.remoteCmd, .modeController, .heartbeat]

/-- The topics that the machine speaks on. -/
def spokenTopics : List Topic := [.modeState, .modeFsm, .heartbeat]

/-- Who decides when a picture is taken. -/
inductive Control where
  | manual
  | intervalometer
deriving DecidableEq, Repr

def Control.name : Control → String
  | .manual => "Manual"
  | .intervalometer => "Intervalometer"

/-- The memory of the mode controller: the time between heartbeats in milliseconds, and the mode. -/
structure Memory where
  heartbeat : Nat
  control : Control

def Memory.new (heartbeat : Nat) : Memory :=
  ⟨heartbeat, .manual⟩

def armHeartbeat (scope : Scope State Memory) : Scope State Memory :=
  (scope.schedule .heartbeat .heartbeat scope.memory.heartbeat).1

def announce (scope : Scope State Memory) : Scope State Memory :=
  scope.post (.modeValue scope.memory.control.name) .modeState

/-- Changes the mode and tells observers. -/
def setControl (scope : Scope State Memory) (control : Control) : Scope State Memory :=
  announce (scope.setMemory { scope.memory with control := control })

/-- The state around all others. -/
def super (scope : Scope State Memory) : Signal → Scope State Memory × Reaction State
  | .entry => (armHeartbeat scope, .handled)
  | .exit => (scope, .handled)
  | .init => (scope, .transition .selection)
  | .event .heartbeat => (armHeartbeat scope, .handled)
  | .event .getMode => (announce scope, .handled)
  | .event _ => (scope, .delegate)

/-- Manual mode. -/
def selection (scope : Scope State Memory) : Signal → Scope State Memory × Reaction State
  | .entry => (setControl scope .manual, .handled)
  | .exit => (scope, .handled)
  | .init => (scope, .handled)
  | .event (.runIntervalometer interval total) =>
      ((setControl scope .intervalometer).post (.intervalometerStart interval total) .modeFsm,
        .transition .running)
  | .event _ => (scope, .delegate)

/-- The intervalometer has control. -/
def running (scope : Scope State Memory) : Signal → Scope State Memory × Reaction State
  | .entry => (scope, .handled)
  | .exit => (scope, .handled)
  | .init => (scope, .handled)
  | .event .modeStopped => (scope, .transition .selection)
  | .event _ => (scope, .delegate)

theorem setControl_becomes (scope : Scope State Memory) (control : Control) :
    scope.BecomesOn spokenTopics (setControl scope control) :=
  ((Scope.BecomesOn.refl scope).setMemory _).post _ (by decide)

theorem super_becomes (scope : Scope State Memory) (signal : Signal) :
    scope.BecomesOn spokenTopics (super scope signal).1 := by
  unfold super
  split
  · exact (Scope.BecomesOn.refl scope).schedule _ (by decide) _
  · exact .refl scope
  · exact .refl scope
  · exact (Scope.BecomesOn.refl scope).schedule _ (by decide) _
  · exact (Scope.BecomesOn.refl scope).post _ (by decide)
  · exact .refl scope

theorem selection_becomes (scope : Scope State Memory) (signal : Signal) :
    scope.BecomesOn spokenTopics (selection scope signal).1 := by
  unfold selection
  split
  · exact setControl_becomes scope .manual
  · exact .refl scope
  · exact .refl scope
  · exact (setControl_becomes scope .intervalometer).post _ (by decide)
  · exact .refl scope

theorem running_becomes (scope : Scope State Memory) (signal : Signal) :
    scope.BecomesOn spokenTopics (running scope signal).1 := by
  unfold running
  split <;> exact .refl scope

def chart : Chart State Memory where
  name := "mode"
  states := [.super, .selection, .running]
  initial := .super
  parent
    | .super => none
    | .selection | .running => some .super
  handle state signal scope :=
    match state with
    | .super => super scope signal
    | .selection => selection scope signal
    | .running => running scope signal
  handle_becomes
    | .super, signal, scope => (super_becomes scope signal).becomes
    | .selection, signal, scope => (selection_becomes scope signal).becomes
    | .running, signal, scope => (running_becomes scope signal).becomes

end Mode

end Tether
