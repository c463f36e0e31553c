import Tether.Statechart.Basic

/-!
# The gate before the camera

The gate passes everything that remote clients send on to the camera controller. While it is closed
it holds events back, and forwards them in the order of their arrival once it is open again. The
commands that open and close it are never forwarded.
-/

namespace Tether

namespace Gate

inductive State where
  | enabled
  | disabled
deriving DecidableEq, Repr

def State.name : State → String
  | .enabled => "Enabled"
  | .disabled => "Disabled"

def topics : List Topic := [.remoteCmd]

/-- The topics that the machine speaks on. -/
def spokenTopics : List Topic := [.cameraCmd]

/-- The gate remembers nothing beyond the events that it holds back. -/
abbrev Memory : Type := Unit

def enabled (scope : Scope State Memory) : Signal → Scope State Memory × Reaction State
  | .entry => (scope.requestReplay, .handled)
  | .exit => (scope, .handled)
  | .init => (scope, .handled)
  | .event .disableGate => (scope, .transition .disabled)
  | .event .enableGate => (scope, .handled)
  | .event event => (scope.post event .cameraCmd, .handled)

def disabled (scope : Scope State Memory) : Signal → Scope State Memory × Reaction State
  | .entry => (scope, .handled)
  | .exit => (scope, .handled)
  | .init => (scope, .handled)
  | .event .enableGate => (scope, .transition .enabled)
  | .event .disableGate => (scope, .handled)
  | .event event => (scope.defer event, .handled)

theorem enabled_becomes (scope : Scope State Memory) (signal : Signal) :
    scope.BecomesOn spokenTopics (enabled scope signal).1 := by
  unfold enabled
  split
  · exact (Scope.BecomesOn.refl scope).requestReplay
  · exact .refl scope
  · exact .refl scope
  · exact .refl scope
  · exact .refl scope
  · exact (Scope.BecomesOn.refl scope).post _ (by decide)

theorem disabled_becomes (scope : Scope State Memory) (signal : Signal) :
    scope.BecomesOn spokenTopics (disabled scope signal).1 := by
  unfold disabled
  split
  · exact .refl scope
  · exact .refl scope
  · exact .refl scope
  · exact .refl scope
  · exact .refl scope
  · exact (Scope.BecomesOn.refl scope).defer _

def chart : Chart State Memory where
  name := "pass-through"
  states := [.enabled, .disabled]
  initial := .enabled
  parent _ := none
  handle state signal scope :=
    match state with
    | .enabled => enabled scope signal
    | .disabled => disabled scope signal
  handle_becomes
    | .enabled, signal, scope => (enabled_becomes scope signal).becomes
    | .disabled, signal, scope => (disabled_becomes scope signal).becomes

end Gate

end Tether
