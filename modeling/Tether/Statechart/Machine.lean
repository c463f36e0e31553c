import Tether.Statechart.Walk

/-!
# Machines

A machine is a chart at work: its current state, its memory and the events it holds back. It takes
one event at a time and is at rest in between.
-/

namespace Tether

/-- A chart at work. -/
structure Machine (S M : Type) where
  /-- The innermost current state. -/
  leaf : S
  started : Bool
  memory : M
  held : HeldEvents
  replay : Bool

/-- What a dispatch leaves behind: the machine, the timers, and the journal of the dispatch. -/
structure Turn (S M : Type) where
  machine : Machine S M
  timers : Timers
  journal : List (Effect S)

namespace Machine

variable {S M : Type}

/-- What handlers see of a machine. -/
def scope (machine : Machine S M) (timers : Timers) (now : Nat) : Scope S M :=
  ⟨machine.memory, machine.held, machine.replay, timers, now, []⟩

/-- The turn that ends in a state with a scope. -/
def turn (run : S × Scope S M) : Turn S M :=
  ⟨⟨run.1, true, run.2.memory, run.2.held, run.2.replay⟩, run.2.timers, run.2.journal⟩

end Machine

namespace Chart

variable {S M : Type}

def machine (chart : Chart S M) (memory : M) : Machine S M :=
  ⟨chart.initial, false, memory, .empty, false⟩

/-- Whether the current state of a machine is a state or lies inside it. -/
def isIn [DecidableEq S] (chart : Chart S M) (machine : Machine S M) (state : S) : Bool :=
  decide (state ∈ chart.chain machine.leaf)

/-- The states that a machine is in, in the order of the list of states. -/
def activeStates [DecidableEq S] (chart : Chart S M) (machine : Machine S M) : List S :=
  chart.states.filter (chart.isIn machine)

/-! Held events are dispatched again as often as that is asked for, and nothing bounds how often a
handler asks. The machine goes on for a number of rounds that is left open here; a dispatch that
comes to an end is carried out to its end if that number is large enough. -/

/-- The state and scope of a machine after its start. Only the first start has an effect. -/
def startRun [DecidableEq S] (chart : Chart S M) (machine : Machine S M) (timers : Timers)
    (now : Nat) (rounds : Nat := Limits.replayRounds) : S × Scope S M :=
  if machine.started then (machine.leaf, machine.scope timers now)
  else chart.replayHeld rounds (chart.enter (machine.scope timers now))

/-- Starts a machine: enters the initial state. -/
def start [DecidableEq S] (chart : Chart S M) (machine : Machine S M) (timers : Timers)
    (now : Nat) (rounds : Nat := Limits.replayRounds) : Turn S M :=
  Machine.turn (chart.startRun machine timers now rounds)

/-- Dispatches an event to a machine, which is started first if needed, and the held events as often
as that is asked for. -/
def dispatch [DecidableEq S] (chart : Chart S M) (machine : Machine S M) (event : Event)
    (timers : Timers) (now : Nat) (rounds : Nat := Limits.replayRounds) : Turn S M :=
  Machine.turn
    (chart.replayHeld rounds (chart.process (chart.startRun machine timers now rounds) event))

end Chart

/-- What a machine is told to do. -/
inductive Order where
  | start
  | dispatch (event : Event)
deriving DecidableEq

/-- The turn of a machine that follows an order. -/
def Chart.obey {S M : Type} [DecidableEq S] (chart : Chart S M) (machine : Machine S M)
    (timers : Timers) (now : Nat) (order : Order) (rounds : Nat := Limits.replayRounds) :
    Turn S M :=
  match order with
  | .start => chart.start machine timers now rounds
  | .dispatch event => chart.dispatch machine event timers now rounds

end Tether
