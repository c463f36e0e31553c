import Tether.Statechart.Basic

/-!
# Machines given by tables

A table lists the states of a machine, and for each state which acts and which reaction follow a
signal. A rule can hold several responses: they are used one after the other, each time the rule is
used, and the last one stays. The machine writes a trace of what its states are asked.
-/

namespace Tether

namespace Table

/-- The left side of a rule. -/
inductive Key where
  | entry
  | exit
  | init
  /-- The event of a number. -/
  | event (id : Nat)
  /-- Every event without a rule of its own. -/
  | anyEvent
deriving DecidableEq, Repr

/-- One act of a response. -/
inductive Act where
  /-- Hold back the event at hand. -/
  | defer
  /-- Dispatch the events held back again. -/
  | replay
  /-- Cancel the timer that was set last and not cancelled yet. -/
  | cancel
  | post (event : Event) (topic : Topic)
  | postSelf (event : Event)
  | delay (event : Event) (topic : Topic) (delay : Nat)

/-- What a state does with a signal: some acts, then a transition if there is a target, else a
delegation if asked for. -/
structure Response where
  acts : List Act
  target : Option String
  delegates : Bool

/-- A state with its rules. -/
structure Row where
  name : String
  parent : Option String
  rules : List (Key × List Response)

structure Memory where
  /-- How often each rule of each state has been used. -/
  uses : List ((String × Key) × Nat)
  /-- The timers that have been set and not been cancelled, the last one first. -/
  timers : List Nat
  /-- The lines of the trace, the last one first. -/
  trace : List String

def Memory.new : Memory := ⟨[], [], []⟩

/-- The lines of the trace in the order in which they were written. -/
def Memory.lines (memory : Memory) : List String :=
  memory.trace.reverse

def Memory.clearTrace (memory : Memory) : Memory :=
  { memory with trace := [] }

def note (scope : Scope String Memory) (line : String) : Scope String Memory :=
  scope.setMemory { scope.memory with trace := line :: scope.memory.trace }

def keyOf : Signal → Key
  | .entry => .entry
  | .exit => .exit
  | .init => .init
  | .event event => .event event.id

def Key.text : Key → String
  | .entry => "entry"
  | .exit => "exit"
  | .init => "init"
  | .event id => toString id
  | .anyEvent => "*"

/-- The rule of a state for a signal: its own, or for an event the one for all events. -/
def Row.rule? (row : Row) (signal : Signal) : Option (Key × List Response) :=
  let own := row.rules.find? fun rule => rule.1 = keyOf signal
  match own, signal with
  | some rule, _ => some rule
  | none, .event _ => row.rules.find? fun rule => rule.1 = .anyEvent
  | none, _ => none

/-- Counts a use of a rule; the result is how often it was used before. -/
def countUse (scope : Scope String Memory) (place : String × Key) :
    Nat × Scope String Memory :=
  let before := (scope.memory.uses.lookup place).getD 0
  let others := scope.memory.uses.filter fun entry => decide (entry.1 ≠ place)
  (before, scope.setMemory { scope.memory with uses := (place, before + 1) :: others })

def act (signal : Signal) (scope : Scope String Memory) : Act → Scope String Memory
  | .defer =>
      match signal with
      | .event event => scope.defer event
      | _ => scope
  | .replay => scope.requestReplay
  | .cancel =>
      match scope.memory.timers with
      | [] => scope
      | id :: rest =>
          let pending := scope.timers.isPending id
          let scope := (scope.setMemory { scope.memory with timers := rest }).cancel id
          note scope ("cancelled " ++ toString id ++ " " ++ toString pending)
  | .post event topic => scope.post event topic
  | .postSelf event => scope.postSelf event
  | .delay event topic delay =>
      let (scope, id) := scope.schedule event topic delay
      scope.setMemory { scope.memory with timers := id :: scope.memory.timers }

def Response.reaction (response : Response) : Reaction String :=
  match response.target with
  | some target => .transition target
  | none => if response.delegates then .delegate else .handled

def respond (signal : Signal) (scope : Scope String Memory) (response : Response) :
    Scope String Memory × Reaction String :=
  let scope := response.acts.foldl (act signal) scope
  let scope :=
    if response.acts.isEmpty then scope
    else note scope ("deferred " ++ toString scope.held.length)
  (scope, response.reaction)

def handle (rows : List Row) (state : String) (signal : Signal) (scope : Scope String Memory) :
    Scope String Memory × Reaction String :=
  let scope := note scope (state ++ ":" ++ (keyOf signal).text)
  let row := rows.find? fun row => row.name = state
  match row.bind fun row => row.rule? signal with
  | none => (scope, .delegate)
  | some (key, responses) =>
      let (used, scope) := countUse scope (state, key)
      match responses[min used (responses.length - 1)]? with
      | some response => respond signal scope response
      | none => (scope, .delegate)

section Becomes

variable (scope : Scope String Memory)

theorem note_becomes (line : String) : scope.Becomes (note scope line) :=
  scope.becomes_act (.setMemory _)

theorem countUse_becomes (place : String × Key) : scope.Becomes (countUse scope place).2 :=
  scope.becomes_act (.setMemory _)

theorem act_becomes (signal : Signal) (act : Act) : scope.Becomes (Table.act signal scope act) := by
  cases act with
  | defer =>
    cases signal with
    | event event => exact scope.becomes_act (.defer event)
    | entry => exact .refl scope
    | exit => exact .refl scope
    | init => exact .refl scope
  | replay => exact scope.becomes_act .requestReplay
  | cancel =>
    simp only [Table.act]
    split
    · exact .refl scope
    · exact ((scope.becomes_act (.setMemory _)).act (.cancel _)).trans (note_becomes _ _)
  | post event topic => exact scope.becomes_act (.post event topic)
  | postSelf event => exact scope.becomes_act (.postSelf event)
  | delay event topic delay =>
    exact (scope.becomes_act (.schedule event topic delay)).act (.setMemory _)

theorem acts_becomes (signal : Signal) (acts : List Act) (scope : Scope String Memory) :
    scope.Becomes (acts.foldl (Table.act signal) scope) := by
  induction acts generalizing scope with
  | nil => exact .refl scope
  | cons act rest ih => exact (act_becomes scope signal act).trans (ih _)

theorem respond_becomes (signal : Signal) (response : Response) :
    scope.Becomes (respond signal scope response).1 := by
  have acted := acts_becomes signal response.acts scope
  unfold respond
  dsimp only
  split
  · exact acted
  · exact acted.trans (note_becomes _ _)

theorem handle_becomes (rows : List Row) (state : String) (signal : Signal) :
    scope.Becomes (handle rows state signal scope).1 := by
  have noted := note_becomes scope (state ++ ":" ++ (keyOf signal).text)
  unfold handle
  dsimp only
  split
  · exact noted
  · next key _ _ =>
    have counted := noted.trans (countUse_becomes _ (state, key))
    split
    · exact counted.trans (respond_becomes _ signal _)
    · exact counted

end Becomes

def chart (rows : List Row) (initial : String) : Chart String Memory where
  name := "table"
  states := rows.map (·.name)
  initial := initial
  parent state := (rows.find? fun row => row.name = state).bind (·.parent)
  handle := handle rows
  handle_becomes state signal scope := handle_becomes scope rows state signal

end Table

end Tether
