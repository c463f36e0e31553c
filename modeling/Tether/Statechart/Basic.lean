import Tether.Device.Basic
import Tether.Event
import Tether.Limits
import Tether.Mailbox
import Tether.Timers
import Tether.Topic

/-!
# Statecharts

A statechart is a forest of states with one handler. The handler is asked about one state and one
signal at a time, and answers with a reaction. Everything else that it does goes through its scope:
the memory of the machine, the queue of events held back, the timers, and a journal of what becomes
visible outside. It works on its scope by a fixed set of actions only, and each chart carries the
proof of that.
-/

namespace Tether

/-- What a state is asked to process. -/
inductive Signal where
  | entry
  | exit
  | init
  | event (event : Event)
deriving DecidableEq

/-- The answer of a state to a signal. -/
inductive Reaction (S : Type) where
  | handled
  | transition (target : S)
  /-- Ask the parent state. -/
  | delegate
deriving DecidableEq

/-- A warning of the statechart engine. -/
inductive Warning where
  /-- A state asked for a transition while it was entered or left. -/
  | transitionIgnored (during : Signal)
  /-- A state has more ancestors than the engine follows. -/
  | hierarchyTooDeep
  /-- Initial transitions followed each other without an end. -/
  | initChainTooLong
  /-- No state handled an event. -/
  | unhandled
  /-- The queue of events held back was full. -/
  | deferredFull
  /-- The machine's own mailbox was full when it posted to itself. -/
  | mailboxFull
  /-- A machine asked for a longer delay than timers have. -/
  | delayClamped
deriving DecidableEq

def Signal.name : Signal → String
  | .entry => "Entry"
  | .exit => "Exit"
  | .init => "Init"
  | .event _ => "Event"

def Warning.message : Warning → String
  | .transitionIgnored during => "transition from " ++ during.name ++ " ignored"
  | .hierarchyTooDeep => "state hierarchy deeper than " ++ toString Limits.maxStateDepth
  | .initChainTooLong => "init chain too long"
  | .unhandled => "unhandled event dropped"
  | .deferredFull => "deferred queue full, dropping oldest"
  | .mailboxFull => "own mailbox full, oldest message dropped"
  | .delayClamped => Timers.tooLongNote

/-- One entry of the journal of a dispatch. -/
inductive Effect (S : Type) where
  /-- While `leaf` was the current state, a state was asked to process a signal. -/
  | asked (leaf state : S) (signal : Signal)
  /-- A camera was called, and replied. -/
  | called (call : Call) (reply : Except Fault call.Reply)
  /-- An event was published. -/
  | posted (event : Event) (topic : Topic)
  /-- An event was put into the machine's own mailbox. -/
  | postedSelf (event : Event)
  | warned (warning : Warning)

/-- The queue of events that a machine holds back, oldest first. -/
abbrev HeldEvents : Type := Mailbox Event Limits.deferred

/-- What a handler works on. -/
structure Scope (S M : Type) where
  memory : M
  held : HeldEvents
  /-- Whether the held events are to be dispatched again. -/
  replay : Bool
  timers : Timers
  now : Nat
  /-- What has become visible outside so far, oldest first. -/
  journal : List (Effect S)

namespace Scope

variable {S M : Type}

def record (scope : Scope S M) (effect : Effect S) : Scope S M :=
  { scope with journal := scope.journal ++ [effect] }

/-- Publishes an event. -/
def post (scope : Scope S M) (event : Event) (topic : Topic) : Scope S M :=
  scope.record (.posted event topic)

/-- Puts an event into the machine's own mailbox. -/
def postSelf (scope : Scope S M) (event : Event) : Scope S M :=
  scope.record (.postedSelf event)

/-- Notes a call to a camera. -/
def noteCall (scope : Scope S M) (call : Call) (reply : Except Fault call.Reply) : Scope S M :=
  scope.record (.called call reply)

def warn (scope : Scope S M) (warning : Warning) : Scope S M :=
  scope.record (.warned warning)

def setMemory (scope : Scope S M) (memory : M) : Scope S M :=
  { scope with memory := memory }

/-- Publishes an event after a delay in milliseconds; the result is the number of its timer. -/
def schedule (scope : Scope S M) (event : Event) (topic : Topic) (delay : Nat) :
    Scope S M × Nat :=
  let scope := if Timers.isTooLong delay then scope.warn .delayClamped else scope
  let (timers, id) := scope.timers.insert (scope.now + Timers.clampDelay delay) event topic
  ({ scope with timers := timers }, id)

/-! Setting a timer changes nothing but the timers, and the journal if the delay is too long. -/

section Schedule

variable (scope : Scope S M) (event : Event) (topic : Topic) (delay : Nat)

@[simp] theorem schedule_memory : (scope.schedule event topic delay).1.memory = scope.memory := by
  unfold schedule; split <;> rfl

@[simp] theorem schedule_held : (scope.schedule event topic delay).1.held = scope.held := by
  unfold schedule; split <;> rfl

@[simp] theorem schedule_replay : (scope.schedule event topic delay).1.replay = scope.replay := by
  unfold schedule; split <;> rfl

@[simp] theorem schedule_timers : (scope.schedule event topic delay).1.timers =
    (scope.timers.insert (scope.now + Timers.clampDelay delay) event topic).1 := by
  unfold schedule; split <;> rfl

@[simp] theorem schedule_id : (scope.schedule event topic delay).2 = scope.timers.nextId := by
  unfold schedule; split <;> rfl

theorem schedule_journal : (scope.schedule event topic delay).1.journal =
    scope.journal ++ if Timers.isTooLong delay then [.warned .delayClamped] else [] := by
  unfold schedule
  split
  · rfl
  · exact (List.append_nil _).symm

end Schedule

def cancel (scope : Scope S M) (id : Nat) : Scope S M :=
  { scope with timers := scope.timers.remove id }

/-- Cancels a timer that may not have been set. -/
def cancel? (scope : Scope S M) : Option Nat → Scope S M
  | some id => scope.cancel id
  | none => scope

/-! Cancelling a timer changes nothing but the timers. -/

section Cancel

variable (scope : Scope S M) (id? : Option Nat)

@[simp] theorem cancel?_memory : (scope.cancel? id?).memory = scope.memory := by
  cases id? <;> rfl

@[simp] theorem cancel?_held : (scope.cancel? id?).held = scope.held := by
  cases id? <;> rfl

@[simp] theorem cancel?_replay : (scope.cancel? id?).replay = scope.replay := by
  cases id? <;> rfl

@[simp] theorem cancel?_journal : (scope.cancel? id?).journal = scope.journal := by
  cases id? <;> rfl

end Cancel

/-- Holds an event back, in place of the oldest one if the queue is full. -/
def defer (scope : Scope S M) (event : Event) : Scope S M :=
  let scope := if scope.held.overwrites then scope.warn .deferredFull else scope
  { scope with held := scope.held.put event }

@[simp] theorem defer_memory (scope : Scope S M) (event : Event) :
    (scope.defer event).memory = scope.memory := by
  unfold defer; split <;> rfl

@[simp] theorem defer_replay (scope : Scope S M) (event : Event) :
    (scope.defer event).replay = scope.replay := by
  unfold defer; split <;> rfl

@[simp] theorem defer_timers (scope : Scope S M) (event : Event) :
    (scope.defer event).timers = scope.timers := by
  unfold defer; split <;> rfl

@[simp] theorem defer_held (scope : Scope S M) (event : Event) :
    (scope.defer event).held = scope.held.put event := by
  unfold defer; split <;> rfl

/-- An event is put behind the others unless the queue is found to be full. -/
theorem items_defer {scope : Scope S M} {event : Event}
    (room : .warned .deferredFull ∉ (scope.defer event).journal) :
    (scope.defer event).held.items = scope.held.items ++ [event] := by
  unfold defer at room ⊢
  split at room
  · exact absurd (List.mem_append_right _ List.mem_cons_self) room
  · next free =>
    rw [if_neg free]
    exact Mailbox.items_put_of_lt
      (Mailbox.length_lt_of_not_overwrites (by decide) (Bool.not_eq_true _ ▸ free)) event

/-- Asks for the held events to be dispatched again, if there are any. -/
def requestReplay (scope : Scope S M) : Scope S M :=
  { scope with replay := scope.replay || !scope.held.isEmpty }

end Scope

/-- What a handler can do with its scope, one thing at a time. -/
inductive Action (M : Type) where
  | setMemory (memory : M)
  | post (event : Event) (topic : Topic)
  | postSelf (event : Event)
  | noteCall (call : Call) (reply : Except Fault call.Reply)
  | schedule (event : Event) (topic : Topic) (delay : Nat)
  | cancel (id : Nat)
  | defer (event : Event)
  | requestReplay

namespace Action

variable {M : Type}

/-- The topic that an action speaks on, now or after a delay. -/
def topic? : Action M → Option Topic
  | .post _ topic => some topic
  | .schedule _ topic _ => some topic
  | _ => none

/-- Whether an action speaks on some topics only. -/
def SpeaksOn (topics : List Topic) (action : Action M) : Prop :=
  action.topic?.all topics.contains

end Action

namespace Scope

variable {S M : Type}

def act (scope : Scope S M) : Action M → Scope S M
  | .setMemory memory => scope.setMemory memory
  | .post event topic => scope.post event topic
  | .postSelf event => scope.postSelf event
  | .noteCall call reply => scope.noteCall call reply
  | .schedule event topic delay => (scope.schedule event topic delay).1
  | .cancel id => scope.cancel id
  | .defer event => scope.defer event
  | .requestReplay => scope.requestReplay

/-- Whether a scope can be made of another one by actions alone. -/
def Becomes (before after : Scope S M) : Prop :=
  ∃ actions : List (Action M), actions.foldl act before = after

theorem Becomes.refl (scope : Scope S M) : scope.Becomes scope :=
  ⟨[], rfl⟩

theorem Becomes.trans {before middle after : Scope S M} (first : before.Becomes middle)
    (second : middle.Becomes after) : before.Becomes after := by
  obtain ⟨actions, rfl⟩ := first
  obtain ⟨others, rfl⟩ := second
  exact ⟨actions ++ others, List.foldl_append⟩

theorem Becomes.act {before after : Scope S M} (first : before.Becomes after)
    (action : Action M) : before.Becomes (after.act action) :=
  first.trans ⟨[action], rfl⟩

theorem becomes_act (scope : Scope S M) (action : Action M) : scope.Becomes (scope.act action) :=
  (Becomes.refl scope).act action

/-- Whether a scope can be made of another one by actions that speak on some topics only. -/
def BecomesOn (topics : List Topic) (before after : Scope S M) : Prop :=
  ∃ actions : List (Action M),
    (∀ action ∈ actions, action.SpeaksOn topics) ∧ actions.foldl act before = after

namespace BecomesOn

variable {topics : List Topic} {before middle after : Scope S M}

theorem becomes (on : before.BecomesOn topics after) : before.Becomes after := by
  obtain ⟨actions, -, made⟩ := on
  exact ⟨actions, made⟩

theorem refl (scope : Scope S M) : scope.BecomesOn topics scope :=
  ⟨[], fun _ member => absurd member List.not_mem_nil, rfl⟩

theorem trans (first : before.BecomesOn topics middle) (second : middle.BecomesOn topics after) :
    before.BecomesOn topics after := by
  obtain ⟨actions, speak, rfl⟩ := first
  obtain ⟨others, speakOn, rfl⟩ := second
  refine ⟨actions ++ others, fun action member => ?_, List.foldl_append⟩
  rcases List.mem_append.mp member with early | late
  · exact speak action early
  · exact speakOn action late

theorem act (first : before.BecomesOn topics after) (action : Action M)
    (own : action.SpeaksOn topics) : before.BecomesOn topics (after.act action) := by
  refine first.trans ⟨[action], ?_, rfl⟩
  intro other member
  rw [List.mem_singleton.mp member]
  exact own

theorem setMemory (first : before.BecomesOn topics after) (memory : M) :
    before.BecomesOn topics (after.setMemory memory) :=
  first.act (.setMemory memory) rfl

theorem post (first : before.BecomesOn topics after) (event : Event) {topic : Topic}
    (own : topic ∈ topics) : before.BecomesOn topics (after.post event topic) :=
  first.act (.post event topic) (List.contains_iff_mem.mpr own)

theorem postSelf (first : before.BecomesOn topics after) (event : Event) :
    before.BecomesOn topics (after.postSelf event) :=
  first.act (.postSelf event) rfl

theorem noteCall (first : before.BecomesOn topics after) (call : Call)
    (reply : Except Fault call.Reply) : before.BecomesOn topics (after.noteCall call reply) :=
  first.act (.noteCall call reply) rfl

theorem schedule (first : before.BecomesOn topics after) (event : Event) {topic : Topic}
    (own : topic ∈ topics) (delay : Nat) :
    before.BecomesOn topics (after.schedule event topic delay).1 :=
  first.act (.schedule event topic delay) (List.contains_iff_mem.mpr own)

theorem defer (first : before.BecomesOn topics after) (event : Event) :
    before.BecomesOn topics (after.defer event) :=
  first.act (.defer event) rfl

theorem requestReplay (first : before.BecomesOn topics after) :
    before.BecomesOn topics after.requestReplay :=
  first.act .requestReplay rfl

theorem cancel? (first : before.BecomesOn topics after) :
    (id? : Option Nat) → before.BecomesOn topics (after.cancel? id?)
  | some id => first.act (.cancel id) rfl
  | none => first

end BecomesOn

end Scope

/-- A hierarchical state machine. -/
structure Chart (S M : Type) where
  name : String
  /-- All states in the order in which they are listed. -/
  states : List S
  /-- The state entered first; its initial transition usually leads on. -/
  initial : S
  /-- The state around a state; a state at the top has none. -/
  parent : S → Option S
  handle : S → Signal → Scope S M → Scope S M × Reaction S
  /-- A handler changes its scope by actions only. -/
  handle_becomes : ∀ (state : S) (signal : Signal) (scope : Scope S M),
    scope.Becomes (handle state signal scope).1

end Tether
