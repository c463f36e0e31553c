import Tether.Intervalometer
import Tether.Mode
import Tether.Proofs.Statechart.Traffic

/-!
# The mode controller and the intervalometer

The two machines on one broker, each with its mailbox. In a step one machine is started or takes its
oldest event, or somebody else posts an event on some topic: a client, the camera controller, or a
timer that fires. In between the timers and the clock may change in any way. The steps are those
that leave room in the mailboxes.
-/

namespace Tether

/-- The two machines. -/
inductive Party where
  | mode
  | meter
deriving DecidableEq

/-- The topics that a machine listens to. -/
def Party.topics : Party → List Topic
  | .mode => Mode.topics
  | .meter => Intervalometer.topics

/-- Whether an event is a request to begin a sequence of captures. -/
def Event.isStart : Event → Bool
  | .intervalometerStart .. => true
  | _ => false

/-- Whether an event is the report that a sequence has ended. -/
def Event.isStopped : Event → Bool
  | .modeStopped => true
  | _ => false

theorem Event.isStart_iff {event : Event} :
    event.isStart = true ↔ ∃ interval total, event = .intervalometerStart interval total := by
  constructor
  · intro starts
    unfold isStart at starts
    split at starts
    · exact ⟨_, _, rfl⟩
    · cases starts
  · rintro ⟨_, _, rfl⟩
    rfl

theorem Event.isStopped_iff {event : Event} :
    event.isStopped = true ↔ event = .modeStopped := by
  constructor
  · intro stops
    unfold isStopped at stops
    split at stops
    · rfl
    · cases stops
  · rintro rfl
    rfl

/-- An event that is neither of the two. -/
def Event.Neutral (event : Event) : Prop :=
  event.isStart = false ∧ event.isStopped = false

/-- The mode controller, the intervalometer, and what goes on between them. -/
structure Duo where
  mode : Machine Mode.State Mode.Memory
  meter : Machine Intervalometer.State Intervalometer.Memory
  traffic : Traffic Party

namespace Duo

/-- Both machines before their start. -/
def new (heartbeat : Nat) : Duo :=
  ⟨Mode.chart.machine (.new heartbeat), Intervalometer.chart.machine .new,
    .new [(.mode, Mode.topics), (.meter, Intervalometer.topics)]⟩

/-- The mailbox of a machine. -/
def inbox (duo : Duo) (party : Party) : Mailbox Event Limits.mailbox :=
  duo.traffic.inbox party

/-- What a machine hears of the journal of a turn of `sender`. -/
def heard {S : Type} (party sender : Party) (journal : List (Effect S)) : List Event :=
  journal.filterMap (Effect.heard? party.topics (decide (party = sender)))

/-- The turn of the mode controller that follows an order. -/
def modeTurn (duo : Duo) (now : Nat) (order : Order) : Turn Mode.State Mode.Memory :=
  Mode.chart.obey duo.mode duo.traffic.service.timers now order

/-- The turn of the intervalometer that follows an order. -/
def meterTurn (duo : Duo) (now : Nat) (order : Order) :
    Turn Intervalometer.State Intervalometer.Memory :=
  Intervalometer.chart.obey duo.meter duo.traffic.service.timers now order

/-- Takes over a turn of the mode controller. -/
def absorbMode (duo : Duo) (turn : Turn Mode.State Mode.Memory) : Duo :=
  { duo with mode := turn.machine, traffic := duo.traffic.absorb .mode turn }

/-- Takes over a turn of the intervalometer. -/
def absorbMeter (duo : Duo) (turn : Turn Intervalometer.State Intervalometer.Memory) : Duo :=
  { duo with meter := turn.machine, traffic := duo.traffic.absorb .meter turn }

/-- Whether all that is said in a turn fits into the mailboxes. -/
def HasRoom {S M : Type} (duo : Duo) (sender : Party) (turn : Turn S M) : Prop :=
  ∀ party, (duo.inbox party).items.length + (heard party sender turn.journal).length ≤
    Limits.mailbox

/-- What can happen, where others post only events that are `allowed`. -/
inductive Step (allowed : Event → Prop) : Duo → Duo → Prop where
  | modeStart {duo : Duo} (now : Nat) (room : duo.HasRoom .mode (duo.modeTurn now .start)) :
      Step allowed duo (duo.absorbMode (duo.modeTurn now .start))
  | modeTurn {duo : Duo} {event : Event} {rest : Traffic Party} (now : Nat)
      (taken : duo.traffic.take? .mode = some (event, rest))
      (room : { duo with traffic := rest }.HasRoom .mode (duo.modeTurn now (.dispatch event))) :
      Step allowed duo
        ({ duo with traffic := rest }.absorbMode (duo.modeTurn now (.dispatch event)))
  | meterStart {duo : Duo} (now : Nat) (room : duo.HasRoom .meter (duo.meterTurn now .start)) :
      Step allowed duo (duo.absorbMeter (duo.meterTurn now .start))
  | meterTurn {duo : Duo} {event : Event} {rest : Traffic Party} (now : Nat)
      (taken : duo.traffic.take? .meter = some (event, rest))
      (room : { duo with traffic := rest }.HasRoom .meter (duo.meterTurn now (.dispatch event))) :
      Step allowed duo
        ({ duo with traffic := rest }.absorbMeter (duo.meterTurn now (.dispatch event)))
  | post {duo : Duo} {event : Event} (topic : Topic) (may : allowed event)
      (room : ∀ party : Party, topic ∈ party.topics →
        (duo.inbox party).items.length < Limits.mailbox) :
      Step allowed duo { duo with traffic := duo.traffic.post event topic }
  | clock {duo : Duo} (service : TimerService) :
      Step allowed duo { duo with traffic := duo.traffic.withService service }

/-- What the two machines can become. -/
inductive Reachable (allowed : Event → Prop) (heartbeat : Nat) : Duo → Prop where
  | initial : Reachable allowed heartbeat (.new heartbeat)
  | step {before after : Duo} (reachable : Reachable allowed heartbeat before)
      (step : Step allowed before after) : Reachable allowed heartbeat after

/-! ## What is said in a turn -/

variable {S M : Type}

theorem heard_append (party sender : Party) (journal more : List (Effect S)) :
    heard party sender (journal ++ more) = heard party sender journal ++ heard party sender more :=
  List.filterMap_append

/-- From one scope to another, `said` is what the machines hear from `sender`, and no replay is
asked for. -/
structure Tells (sender : Party) (said : Party → List Event)
    (before after : Scope S M) : Prop where
  replay : after.replay = before.replay
  heard : ∀ party,
    heard party sender after.journal = heard party sender before.journal ++ said party

/-- Nothing that is said is heard by any of the machines. -/
def silence (_ : Party) : List Event :=
  []

namespace Tells

variable {sender : Party} {said more : Party → List Event} {before middle after : Scope S M}

theorem refl (scope : Scope S M) : Tells sender silence scope scope :=
  ⟨rfl, fun _ => (List.append_nil _).symm⟩

theorem then_silence (first : Tells sender said before middle)
    (second : Tells sender silence middle after) : Tells sender said before after where
  replay := second.replay.trans first.replay
  heard party := by rw [second.heard, first.heard, silence, List.append_nil]

theorem after_silence (first : Tells sender silence before middle)
    (second : Tells sender said middle after) : Tells sender said before after where
  replay := second.replay.trans first.replay
  heard party := by rw [second.heard, first.heard, silence, List.append_nil]

theorem record (scope : Scope S M) (effect : Effect S)
    (heard : ∀ party, Duo.heard party sender [effect] = said party) :
    Tells sender said scope (scope.record effect) where
  replay := rfl
  heard party := by rw [Scope.record, heard_append, heard]

theorem asked (scope : Scope S M) (leaf state : S) (signal : Signal) :
    Tells sender silence scope (scope.record (.asked leaf state signal)) :=
  record scope _ fun _ => rfl

theorem warn (scope : Scope S M) (warning : Warning) :
    Tells sender silence scope (scope.warn warning) :=
  record scope _ fun _ => rfl

theorem setMemory (scope : Scope S M) (memory : M) :
    Tells sender silence scope (scope.setMemory memory) :=
  ⟨rfl, fun _ => (List.append_nil _).symm⟩

/-- An event on a topic that neither machine listens to. -/
theorem post (scope : Scope S M) (event : Event) {topic : Topic}
    (unheard : ∀ party : Party, topic ∉ party.topics) :
    Tells sender silence scope (scope.post event topic) :=
  record scope _ fun party => by
    rw [Duo.heard, List.filterMap_cons, Effect.heard?, if_neg (unheard party)]
    rfl

theorem cancel? (scope : Scope S M) (id? : Option Nat) :
    Tells sender silence scope (scope.cancel? id?) where
  replay := scope.cancel?_replay id?
  heard party := by rw [scope.cancel?_journal, silence, List.append_nil]

theorem schedule (scope : Scope S M) (event : Event) (topic : Topic) (delay : Nat) :
    Tells sender silence scope (scope.schedule event topic delay).1 where
  replay := scope.schedule_replay event topic delay
  heard party := by
    rw [scope.schedule_journal, heard_append]
    split <;> rfl

end Tells

theorem modeState_unheard (party : Party) : Topic.modeState ∉ party.topics := by
  cases party <;> decide

theorem cameraCmd_unheard (party : Party) : Topic.cameraCmd ∉ party.topics := by
  cases party <;> decide

end Duo

end Tether
