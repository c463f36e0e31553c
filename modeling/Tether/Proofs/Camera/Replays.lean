import Tether.Proofs.Camera.Losses
import Tether.Proofs.Statechart.Rounds

/-!
# Replays of the camera controller end

A controller asks for its held events only when it becomes ready. It hands them out once, in one
batch: none of them leads back to a camera that is ready, so whatever the batch holds back again
waits for another event, and if the camera is still ready nothing has been held back at all
(`settled_batch`). So every dispatch ends after one batch at most, with nothing left for a camera
that is ready (`replays_end`).
-/

namespace Tether

namespace Camera

variable {δ : Type} {driver : Driver δ}

/-- A controller that asks for its held events has not touched them before. -/
theorem Outcome.held_of_replay {leaf : State} {event : Event} {before : Scope State (Memory δ)}
    {run : State × Scope State (Memory δ)} (outcome : Outcome driver leaf event before run)
    (idle : before.replay = false) (asked : run.2.replay = true) : run.2.held = before.held := by
  cases outcome with
  | stays does quiet => exact does.keeps.held
  | @holds after does holds =>
    have still : (after.defer event).replay = before.replay :=
      (after.defer_replay event).trans does.keeps.replay
    exact absurd (idle.symm.trans (still.symm.trans asked)) Bool.false_ne_true
  | leads does leads =>
    exact (transition_entering driver leads.busy _).passed.held.trans does.keeps.held

/-- Nothing is dispatched again when a controller is started. -/
theorem begins_startRun {machine : Machine State (Memory δ)} (kept : Kept machine)
    (driver : Driver δ) (timers : Timers) (now : Nat) :
    (chart driver).Begins machine timers now [] ((chart driver).startRun machine timers now) := by
  rw [startRun_eq kept]
  split
  · next already => exact .started already
  · next unstarted =>
    have first := eq_false_of_ne_true unstarted
    have settled : Settled ((chart driver).enter (machine.scope timers now)) :=
      settled_enter driver (kept.fresh first).2.2
    exact .fresh first (.done settled.replay)

/-- What the dispatch of an event amounts to. -/
structure Concludes (machine : Machine State (Memory δ)) (event : Event)
    (batches : List (List Event)) (turn : Turn State (Memory δ)) : Prop where
  single : batches = [] ∨ batches = [machine.held.items]
  /-- The event is dispatched and then those of the batch, each of them once. -/
  once : (dispatches turn.journal).map Dispatch.event = event :: batches.flatten
  replay : turn.machine.replay = false
  ready : turn.machine.leaf = .ready → turn.machine.held.items = []

/-- Every dispatch to a controller ends. Its start replays nothing, and there is one batch of held
events at most afterwards. -/
theorem replays_end (driver : Driver δ) (memory : Memory δ) (occasions : List Occasion)
    (event : Event) (timers : Timers) (now : Nat) :
    let machine := ((History.new (chart driver) memory).obeyAll (chart driver) occasions).machine
    ∃ batches after, (chart driver).Completes machine event timers now [] batches after ∧
      (chart driver).dispatch machine event timers now = Machine.turn after ∧
      Concludes machine event batches ((chart driver).dispatch machine event timers now) := by
  intro machine
  have kept : Kept machine := kept_obeyAll (kept_new driver memory) driver occasions
  obtain ⟨-, held, steady, settled⟩ := startRun_keeps kept driver timers now
  have outcome := outcome driver steady.rests event
    ((chart driver).startRun machine timers now).2
  obtain ⟨asked, ready⟩ := outcome.replay settled
  obtain ⟨batches, after, replays, settledNow, single⟩ :=
    replays_settled driver ((steady_sustains driver).process event steady) asked ready
  have completes : (chart driver).Completes machine event timers now [] batches after :=
    ⟨_, begins_startRun kept driver timers now, replays⟩
  have ended := completes.dispatch_eq (Nat.zero_le _) (length_le_rounds single)
  refine ⟨batches, after, completes, ended, ?_⟩
  rw [ended]
  refine ⟨single.imp_right ?_, completes.dispatched (shallow driver), replays.idle,
    settledNow.ready⟩
  rintro ⟨again, rfl⟩
  rw [outcome.held_of_replay settled.replay again, held]

end Camera

end Tether
