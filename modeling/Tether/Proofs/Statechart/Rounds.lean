import Tether.Proofs.Statechart.Hearings

/-!
# Replays that end

A machine dispatches the events that it holds back again as long as that is asked for, and a machine
that holds back the same event whenever it is dispatched, and asks for it again each time, does so
without end. A replay that ends is made of batches (`Replays`). Nothing in this relation counts
them, so a replay without an end is related to nothing (`Replays.not_of_restless`). Where there is
an end there is only one (`Replays.unique`), and a dispatch that is left enough rounds arrives at it
(`Completes.dispatch_eq`).

Every event of a batch is dispatched exactly once (`Replays.dispatched`), and so a whole dispatch
takes up the events of the batches of the start, then its own, then those of the batches that follow
(`Completes.dispatched`).
-/

namespace Tether

namespace Chart

variable {S M : Type} [DecidableEq S] {chart : Chart S M}

/-- The run before the first event of a batch. -/
def emptied (run : S × Scope S M) : S × Scope S M :=
  (run.1, { run.2 with replay := false, held := .empty })

/-- The replay that begins with a run hands out some batches of held events and ends with another
run. -/
inductive Replays (chart : Chart S M) :
    S × Scope S M → List (List Event) → S × Scope S M → Prop
  | done {run : S × Scope S M} (idle : run.2.replay = false) : Replays chart run [] run
  | batch {run after : S × Scope S M} {batches : List (List Event)}
      (asked : run.2.replay = true)
      (rest : Replays chart (run.2.held.items.foldl chart.process (emptied run)) batches after) :
      Replays chart run (run.2.held.items :: batches) after

namespace Replays

variable {run after other : S × Scope S M} {batches others : List (List Event)}

theorem idle (replays : chart.Replays run batches after) : after.2.replay = false := by
  induction replays with
  | done idle => exact idle
  | batch _ _ ih => exact ih

theorem unique (replays : chart.Replays run batches after)
    (again : chart.Replays run others other) :
    batches = others ∧ after = other := by
  induction replays generalizing others with
  | done idle =>
    cases again with
    | done => exact ⟨rfl, rfl⟩
    | batch asked => exact absurd (idle.symm.trans asked) Bool.false_ne_true
  | batch asked _ ih =>
    cases again with
    | done idle => exact absurd (idle.symm.trans asked) Bool.false_ne_true
    | batch _ rest =>
      obtain ⟨rfl, rfl⟩ := ih rest
      exact ⟨rfl, rfl⟩

/-- A replay that is left as many rounds as it has batches ends. -/
theorem replayHeld_eq (replays : chart.Replays run batches after) {rounds : Nat}
    (enough : batches.length ≤ rounds) : chart.replayHeld rounds run = after := by
  induction replays generalizing rounds with
  | done idle => exact replayHeld_eq_self idle rounds
  | @batch run after batches asked _ ih =>
    obtain ⟨rounds, rfl⟩ := Nat.exists_eq_add_of_le' (Nat.le_trans (Nat.le_add_left 1 _) enough)
    obtain ⟨leaf, scope⟩ := run
    rw [replayHeld, if_pos asked]
    exact ih (Nat.le_of_succ_le_succ enough)

/-- A replay does not end if every batch asks for another one. -/
theorem not_of_restless {restless : S × Scope S M → Prop}
    (asks : ∀ run, restless run → run.2.replay = true ∧
      restless (run.2.held.items.foldl chart.process (emptied run)))
    (begins : restless run) : ¬chart.Replays run batches after := by
  intro replays
  induction replays with
  | done idle => exact absurd (idle.symm.trans (asks _ begins).1) Bool.false_ne_true
  | batch _ _ ih => exact ih (asks _ begins).2

end Replays

/-! ## What is dispatched -/

/-- Some events, one after the other, leave the traces of one dispatch each. -/
theorem hearings_processAll (shallow : chart.Shallow) (events : List Event)
    (run : S × Scope S M) :
    ∃ dispatches : List (Dispatch S), dispatches.map Dispatch.event = events ∧
      hearings (events.foldl chart.process run).2.journal =
        hearings run.2.journal ++ dispatches.flatMap Dispatch.hearings := by
  induction events generalizing run with
  | nil => exact ⟨[], rfl, (List.append_nil _).symm⟩
  | cons event rest ih =>
    obtain ⟨dropped, now⟩ := hearings_process shallow run event
    obtain ⟨later, events, heard⟩ := ih (chart.process run event)
    refine ⟨⟨run.1, event, dropped⟩ :: later, congrArg (event :: ·) events, ?_⟩
    rw [List.foldl_cons, heard, now, List.append_assoc, List.flatMap_cons]

theorem Replays.dispatched (shallow : chart.Shallow) {run after : S × Scope S M}
    {batches : List (List Event)} (replays : chart.Replays run batches after) :
    ∃ dispatches : List (Dispatch S), dispatches.map Dispatch.event = batches.flatten ∧
      hearings after.2.journal =
        hearings run.2.journal ++ dispatches.flatMap Dispatch.hearings := by
  induction replays with
  | done => exact ⟨[], rfl, (List.append_nil _).symm⟩
  | @batch run after batches _ _ ih =>
    obtain ⟨first, firstEvents, now⟩ :=
      hearings_processAll shallow run.2.held.items (emptied run)
    obtain ⟨rest, restEvents, later⟩ := ih
    refine ⟨first ++ rest, ?_, ?_⟩
    · rw [List.map_append, firstEvents, restEvents, List.flatten_cons]
    · rw [later, now, List.append_assoc, List.flatMap_append]
      rfl

/-! ## Dispatches that complete -/

/-- The machine is ready for an event: it has been started, or it is started now, which replays some
batches. -/
inductive Begins (chart : Chart S M) (machine : Machine S M) (timers : Timers) (now : Nat) :
    List (List Event) → S × Scope S M → Prop
  | started (already : machine.started = true) :
      Begins chart machine timers now [] (machine.leaf, machine.scope timers now)
  | fresh {batches : List (List Event)} {begun : S × Scope S M} (first : machine.started = false)
      (replays : chart.Replays (chart.enter (machine.scope timers now)) batches begun) :
      Begins chart machine timers now batches begun

/-- The dispatch of an event comes to an end: the start, if there is one, replays the early batches,
and what follows the event replays the late ones. -/
def Completes (chart : Chart S M) (machine : Machine S M) (event : Event) (timers : Timers)
    (now : Nat) (early late : List (List Event)) (after : S × Scope S M) : Prop :=
  ∃ begun, chart.Begins machine timers now early begun ∧
    chart.Replays (chart.process begun event) late after

section Dispatches

variable {machine : Machine S M} {event : Event} {timers : Timers} {now : Nat}
  {early late others : List (List Event)} {begun after other : S × Scope S M}

theorem Begins.unique (begins : chart.Begins machine timers now early begun)
    (again : chart.Begins machine timers now others other) : early = others ∧ begun = other := by
  cases begins with
  | started already =>
    cases again with
    | started => exact ⟨rfl, rfl⟩
    | fresh first => exact absurd (first.symm.trans already) Bool.false_ne_true
  | fresh first replays =>
    cases again with
    | started already => exact absurd (first.symm.trans already) Bool.false_ne_true
    | fresh _ same => exact replays.unique same

theorem Begins.startRun_eq (begins : chart.Begins machine timers now early begun) {rounds : Nat}
    (enough : early.length ≤ rounds) : chart.startRun machine timers now rounds = begun := by
  unfold startRun
  cases begins with
  | started already => exact if_pos already
  | fresh first replays =>
    rw [if_neg (by rw [first]; exact Bool.false_ne_true)]
    exact replays.replayHeld_eq enough

theorem Begins.dispatched (shallow : chart.Shallow)
    (begins : chart.Begins machine timers now early begun) :
    ∃ dispatches : List (Dispatch S), dispatches.map Dispatch.event = early.flatten ∧
      hearings begun.2.journal = dispatches.flatMap Dispatch.hearings := by
  cases begins with
  | started => exact ⟨[], rfl, rfl⟩
  | fresh _ replays =>
    obtain ⟨dispatches, events, heard⟩ := replays.dispatched shallow
    rw [hearings_enter] at heard
    exact ⟨dispatches, events, heard⟩

namespace Completes

theorem unique {lateOthers : List (List Event)}
    (completes : chart.Completes machine event timers now early late after)
    (again : chart.Completes machine event timers now others lateOthers other) :
    early = others ∧ late = lateOthers ∧ after = other := by
  obtain ⟨begun, begins, replays⟩ := completes
  obtain ⟨begunToo, beginsToo, replaysToo⟩ := again
  obtain ⟨rfl, rfl⟩ := begins.unique beginsToo
  obtain ⟨rfl, rfl⟩ := replays.unique replaysToo
  exact ⟨rfl, rfl, rfl⟩

theorem dispatch_eq (completes : chart.Completes machine event timers now early late after)
    {rounds : Nat} (earlyEnough : early.length ≤ rounds) (lateEnough : late.length ≤ rounds) :
    chart.dispatch machine event timers now rounds = Machine.turn after := by
  obtain ⟨begun, begins, replays⟩ := completes
  rw [dispatch, begins.startRun_eq earlyEnough, replays.replayHeld_eq lateEnough]

theorem dispatched (shallow : chart.Shallow)
    (completes : chart.Completes machine event timers now early late after) :
    (dispatches after.2.journal).map Dispatch.event = early.flatten ++ event :: late.flatten := by
  obtain ⟨begun, begins, replays⟩ := completes
  obtain ⟨first, firstEvents, started⟩ := begins.dispatched shallow
  obtain ⟨dropped, heard⟩ := hearings_process shallow begun event
  obtain ⟨rest, restEvents, replayed⟩ := replays.dispatched shallow
  have all : hearings after.2.journal =
      (first ++ ⟨begun.1, event, dropped⟩ :: rest).flatMap Dispatch.hearings := by
    rw [replayed, heard, started, List.flatMap_append, List.flatMap_cons, List.append_assoc]
  rw [dispatches, all, dispatchesOf_flatMap, List.map_append, List.map_cons, firstEvents,
    restEvents]

end Completes

end Dispatches

end Chart

end Tether
