import Tether.Proofs.Camera.Pictures
import Tether.Proofs.Camera.Setters
import Tether.Proofs.Mailbox.Queue
import Tether.Proofs.Statechart.Rounds

/-!
# What becomes of a demand for a shot

A camera that is asked for a shot has it in hand (`Minds`): it is busy, or the demand is held back.
It keeps a shot in hand until it tells how the capture has ended, unless it drops the demand
(`Takes.minds`). There are three ways to do so, and none of them is told to anybody (`drops`): a
demand finds the camera disconnected or in trouble, the session is ended in the middle of a shot, or
a demand that was held back is pushed out of the full queue.
-/

namespace Tether

namespace Camera

variable {δ : Type}

/-! ## Shots -/

/-- Whether a camera has a shot in hand. -/
def Minds (leaf : State) (held : HeldEvents) : Prop :=
  .capture ∈ held.items ∨ leaf.isBusy

instance (leaf : State) (held : HeldEvents) : Decidable (Minds leaf held) :=
  inferInstanceAs (Decidable (_ ∨ _))

/-- Whether a journal tells how a capture has ended. -/
def Tells (journal : List (Effect State)) : Prop :=
  ∃ event : Event, event.isOutcome ∧ .told event .cameraEvent ∈ marks journal

/-- Whether an event makes a camera drop the shot that it has in hand or is asked for. -/
def drops (leaf : State) (held : HeldEvents) : Event → Bool
  -- The demand finds the camera disconnected or in trouble.
  | .capture => decide (leaf ≠ .ready ∧ leaf.isBusy = false ∧ .capture ∉ held.items)
  -- The session is ended in the middle of a shot.
  | .disconnect => decide (leaf.isBusy ∧ .capture ∉ held.items)
  -- The demand is pushed out of the queue of held events by a change of settings.
  | event => decide (event.isSetter ∧ (leaf = .connectionError ∨ leaf = .error) ∧
      .capture ∈ held.items ∧ .capture ∉ (held.put event).items)

/-- What a controller at rest keeps. -/
structure Steady (run : State × Scope State (Memory δ)) : Prop where
  rests : run.1.rests
  waits : ∀ event ∈ run.2.held.items, event.Waits
  /-- A picture waits for every download. -/
  loaded : run.1 = .downloading → run.2.memory.lastCapture ≠ none

section Events

variable {driver : Driver δ} {leaf : State} {event : Event} {before : Scope State (Memory δ)}
  {run : State × Scope State (Memory δ)}

theorem Takes.steady (takes : Takes driver leaf event before run)
    (steady : Steady (leaf, before)) : Steady run := by
  obtain ⟨rests, waits, loaded⟩ := steady
  cases takes with
  | stays stays changes =>
    exact ⟨rests, changes.held ▸ waits, fun here => changes.picture ▸ loaded here⟩
  | @holds after holds setter adds =>
    refine ⟨rests, fun held member => ?_, fun here => ?_⟩
    · rw [Scope.defer_held, adds.held] at member
      rcases Mailbox.mem_of_mem_put member with earlier | rfl
      · exact waits held earlier
      · exact holds.waits
    · rw [Scope.defer_memory, adds.picture]
      exact loaded here
  | @goes after target goes adds =>
    refine ⟨settled_rests target, adds.held ▸ waits, fun here => ?_⟩
    cases target with
    | downloading =>
      obtain ⟨-, -, other⟩ := goes.capture (Or.inr rfl)
      cases other
    | _ => cases here
  | shoots shoots changes =>
    refine ⟨by cases shoots <;> rfl, changes.held ▸ waits, fun here => ?_⟩
    cases shoots with
    | lead path wanted => rw [changes.picture]; exact Option.some_ne_none path
    | _ => cases here

/-- What has been told stays told. -/
theorem Takes.tells (takes : Takes driver leaf event before run) (told : Tells before.journal) :
    Tells run.2.journal := by
  obtain ⟨news, outcome, member⟩ := told
  refine ⟨news, outcome, ?_⟩
  cases takes with
  | stays stays changes => rw [changes.marks]; exact List.mem_append_left _ member
  | holds holds setter adds =>
    rw [marks_defer, adds.marks]
    exact List.mem_append_left _ member
  | goes goes adds => rw [adds.marks]; exact List.mem_append_left _ member
  | shoots shoots changes => rw [changes.marks]; exact List.mem_append_left _ member

/-- Trouble is told. -/
theorem tells_of_error {after : Scope State (Memory δ)}
    (adds : Adds (.heard event :: crossing leaf .error) before after) : Tells after.journal := by
  refine ⟨.cameraError, rfl, ?_⟩
  rw [adds.marks]
  refine List.mem_append_right _ (List.mem_cons_of_mem _ ?_)
  exact List.mem_append_right _ List.mem_cons_self

/-- A step in a busy state leads on to the other one, or the end of the capture is told. -/
theorem minds_of_shoots {target : State} {picture : Option CameraPath} {added : List Mark}
    (shoots : Shoots before.memory leaf event target picture added)
    (loaded : leaf = .downloading → before.memory.lastCapture ≠ none)
    (marked : marks run.2.journal =
      marks before.journal ++ .heard event :: (added ++ crossing leaf target)) :
    target.isBusy ∨ Tells run.2.journal := by
  have told (event : Event) (outcome : event.isOutcome)
      (member : .told event .cameraEvent ∈ added ++ crossing leaf target) :
      Tells run.2.journal := by
    refine ⟨event, outcome, ?_⟩
    rw [marked]
    exact List.mem_append_right _ (List.mem_cons_of_mem _ member)
  cases shoots with
  | take path unwanted => exact Or.inr (told _ rfl (List.mem_cons_of_mem _ List.mem_cons_self))
  | lead path wanted => exact Or.inl rfl
  | miss fault => exact Or.inr (told .cameraError rfl (by simp [crossing, State.enterMarks]))
  | fetch source waits => exact Or.inr (told _ rfl (List.mem_cons_of_mem _ List.mem_cons_self))
  | lose source waits fault =>
    exact Or.inr (told .cameraError rfl (by simp [crossing, State.enterMarks]))
  | skip none => exact absurd none (loaded rfl)

theorem drops_of_isSetter (setter : event.isSetter) (leaf : State) (held : HeldEvents) :
    drops leaf held event =
      decide (event.isSetter ∧ (leaf = .connectionError ∨ leaf = .error) ∧
        .capture ∈ held.items ∧ .capture ∉ (held.put event).items) := by
  cases event with
  | capture => cases setter
  | disconnect => cases setter
  | _ => rfl

/-- Where events are held back though the camera is not busy. -/
theorem trouble_of_holds (rests : leaf.rests) (free : leaf.isBusy = false)
    (holds : Holds leaf event) : leaf = .connectionError ∨ leaf = .error := by
  cases leaf with
  | connectionError => exact Or.inl rfl
  | error => exact Or.inr rfl
  | disconnected => exact absurd rfl holds.connected
  | ready => exact absurd rfl holds.notReady
  | capturing => cases free
  | downloading => cases free
  | super => cases rests
  | connected => cases rests

/-- A shot in hand, or one that is asked for, is in hand afterwards or its end is told, unless it is
dropped. -/
theorem Takes.minds (takes : Takes driver leaf event before run) (steady : Steady (leaf, before))
    (minds : Minds leaf before.held ∨ event = .capture)
    (kept : drops leaf before.held event = false) :
    Minds run.1 run.2.held ∨ Tells run.2.journal := by
  cases takes with
  | stays stays changes =>
    left
    rw [changes.held]
    rcases minds with minds | rfl
    · exact minds
    · have held := of_decide_eq_false kept
      obtain ⟨notReady, free⟩ := stays.capture rfl
      exact Or.inl (Decidable.byContradiction fun none => held ⟨notReady, free, none⟩)
  | @holds after holds setter adds =>
    left
    rw [Scope.defer_held, adds.held]
    cases busy : leaf.isBusy with
    | true => exact Or.inr busy
    | false =>
      have setter : event.isSetter := setter.resolve_left (by rw [busy]; exact Bool.false_ne_true)
      have held : .capture ∈ before.held.items := by
        rcases minds with (held | other) | rfl
        · exact held
        · exact absurd (busy.symm.trans other) Bool.false_ne_true
        · cases setter
      rw [drops_of_isSetter setter] at kept
      refine Or.inl (Decidable.byContradiction fun pushed => of_decide_eq_false kept ?_)
      exact ⟨setter, trouble_of_holds steady.rests busy holds, held, pushed⟩
  | @goes after target goes adds =>
    rw [adds.held]
    rcases minds with (held | busy) | rfl
    · exact Or.inl (Or.inl held)
    · rcases goes.broken busy with ⟨rfl, rfl⟩ | ⟨rfl, rfl⟩
      · have held := of_decide_eq_false kept
        exact Or.inl (Or.inl (Decidable.byContradiction fun none => held ⟨busy, none⟩))
      · exact Or.inr (tells_of_error adds)
    · obtain ⟨-, -, rfl⟩ := goes.capture (Or.inl rfl)
      exact Or.inl (Or.inr rfl)
  | shoots shoots changes =>
    exact (minds_of_shoots shoots steady.loaded changes.marks).imp_left Or.inr

end Events

/-! ## Replays -/

section Replays

variable {driver : Driver δ} {run : State × Scope State (Memory δ)} {events : List Event}

theorem steady_sustains (driver : Driver δ) : (chart driver).Sustains Steady where
  process event _ steady := (takes_process driver steady.rests event _).steady steady
  take steady := ⟨steady.rests, fun _ => nofun, steady.loaded⟩

/-- What a batch of held events has made of a shot: it is still to come, or in hand, or its end has
been told. -/
def Underway (events : List Event) (run : State × Scope State (Memory δ)) : Prop :=
  run.1 = .ready ∧ .capture ∈ events ∨ run.1.isBusy ∨ Tells run.2.journal

theorem Takes.underway {leaf : State} {event : Event} {before : Scope State (Memory δ)}
    (takes : Takes driver leaf event before run) (waits : event.Waits)
    (underway : Underway (event :: events) (leaf, before)) : Underway events run := by
  rcases underway with ⟨rfl, member⟩ | busy | told
  · cases takes with
    | stays stays changes =>
      refine Or.inl ⟨rfl, (List.mem_cons.mp member).resolve_left fun capture => ?_⟩
      exact (stays.capture capture.symm).1 rfl
    | holds holds setter adds => exact absurd rfl holds.notReady
    | goes goes adds =>
      rcases (goes.waits waits).2 with rfl | rfl
      · exact Or.inr (Or.inl rfl)
      · exact Or.inr (Or.inr (tells_of_error adds))
    | shoots shoots changes => cases shoots
  · cases takes with
    | stays stays changes => exact Or.inr (Or.inl busy)
    | holds holds setter adds => exact Or.inr (Or.inl busy)
    | goes goes adds =>
      obtain ⟨ready, -⟩ := goes.waits waits
      rw [show leaf = .ready from ready] at busy
      cases busy
    | shoots shoots changes => cases shoots <;> exact absurd waits (by decide)
  · exact Or.inr (Or.inr (takes.tells told))

/-- A batch of held events is dispatched again without another replay. -/
theorem settled_batch (steady : Steady run) (settled : Settled run)
    (connected : run.1 ≠ .disconnected) (waits : ∀ event ∈ events, event.Waits) :
    Settled (events.foldl (chart driver).process run) := by
  induction events generalizing run with
  | nil => exact settled
  | cons event rest ih =>
    obtain ⟨settledNow, connectedNow⟩ := (outcome driver steady.rests event run.2).again settled
      connected (waits event List.mem_cons_self)
    exact ih ((steady_sustains driver).process event steady) settledNow connectedNow
      fun other member => waits other (List.mem_cons_of_mem event member)

theorem underway_batch (steady : Steady run) (waits : ∀ event ∈ events, event.Waits)
    (underway : Underway events run) :
    Underway [] (events.foldl (chart driver).process run) := by
  induction events generalizing run with
  | nil => exact underway
  | cons event rest ih =>
    exact ih ((steady_sustains driver).process event steady)
      (fun other member => waits other (List.mem_cons_of_mem event member))
      ((takes_process driver steady.rests event run.2).underway (waits event List.mem_cons_self)
        underway)

/-- A replay that is asked for when the camera becomes ready is one batch. -/
theorem replays_settled (driver : Driver δ) (steady : Steady run)
    (asked : run.2.replay = true → run.1 = .ready)
    (ready : run.1 = .ready → run.2.held.items = [] ∨ run.2.replay = true) :
    ∃ batches after, (chart driver).Replays run batches after ∧ Settled after ∧
      (batches = [] ∨ run.2.replay = true ∧ batches = [run.2.held.items]) := by
  cases found : run.2.replay with
  | false =>
    refine ⟨[], run, .done found,
      ⟨found, fun here => (ready here).resolve_right ?_⟩, Or.inl rfl⟩
    rw [found]
    exact Bool.false_ne_true
  | true =>
    have connected : run.1 ≠ .disconnected := by
      rw [asked found]
      decide
    have settled : Settled (run.2.held.items.foldl (chart driver).process (Chart.emptied run)) :=
      settled_batch ((steady_sustains driver).take steady) ⟨rfl, fun _ => rfl⟩ connected
        steady.waits
    exact ⟨_, _, .batch found (.done settled.replay), settled, Or.inr ⟨rfl, rfl⟩⟩

theorem length_le_rounds {batches : List (List Event)}
    (single : batches = [] ∨ run.2.replay = true ∧ batches = [run.2.held.items]) :
    batches.length ≤ Limits.replayRounds := by
  rcases single with rfl | ⟨-, rfl⟩
  · exact Nat.zero_le _
  · exact replayRounds_pos

theorem replayHeld_eq (driver : Driver δ) (steady : Steady run)
    (asked : run.2.replay = true → run.1 = .ready)
    (ready : run.1 = .ready → run.2.held.items = [] ∨ run.2.replay = true) :
    Settled ((chart driver).replayHeld Limits.replayRounds run) ∧
      ((chart driver).replayHeld Limits.replayRounds run = run ∨
        run.1 = .ready ∧ (chart driver).replayHeld Limits.replayRounds run =
          run.2.held.items.foldl (chart driver).process (Chart.emptied run)) := by
  obtain ⟨batches, after, replays, settled, single⟩ := replays_settled driver steady asked ready
  rw [replays.replayHeld_eq (length_le_rounds single)]
  refine ⟨settled, ?_⟩
  rcases single with rfl | ⟨again, rfl⟩
  · cases replays
    exact Or.inl rfl
  · cases replays with
    | batch _ rest =>
      cases rest
      exact Or.inr ⟨asked again, rfl⟩

theorem minds_replayHeld (steady : Steady run) (asked : run.2.replay = true → run.1 = .ready)
    (ready : run.1 = .ready → run.2.held.items = [] ∨ run.2.replay = true)
    (minds : Minds run.1 run.2.held ∨ Tells run.2.journal) :
    let after := (chart driver).replayHeld Limits.replayRounds run
    Minds after.1 after.2.held ∨ Tells after.2.journal := by
  rcases (replayHeld_eq driver steady asked ready).2 with same | ⟨here, batch⟩
  · rw [same]
    exact minds
  · rw [batch]
    have begun : Underway run.2.held.items
        (run.1, { run.2 with replay := false, held := .empty }) := by
      rcases minds with (held | busy) | told
      · exact Or.inl ⟨here, held⟩
      · rw [here] at busy; cases busy
      · exact Or.inr (Or.inr told)
    rcases underway_batch ((steady_sustains driver).take steady) steady.waits begun with
      ⟨-, none⟩ | busy | told
    · cases none
    · exact Or.inl (Or.inr busy)
    · exact Or.inr told

end Replays

/-! ## Turns -/

/-- What a controller keeps between turns. -/
structure Kept (machine : Machine State (Memory δ)) : Prop where
  steady : machine.started = true →
    ∀ timers now, Steady (machine.leaf, machine.scope timers now)
  settled : machine.started = true → ∀ timers now,
    Settled (machine.leaf, machine.scope timers now)
  fresh : machine.started = false →
    machine.leaf = .super ∧ machine.held = .empty ∧ machine.replay = false

/-- The state in which a controller takes events: it is started before the first one. -/
def base (machine : Machine State (Memory δ)) : State :=
  if machine.started then machine.leaf else .disconnected

section Turns

variable {machine : Machine State (Memory δ)}

theorem kept_new (driver : Driver δ) (memory : Memory δ) :
    Kept (History.new (chart driver) memory).machine :=
  ⟨nofun, nofun, fun _ => ⟨rfl, rfl, rfl⟩⟩

theorem kept_turn {run : State × Scope State (Memory δ)} (steady : Steady run)
    (settled : Settled run) : Kept (Machine.turn run).machine where
  steady _ _ _ := ⟨steady.rests, steady.waits, steady.loaded⟩
  settled _ _ _ := ⟨settled.replay, settled.ready⟩
  fresh := nofun

theorem settled_enter (driver : Driver δ) {scope : Scope State (Memory δ)}
    (idle : scope.replay = false) : Settled ((chart driver).enter scope) := by
  have outside : Entering scope (chart driver).initial none scope := ⟨.refl scope, rfl, nofun⟩
  have entering := (carries driver scope).enter_chart (shallow driver) outside
  exact ⟨entering.replay.trans idle, nofun⟩

/-- Nothing is dispatched again when a machine is started. -/
theorem startRun_eq (kept : Kept machine) (driver : Driver δ) (timers : Timers) (now : Nat) :
    (chart driver).startRun machine timers now =
      if machine.started then (machine.leaf, machine.scope timers now)
      else (chart driver).enter (machine.scope timers now) := by
  unfold Chart.startRun
  split
  · rfl
  · next unstarted =>
    have idle := (kept.fresh (eq_false_of_ne_true unstarted)).2.2
    have settled : Settled ((chart driver).enter (machine.scope timers now)) :=
      settled_enter driver idle
    exact Chart.replayHeld_eq_self settled.replay _

theorem startRun_keeps (kept : Kept machine) (driver : Driver δ) (timers : Timers) (now : Nat) :
    let run := (chart driver).startRun machine timers now
    run.1 = base machine ∧ run.2.held = machine.held ∧ Steady run ∧ Settled run := by
  unfold Chart.startRun base
  split
  · next started =>
    exact ⟨rfl, rfl, kept.steady started timers now, kept.settled started timers now⟩
  · next unstarted =>
    obtain ⟨-, empty, idle⟩ := kept.fresh (eq_false_of_ne_true unstarted)
    have settled : Settled ((chart driver).enter (machine.scope timers now)) :=
      settled_enter driver idle
    have held : ((chart driver).enter (machine.scope timers now)).2.held = machine.held :=
      (enter_apart driver _).held
    rw [Chart.replayHeld_eq_self settled.replay]
    refine ⟨rfl, held, ⟨rfl, ?_, nofun⟩, settled⟩
    rw [held, empty]
    exact fun _ => nofun

/-- A controller that has not been started minds nothing. -/
theorem minds_base (kept : Kept machine) (minds : Minds machine.leaf machine.held) :
    Minds (base machine) machine.held := by
  unfold base
  split
  · exact minds
  · next unstarted =>
    obtain ⟨outside, empty, -⟩ := kept.fresh (eq_false_of_ne_true unstarted)
    rcases minds with held | busy
    · rw [empty] at held; cases held
    · rw [outside] at busy; cases busy

/-- What the turn of an order comes down to. -/
theorem obey_keeps (kept : Kept machine) (driver : Driver δ) (timers : Timers) (now : Nat)
    (order : Order) :
    ∃ run, (chart driver).obey machine timers now order = Machine.turn run ∧
      Kept (Machine.turn run).machine ∧
      match order with
      | .start => run.1 = base machine ∧ run.2.held = machine.held
      | .dispatch event =>
        Minds (base machine) machine.held ∨ event = .capture →
          drops (base machine) machine.held event = false →
          Minds run.1 run.2.held ∨ Tells run.2.journal := by
  obtain ⟨based, held, steady, settled⟩ := startRun_keeps kept driver timers now
  cases order with
  | start => exact ⟨_, rfl, kept_turn steady settled, based, held⟩
  | dispatch event =>
    rw [← based, ← held]
    obtain ⟨asked, ready⟩ := (outcome driver steady.rests event _).replay settled
    have takes := takes_process driver steady.rests event
      ((chart driver).startRun machine timers now).2
    have steadyNow := takes.steady steady
    have settledNow := (replayHeld_eq driver steadyNow asked ready).1
    refine ⟨_, rfl, kept_turn ?_ settledNow, fun minds safe => ?_⟩
    · exact (steady_sustains driver).replayHeld _ steadyNow
    · exact minds_replayHeld steadyNow asked ready (takes.minds steady minds safe)

theorem kept_obeyAll {history : History State (Memory δ)} (kept : Kept history.machine)
    (driver : Driver δ) (occasions : List Occasion) :
    Kept (history.obeyAll (chart driver) occasions).machine := by
  refine List.foldlRecOn (motive := fun later => Kept later.machine) occasions
    (History.obey (chart driver)) kept ?_
  intro history kept occasion _
  obtain ⟨run, turn, keptNow, -⟩ :=
    obey_keeps kept driver occasion.timers occasion.now occasion.order
  rw [← turn] at keptNow
  exact keptNow

end Turns

end Camera

end Tether
