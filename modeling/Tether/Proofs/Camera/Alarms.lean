import Tether.Proofs.Camera.Outcome
import Tether.Proofs.Statechart.Site

/-!
# The timers of the error states

Only the two error states of the camera controller set timers: each sets one on entry, notes its
number, and cancels it on exit. So between two events the controller has at most one timer, the one
that it has noted, and it has one if and only if it is in an error state. When that timer has fired
there is none until its event is dispatched; but then the error state is left, perhaps to be entered
again, and each entry sets a timer.

All of this is about three things only: the timers, and the two notes about them (`Watch`).
-/

namespace Tether

namespace Camera

variable {δ : Type}

/-- The timers, and the two notes that the controller keeps about them. -/
structure Watch where
  timers : Timers
  retry : Option Nat
  recovery : Option Nat

/-- What a handler sees of timers. -/
def watch (scope : Scope State (Memory δ)) : Watch :=
  ⟨scope.timers, scope.memory.retryTimer, scope.memory.recoveryTimer⟩

/-- The event that a state sets a timer for. -/
def State.alarm? : State → Option Event
  | .connectionError => some .connect
  | .error => some .recover
  | _ => none

/-- The event that the innermost entered state has set a timer for. -/
def alarm? (cursor : Option State) : Option Event :=
  cursor.bind State.alarm?

/-- No timer is needed, and none is there. -/
structure Idle (foreign : List Nat) (cursor : Option State) (watch : Watch) : Prop where
  alarm : alarm? cursor = none
  retry : watch.retry = none
  recovery : watch.recovery = none
  own : watch.timers.ownPending foreign = []

/-- A timer is needed, and is noted where it belongs. -/
structure Waits (foreign : List Nat) (timer : Timer) (cursor : Option State) (watch : Watch) :
    Prop where
  alarm : alarm? cursor = some timer.event
  retry : watch.retry = if cursor = some .connectionError then some timer.id else none
  recovery : watch.recovery = if cursor = some .error then some timer.id else none
  topic : timer.topic = .cameraCmd
  own : timer.id ∉ foreign
  known : timer.id < watch.timers.nextId

/-- The controller has no timer but the one that is needed, which may have fired. -/
structure Tended (foreign : List Nat) (cursor : Option State) (watch : Watch) : Prop where
  known : ∀ id ∈ foreign, id < watch.timers.nextId
  alarm : Idle foreign cursor watch ∨ ∃ timer, Waits foreign timer cursor watch ∧
    (watch.timers.ownPending foreign = [timer] ∨ watch.timers.ownPending foreign = [])

/-- The controller has just the timer that is needed. -/
structure Armed (foreign : List Nat) (cursor : Option State) (watch : Watch) : Prop where
  known : ∀ id ∈ foreign, id < watch.timers.nextId
  alarm : Idle foreign cursor watch ∨ ∃ timer, Waits foreign timer cursor watch ∧
    watch.timers.ownPending foreign = [timer]

section Watching

variable {foreign : List Nat} {cursor : Option State} {watch : Watch}

theorem Armed.tended (armed : Armed foreign cursor watch) : Tended foreign cursor watch where
  known := armed.known
  alarm := armed.alarm.imp_right fun ⟨timer, waits, own⟩ => ⟨timer, waits, Or.inl own⟩

/-- Where no timer is needed there is none. -/
theorem Tended.idle (tended : Tended foreign cursor watch) (off : alarm? cursor = none) :
    Idle foreign cursor watch := by
  rcases tended.alarm with idle | waiting
  · exact idle
  · obtain ⟨timer, waits, _⟩ := waiting
    rw [waits.alarm] at off
    cases off

theorem Idle.armed (idle : Idle foreign cursor watch)
    (known : ∀ id ∈ foreign, id < watch.timers.nextId) : Armed foreign cursor watch :=
  ⟨known, Or.inl idle⟩

theorem Idle.elsewhere (idle : Idle foreign cursor watch) {other : Option State}
    (off : alarm? other = none) : Idle foreign other watch :=
  { idle with alarm := off }

/-- Setting the timer that is needed. -/
theorem Idle.set (idle : Idle foreign cursor watch)
    (known : ∀ id ∈ foreign, id < watch.timers.nextId) {state : State} {event : Event}
    (alarm : state.alarm? = some event) {deadline : Nat} {after : Watch}
    (timers : after.timers = (watch.timers.insert deadline event .cameraCmd).1)
    (retry : after.retry =
      if some state = some .connectionError then some watch.timers.nextId else none)
    (recovery : after.recovery =
      if some state = some .error then some watch.timers.nextId else none) :
    Armed foreign (some state) after := by
  have fresh : watch.timers.nextId ∉ foreign :=
    fun member => Nat.lt_irrefl _ (known _ member)
  have later : after.timers.nextId = watch.timers.nextId + 1 := by rw [timers]; rfl
  refine ⟨fun id member => ?_,
    Or.inr ⟨⟨deadline, watch.timers.nextId, event, .cameraCmd⟩, ?_, ?_⟩⟩
  · rw [later]
    exact Nat.lt_succ_of_lt (known id member)
  · exact ⟨alarm, retry, recovery, rfl, fresh, by rw [later]; exact Nat.lt_succ_self _⟩
  · rw [timers]
    exact Timers.ownPending_insert fresh idle.own deadline event .cameraCmd

end Watching

/-! ## Transitions -/

theorem Keeps.watch_eq {before after : Scope State (Memory δ)} (keeps : Keeps before after) :
    watch after = watch before := by
  rw [watch, watch, keeps.timers, keeps.retryTimer, keeps.recoveryTimer]

theorem alarm?_parent (driver : Driver δ) (state : State) :
    alarm? ((chart driver).parent state) = none := by
  cases state <;> rfl

theorem alarm?_of_mem_chainAbove (driver : Driver δ) {goal state : State}
    (member : state ∈ (chart driver).chainAbove goal) : state.alarm? = none := by
  rw [chainAbove_eq] at member
  revert member
  cases goal <;> cases state <;> decide

/-- On exit the noted timer is cancelled and forgotten. -/
theorem Waits.watch_onExit {foreign : List Nat} {timer : Timer} {state : State}
    {scope : Scope State (Memory δ)} (waits : Waits foreign timer (some state) (watch scope)) :
    watch (state.onExit scope) = ⟨scope.timers.remove timer.id, none, none⟩ := by
  have alarm := waits.alarm
  have retry : scope.memory.retryTimer = _ := waits.retry
  have recovery : scope.memory.recoveryTimer = _ := waits.recovery
  cases state with
  | connectionError =>
    rw [State.onExit, dropRetry, watch, retry, Scope.cancel?_memory, update]
    exact congrArg (Watch.mk _ none ·) recovery
  | error =>
    rw [State.onExit, dropRecovery, watch, recovery, Scope.cancel?_memory, update]
    exact congrArg (Watch.mk _ · none) retry
  | _ => cases alarm

theorem tended_exit (driver : Driver δ) {foreign : List Nat} (leaf state : State)
    {scope : Scope State (Memory δ)} (tended : Tended foreign (some state) (watch scope)) :
    Tended foreign ((chart driver).parent state)
      (watch ((chart driver).ask leaf state .exit scope).1) := by
  have outside := alarm?_parent driver state
  have left := handle_exit driver state (scope.record (.asked leaf state .exit))
  rw [Chart.ask, left]
  cases found : state.alarm? with
  | none =>
    have unchanged : state.onExit (scope.record (.asked leaf state .exit)) =
        scope.record (.asked leaf state .exit) := by
      cases state with
      | connectionError => cases found
      | error => cases found
      | _ => rfl
    rw [unchanged]
    exact (((tended.idle found).elsewhere outside).armed tended.known).tended
  | some event =>
    obtain idle | ⟨timer, waits, own⟩ := tended.alarm
    · have off : state.alarm? = none := idle.alarm
      rw [found] at off
      cases off
    · have noted : Waits foreign timer (some state)
          (watch (scope.record (.asked leaf state .exit))) := waits
      rw [noted.watch_onExit]
      exact ⟨tended.known, Or.inl ⟨outside, rfl, rfl, Timers.ownPending_cancel own⟩⟩

theorem watch_armRetry (scope : Scope State (Memory δ)) : ∃ deadline,
    watch (armRetry scope) = ⟨(scope.timers.insert deadline .connect .cameraCmd).1,
      some scope.timers.nextId, scope.memory.recoveryTimer⟩ := by
  refine ⟨scope.now + Timers.clampDelay scope.memory.settings.connectionRetry, ?_⟩
  simp [armRetry, update, Scope.setMemory, watch]

theorem watch_armRecovery (scope : Scope State (Memory δ)) : ∃ deadline,
    watch (armRecovery scope) = ⟨(scope.timers.insert deadline .recover .cameraCmd).1,
      scope.memory.retryTimer, some scope.timers.nextId⟩ := by
  refine ⟨scope.now + Timers.clampDelay scope.memory.settings.errorRetry, ?_⟩
  simp [armRecovery, update, Scope.setMemory, watch]

theorem armed_entry (driver : Driver δ) {foreign : List Nat} (leaf state : State)
    {scope : Scope State (Memory δ)}
    (armed : Armed foreign ((chart driver).parent state) (watch scope)) :
    Armed foreign (some state) (watch ((chart driver).ask leaf state .entry scope).1) := by
  have idle := armed.tended.idle (alarm?_parent driver state)
  obtain ⟨middle, works, entered⟩ :=
    handle_entry driver state (scope.record (.asked leaf state .entry))
  have unchanged : watch middle = watch scope := works.keeps.watch_eq
  have known := armed.known
  -- An entry does its work first and sets the timer last.
  rw [← unchanged] at idle known
  rw [Chart.ask, entered]
  cases state with
  | connectionError =>
    obtain ⟨deadline, set⟩ := watch_armRetry middle
    rw [State.onEntry, set]
    exact idle.set known rfl rfl rfl idle.recovery
  | error =>
    obtain ⟨deadline, set⟩ := watch_armRecovery middle
    rw [State.onEntry, set]
    exact idle.set known rfl rfl idle.retry rfl
  | _ => exact (idle.elsewhere rfl).armed known

theorem alarm_carries (driver : Driver δ) (foreign : List Nat) :
    (chart driver).Carries (fun _ cursor scope => Tended foreign cursor (watch scope))
      (fun _ cursor scope => Armed foreign cursor (watch scope)) where
  leave leaf _ state _ _ tended := tended_exit driver leaf state tended
  turn {goal cursor scope} above tended := by
    -- Where the way turns round only a state around others is entered, and those need no timer.
    have off : alarm? cursor = none := by
      cases cursor with
      | none => rfl
      | some state => exact alarm?_of_mem_chainAbove driver (above state rfl)
    exact (tended.idle off).armed tended.known
  enter leaf _ state _ _ armed := armed_entry driver leaf state armed
  init {leaf scope} armed := by
    obtain ⟨unchanged, _⟩ := handle_init driver leaf (scope.record (.asked leaf leaf .init))
    have asked : watch ((chart driver).ask leaf leaf .init scope).1 = watch scope := by
      rw [Chart.ask, unchanged]
      rfl
    rw [← asked] at armed
    cases found : (chart driver).ask leaf leaf .init scope with
    | mk after reaction =>
      rw [found] at armed
      cases reaction with
      | handled => exact armed
      | delegate => exact armed
      | transition target => exact armed.tended
  leaving_warn _ tended := tended
  entering_warn _ armed := armed

/-! ## Events -/

/-- A run has set its timer anew since its start, if it needs one, or has neither moved nor touched
any timer. -/
structure Moved (foreign : List Nat) (start run : State × Scope State (Memory δ)) : Prop where
  rests : run.1.rests
  change : Armed foreign (some run.1) (watch run.2) ∨
    run.1 = start.1 ∧ watch run.2 = watch start.2

section Events

variable {driver : Driver δ} {foreign : List Nat} {start run : State × Scope State (Memory δ)}

theorem Moved.refl (rests : run.1.rests) : Moved foreign run run :=
  ⟨rests, Or.inr ⟨rfl, rfl⟩⟩

theorem Moved.tended (moved : Moved foreign start run)
    (tended : Tended foreign (some start.1) (watch start.2)) :
    Tended foreign (some run.1) (watch run.2) := by
  rcases moved.change with armed | same
  · exact armed.tended
  · rw [same.1, same.2]; exact tended

theorem Moved.trans {later : State × Scope State (Memory δ)} (first : Moved foreign start run)
    (second : Moved foreign run later) : Moved foreign start later where
  rests := second.rests
  change := by
    rcases second.change with armed | same
    · exact Or.inl armed
    · rw [same.1, same.2]; exact first.change

/-- The event that a timer was set for always makes the controller move. -/
theorem Outcome.moved {leaf : State} {event : Event} {scope : Scope State (Memory δ)}
    (outcome : Outcome driver leaf event scope run) (rests : leaf.rests)
    (tended : Tended foreign (some leaf) (watch scope)) :
    Moved foreign (leaf, scope) run ∧
      (leaf.alarm? = some event → Armed foreign (some run.1) (watch run.2)) := by
  cases outcome with
  | @stays after does quiet =>
    -- Neither error state stays where it is on the event of its own timer.
    refine ⟨⟨rests, Or.inr ⟨rfl, does.keeps.watch_eq⟩⟩, fun alarm => ?_⟩
    cases leaf with
    | connectionError => exact absurd (Option.some.inj alarm).symm (quiet.retry rfl)
    | error => exact absurd (Option.some.inj alarm).symm (quiet.recover rfl)
    | _ => cases alarm
  | @holds after does holds =>
    have same : watch (after.defer event) = watch scope := by
      rw [watch, Scope.defer_timers, Scope.defer_memory]
      exact does.keeps.watch_eq
    refine ⟨⟨rests, Or.inr ⟨rfl, same⟩⟩, fun alarm => ?_⟩
    -- Only captures and requests wait, and no timer is set for these.
    have waits := holds.waits
    cases leaf with
    | connectionError => cases alarm; exact absurd waits (by decide)
    | error => cases alarm; exact absurd waits (by decide)
    | _ => cases alarm
  | @leads after target does leads =>
    rw [← does.keeps.watch_eq] at tended
    have armed : Armed foreign (some ((chart driver).transition leaf target after).1)
        (watch ((chart driver).transition leaf target after).2) :=
      (alarm_carries driver foreign).transition (shallow driver) tended
    refine ⟨⟨?_, Or.inl armed⟩, fun _ => armed⟩
    rw [transition_leaf]
    exact settled_rests target

variable (driver) in
theorem moved_processAll (events : List Event) (moved : Moved foreign start run)
    (tended : Tended foreign (some start.1) (watch start.2)) :
    Moved foreign start (events.foldl (chart driver).process run) := by
  induction events generalizing run with
  | nil => exact moved
  | cons event rest ih =>
    obtain ⟨leaf, scope⟩ := run
    have outcome := outcome driver moved.rests event scope
    exact ih (moved.trans (outcome.moved moved.rests (moved.tended tended)).1)

variable (driver) in
theorem moved_replayHeld (moved : Moved foreign start run)
    (tended : Tended foreign (some start.1) (watch start.2)) (rounds : Nat) :
    Moved foreign start ((chart driver).replayHeld rounds run) :=
  Chart.replayHeld_induction (Moved foreign start)
    (fun leaf scope _ before => by
      have emptied : Moved foreign start (leaf, { scope with replay := false, held := .empty }) :=
        ⟨before.rests, before.change⟩
      exact moved_processAll driver scope.held.items emptied tended)
    moved

theorem Moved.armed (moved : Moved foreign start run)
    (armed : Armed foreign (some start.1) (watch start.2)) :
    Armed foreign (some run.1) (watch run.2) := by
  rcases moved.change with armed | same
  · exact armed
  · rw [same.1, same.2]; exact armed

/-- A machine rests in a state once it has been started. -/
structure Placed (machine : Machine State (Memory δ)) : Prop where
  rests : machine.started = true → machine.leaf.rests
  outside : machine.started = false → machine.leaf = .super

variable (driver) in
theorem moved_startRun {machine : Machine State (Memory δ)} (placed : Placed machine)
    (timers : Timers) (now : Nat)
    (tended : Tended foreign (some machine.leaf) (watch (machine.scope timers now))) :
    Moved foreign (machine.leaf, machine.scope timers now)
      ((chart driver).startRun machine timers now) := by
  unfold Chart.startRun
  split
  · next started => exact .refl (placed.rests started)
  · next unstarted =>
    have off : alarm? (some machine.leaf) = none := by
      rw [placed.outside (Bool.eq_false_iff.mpr unstarted)]
      rfl
    have outside : Armed foreign none (watch (machine.scope timers now)) :=
      ((tended.idle off).elsewhere rfl).armed tended.known
    have entered := (alarm_carries driver foreign).enter_chart (shallow driver) outside
    exact moved_replayHeld driver ⟨rfl, Or.inl entered⟩ tended _

variable (driver) in
/-- A dispatch sets the timer anew if it is about the event of the timer. -/
theorem moved_dispatch {machine : Machine State (Memory δ)} (placed : Placed machine)
    (timers : Timers) (now : Nat)
    (tended : Tended foreign (some machine.leaf) (watch (machine.scope timers now)))
    (event : Event) :
    let run := (chart driver).replayHeld Limits.replayRounds
      ((chart driver).process ((chart driver).startRun machine timers now) event)
    Moved foreign (machine.leaf, machine.scope timers now) run ∧
      (machine.leaf.alarm? = some event → Armed foreign (some run.1) (watch run.2)) := by
  have started := moved_startRun driver placed timers now tended
  have outcome := outcome driver started.rests event ((chart driver).startRun machine timers now).2
  obtain ⟨processed, rings⟩ := outcome.moved started.rests (started.tended tended)
  have replayed := moved_replayHeld driver (.refl processed.rests)
    (processed.tended (started.tended tended)) Limits.replayRounds
  refine ⟨(started.trans processed).trans replayed, fun alarm => replayed.armed ?_⟩
  -- A machine that had to be started first has set its timer meanwhile, if it needs one.
  rcases started.change with armed | same
  · exact processed.armed armed
  · exact rings (by rw [same.1]; exact alarm)

end Events

end Camera

end Tether
