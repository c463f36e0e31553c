import Mathlib.Logic.Relation
import Tether.Proofs.Handshake.Agreement
import Tether.Proofs.Intervalometer.Turn

/-!
# A stop that follows a request

A client that asks for the intervalometer speaks to both machines at once, but the request reaches
the intervalometer by way of the mode controller only, while the stop reaches it directly. So a stop
ends the sequence only if the mode controller has taken the request before the stop is posted: then
the request to begin is in the mailbox of the intervalometer before the stop is. Otherwise the stop
comes first, nobody minds it, and the sequence begins afterwards (`stop_after_request`,
`stop_overtakes`).

Apart from the posts of the client the machines are left alone: they take their events in any order,
and their timers fire at any time (`Quiet`). Where the request and the stop are is told by the stage
(`Stage`), and what becomes of the deadline by the watch (`Watched`).
-/

namespace Tether

namespace Mode

/-- The timers that the mode controller sets are heartbeats. -/
def Beats (timers : Timers) (scope : Scope State Memory) : Prop :=
  ∀ timer ∈ scope.timers.pending, timer ∈ timers.pending ∨ timer.event = .heartbeat

theorem armHeartbeat_beats {timers : Timers} {scope : Scope State Memory}
    (beats : Beats timers scope) : Beats timers (armHeartbeat scope) := by
  intro timer pending
  rw [armHeartbeat, Scope.schedule_timers] at pending
  rcases Timers.mem_place.mp pending with rfl | older
  · exact Or.inr rfl
  · exact beats timer older

theorem beats_preserves (timers : Timers) : chart.Preserves (Beats timers) where
  ask leaf state signal scope beats := by
    have asked : Beats timers (scope.record (.asked leaf state signal)) := beats
    cases state with
    | super =>
      show Beats timers (super _ signal).1
      unfold super
      split
      · exact armHeartbeat_beats asked
      · exact asked
      · exact asked
      · exact armHeartbeat_beats asked
      · exact asked
      · exact asked
    | selection =>
      show Beats timers (selection _ signal).1
      unfold selection
      split <;> exact asked
    | running =>
      show Beats timers (running _ signal).1
      unfold running
      split <;> exact asked
  warn _ _ beats := beats
  take beats := beats

end Mode

namespace Duo

/-! ## Left alone -/

/-- A client posts an event. -/
def post (duo : Duo) (event : Event) (topic : Topic) : Duo :=
  { duo with traffic := duo.traffic.post event topic }

/-- A timer fires. -/
def fire (duo : Duo) (timer : Timer) : Duo :=
  let service := duo.traffic.service
  { duo with
    traffic := (duo.traffic.withService
      { service with timers := service.timers.remove timer.id }).post timer.event timer.topic }

/-- Whether there is room for one more event in the mailboxes that a topic leads to. -/
def Holds (duo : Duo) (topic : Topic) : Prop :=
  ∀ party : Party, topic ∈ party.topics → (duo.queue party).length < Limits.mailbox

/-- What happens as long as nobody else posts anything: the machines take their events, and their
timers fire. -/
inductive Quiet : Duo → Duo → Prop where
  | mode {duo : Duo} {event : Event} {rest : Traffic Party} (now : Nat)
      (taken : duo.traffic.take? .mode = some (event, rest))
      (room : { duo with traffic := rest }.HasRoom .mode (duo.modeTurn now (.dispatch event))) :
      Quiet duo ({ duo with traffic := rest }.absorbMode (duo.modeTurn now (.dispatch event)))
  | meter {duo : Duo} {event : Event} {rest : Traffic Party} (now : Nat)
      (taken : duo.traffic.take? .meter = some (event, rest))
      (room : { duo with traffic := rest }.HasRoom .meter (duo.meterTurn now (.dispatch event))) :
      Quiet duo ({ duo with traffic := rest }.absorbMeter (duo.meterTurn now (.dispatch event)))
  | heartbeat {duo : Duo} {timer : Timer}
      (pending : timer ∈ duo.traffic.service.timers.pending) (event : timer.event = .heartbeat)
      (topic : timer.topic = .heartbeat) (room : duo.Holds .heartbeat) :
      Quiet duo (duo.fire timer)
  | deadline {duo : Duo} {timer : Timer}
      (pending : timer ∈ duo.traffic.service.timers.pending)
      (event : timer.event = .intervalometerDeadline) (topic : timer.topic = .modeFsm)
      (room : duo.Holds .modeFsm) : Quiet duo (duo.fire timer)

/-- Whether a deadline of the intervalometer is pending. -/
def Rings (timers : Timers) : Prop :=
  ∃ timer ∈ timers.pending, timer.event = .intervalometerDeadline

/-- Both machines rest: no mode has been chosen, nothing is queued, no deadline is pending. -/
structure Idle (duo : Duo) : Prop where
  sound : Sound duo
  selection : duo.mode.leaf = .selection
  ready : duo.meter.leaf = .ready
  unnoted : duo.meter.memory.deadline = none
  drained : ∀ party, duo.queue party = []
  still : ¬Rings duo.traffic.service.timers

/-! ## Stages -/

/-- Whether an event that is queued for a machine matters here. -/
def matters : Party → Event → Bool
  | .mode, .runIntervalometer .. => true
  | .mode, .modeStopped => true
  | .mode, _ => false
  | .meter, .runIntervalometer .. => false
  | .meter, .intervalometerDeadline => false
  | .meter, _ => true

/-- What is queued for a machine and matters to it, oldest first. -/
def news (duo : Duo) (party : Party) : List Event :=
  (duo.queue party).filter (matters party)

/-- Whether the client has asked for a stop, and whether the stop is behind the request. -/
inductive Outlook where
  | unasked
  | behind
  | ahead
deriving DecidableEq

/-- Where the request and the stop are: the outlook, whether the sequence has begun, and for each
machine its state and what is queued for it that matters. -/
inductive Stage (interval total : Int32) : Outlook → Bool → Mode.State → List Event →
    Intervalometer.State → List Event → Prop where
  | asked : Stage interval total .unasked false .selection [.runIntervalometer interval total]
      .ready []
  | handed : Stage interval total .unasked false .running []
      .ready [.intervalometerStart interval total]
  | going : Stage interval total .unasked true .running [] .capturing []
  | followed : Stage interval total .behind false .running []
      .ready [.intervalometerStart interval total, .stopMode]
  | ending : Stage interval total .behind true .running [] .capturing [.stopMode]
  | ended : Stage interval total .behind true .running [.modeStopped] .ready []
  | closed : Stage interval total .behind true .selection [] .ready []
  | outrun : Stage interval total .ahead false .selection [.runIntervalometer interval total]
      .ready [.stopMode]
  | crossed : Stage interval total .ahead false .running []
      .ready [.stopMode, .intervalometerStart interval total]
  | unheeded : Stage interval total .ahead false .selection [.runIntervalometer interval total]
      .ready []
  | late : Stage interval total .ahead false .running []
      .ready [.intervalometerStart interval total]
  | lasting : Stage interval total .ahead true .running [] .capturing []

section Stages

variable {interval total : Int32} {outlook : Outlook} {begun : Bool} {control : Mode.State}
  {leaf : Intervalometer.State} {toMode toMeter : List Event} {event : Event}

/-- The mode controller takes the first event that matters to it. -/
theorem Stage.mode
    (stage : Stage interval total outlook begun control (event :: toMode) leaf toMeter) :
    Stage interval total outlook begun (Mode.next control (.dispatch event)) toMode leaf
      (toMeter ++ (Mode.said control event .meter).filter (matters .meter)) := by
  cases stage with
  | asked => exact .handed
  | ended => exact .closed
  | outrun => exact .crossed
  | unheeded => exact .late

theorem switch?_of_idle (idle : matters .mode event = false) (state : Mode.State) :
    Mode.switch? state event = none := by
  refine Option.eq_none_iff_forall_ne_some.mpr fun target found => ?_
  cases Mode.switches_of_switch? found with
  | request => cases idle
  | report => cases idle

/-- The client asks for a stop. -/
theorem Stage.stop (stage : Stage interval total .unasked begun control toMode leaf toMeter) :
    Stage interval total (if control = .running then .behind else .ahead) begun control toMode leaf
      (toMeter ++ [.stopMode]) := by
  cases stage with
  | asked => exact .outrun
  | handed => exact .followed
  | going => exact .ending

end Stages

/-! ## The deadline -/

/-- What is known of the deadline: a pending one is the noted one, and once its event is queued none
is pending. Before the sequence begins there is nothing of it. -/
structure Watched (interval total : Int32) (begun : Bool) (leaf : Intervalometer.State)
    (memory : Intervalometer.Memory) (timers : Timers) (queue : List Event) : Prop where
  noted : ∀ timer ∈ timers.pending, timer.event = .intervalometerDeadline →
    memory.deadline = some timer.id
  fired : .intervalometerDeadline ∈ queue → ¬Rings timers
  idle : leaf.isInside = false → memory.deadline = none
  fresh : begun = false → leaf = .ready ∧ .intervalometerDeadline ∉ queue
  course : leaf.isInside = true →
    memory.interval = interval ∧ memory.total = total ∧ memory.captures = 0

namespace Watched

variable {interval total : Int32} {begun : Bool} {leaf : Intervalometer.State}
  {memory : Intervalometer.Memory} {timers later : Timers} {queue rest : List Event}

theorem still (watched : Watched interval total begun leaf memory timers queue)
    (outside : leaf.isInside = false) : ¬Rings timers := by
  rintro ⟨timer, pending, event⟩
  have noted := watched.noted timer pending event
  rw [watched.idle outside] at noted
  cases noted

/-- Deadlines and their events go away, or others come. -/
theorem mono (watched : Watched interval total begun leaf memory timers queue)
    (fewer : ∀ timer ∈ later.pending, timer.event = .intervalometerDeadline →
      timer ∈ timers.pending)
    (kept : .intervalometerDeadline ∈ rest → .intervalometerDeadline ∈ queue) :
    Watched interval total begun leaf memory later rest where
  noted timer pending event := watched.noted timer (fewer timer pending event) event
  fired queued := fun ⟨timer, pending, event⟩ =>
    watched.fired (kept queued) ⟨timer, fewer timer pending event, event⟩
  idle := watched.idle
  fresh early := ⟨(watched.fresh early).1, fun queued => (watched.fresh early).2 (kept queued)⟩
  course := watched.course

/-- The noted timer fires. -/
theorem fire (watched : Watched interval total begun leaf memory timers queue) {timer : Timer}
    (pending : timer ∈ timers.pending) (event : timer.event = .intervalometerDeadline) :
    Watched interval total begun leaf memory (timers.remove timer.id)
      (queue ++ [.intervalometerDeadline]) := by
  have none : ¬Rings (timers.remove timer.id) := by
    rintro ⟨other, still, expiry⟩
    rw [Timers.remove_pending] at still
    obtain ⟨older, different⟩ := List.mem_filter.mp still
    have same := (watched.noted timer pending event).symm.trans (watched.noted other older expiry)
    exact bne_iff_ne.mp different (Option.some.inj same).symm
  refine ⟨fun other still expiry => absurd ⟨other, still, expiry⟩ none, fun _ => none,
    watched.idle, fun early => ?_, watched.course⟩
  have ready := (watched.fresh early).1
  exact absurd ⟨timer, pending, event⟩ (watched.still (by rw [ready]; rfl))

/-- The sequence begins. -/
theorem begin (watched : Watched interval total false leaf memory timers queue) (now : Nat)
    (kept : .intervalometerDeadline ∈ rest → .intervalometerDeadline ∈ queue) :
    Watched interval total true .capturing
      ((memory.asked interval total).shooting timers.nextId)
      (Intervalometer.renewed (memory.asked interval total) timers now) rest := by
  obtain ⟨ready, unqueued⟩ := watched.fresh rfl
  have none : ¬Rings timers := watched.still (by rw [ready]; rfl)
  refine ⟨fun timer pending event => ?_, fun queued => absurd (kept queued) unqueued,
    nofun, nofun, fun _ => ⟨rfl, rfl, rfl⟩⟩
  rcases Intervalometer.mem_renewed pending with older | ⟨positive, number⟩
  · exact absurd ⟨timer, (Timers.mem_without.mp older).1, event⟩ none
  · simp only [Intervalometer.Memory.shooting, positive, if_true, number]

/-- The end of the interval is noted, whose timer has fired. -/
theorem note (watched : Watched interval total begun leaf memory timers queue)
    (queued : .intervalometerDeadline ∈ queue) :
    Watched interval total begun leaf memory.lapsed timers rest := by
  have none := watched.fired queued
  refine ⟨fun timer pending event => absurd ⟨timer, pending, event⟩ none, fun _ => none,
    fun _ => rfl, fun early => absurd queued (watched.fresh early).2, watched.course⟩

/-- A stop cancels the noted timer. -/
theorem stop (watched : Watched interval total begun leaf memory timers queue)
    (kept : .intervalometerDeadline ∈ rest → .intervalometerDeadline ∈ queue) :
    Watched interval total begun .ready memory.finished (timers.without memory.deadline) rest := by
  have none : ¬Rings (timers.without memory.deadline) := by
    rintro ⟨timer, pending, event⟩
    obtain ⟨older, unnoted⟩ := Timers.mem_without.mp pending
    exact unnoted (watched.noted timer older event)
  exact ⟨fun timer pending event => absurd ⟨timer, pending, event⟩ none, fun _ => none,
    fun _ => rfl, fun early =>
      ⟨rfl, fun queued => (watched.fresh early).2 (kept queued)⟩, nofun⟩

end Watched

/-! ## Turns of the intervalometer -/

section Meter

open Intervalometer (Turned)

variable {interval total : Int32} {outlook : Outlook} {begun : Bool} {control : Mode.State}
  {leaf : Intervalometer.State} {toMode rest : List Event} {event : Event}
  {scope : Scope Intervalometer.State Intervalometer.Memory}
  {run : Intervalometer.State × Scope Intervalometer.State Intervalometer.Memory}

/-- The intervalometer takes an event: the stage moves on if it matters, and the watch is kept. -/
theorem Stage.turned
    (stage : Stage interval total outlook begun control toMode leaf
      ((event :: rest).filter (matters .meter)))
    (watched : Watched interval total begun leaf scope.memory scope.timers (event :: rest))
    (turned : Turned scope leaf event run) :
    ∃ later, Stage interval total outlook later control
        (toMode ++ (Intervalometer.told leaf.isInside run.1.isInside .mode).filter (matters .mode))
        run.1 (rest.filter (matters .meter)) ∧
      Watched interval total later run.1 run.2.memory run.2.timers rest := by
  have kept : .intervalometerDeadline ∈ rest → .intervalometerDeadline ∈ event :: rest :=
    List.mem_cons_of_mem event
  cases turned with
  | stay ignored changes =>
    rw [Intervalometer.told_self, changes.memory, changes.timers]
    refine ⟨begun, ?_, watched.mono (fun _ pending _ => pending) kept⟩
    simp only [silence, List.filter_nil, List.append_nil]
    cases matter : matters .meter event with
    | false => rwa [List.filter_cons_of_neg (by simp [matter])] at stage
    | true =>
      rw [List.filter_cons_of_pos matter] at stage
      generalize rest.filter (matters .meter) = others at stage ⊢
      -- What matters is the stop, in `Ready`.
      cases stage with
      | outrun => exact .unheeded
      | crossed => exact .late
      | _ => cases ignored
  | begin changes =>
    rw [changes.memory, changes.timers]
    rw [List.filter_cons_of_pos rfl] at stage
    generalize rest.filter (matters .meter) = others at stage ⊢
    cases stage with
    | handed => exact ⟨true, .going, watched.begin _ kept⟩
    | followed => exact ⟨true, .ending, watched.begin _ kept⟩
    | late => exact ⟨true, .lasting, watched.begin _ kept⟩
  | stop inside changes =>
    rw [changes.memory, changes.timers]
    rw [List.filter_cons_of_pos rfl] at stage
    generalize rest.filter (matters .meter) = others at stage ⊢
    cases stage with
    | ending => exact ⟨true, .ended, watched.stop kept⟩
    | outrun => cases inside
    | crossed => cases inside
  | note busy changes =>
    rw [Intervalometer.told_self, changes.memory, changes.timers]
    refine ⟨begun, ?_, watched.note List.mem_cons_self⟩
    rw [List.filter_cons_of_neg (by decide)] at stage
    simpa only [silence, List.filter_nil, List.append_nil] using stage
  -- No other event that matters is queued, and no other state is reached.
  | finish | again | pause =>
    rw [List.filter_cons_of_pos rfl] at stage
    generalize rest.filter (matters .meter) = others at stage
    cases stage
  | park busy changes =>
    rw [List.filter_cons_of_pos rfl] at stage
    generalize rest.filter (matters .meter) = others at stage
    cases stage
  | next | retry | rejoin =>
    generalize List.filter (matters .meter) _ = others at stage
    cases stage

end Meter

/-! ## Runs -/

/-- Where the two machines stand. -/
structure Standing (interval total : Int32) (outlook : Outlook) (duo : Duo) : Prop where
  sound : Sound duo
  stands : ∃ begun,
    Stage interval total outlook begun duo.mode.leaf (duo.news .mode) duo.meter.leaf
        (duo.news .meter) ∧
      Watched interval total begun duo.meter.leaf duo.meter.memory duo.traffic.service.timers
        (duo.queue .meter)

section Runs

variable {interval total : Int32} {outlook : Outlook} {duo : Duo}

theorem Stage.rests {begun : Bool} {control : Mode.State} {leaf : Intervalometer.State}
    {toMode toMeter : List Event}
    (stage : Stage interval total outlook begun control toMode leaf toMeter) :
    control ≠ .super ∧ leaf ≠ .super := by
  cases stage <;> decide

theorem said_mode (state : Mode.State) (event : Event) : Mode.said state event .mode = [] := by
  unfold Mode.said
  split
  · contradiction
  · rfl

theorem told_meter (before after : Bool) : Intervalometer.told before after .meter = [] := by
  cases before <;> cases after <;> rfl

/-- The mode controller speaks of no deadline. -/
theorem said_deadline (state : Mode.State) (event : Event) (party : Party) :
    .intervalometerDeadline ∉ Mode.said state event party := by
  intro spoken
  unfold Mode.said at spoken
  split at spoken
  · cases List.mem_singleton.mp spoken
  · cases spoken

/-- The mode controller sets no deadline. -/
theorem mem_of_modeTurn {now : Nat} {order : Order} {timer : Timer}
    (pending : timer ∈ (duo.modeTurn now order).timers.pending)
    (expiry : timer.event = .intervalometerDeadline) :
    timer ∈ duo.traffic.service.timers.pending := by
  obtain ⟨run, turn, beats⟩ := (Mode.beats_preserves duo.traffic.service.timers).obey
    Mode.shallow duo.mode duo.traffic.service.timers now order fun _ => Or.inl
  rw [modeTurn, turn] at pending
  refine (beats timer pending).resolve_right fun beat => ?_
  rw [expiry] at beat
  cases beat

theorem Standing.mode (standing : Standing interval total outlook duo) {event : Event}
    {rest : Traffic Party} {now : Nat} (taken : duo.traffic.take? .mode = some (event, rest))
    (room : { duo with traffic := rest }.HasRoom .mode (duo.modeTurn now (.dispatch event))) :
    Standing interval total outlook
      ({ duo with traffic := rest }.absorbMode (duo.modeTurn now (.dispatch event))) := by
  obtain ⟨sound, begun, stage, watched⟩ := standing
  obtain ⟨-, -, wiring⟩ := Traffic.of_take? taken
  obtain ⟨placed, leaf, said⟩ :=
    Mode.turn_eq sound.mode duo.traffic.service.timers now (.dispatch event)
  have based : Mode.base duo.mode = duo.mode.leaf :=
    if_pos (eq_true_of_ne_false fun fresh => stage.rests.1 (sound.mode.begun fresh))
  rw [based] at leaf said
  let after := { duo with traffic := rest }.absorbMode (duo.modeTurn now (.dispatch event))
  have exchanged : Exchanged .mode (.dispatch event) _ duo.queue after.queue :=
    exchanged_dispatch sound.wired taken room rfl
  obtain ⟨⟨left, queued, own⟩, others⟩ := exchanged
  have silent : heard .mode .mode (duo.modeTurn now (.dispatch event)).journal = [] :=
    (said .mode).trans (said_mode _ _)
  have toMode : after.queue .mode = left := by rw [own, silent, List.append_nil]
  have toMeter : after.queue .meter = duo.queue .meter ++ Mode.said duo.mode.leaf event .meter := by
    rw [others .meter nofun]
    exact congrArg (duo.queue .meter ++ ·) (said .meter)
  refine ⟨⟨(wiring sound.wired).absorb .mode _, placed, sound.meter⟩, begun, ?_, ?_⟩
  · rw [news, queued, Order.taken, List.singleton_append] at stage
    show Stage _ _ _ _ (duo.modeTurn now (.dispatch event)).machine.leaf
      ((after.queue .mode).filter (matters .mode)) duo.meter.leaf
      ((after.queue .meter).filter (matters .meter))
    rw [toMode, toMeter, List.filter_append,
      show (duo.modeTurn now (.dispatch event)).machine.leaf = _ from leaf]
    cases matter : matters .mode event with
    | false =>
      have idle := switch?_of_idle matter duo.mode.leaf
      rw [List.filter_cons_of_neg (by simp [matter])] at stage
      rw [Mode.next, idle, Mode.said_eq_silence idle]
      simpa [silence, news] using stage
    | true =>
      rw [List.filter_cons_of_pos matter] at stage
      exact stage.mode
  · show Watched _ _ _ _ _ (rest.absorb .mode _).service.timers (after.queue .meter)
    rw [toMeter]
    refine watched.mono (fun timer pending expiry => ?_) fun member =>
      (List.mem_append.mp member).resolve_right (said_deadline _ _ _)
    rw [Traffic.service_absorb] at pending
    exact mem_of_modeTurn pending expiry

theorem Standing.meter (standing : Standing interval total outlook duo) {event : Event}
    {rest : Traffic Party} {now : Nat} (taken : duo.traffic.take? .meter = some (event, rest))
    (room : { duo with traffic := rest }.HasRoom .meter (duo.meterTurn now (.dispatch event))) :
    Standing interval total outlook
      ({ duo with traffic := rest }.absorbMeter (duo.meterTurn now (.dispatch event))) := by
  obtain ⟨sound, begun, stage, watched⟩ := standing
  obtain ⟨-, -, wiring⟩ := Traffic.of_take? taken
  have started : duo.meter.started = true :=
    eq_true_of_ne_false fun fresh => stage.rests.2 (sound.meter.begun fresh)
  obtain ⟨placed, said, -⟩ :=
    Intervalometer.turn_told sound.meter duo.traffic.service.timers now (.dispatch event)
  obtain ⟨scope, run, -, begins, turn, turned⟩ :=
    Intervalometer.turned_obey sound.meter duo.traffic.service.timers now (.dispatch event)
  have memory : scope.memory = duo.meter.memory := begins.memory.trans (if_pos started)
  have timers : scope.timers = duo.traffic.service.timers := begins.timers
  change Intervalometer.Turned scope (if duo.meter.started then duo.meter.leaf else .ready) event
    run at turned
  rw [if_pos started] at turned
  let after := { duo with traffic := rest }.absorbMeter (duo.meterTurn now (.dispatch event))
  have exchanged : Exchanged .meter (.dispatch event) _ duo.queue after.queue :=
    exchanged_dispatch sound.wired taken room rfl
  obtain ⟨⟨left, queued, own⟩, others⟩ := exchanged
  have speaks (party : Party) : heard party .meter (duo.meterTurn now (.dispatch event)).journal =
      Intervalometer.told duo.meter.leaf.isInside run.1.isInside party := by
    refine (said party).trans ?_
    rw [turn]
    rfl
  have toMeter : after.queue .meter = left := by
    rw [own, speaks, told_meter, List.append_nil]
  have toMode : after.queue .mode =
      duo.queue .mode ++ Intervalometer.told duo.meter.leaf.isInside run.1.isInside .mode := by
    rw [others .mode nofun, speaks]
  -- The turn as one of the intervalometer alone.
  change Stage _ _ _ _ _ (duo.news .mode) _ ((duo.queue .meter).filter (matters .meter)) at stage
  rw [queued, Order.taken, List.singleton_append] at stage
  rw [queued, Order.taken, List.singleton_append, ← memory, ← timers] at watched
  obtain ⟨later, moved, kept⟩ := stage.turned watched turned
  refine ⟨⟨(wiring sound.wired).absorb .meter _, sound.mode, placed⟩, later, ?_, ?_⟩
  · show Stage _ _ _ _ duo.mode.leaf ((after.queue .mode).filter (matters .mode))
      (duo.meterTurn now (.dispatch event)).machine.leaf
      ((after.queue .meter).filter (matters .meter))
    rw [toMode, toMeter, List.filter_append, meterTurn, turn]
    exact moved
  · show Watched _ _ _ (duo.meterTurn now (.dispatch event)).machine.leaf
      (duo.meterTurn now (.dispatch event)).machine.memory (rest.absorb .meter _).service.timers
      (after.queue .meter)
    rw [toMeter, Traffic.service_absorb, meterTurn, turn]
    exact kept

/-- An event is posted for both machines. -/
theorem queue_post (sound : Sound duo) {topic : Topic} (room : duo.Holds topic) (event : Event)
    (party : Party) : (duo.post event topic).queue party =
      duo.queue party ++ if topic ∈ party.topics then [event] else [] :=
  Traffic.items_post sound.wired event topic room party

theorem Standing.fire (standing : Standing interval total outlook duo) {timer : Timer}
    (pending : timer ∈ duo.traffic.service.timers.pending) (room : duo.Holds timer.topic)
    (own : timer.event = .heartbeat ∧ timer.topic = .heartbeat ∨
      timer.event = .intervalometerDeadline ∧ timer.topic = .modeFsm) :
    Standing interval total outlook (duo.fire timer) := by
  obtain ⟨sound, begun, stage, watched⟩ := standing
  let timers := duo.traffic.service.timers.remove timer.id
  let removed : Duo :=
    { duo with traffic := duo.traffic.withService { duo.traffic.service with timers := timers } }
  have left : Sound removed := ⟨sound.wired.of_subscriptions rfl, sound.mode, sound.meter⟩
  have filled (party : Party) : (duo.fire timer).queue party =
      duo.queue party ++ if timer.topic ∈ party.topics then [timer.event] else [] :=
    queue_post left room timer.event party
  have after : (duo.fire timer).traffic.service.timers = timers :=
    congrArg TimerService.timers (Traffic.service_post removed.traffic timer.event timer.topic)
  have fewer : ∀ other ∈ timers.pending, other ∈ duo.traffic.service.timers.pending := by
    intro other still
    rw [Timers.remove_pending] at still
    exact (List.mem_filter.mp still).1
  refine ⟨⟨left.wired.post timer.event timer.topic, sound.mode, sound.meter⟩, begun, ?_, ?_⟩
  · -- What a timer sends matters to neither machine here.
    have nothing (party : Party) :
        (if timer.topic ∈ party.topics then [timer.event] else []).filter (matters party) =
          [] := by
      rcases own with ⟨event, topic⟩ | ⟨event, topic⟩
      · rw [event, topic]
        cases party <;> rfl
      · rw [event, topic]
        cases party <;> rfl
    have same (party : Party) : (duo.fire timer).news party = duo.news party := by
      rw [news, filled, List.filter_append, nothing, List.append_nil, news]
    rw [same, same]
    exact stage
  · rw [after, filled]
    rcases own with ⟨event, topic⟩ | ⟨event, topic⟩
    · have unheard : Topic.heartbeat ∉ Party.meter.topics := by decide
      rw [topic, if_neg unheard, List.append_nil]
      exact watched.mono (fun other still _ => fewer other still) id
    · have heard : Topic.modeFsm ∈ Party.meter.topics := by decide
      rw [topic, event, if_pos heard]
      exact watched.fire pending event

theorem Standing.quiet (standing : Standing interval total outlook duo) {after : Duo}
    (step : Quiet duo after) : Standing interval total outlook after := by
  cases step with
  | mode now taken room => exact standing.mode taken room
  | meter now taken room => exact standing.meter taken room
  | heartbeat pending event topic room =>
    exact standing.fire pending (topic ▸ room) (Or.inl ⟨event, topic⟩)
  | deadline pending event topic room =>
    exact standing.fire pending (topic ▸ room) (Or.inr ⟨event, topic⟩)

theorem Standing.quietly (standing : Standing interval total outlook duo) {after : Duo}
    (steps : Relation.ReflTransGen Quiet duo after) : Standing interval total outlook after := by
  induction steps with
  | refl => exact standing
  | tail _ step ih => exact ih.quiet step

/-- Both machines hear what a client posts. -/
theorem queue_remote (sound : Sound duo) (room : duo.Holds .remoteCmd) (event : Event)
    (party : Party) : (duo.post event .remoteCmd).queue party = duo.queue party ++ [event] := by
  have listens : .remoteCmd ∈ party.topics := by cases party <;> decide
  rw [queue_post sound room, if_pos listens]

theorem timers_post (duo : Duo) (event : Event) (topic : Topic) :
    (duo.post event topic).traffic.service.timers = duo.traffic.service.timers :=
  congrArg TimerService.timers (Traffic.service_post duo.traffic event topic)

/-- A client asks idle machines for the intervalometer. -/
theorem Idle.ask (idle : Idle duo) (interval total : Int32) :
    Standing interval total .unasked (duo.post (.runIntervalometer interval total) .remoteCmd) := by
  have room : duo.Holds .remoteCmd := by
    intro party _
    rw [idle.drained party]
    decide
  have filled (party : Party) :
      (duo.post (.runIntervalometer interval total) .remoteCmd).queue party =
        [.runIntervalometer interval total] := by
    rw [queue_remote idle.sound room, idle.drained, List.nil_append]
  refine ⟨⟨idle.sound.wired.post _ _, idle.sound.mode, idle.sound.meter⟩, false, ?_, ?_⟩
  · rw [news, news, filled, filled]
    show Stage _ _ _ _ duo.mode.leaf _ duo.meter.leaf _
    rw [idle.selection, idle.ready]
    exact .asked
  · rw [filled, timers_post]
    refine ⟨fun timer pending event => absurd ⟨timer, pending, event⟩ idle.still, ?_,
      fun _ => idle.unnoted, fun _ => ⟨idle.ready, by simp⟩, fun inside => ?_⟩
    · intro queued
      cases List.mem_singleton.mp queued
    · change duo.meter.leaf.isInside = true at inside
      rw [idle.ready] at inside
      cases inside

/-- The client asks for a stop. -/
theorem Standing.stop (standing : Standing interval total .unasked duo)
    (room : duo.Holds .remoteCmd) :
    Standing interval total (if duo.mode.leaf = .running then .behind else .ahead)
      (duo.post .stopMode .remoteCmd) := by
  obtain ⟨sound, begun, stage, watched⟩ := standing
  have filled (party : Party) := queue_remote sound room .stopMode party
  refine ⟨⟨sound.wired.post _ _, sound.mode, sound.meter⟩, begun, ?_, ?_⟩
  · rw [news, news, filled, filled, List.filter_append, List.filter_append]
    show Stage _ _ _ _ duo.mode.leaf (duo.news .mode ++ []) duo.meter.leaf (duo.news .meter ++ _)
    rw [List.append_nil]
    exact stage.stop
  · rw [filled, timers_post]
    exact watched.mono (fun _ pending _ => pending) fun queued => by simpa using queued

/-- Idle machines are asked for the intervalometer and then for a stop, and nothing else is posted
from outside. Once both mailboxes are empty, the sequence has been stopped and its deadline is gone
if the mode controller had taken the request before the stop was posted. Otherwise the stop has come
first, and the sequence goes on. -/
theorem stop_after_request {asked later : Duo} (idle : Idle duo) (interval total : Int32)
    (before : Relation.ReflTransGen Quiet
      (duo.post (.runIntervalometer interval total) .remoteCmd) asked)
    (room : asked.Holds .remoteCmd)
    (after : Relation.ReflTransGen Quiet (asked.post .stopMode .remoteCmd) later)
    (drained : ∀ party, later.queue party = []) :
    (asked.mode.leaf = .running →
      later.mode.leaf = .selection ∧ later.meter.leaf = .ready ∧
        ¬Rings later.traffic.service.timers) ∧
    (asked.mode.leaf ≠ .running →
      later.mode.leaf = .running ∧ later.meter.leaf = .capturing ∧
        later.meter.memory.interval = interval ∧ later.meter.memory.total = total ∧
          later.meter.memory.captures = 0) := by
  have standing := (((idle.ask interval total).quietly before).stop room).quietly after
  obtain ⟨-, begun, stage, watched⟩ := standing
  rw [news, news, drained, drained] at stage
  simp only [List.filter_nil] at stage
  generalize later.mode.leaf = control at stage ⊢
  generalize later.meter.leaf = leaf at stage watched ⊢
  refine ⟨fun taken => ?_, fun untaken => ?_⟩
  · rw [if_pos taken] at stage
    cases stage with
    | closed => exact ⟨rfl, rfl, watched.still rfl⟩
  · rw [if_neg untaken] at stage
    cases stage with
    | lasting => exact ⟨rfl, rfl, watched.course rfl⟩

end Runs

/-- Both machines, just started. -/
def started (heartbeat : Nat) : Duo :=
  let duo := (new heartbeat).absorbMode ((new heartbeat).modeTurn 0 .start)
  duo.absorbMeter (duo.meterTurn 0 .start)

theorem idle_started : Idle (started 1000) where
  sound := by
    have first : Reachable Event.Neutral 1000 _ :=
      .step .initial (@Step.modeStart _ (new 1000) 0 fun party => by
        cases party <;> decide +kernel)
    have second : Reachable Event.Neutral 1000 (started 1000) :=
      first.step (.meterStart 0 fun party => by cases party <;> decide +kernel)
    exact second.sound
  selection := rfl
  ready := rfl
  unnoted := rfl
  drained party := by cases party <;> decide +kernel
  still := by
    rintro ⟨timer, pending, event⟩
    revert timer
    decide +kernel

/-- The mode controller takes the request before the stop is posted. -/
theorem stop_after_request_inOrder :
    ∃ asked later, Relation.ReflTransGen Quiet
        ((started 1000).post (.runIntervalometer 60000 0) .remoteCmd) asked ∧
      Relation.ReflTransGen Quiet (asked.post .stopMode .remoteCmd) later ∧
      asked.mode.leaf = .running ∧ later.mode.leaf = .selection ∧ later.meter.leaf = .ready ∧
      ¬Rings later.traffic.service.timers := by
  have before := Relation.ReflTransGen.refl.tail
    (@Quiet.mode ((started 1000).post (.runIntervalometer 60000 0) .remoteCmd) _ _ 0 rfl
      fun party => by cases party <;> decide +kernel)
  have stopped {asked : Duo} (_ : Relation.ReflTransGen Quiet
      ((started 1000).post (.runIntervalometer 60000 0) .remoteCmd) asked) :
      Relation.ReflTransGen Quiet (asked.post .stopMode .remoteCmd)
        (asked.post .stopMode .remoteCmd) := .refl
  have ignored := (stopped before).tail
    (.meter 0 rfl fun party => by cases party <;> decide +kernel)
  have begun := ignored.tail
    (.meter 0 rfl fun party => by cases party <;> decide +kernel)
  have ended := begun.tail
    (.meter 0 rfl fun party => by cases party <;> decide +kernel)
  have unheeded := ended.tail
    (.mode 0 rfl fun party => by cases party <;> decide +kernel)
  have after := unheeded.tail
    (.mode 0 rfl fun party => by cases party <;> decide +kernel)
  have result := (stop_after_request idle_started 60000 0 before
    (fun party _ => by cases party <;> decide +kernel) after
    fun party => by cases party <;> decide +kernel).1 rfl
  exact ⟨_, _, before, after, rfl, result⟩

/-- The stop is posted at once: the intervalometer takes it before the request to begin. -/
theorem stop_overtakes :
    Idle (started 1000) ∧ ∃ later, Relation.ReflTransGen Quiet
        (((started 1000).post (.runIntervalometer 60000 0) .remoteCmd).post .stopMode .remoteCmd)
        later ∧
      (∀ party, later.queue party = []) ∧ later.mode.leaf = .running ∧
      later.meter.leaf = .capturing ∧ Rings later.traffic.service.timers := by
  have ignored := Relation.ReflTransGen.refl.tail
    (@Quiet.meter
      (((started 1000).post (.runIntervalometer 60000 0) .remoteCmd).post .stopMode .remoteCmd)
      _ _ 0 rfl fun party => by cases party <;> decide +kernel)
  have unheeded := ignored.tail
    (.meter 0 rfl fun party => by cases party <;> decide +kernel)
  have handed := unheeded.tail
    (.mode 0 rfl fun party => by cases party <;> decide +kernel)
  have dropped := handed.tail
    (.mode 0 rfl fun party => by cases party <;> decide +kernel)
  have begun := dropped.tail
    (.meter 0 rfl fun party => by cases party <;> decide +kernel)
  exact ⟨idle_started, _, begun, fun party => by cases party <;> decide +kernel, rfl, rfl, _,
    .tail _ (.head _), rfl⟩

end Duo

end Tether
