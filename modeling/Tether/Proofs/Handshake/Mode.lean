import Tether.Proofs.Handshake.Duo

/-!
# Turns of the mode controller

A turn of the mode controller is told by the state that it begins in and the event (`Mode.turn_eq`):
a request for the intervalometer in manual mode hands over control and starts the intervalometer,
and a report that it has stopped takes control back (`Mode.turn_handover`). Nothing else is heard by
any of the two machines.
-/

namespace Tether

namespace Mode

open Duo

theorem shallow : chart.Shallow := by
  intro state
  cases state <;> rfl

/-- The state that an event leads to, if it leads anywhere. -/
def switch? : State → Event → Option State
  | .selection, .runIntervalometer .. => some .running
  | .running, .modeStopped => some .selection
  | _, _ => none

/-- The two ways from one state to the other. -/
inductive Switches : State → Event → State → Prop where
  | request (interval total : Int32) :
      Switches .selection (.runIntervalometer interval total) .running
  | report : Switches .running .modeStopped .selection

theorem switches_of_switch? {state target : State} {event : Event}
    (found : switch? state event = some target) : Switches state event target := by
  cases state with
  | super => cases found
  | selection =>
    cases event with
    | runIntervalometer interval total => cases found; exact .request interval total
    | _ => cases found
  | running =>
    cases event with
    | modeStopped => cases found; exact .report
    | _ => cases found

/-- What is heard of the mode controller when it processes an event. -/
def said : State → Event → Party → List Event
  | .selection, .runIntervalometer interval total, .meter => [.intervalometerStart interval total]
  | _, _, _ => []

theorem said_eq_silence {state : State} {event : Event} (stays : switch? state event = none) :
    said state event = silence := by
  funext party
  cases state with
  | selection => cases event <;> first | rfl | cases stays
  | _ => rfl

section Handlers

variable (scope : Scope State Memory)

theorem armHeartbeat_tells : Tells .mode silence scope (armHeartbeat scope) :=
  .schedule scope .heartbeat .heartbeat scope.memory.heartbeat

theorem announce_tells : Tells .mode silence scope (announce scope) :=
  .post scope _ modeState_unheard

theorem setControl_tells (control : Control) :
    Tells .mode silence scope (setControl scope control) :=
  (Tells.setMemory scope _).then_silence (announce_tells _)

theorem entry_tells (state : State) :
    Tells .mode silence scope (chart.handle state .entry scope).1 := by
  cases state with
  | super => exact armHeartbeat_tells scope
  | selection => exact setControl_tells scope .manual
  | running => exact .refl scope

theorem exit_tells (state : State) :
    Tells .mode silence scope (chart.handle state .exit scope).1 := by
  cases state <;> exact .refl scope

theorem init_tells (state : State) :
    Tells .mode silence scope (chart.handle state .init scope).1 := by
  cases state <;> exact .refl scope

/-- What a state answers to an event, and what is heard of it. -/
structure Answers (state : State) (event : Event) (before : Scope State Memory)
    (outcome : Scope State Memory × Reaction State) : Prop where
  tells : Tells .mode (said state event) before outcome.1
  leads : ∀ target, outcome.2 = .transition target ↔ switch? state event = some target

theorem super_answers (event : Event) :
    Answers .super event scope (super scope (.event event)) := by
  unfold super
  split
  · next equal => cases equal
  · next equal => cases equal
  · next equal => cases equal
  · exact ⟨armHeartbeat_tells scope, fun _ => ⟨nofun, nofun⟩⟩
  · exact ⟨announce_tells scope, fun _ => ⟨nofun, nofun⟩⟩
  · exact ⟨.refl scope, fun _ => ⟨nofun, nofun⟩⟩

theorem selection_answers (event : Event) :
    Answers .selection event scope (selection scope (.event event)) := by
  unfold selection
  split
  · next equal => cases equal
  · next equal => cases equal
  · next equal => cases equal
  · next interval total equal =>
    cases equal
    refine ⟨(setControl_tells scope .intervalometer).after_silence (Tells.record _ _ ?_), ?_⟩
    · intro party
      cases party <;> rfl
    · intro target
      exact ⟨fun equal => congrArg some (Reaction.transition.inj equal),
        fun equal => congrArg Reaction.transition (Option.some.inj equal)⟩
  · next other equal =>
    cases equal
    have stays : switch? .selection event = none := by
      refine Option.eq_none_iff_forall_ne_some.mpr fun target found => ?_
      cases switches_of_switch? found with
      | request interval total => exact other interval total rfl
    refine ⟨?_, ?_⟩
    · rw [said_eq_silence stays]
      exact .refl scope
    · rw [stays]
      exact fun _ => ⟨nofun, nofun⟩

theorem running_answers (event : Event) :
    Answers .running event scope (running scope (.event event)) := by
  unfold running
  split
  · next equal => cases equal
  · next equal => cases equal
  · next equal => cases equal
  · next equal =>
    cases equal
    refine ⟨.refl scope, fun target => ?_⟩
    exact ⟨fun equal => congrArg some (Reaction.transition.inj equal),
      fun equal => congrArg Reaction.transition (Option.some.inj equal)⟩
  · next other equal =>
    cases equal
    have stays : switch? .running event = none := by
      refine Option.eq_none_iff_forall_ne_some.mpr fun target found => ?_
      cases switches_of_switch? found with
      | report => exact other rfl
    refine ⟨.refl scope, fun target => ?_⟩
    rw [stays]
    exact ⟨nofun, nofun⟩

theorem handle_answers (state : State) (event : Event) :
    Answers state event scope (chart.handle state (.event event) scope) := by
  cases state with
  | super => exact super_answers scope event
  | selection => exact selection_answers scope event
  | running => exact running_answers scope event

end Handlers

/-! ## Turns -/

/-- On the way from one state to another nothing is heard. -/
theorem tells_carries (start : Scope State Memory) (said : Party → List Event) :
    chart.Carries (fun _ _ scope => Tells .mode said start scope)
      (fun _ _ scope => Tells .mode said start scope) where
  leave leaf _ state scope _ tells :=
    tells.then_silence ((Tells.asked scope leaf state .exit).then_silence (exit_tells _ state))
  turn _ tells := tells
  enter leaf _ state scope _ tells :=
    tells.then_silence ((Tells.asked scope leaf state .entry).then_silence (entry_tells _ state))
  init {leaf scope} tells := by
    have asked : Tells .mode said start (chart.ask leaf leaf .init scope).1 :=
      tells.then_silence ((Tells.asked scope leaf leaf .init).then_silence (init_tells _ leaf))
    cases found : chart.ask leaf leaf .init scope with
    | mk after reaction =>
      rw [found] at asked
      cases reaction <;> exact asked
  leaving_warn warning tells := tells.then_silence (.warn _ warning)
  entering_warn warning tells := tells.then_silence (.warn _ warning)

theorem transition_leaf (source : State) {target : State} (rests : target ≠ .super)
    (scope : Scope State Memory) : (chart.transition source target scope).1 = target := by
  cases target with
  | super => exact absurd rfl rests
  | selection => rfl
  | running => rfl

theorem switch?_rests {state target : State} {event : Event}
    (switches : switch? state event = some target) : target ≠ .super := by
  cases switches_of_switch? switches <;> nofun

theorem mem_chain {leaf state : State} (member : state ∈ chart.chain leaf) :
    state = leaf ∨ state = .super := by
  revert member
  cases leaf <;> cases state <;> decide

theorem process_eq {leaf : State} (rests : leaf ≠ .super) (event : Event)
    (scope : Scope State Memory) :
    Tells .mode (said leaf event) scope (chart.process (leaf, scope) event).2 ∧
      (chart.process (leaf, scope) event).1 = (switch? leaf event).getD leaf := by
  refine Chart.process_induction shallow
    (fun cursor asked => Tells .mode silence scope asked ∧
      (cursor = some leaf ∨ switch? leaf event = none))
    (fun run => Tells .mode (said leaf event) scope run.2 ∧
      run.1 = (switch? leaf event).getD leaf)
    ?_ ?_ ⟨.refl scope, Or.inl rfl⟩
  · rintro state asked member ⟨tells, here⟩
    -- The states that are asked are the current one and, if that has nothing to say, the outermost.
    have place : state = leaf ∨ state = .super ∧ switch? leaf event = none := by
      rcases here with equal | stays
      · exact Or.inl (Option.some.inj equal)
      · exact (mem_chain member).imp_right fun above => ⟨above, stays⟩
    have same : switch? state event = switch? leaf event := by
      obtain rfl | ⟨rfl, stays⟩ := place
      · rfl
      · rw [stays]; rfl
    have answers := handle_answers (asked.record (.asked leaf state (.event event))) state event
    have telling :=
      tells.after_silence ((Tells.asked asked leaf state _).after_silence answers.tells)
    cases found : chart.ask leaf state (.event event) asked with
    | mk after reaction =>
      rw [Chart.ask] at found
      rw [found] at answers telling
      have quiet (still : ∀ target, reaction ≠ .transition target) :
          switch? leaf event = none ∧ Tells .mode silence scope after := by
        have stays : switch? state event = none :=
          Option.eq_none_iff_forall_ne_some.mpr fun target switches =>
            still target ((answers.leads target).mpr switches)
        rw [said_eq_silence stays] at telling
        exact ⟨same ▸ stays, telling⟩
      cases reaction with
      | handled =>
        obtain ⟨stays, silent⟩ := quiet (by rintro target ⟨⟩)
        rw [stays, said_eq_silence stays]
        exact ⟨silent, rfl⟩
      | delegate =>
        obtain ⟨stays, silent⟩ := quiet (by rintro target ⟨⟩)
        exact ⟨silent, Or.inr stays⟩
      | transition target =>
        have switches : switch? leaf event = some target := same ▸ (answers.leads target).mp rfl
        obtain rfl | ⟨_, stays⟩ := place
        · have arrived : Tells .mode (said state event) scope
              (chart.transition state target after).2 :=
            (tells_carries scope (said state event)).transition shallow telling
          refine ⟨arrived, ?_⟩
          rw [switches]
          exact transition_leaf state (switch?_rests switches) after
        · rw [stays] at switches
          cases switches
  · rintro asked ⟨tells, here⟩
    have stays : switch? leaf event = none :=
      here.resolve_left (Option.some_ne_none leaf).symm
    rw [stays, said_eq_silence stays]
    exact ⟨tells.then_silence (.warn asked .unhandled), rfl⟩

/-- A machine that asks for no replay, and has left the outermost state exactly if it has been
started. -/
structure Placed (machine : Machine State Memory) : Prop where
  replay : machine.replay = false
  begun : machine.started = false → machine.leaf = .super
  rests : machine.started = true → machine.leaf ≠ .super

/-- The state in which a machine processes events: one that has not been started is started
first. -/
def base (machine : Machine State Memory) : State :=
  if machine.started then machine.leaf else .selection

/-- The state that a turn ends in. -/
def next (state : State) : Order → State
  | .start => state
  | .dispatch event => (switch? state event).getD state

/-- What is heard of a turn. -/
def told (state : State) : Order → Party → List Event
  | .start => silence
  | .dispatch event => said state event

theorem base_rests {machine : Machine State Memory} (placed : Placed machine) :
    base machine ≠ .super := by
  unfold base
  split
  · next started => exact placed.rests started
  · nofun

theorem base_eq_running {machine : Machine State Memory} (placed : Placed machine) :
    base machine = .running ↔ machine.leaf = .running := by
  unfold base
  split
  · exact Iff.rfl
  · next fresh =>
    rw [placed.begun (eq_false_of_ne_true fresh)]
    decide

theorem startRun_eq {machine : Machine State Memory} (placed : Placed machine) (timers : Timers)
    (now : Nat) :
    Tells .mode silence (machine.scope timers now) (chart.startRun machine timers now).2 ∧
      (chart.startRun machine timers now).1 = base machine := by
  unfold Chart.startRun base
  split
  · exact ⟨.refl _, rfl⟩
  · have entered : Tells .mode silence (machine.scope timers now)
        (chart.enter (machine.scope timers now)).2 :=
      (tells_carries (machine.scope timers now) silence).enter_chart shallow (.refl _)
    have idle : (chart.enter (machine.scope timers now)).2.replay = false :=
      entered.replay.trans placed.replay
    rw [Chart.replayHeld_eq_self idle]
    exact ⟨entered, rfl⟩

theorem next_rests {state : State} (rests : state ≠ .super) (order : Order) :
    next state order ≠ .super := by
  cases order with
  | start => exact rests
  | dispatch event =>
    cases found : switch? state event with
    | none => rw [next, found]; exact rests
    | some target => rw [next, found]; exact switch?_rests found

/-- What a turn ends in, and what is heard of it. -/
theorem turn_eq {machine : Machine State Memory} (placed : Placed machine) (timers : Timers)
    (now : Nat) (order : Order) :
    let turn := chart.obey machine timers now order
    Placed turn.machine ∧ turn.machine.leaf = next (base machine) order ∧
      ∀ party, heard party .mode turn.journal = told (base machine) order party := by
  intro turn
  obtain ⟨begun, based⟩ := startRun_eq placed timers now
  suffices ended : ∃ run, turn = Machine.turn run ∧
      Tells .mode (told (base machine) order) (machine.scope timers now) run.2 ∧
      run.1 = next (base machine) order by
    obtain ⟨run, equal, tells, arrived⟩ := ended
    rw [equal]
    have rests : run.1 ≠ .super := arrived ▸ next_rests (base_rests placed) order
    exact ⟨⟨tells.replay.trans placed.replay, nofun, fun _ => rests⟩, arrived, tells.heard⟩
  cases order with
  | start => exact ⟨_, rfl, begun, based⟩
  | dispatch event =>
    obtain ⟨tells, arrived⟩ := process_eq (based ▸ base_rests placed) event
      (chart.startRun machine timers now).2
    have telling := begun.after_silence tells
    have idle : (chart.process (chart.startRun machine timers now) event).2.replay = false :=
      telling.replay.trans placed.replay
    refine ⟨_, congrArg Machine.turn (Chart.replayHeld_eq_self idle _), ?_, ?_⟩
    · rw [← based]
      exact telling
    · rw [← based]
      exact arrived

/-- The ways in which control can change hands in a turn. -/
inductive Handover (before after : State) (order : Order) (said : Party → List Event) : Prop where
  | stay (same : after = .running ↔ before = .running) (silent : ∀ party, said party = [])
      (other : before = .running → order ≠ .dispatch .modeStopped)
  | give (interval total : Int32) (before : before ≠ .running) (after : after = .running)
      (request : order = .dispatch (.runIntervalometer interval total))
      (silent : said .mode = []) (spoken : said .meter = [.intervalometerStart interval total])
  | take (before : before = .running) (after : after ≠ .running)
      (report : order = .dispatch .modeStopped) (silent : ∀ party, said party = [])

theorem next_handover {state : State} (rests : state ≠ .super) (order : Order) :
    Handover state (next state order) order (told state order) := by
  cases order with
  | start => exact .stay Iff.rfl (fun _ => rfl) nofun
  | dispatch event =>
    cases found : switch? state event with
    | none =>
      refine .stay ?_ (fun party => congrFun (said_eq_silence found) party)
        fun running stopped => ?_
      · rw [next, found]
        exact Iff.rfl
      · subst running
        cases stopped
        cases found
    | some target =>
      cases switches_of_switch? found with
      | request interval total => exact .give interval total nofun rfl rfl rfl rfl
      | report => exact .take rfl nofun rfl fun _ => rfl

/-- How control changes hands in a turn. -/
theorem turn_handover {machine : Machine State Memory} (placed : Placed machine) (timers : Timers)
    (now : Nat) (order : Order) :
    let turn := chart.obey machine timers now order
    Placed turn.machine ∧
      Handover machine.leaf turn.machine.leaf order fun party =>
        heard party .mode turn.journal := by
  obtain ⟨after, arrived, telling⟩ := turn_eq placed timers now order
  refine ⟨after, ?_⟩
  rw [funext telling, arrived]
  have running := base_eq_running placed
  cases next_handover (base_rests placed) order with
  | stay same silent other =>
    exact .stay (same.trans running) silent fun before => other (running.mpr before)
  | give interval total before after request silent spoken =>
    exact .give interval total (fun equal => before (running.mpr equal)) after request silent spoken
  | take before after report silent => exact .take (running.mp before) after report silent

end Mode

end Tether
