import Tether.Proofs.Handshake.Duo

/-!
# Turns of the intervalometer

What the other machine hears of a turn of the intervalometer depends only on whether the turn begins
and ends inside `Running`: whatever leads out of `Running` reports that the mode has stopped, and
nothing else does. A sequence begins with a request in `Ready` and in no other way
(`Intervalometer.turn_told`).

A camera error parks the sequence, and the state to go back to is kept in the memory. So the turns
also have to keep it a state of a running sequence (`Memory.Resumable`).
-/

namespace Tether

namespace Intervalometer

open Duo

theorem shallow : chart.Shallow := by
  intro state
  cases state <;> rfl

/-- Whether a state lies inside `Running`. -/
def State.isInside (state : State) : Bool :=
  decide (State.running ∈ chart.chain state)

/-- Whether the innermost entered state lies inside `Running`. -/
def within (cursor : Option State) : Bool :=
  cursor.any State.isInside

/-- The states that a turn can end in. -/
def State.Rests (state : State) : Prop :=
  state ≠ .super ∧ state ≠ .running

instance (state : State) : Decidable state.Rests :=
  inferInstanceAs (Decidable (_ ∧ _))

/-- The state to go back to belongs to a running sequence. -/
def Memory.Resumable (memory : Memory) : Prop :=
  memory.resume = .capturing ∨ memory.resume = .waiting

/-- What is heard of the end of a sequence. -/
def stopped : Party → List Event
  | .mode => [.modeStopped]
  | .meter => []

/-- What is heard of a turn that begins, and ends, inside `Running` or not. -/
def told (before after : Bool) : Party → List Event :=
  if before && !after then stopped else silence

/-- A change of scope of which `said` is heard, and that leaves a state to go back to. -/
structure Speaks (said : Party → List Event) (before after : Scope State Memory) : Prop where
  tells : Tells .meter said before after
  resumable : before.memory.Resumable → after.memory.Resumable

namespace Speaks

variable {said : Party → List Event} {before middle after : Scope State Memory}

theorem refl (scope : Scope State Memory) : Speaks silence scope scope :=
  ⟨.refl scope, id⟩

theorem then_silence (first : Speaks said before middle) (second : Speaks silence middle after) :
    Speaks said before after :=
  ⟨first.tells.then_silence second.tells, second.resumable ∘ first.resumable⟩

theorem after_silence (first : Speaks silence before middle) (second : Speaks said middle after) :
    Speaks said before after :=
  ⟨first.tells.after_silence second.tells, second.resumable ∘ first.resumable⟩

theorem asked (scope : Scope State Memory) (leaf state : State) (signal : Signal) :
    Speaks silence scope (scope.record (.asked leaf state signal)) :=
  ⟨.asked scope leaf state signal, id⟩

theorem warn (scope : Scope State Memory) (warning : Warning) :
    Speaks silence scope (scope.warn warning) :=
  ⟨.warn scope warning, id⟩

theorem post (scope : Scope State Memory) (event : Event) {topic : Topic}
    (unheard : ∀ party : Party, topic ∉ party.topics) :
    Speaks silence scope (scope.post event topic) :=
  ⟨.post scope event unheard, id⟩

theorem update (scope : Scope State Memory) (change : Memory → Memory)
    (resumable : scope.memory.Resumable → (change scope.memory).Resumable) :
    Speaks silence scope (Intervalometer.update scope change) :=
  ⟨.setMemory scope _, resumable⟩

end Speaks

section Handlers

variable (scope : Scope State Memory)

theorem enterLeaf_speaks (state : State) : Speaks silence scope (enterLeaf scope state) :=
  (Speaks.update scope _ id).then_silence (.post _ _ modeState_unheard)

theorem cancelDeadline_speaks : Speaks silence scope (cancelDeadline scope) := by
  have cancelled (other : Scope State Memory) (id? : Option Nat) :
      Speaks silence other (other.cancel? id?) :=
    ⟨.cancel? other id?, fun resumable => (other.cancel?_memory id?).symm ▸ resumable⟩
  exact (Speaks.update scope _ id).then_silence (cancelled _ _)

theorem noteExpiry_speaks : Speaks silence scope (noteExpiry scope) :=
  (Speaks.update scope _ id).then_silence (.update _ _ id)

theorem setDeadline_speaks : Speaks silence scope (setDeadline scope) := by
  unfold setDeadline
  split
  · have scheduled (event : Event) (topic : Topic) (delay : Nat) :
        Speaks silence scope (scope.schedule event topic delay).1 :=
      ⟨.schedule scope event topic delay, fun resumable =>
        (scope.schedule_memory event topic delay).symm ▸ resumable⟩
    exact (scheduled _ _ _).then_silence (.update _ _ id)
  · exact .refl scope

theorem beginCapture_speaks : Speaks silence scope (beginCapture scope) :=
  ((((enterLeaf_speaks scope .capturing).then_silence (.update _ _ id)).then_silence
    (cancelDeadline_speaks _)).then_silence (.post _ _ cameraCmd_unheard)).then_silence
      (setDeadline_speaks _)

theorem entry_speaks (state : State) :
    Speaks silence scope (chart.handle state .entry scope).1 := by
  cases state with
  | super => exact .refl scope
  | ready => exact enterLeaf_speaks scope .ready
  | running => exact .refl scope
  | capturing => exact beginCapture_speaks scope
  | waiting => exact enterLeaf_speaks scope .waiting
  | error => exact enterLeaf_speaks scope .error

/-- Only the end of a sequence is heard. -/
theorem exit_speaks (state : State) :
    Speaks (if state = .running then stopped else silence) scope
      (chart.handle state .exit scope).1 := by
  cases state with
  | running =>
    refine (cancelDeadline_speaks scope).after_silence ⟨Tells.record _ _ fun party => ?_, id⟩
    cases party <;> rfl
  | _ => exact .refl scope

theorem init_speaks (state : State) :
    Speaks silence scope (chart.handle state .init scope).1 := by
  cases state <;> exact .refl scope

end Handlers

/-- Whether an event can make a state ask for a transition to a target. -/
def Leads (state : State) (event : Event) (target : State) : Prop :=
  match state with
  | .super => False
  | .ready => event.isStart = true ∧ target = .capturing
  | _ => target.Rests

/-- What a state answers to an event, and what is heard of it. -/
structure Answers (state : State) (event : Event) (before : Scope State Memory)
    (outcome : Scope State Memory × Reaction State) : Prop where
  speaks : Speaks silence before outcome.1
  leads : before.memory.Resumable → ∀ target, outcome.2 = .transition target →
    Leads state event target
  starts : state = .ready → event.isStart = true → outcome.2 = .transition .capturing

theorem Memory.Resumable.rests {memory : Memory} (resumable : memory.Resumable) :
    memory.resume.Rests := by
  rcases resumable with equal | equal <;> rw [equal] <;> decide

theorem afterCapture_rests (memory : Memory) : (afterCapture memory).Rests := by
  unfold afterCapture
  split
  · decide
  · split <;> decide

namespace Answers

variable {state : State} {event : Event} {before after : Scope State Memory}

/-- A state that keeps the machine where it is. -/
theorem stay {reaction : Reaction State} (speaks : Speaks silence before after)
    (stays : ∀ target, reaction ≠ .transition target)
    (other : state = .ready → event.isStart = false) :
    Answers state event before (after, reaction) where
  speaks := speaks
  leads _ target equal := absurd equal (stays target)
  starts ready starts := absurd ((other ready).symm.trans starts) Bool.false_ne_true

/-- A state that asks for a transition; `Ready` does so in one case only. -/
theorem go {target : State} (speaks : Speaks silence before after)
    (leads : before.memory.Resumable → Leads state event target)
    (starts : state = .ready → target = .capturing) :
    Answers state event before (after, .transition target) where
  speaks := speaks
  leads resumable _ equal := Reaction.transition.inj equal ▸ leads resumable
  starts ready _ := congrArg Reaction.transition (starts ready)

end Answers

section Events

variable (scope : Scope State Memory) (event : Event)

theorem super_answers : Answers .super event scope (super scope (.event event)) := by
  unfold super
  split
  · next equal => cases equal
  · next equal => cases equal
  · next equal => cases equal
  · exact .stay (.post _ _ modeState_unheard) nofun nofun
  · exact .stay (.refl scope) nofun nofun

theorem ready_answers : Answers .ready event scope (ready scope (.event event)) := by
  unfold ready
  split
  · next equal => cases equal
  · next equal => cases equal
  · next equal => cases equal
  · next equal =>
    cases equal
    exact .go (.update scope _ id) (fun _ => ⟨rfl, rfl⟩) fun _ => rfl
  · next other equal =>
    cases equal
    refine .stay (.refl scope) nofun fun _ => ?_
    unfold Event.isStart
    split
    · exact absurd rfl (other _ _)
    · rfl

theorem running_answers : Answers .running event scope (running scope (.event event)) := by
  unfold running
  split
  · next equal => cases equal
  · next equal => cases equal
  · next equal => cases equal
  · exact .go (.refl scope) (fun _ => (by decide : State.ready.Rests)) nofun
  · exact .stay (.refl scope) nofun nofun

/-- A sequence is parked in favour of one of the states that it can go on in. -/
theorem park_answers {state resume : State}
    (inside : ∀ target, Leads state event target = target.Rests)
    (resumable : resume = .capturing ∨ resume = .waiting) (busy : state ≠ .ready) :
    Answers state event scope (park scope resume) :=
  .go (.update scope _ fun _ => resumable) (fun _ => (inside .error).symm ▸ by decide)
    fun ready => absurd ready busy

theorem capturing_answers : Answers .capturing event scope (capturing scope (.event event)) := by
  unfold capturing
  split
  · next equal => cases equal
  · next equal => cases equal
  · next equal => cases equal
  · exact .stay (noteExpiry_speaks scope) nofun nofun
  · exact .go (.update scope _ id) (fun _ => afterCapture_rests _) nofun
  · exact park_answers scope event (fun _ => rfl) (Or.inl rfl) nofun
  · exact .stay (.refl scope) nofun nofun

theorem waiting_answers : Answers .waiting event scope (waiting scope (.event event)) := by
  unfold waiting
  split
  · next equal => cases equal
  · next equal => cases equal
  · next equal => cases equal
  · exact .go (.update scope _ id) (fun _ => (by decide : State.capturing.Rests)) nofun
  · exact park_answers scope event (fun _ => rfl) (Or.inr rfl) nofun
  · exact .stay (.refl scope) nofun nofun

theorem error_answers : Answers .error event scope (error scope (.event event)) := by
  unfold error
  split
  · next equal => cases equal
  · next equal => cases equal
  · next equal => cases equal
  · exact .stay (noteExpiry_speaks scope) nofun nofun
  · refine .go (.refl scope) (fun resumable => ?_) nofun
    change State.Rests _
    split
    · decide
    · exact resumable.rests
  · exact .stay (.refl scope) nofun nofun

theorem handle_answers (state : State) :
    Answers state event scope (chart.handle state (.event event) scope) := by
  cases state with
  | super => exact super_answers scope event
  | ready => exact ready_answers scope event
  | running => exact running_answers scope event
  | capturing => exact capturing_answers scope event
  | waiting => exact waiting_answers scope event
  | error => exact error_answers scope event

end Events

/-! ## Turns -/

theorem isInside_of_mem_chainAbove {goal state : State} (above : state ∈ chart.chainAbove goal)
    (inside : state.isInside = true) : goal.isInside = true := by
  revert above inside
  cases goal <;> cases state <;> decide

theorem not_isInside_of_outside {goal : State} (outside : .running ∉ chart.chainAbove goal)
    (other : goal ≠ .running) : goal.isInside = false := by
  revert outside other
  cases goal <;> decide

theorem within_parent {state : State} (other : state ≠ .running) :
    within (chart.parent state) = state.isInside := by
  cases state with
  | running => exact absurd rfl other
  | _ => rfl

/-- The way out of the states that a turn begins in, inside `Running` or not. -/
structure Leaving (start : Scope State Memory) (inside : Bool) (goal : State)
    (cursor : Option State) (scope : Scope State Memory) : Prop where
  elsewhere : goal ≠ .running
  outside : inside = false → within cursor = false
  ended : inside = true → within cursor = false → goal.isInside = false
  speaks : Speaks (told inside (within cursor)) start scope

/-- The way into the states that a turn ends in. -/
structure Entering (start : Scope State Memory) (inside : Bool) (goal : State)
    (_cursor : Option State) (scope : Scope State Memory) : Prop where
  elsewhere : goal ≠ .running
  speaks : Speaks (told inside goal.isInside) start scope

theorem Leaving.leave {start scope : Scope State Memory} {inside : Bool} {goal state : State}
    (leaf : State) (outside : state ∉ chart.chainAbove goal)
    (leaving : Leaving start inside goal (some state) scope) :
    Leaving start inside goal (chart.parent state) (chart.ask leaf state .exit scope).1 := by
  have exited := (Speaks.asked scope leaf state .exit).after_silence
    (exit_speaks (scope.record (.asked leaf state .exit)) state)
  by_cases running : state = .running
  · subst running
    -- `Running` can only be left by a turn that began inside it.
    have begun : inside = true := by
      cases inside with
      | true => rfl
      | false => exact absurd (leaving.outside rfl) nofun
    subst begun
    exact ⟨leaving.elsewhere, nofun, fun _ _ => not_isInside_of_outside outside leaving.elsewhere,
      leaving.speaks.after_silence exited⟩
  · rw [if_neg running] at exited
    have same : within (chart.parent state) = within (some state) := within_parent running
    refine ⟨leaving.elsewhere, ?_, ?_, ?_⟩
    · rw [same]; exact leaving.outside
    · rw [same]; exact leaving.ended
    · rw [same]; exact leaving.speaks.then_silence exited

theorem Leaving.turn {start scope : Scope State Memory} {inside : Bool} {goal : State}
    {cursor : Option State}
    (above : ∀ state, cursor = some state → state ∈ chart.chainAbove goal)
    (leaving : Leaving start inside goal cursor scope) :
    Entering start inside goal cursor scope := by
  refine ⟨leaving.elsewhere, ?_⟩
  have agree : told inside (within cursor) = told inside goal.isInside := by
    cases inside with
    | false => rfl
    | true =>
      cases left : within cursor with
      | false => rw [leaving.ended rfl left]
      | true =>
        cases cursor with
        | none => cases left
        | some state => rw [isInside_of_mem_chainAbove (above state rfl) left]
  exact agree ▸ leaving.speaks

theorem carries (start : Scope State Memory) (inside : Bool) :
    chart.Carries (Leaving start inside) (Entering start inside) where
  leave leaf _ _ _ outside leaving := leaving.leave leaf outside
  turn above leaving := leaving.turn above
  enter leaf _ state scope _ entering :=
    ⟨entering.elsewhere, entering.speaks.then_silence
      ((Speaks.asked scope leaf state .entry).then_silence (entry_speaks _ state))⟩
  init {leaf scope} entering := by
    have asked : Speaks (told inside leaf.isInside) start (chart.ask leaf leaf .init scope).1 :=
      entering.speaks.then_silence
        ((Speaks.asked scope leaf leaf .init).then_silence (init_speaks _ leaf))
    cases leaf with
    | super => exact ⟨nofun, fun _ => rfl, fun _ _ => rfl, asked⟩
    | running => exact absurd rfl entering.elsewhere
    | ready => exact ⟨entering.elsewhere, asked⟩
    | capturing => exact ⟨entering.elsewhere, asked⟩
    | waiting => exact ⟨entering.elsewhere, asked⟩
    | error => exact ⟨entering.elsewhere, asked⟩
  leaving_warn warning leaving :=
    { leaving with speaks := leaving.speaks.then_silence (.warn _ warning) }
  entering_warn warning entering :=
    { entering with speaks := entering.speaks.then_silence (.warn _ warning) }

theorem State.Rests.transition_leaf {target : State} (rests : target.Rests) (source : State)
    (scope : Scope State Memory) : (chart.transition source target scope).1 = target := by
  cases target with
  | super => exact absurd rfl rests.1
  | running => exact absurd rfl rests.2
  | ready => rfl
  | capturing => rfl
  | waiting => rfl
  | error => rfl

theorem isInside_iff {state : State} (rests : state.Rests) :
    state.isInside = false ↔ state = .ready := by
  revert rests
  cases state <;> decide

theorem Leads.rests {state target : State} {event : Event} (leads : Leads state event target) :
    target.Rests := by
  cases state with
  | super => cases leads
  | ready => obtain ⟨_, rfl⟩ := leads; decide
  | _ => exact leads

theorem leads_ready {state target : State} {event : Event} (above : state ∈ chart.chain .ready)
    (leads : Leads state event target) : event.isStart = true ∧ target = .capturing := by
  revert above leads
  cases state with
  | super => exact fun _ => False.elim
  | ready => exact fun _ => id
  | _ => exact fun above => absurd above (by decide)

/-- What an event leads to in a state. -/
structure Outcome (leaf : State) (event : Event) (start : Scope State Memory)
    (run : State × Scope State Memory) : Prop where
  rests : run.1.Rests
  speaks : Speaks (told leaf.isInside run.1.isInside) start run.2
  starts : leaf = .ready → run.1.isInside = event.isStart

theorem told_self (inside : Bool) : told inside inside = silence := by
  cases inside <;> rfl

/-- The machine stays where it is. -/
theorem Outcome.stay {leaf : State} {event : Event} {start scope : Scope State Memory}
    (rests : leaf.Rests) (speaks : Speaks silence start scope)
    (other : leaf = .ready → event.isStart = false) : Outcome leaf event start (leaf, scope) where
  rests := rests
  speaks := (told_self leaf.isInside).symm ▸ speaks
  starts ready := ((isInside_iff rests).mpr ready).trans (other ready).symm

/-- The machine makes a transition. -/
theorem Outcome.go {leaf state target : State} {event : Event} {start scope : Scope State Memory}
    (member : state ∈ chart.chain leaf) (speaks : Speaks silence start scope)
    (leads : Leads state event target) :
    Outcome leaf event start (chart.transition leaf target scope) := by
  have arrived := leads.rests.transition_leaf leaf scope
  have setOut : Leaving start leaf.isInside target (some leaf) scope := by
    refine ⟨leads.rests.2, id, fun inside outside => ?_, ?_⟩
    · exact absurd (outside.symm.trans inside) Bool.false_ne_true
    · exact (told_self leaf.isInside).symm ▸ speaks
  have entered := (carries start leaf.isInside).transition shallow setOut
  rw [arrived] at entered
  refine ⟨arrived.symm ▸ leads.rests, arrived.symm ▸ entered.speaks, fun ready => ?_⟩
  obtain ⟨starts, rfl⟩ := leads_ready (ready ▸ member) leads
  rw [arrived, starts]
  rfl

theorem process_outcome {leaf : State} (rests : leaf.Rests) (event : Event)
    {scope : Scope State Memory} (resumable : scope.memory.Resumable) :
    Outcome leaf event scope (chart.process (leaf, scope) event) := by
  refine Chart.process_induction shallow
    (fun cursor asked => Speaks silence scope asked ∧
      (cursor = some leaf ∨ (leaf = .ready → event.isStart = false)))
    (Outcome leaf event scope) ?_ ?_ ⟨.refl scope, Or.inl rfl⟩
  · rintro state asked member ⟨speaks, here⟩
    have answers := handle_answers (asked.record (.asked leaf state (.event event))) event state
    have speaking :=
      speaks.then_silence ((Speaks.asked asked leaf state _).then_silence answers.speaks)
    cases found : chart.ask leaf state (.event event) asked with
    | mk after reaction =>
      rw [Chart.ask] at found
      rw [found] at answers speaking
      -- If the current state passes an event on in `Ready`, the event is no request.
      have quiet (still : ∀ target, reaction ≠ .transition target) :
          leaf = .ready → event.isStart = false := by
        intro ready
        rcases here with equal | other
        · cases equal
          exact eq_false_of_ne_true fun starts => still _ (answers.starts ready starts)
        · exact other ready
      cases reaction with
      | handled => exact .stay rests speaking (quiet (by rintro target ⟨⟩))
      | delegate => exact ⟨speaking, Or.inr (quiet (by rintro target ⟨⟩))⟩
      | transition target =>
        exact .go member speaking (answers.leads (speaks.resumable resumable) target rfl)
  · rintro asked ⟨speaks, here⟩
    have other := here.resolve_left (Option.some_ne_none leaf).symm
    exact .stay rests (speaks.then_silence (.warn asked .unhandled)) other

/-- A machine that asks for no replay, has left the outermost state exactly if it has been started,
and remembers a state to go back to. -/
structure Placed (machine : Machine State Memory) : Prop where
  replay : machine.replay = false
  begun : machine.started = false → machine.leaf = .super
  rests : machine.started = true → machine.leaf.Rests
  resumable : machine.memory.Resumable

/-- The state in which a machine processes events: one that has not been started is started
first. -/
def base (machine : Machine State Memory) : State :=
  if machine.started then machine.leaf else .ready

theorem base_rests {machine : Machine State Memory} (placed : Placed machine) :
    (base machine).Rests := by
  unfold base
  split
  · next started => exact placed.rests started
  · decide

theorem isInside_base {machine : Machine State Memory} (placed : Placed machine) :
    (base machine).isInside = machine.leaf.isInside := by
  unfold base
  split
  · rfl
  · next fresh => rw [placed.begun (eq_false_of_ne_true fresh)]; rfl

theorem startRun_eq {machine : Machine State Memory} (placed : Placed machine) (timers : Timers)
    (now : Nat) :
    Speaks silence (machine.scope timers now) (chart.startRun machine timers now).2 ∧
      (chart.startRun machine timers now).1 = base machine := by
  unfold Chart.startRun base
  split
  · exact ⟨.refl _, rfl⟩
  · have entered : Entering (machine.scope timers now) false .ready (some .ready)
        (chart.enter (machine.scope timers now)).2 :=
      (carries (machine.scope timers now) false).enter_chart shallow ⟨nofun, .refl _⟩
    have idle : (chart.enter (machine.scope timers now)).2.replay = false :=
      entered.speaks.tells.replay.trans placed.replay
    rw [Chart.replayHeld_eq_self idle]
    exact ⟨entered.speaks, rfl⟩

/-- Whether an order brings a request to begin a sequence. -/
def asksStart : Order → Bool
  | .start => false
  | .dispatch event => event.isStart

/-- What is heard of a turn, and when a turn begins a sequence. -/
theorem turn_told {machine : Machine State Memory} (placed : Placed machine) (timers : Timers)
    (now : Nat) (order : Order) :
    let turn := chart.obey machine timers now order
    Placed turn.machine ∧
      (∀ party, heard party .meter turn.journal =
        told machine.leaf.isInside turn.machine.leaf.isInside party) ∧
      (machine.leaf.isInside = false → turn.machine.leaf.isInside = asksStart order) := by
  intro turn
  obtain ⟨begun, based⟩ := startRun_eq placed timers now
  suffices ended : ∃ run, turn = Machine.turn run ∧ run.1.Rests ∧
      Speaks (told machine.leaf.isInside run.1.isInside) (machine.scope timers now) run.2 ∧
      (machine.leaf.isInside = false → run.1.isInside = asksStart order) by
    obtain ⟨run, equal, rests, speaks, starts⟩ := ended
    rw [equal]
    refine ⟨⟨?_, nofun, fun _ => rests, ?_⟩, speaks.tells.heard, starts⟩
    · exact speaks.tells.replay.trans placed.replay
    · exact speaks.resumable placed.resumable
  cases order with
  | start =>
    refine ⟨_, rfl, based ▸ base_rests placed, ?_, fun outside => ?_⟩
    · rw [based, isInside_base placed, told_self]
      exact begun
    · rw [based, isInside_base placed, outside]
      rfl
  | dispatch event =>
    have outcome := process_outcome (based ▸ base_rests placed) event
      (begun.resumable placed.resumable)
    have speaking := begun.after_silence outcome.speaks
    have idle : (chart.process (chart.startRun machine timers now) event).2.replay = false :=
      speaking.tells.replay.trans placed.replay
    refine ⟨_, congrArg Machine.turn (Chart.replayHeld_eq_self idle _), outcome.rests, ?_, ?_⟩
    · rw [← isInside_base placed, ← based]
      exact speaking
    · intro outside
      rw [← isInside_base placed, isInside_iff (base_rests placed)] at outside
      exact outcome.starts (based.trans outside)

end Intervalometer

end Tether
