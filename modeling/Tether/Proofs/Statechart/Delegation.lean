import Tether.Proofs.Statechart.Traffic
import Tether.Proofs.Statechart.Hearings

/-!
# Events that are passed on

A state that delegates an event whatever its scope is, and does nothing else then, leaves it to its
parent; one that never delegates it answers. In a chart where each state does one or the other with
each event (`Decided`), the states that are asked about an event are known beforehand: the current
state and its ancestors, innermost first, up to the first that answers (`Hearers`). The journal
tells of exactly these (`process_consults`), and a whole dispatch tells of them first and then of
the events that had been held back (`dispatch_consults`).

If nobody answers, the asking itself is all that happens (`process_unheard`).
-/

namespace Tether

variable {S M : Type}

namespace Chart

/-- A state passes an event on, and does nothing else. -/
def Delegates (chart : Chart S M) (state : S) (event : Event) : Prop :=
  ∀ scope, chart.handle state (.event event) scope = (scope, .delegate)

/-- A state never passes an event on. -/
def Answers (chart : Chart S M) (state : S) (event : Event) : Prop :=
  ∀ scope, (chart.handle state (.event event) scope).2 ≠ .delegate

/-- Whether a state passes an event on does not depend on the scope. -/
def Decided (chart : Chart S M) : Prop :=
  ∀ state event, chart.Delegates state event ∨ chart.Answers state event

/-- The states that are asked about an event, from a state upwards to the first that answers. -/
inductive Hearers (chart : Chart S M) (event : Event) : Option S → List S → Prop where
  | nobody : Hearers chart event none []
  | answers {state : S} (answers : chart.Answers state event) :
      Hearers chart event (some state) [state]
  | delegates {state : S} {above : List S} (delegates : chart.Delegates state event)
      (later : Hearers chart event (chart.parent state) above) :
      Hearers chart event (some state) (state :: above)

end Chart

/-! ## Turns without a trace -/

/-- A turn in which states have only been asked, and warnings given, leaves no trace outside. -/
theorem Traffic.absorb_eq_self {σ : Type} [DecidableEq σ] (traffic : Traffic σ) (station : σ)
    {turn : Turn S M} (timers : turn.timers = traffic.service.timers)
    (quiet : ∀ effect ∈ turn.journal, effect.isAsked = true ∨ effect.warning?.isSome = true) :
    traffic.absorb station turn = traffic := by
  have same : traffic.withService { traffic.service with timers := turn.timers } = traffic := by
    rw [timers]
    rfl
  rw [Traffic.absorb, same]
  refine List.foldlRecOn (motive := fun after => after = traffic) turn.journal
    (Traffic.follow station) rfl ?_
  rintro after rfl effect member
  have silent := quiet effect member
  cases effect with
  | asked | warned => rfl
  | called | posted | postedSelf => simp [Effect.isAsked, Effect.warning?] at silent

/-! ## Consultations -/

/-- Whether an entry of a journal is a state being asked about an event. -/
def Effect.isConsulted : Effect S → Bool
  | .asked _ _ (.event _) => true
  | _ => false

/-- What a journal tells of states being asked about events. -/
def consultations (journal : List (Effect S)) : List (Effect S) :=
  journal.filter Effect.isConsulted

/-- An event, the current state when it was dispatched, and the states that were asked about it. -/
structure Consultation (S : Type) where
  leaf : S
  event : Event
  asked : List S

/-- What a consultation leaves in a journal. -/
def Consultation.entries (consultation : Consultation S) : List (Effect S) :=
  consultation.asked.map fun state =>
    .asked consultation.leaf state (.event consultation.event)

/-- The states that were asked are those from the current one up to the first that answers. -/
def Consultation.Proper (chart : Chart S M) (consultation : Consultation S) : Prop :=
  chart.Hearers consultation.event (some consultation.leaf) consultation.asked

theorem consultations_append (journal added : List (Effect S)) :
    consultations (journal ++ added) = consultations journal ++ consultations added :=
  List.filter_append _ _

theorem consultations_eq_nil {added : List (Effect S)}
    (quiet : ∀ effect ∈ added, effect.isAsked = false) : consultations added = [] := by
  refine List.filter_eq_nil_iff.mpr fun effect member consulted => ?_
  have other := quiet effect member
  cases effect with
  | asked leaf state signal => cases other
  | called | posted | postedSelf | warned => cases consulted

namespace Chart

variable {chart : Chart S M}

/-- Of what an answer adds to the journal, only the asking itself is a consultation. -/
theorem consultations_ask (leaf state : S) (signal : Signal) (scope : Scope S M) :
    consultations (chart.ask leaf state signal scope).1.journal =
      consultations scope.journal ++ consultations [.asked leaf state signal] := by
  obtain ⟨added, grown, quiet⟩ := chart.ask_journal leaf state signal scope
  have parts : Effect.asked leaf state signal :: added = [.asked leaf state signal] ++ added := rfl
  rw [grown, consultations_append, parts, consultations_append, consultations_eq_nil quiet,
    List.append_nil]

/-- Only events are what states are consulted about. -/
theorem consultations_ask_of_ne (leaf state : S) (signal : Signal)
    (other : ∀ event, signal ≠ .event event) (scope : Scope S M) :
    consultations (chart.ask leaf state signal scope).1.journal =
      consultations scope.journal := by
  rw [consultations_ask]
  cases signal with
  | event event => exact absurd rfl (other event)
  | entry | exit | init => exact List.append_nil _

theorem consultations_warn (scope : Scope S M) (warning : Warning) :
    consultations (scope.warn warning).journal = consultations scope.journal := by
  rw [Scope.warn, Scope.record, consultations_append]
  exact List.append_nil _

/-- Nobody is consulted between two events. -/
theorem consultations_outlasts (chart : Chart S M) (past : List (Effect S)) :
    chart.Outlasts fun scope => consultations scope.journal = past where
  ask leaf state signal scope plain before :=
    (consultations_ask_of_ne leaf state signal plain scope).trans before
  warn _ before := (consultations_warn _ _).trans before

variable [DecidableEq S]

theorem consultations_transition (source target : S) (scope : Scope S M) :
    consultations (chart.transition source target scope).2.journal =
      consultations scope.journal :=
  (consultations_outlasts chart _).transition source target rfl

/-! ## Events -/

theorem process_consults (shallow : chart.Shallow) (decided : chart.Decided)
    (run : S × Scope S M) (event : Event) :
    ∃ asked, chart.Hearers event (some run.1) asked ∧
      consultations (chart.process run event).2.journal =
        consultations run.2.journal ++ Consultation.entries ⟨run.1, event, asked⟩ := by
  obtain ⟨leaf, scope⟩ := run
  -- The states that have been asked all delegate, so whoever is asked from here on comes behind.
  refine process_induction shallow
    (fun cursor after => ∃ front,
      (∀ above, chart.Hearers event cursor above →
        chart.Hearers event (some leaf) (front ++ above)) ∧
      consultations after.journal =
        consultations scope.journal ++ Consultation.entries ⟨leaf, event, front⟩)
    (fun run => ∃ asked, chart.Hearers event (some leaf) asked ∧
      consultations run.2.journal =
        consultations scope.journal ++ Consultation.entries ⟨leaf, event, asked⟩)
    ?_ ?_ ⟨[], fun _ hearers => hearers, (List.append_nil _).symm⟩
  · rintro state asked _ ⟨front, behind, consulted⟩
    have now : consultations (chart.ask leaf state (.event event) asked).1.journal =
        consultations scope.journal ++
          Consultation.entries ⟨leaf, event, front ++ [state]⟩ := by
      rw [consultations_ask, consulted, List.append_assoc, Consultation.entries,
        Consultation.entries, List.map_append]
      rfl
    rcases decided state event with delegates | answers
    · have passed : chart.ask leaf state (.event event) asked =
          (asked.record (.asked leaf state (.event event)), .delegate) := delegates _
      rw [passed] at now ⊢
      refine ⟨front ++ [state], fun above hearers => ?_, now⟩
      rw [List.append_assoc]
      exact behind _ (.delegates delegates hearers)
    · have answered := answers (asked.record (.asked leaf state (.event event)))
      have hearers := behind _ (.answers answers)
      cases found : chart.ask leaf state (.event event) asked with
      | mk after reaction =>
        rw [found] at now
        cases reaction with
        | handled => exact ⟨_, hearers, now⟩
        | transition target =>
          exact ⟨_, hearers, (consultations_transition leaf target after).trans now⟩
        | delegate => exact absurd (congrArg Prod.snd found) answered
  · rintro asked ⟨front, behind, consulted⟩
    have all := behind [] .nobody
    rw [List.append_nil] at all
    exact ⟨front, all, (consultations_warn asked .unhandled).trans consulted⟩

/-- Events, one after the other, leave the traces of one consultation each. -/
theorem processAll_consults (shallow : chart.Shallow) (decided : chart.Decided)
    (events : List Event) (run : S × Scope S M) :
    ∃ later : List (Consultation S), (∀ consultation ∈ later, consultation.Proper chart) ∧
      later.map Consultation.event = events ∧
      consultations (events.foldl chart.process run).2.journal =
        consultations run.2.journal ++ later.flatMap Consultation.entries := by
  induction events generalizing run with
  | nil => exact ⟨[], fun _ => nofun, rfl, (List.append_nil _).symm⟩
  | cons event rest ih =>
    obtain ⟨asked, hearers, now⟩ := process_consults shallow decided run event
    obtain ⟨later, proper, same, grown⟩ := ih (chart.process run event)
    refine ⟨⟨run.1, event, asked⟩ :: later, ?_, congrArg (event :: ·) same, ?_⟩
    · exact List.forall_mem_cons.mpr ⟨hearers, proper⟩
    · rw [List.foldl_cons, grown, now, List.append_assoc, List.flatMap_cons]

/-- The events that a replay hands out, batch by batch. -/
def handedOut (chart : Chart S M) : Nat → S × Scope S M → List Event
  | 0, _ => []
  | rounds + 1, (leaf, scope) =>
      if scope.replay then
        scope.held.items ++ handedOut chart rounds
          (scope.held.items.foldl chart.process
            (leaf, { scope with replay := false, held := .empty }))
      else []

theorem replayHeld_consults (shallow : chart.Shallow) (decided : chart.Decided) (rounds : Nat)
    (run : S × Scope S M) :
    ∃ later : List (Consultation S), (∀ consultation ∈ later, consultation.Proper chart) ∧
      later.map Consultation.event = chart.handedOut rounds run ∧
      consultations (chart.replayHeld rounds run).2.journal =
        consultations run.2.journal ++ later.flatMap Consultation.entries := by
  induction rounds generalizing run with
  | zero => exact ⟨[], fun _ => nofun, rfl, (List.append_nil _).symm⟩
  | succ rounds ih =>
    obtain ⟨leaf, scope⟩ := run
    unfold replayHeld handedOut
    split
    · obtain ⟨batch, proper, events, now⟩ :=
      processAll_consults shallow decided scope.held.items
        (leaf, { scope with replay := false, held := .empty })
      obtain ⟨later, properLater, eventsLater, grown⟩ :=
        ih (scope.held.items.foldl chart.process
        (leaf, { scope with replay := false, held := .empty }))
      refine ⟨batch ++ later, fun consultation member => ?_, ?_, ?_⟩
      · exact (List.mem_append.mp member).elim (proper consultation) (properLater consultation)
      · rw [List.map_append, events, eventsLater]
      · rw [grown, now, List.append_assoc, List.flatMap_append]
    · exact ⟨[], fun _ => nofun, rfl, (List.append_nil _).symm⟩

/-! ## Nobody answers -/

/-- What the asking of some states leaves of a scope if all of them delegate. -/
def passedOn (leaf : S) (event : Event) (states : List S) (scope : Scope S M) : Scope S M :=
  { scope with
    journal := scope.journal ++ states.map fun state => .asked leaf state (.event event) }

theorem process_unheard (shallow : chart.Shallow) {leaf : S} {event : Event}
    (unheard : ∀ state ∈ chart.chain leaf, chart.Delegates state event) (scope : Scope S M) :
    chart.process (leaf, scope) event =
      (leaf, (passedOn leaf event (chart.chain leaf) scope).warn .unhandled) := by
  refine process_induction shallow
    (fun cursor after => ∃ front, chart.chain leaf = front ++ chart.chainFrom cursor ∧
      after = passedOn leaf event front scope)
    (fun run => run = (leaf, (passedOn leaf event (chart.chain leaf) scope).warn .unhandled))
    ?_ ?_ ⟨[], rfl, by rw [passedOn, List.map_nil, List.append_nil]⟩
  · rintro state _ member ⟨front, whole, rfl⟩
    have passed : chart.ask leaf state (.event event) (passedOn leaf event front scope) =
        ((passedOn leaf event front scope).record (.asked leaf state (.event event)), .delegate) :=
      unheard state member _
    rw [passed]
    refine ⟨front ++ [state], ?_, ?_⟩
    · rw [whole, chainFrom, chain_eq_cons shallow, chainFrom_parent, List.append_assoc]
      rfl
    · rw [passedOn, passedOn, Scope.record, List.map_append, List.append_assoc]
      rfl
  · rintro _ ⟨front, whole, rfl⟩
    rw [chainFrom, List.append_nil] at whole
    rw [whole]

/-! ## Dispatches -/

/-- What the dispatch of an event does, beyond the start of a machine that has not been started: the
current state and its ancestors are asked up to the first that answers, and then the states that the
events handed out again come to. If nobody answers, the asking and a warning are all there is. -/
structure Consults (chart : Chart S M) (machine : Machine S M) (event : Event) (timers : Timers)
    (now : Nat) : Prop where
  asked : ∃ (asked : List S) (later : List (Consultation S)),
    let begun := chart.startRun machine timers now
    chart.Hearers event (some begun.1) asked ∧
    (∀ consultation ∈ later, consultation.Proper chart) ∧
    later.map Consultation.event =
      chart.handedOut Limits.replayRounds (chart.process begun event) ∧
    consultations (chart.dispatch machine event timers now).journal =
      consultations (chart.start machine timers now).journal ++
        ((⟨begun.1, event, asked⟩ :: later).flatMap Consultation.entries)
  unheard : ∀ before, chart.start machine timers now = before →
    (∀ state ∈ chart.chain before.machine.leaf, chart.Delegates state event) →
    chart.dispatch machine event timers now = ⟨before.machine, before.timers, before.journal ++
      ((chart.chain before.machine.leaf).map
        (fun state => .asked before.machine.leaf state (.event event)) ++ [.warned .unhandled])⟩

/-- Nothing is to be dispatched again when a machine takes an event, whatever it finds. -/
def Idles (chart : Chart S M) (machine : Machine S M) : Prop :=
  ∀ timers now, (chart.startRun machine timers now).2.replay = false

theorem dispatch_consults (shallow : chart.Shallow) (decided : chart.Decided)
    {machine : Machine S M} (idles : chart.Idles machine) (event : Event) (timers : Timers)
    (now : Nat) :
    chart.Consults machine event timers now where
  asked := by
    let begun := chart.startRun machine timers now
    obtain ⟨asked, hearers, first⟩ := process_consults shallow decided begun event
    obtain ⟨later, proper, events, rest⟩ :=
      replayHeld_consults shallow decided Limits.replayRounds (chart.process begun event)
    refine ⟨asked, later, hearers, proper, events, rest.trans ?_⟩
    rw [first, List.append_assoc, List.flatMap_cons]
    rfl
  unheard := by
    rintro _ rfl unheard
    let begun := chart.startRun machine timers now
    have processed : chart.process begun event =
        (begun.1, (passedOn begun.1 event (chart.chain begun.1) begun.2).warn .unhandled) :=
      process_unheard shallow unheard begun.2
    have idle : (chart.process begun event).2.replay = false := by
      rw [processed]
      exact idles timers now
    rw [dispatch, replayHeld_eq_self idle, processed]
    simp only [Machine.turn, start, passedOn, Scope.warn, Scope.record, List.append_assoc, begun]

/-- A machine leaves no trace of an event that none of its states answers. -/
structure Traceless (chart : Chart S M) (machine : Machine S M) : Prop where
  /-- A state that delegates an event has done nothing, and it is the event that decides it. -/
  decided : chart.Decided
  /-- A machine that has been started takes an event as it is. -/
  begins : machine.started = true →
    ∀ timers now, chart.start machine timers now = ⟨machine, timers, []⟩
  consults : ∀ event timers now, chart.Consults machine event timers now
  /-- The broker is the same after the turn, with its timers and all mailboxes. -/
  unheard : machine.started = true → ∀ event,
    (∀ state ∈ chart.chain machine.leaf, chart.Delegates state event) →
    ∀ {σ : Type} [DecidableEq σ] (traffic : Traffic σ) (station : σ),
      traffic.absorb station
        (chart.dispatch machine event traffic.service.timers traffic.service.now) = traffic

/-- That holds of every machine that begins with a memory, whatever it has been through. -/
def TracelessFrom (chart : Chart S M) (memory : M) : Prop :=
  ∀ occasions, chart.Traceless (History.obeyAll chart (.new chart memory) occasions).machine

theorem start_of_started {machine : Machine S M} (started : machine.started = true)
    (timers : Timers) (now : Nat) : chart.start machine timers now = ⟨machine, timers, []⟩ := by
  obtain ⟨leaf, _, memory, held, replay⟩ := machine
  dsimp only at started
  subst started
  rfl

theorem traceless (shallow : chart.Shallow) (decided : chart.Decided) {machine : Machine S M}
    (idles : chart.Idles machine) : chart.Traceless machine where
  decided := decided
  begins := start_of_started
  consults := dispatch_consults shallow decided idles
  unheard started event unheard σ _ traffic station := by
    have whole := (dispatch_consults shallow decided idles event traffic.service.timers
      traffic.service.now).unheard _ (start_of_started started _ _) unheard
    rw [List.nil_append] at whole
    rw [whole]
    refine traffic.absorb_eq_self station rfl fun effect member => ?_
    rcases List.mem_append.mp member with asked | warned
    · obtain ⟨state, -, rfl⟩ := List.mem_map.mp asked
      exact .inl rfl
    · rw [List.mem_singleton.mp warned]
      exact .inr rfl

end Chart

end Tether
