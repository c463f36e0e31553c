import Tether.Proofs.Statechart.History

/-!
# What becomes of dispatched events

The journal of a turn tells which events have been dispatched in it: first the event that the turn
is for, and then the events that had been held back, one after the other. An event is dispatched
when the current state is asked about it, and it is dropped if a warning follows that no state has
handled it (`dispatches`).

Neither handlers nor transitions say anything of events (`hearings_transition`), so each event
leaves the trace of exactly one dispatch (`hearings_process`).
-/

namespace Tether

/-- What an entry of a journal says of dispatched events. -/
inductive Hearing (S : Type) where
  /-- While `leaf` was the current state, it was asked about an event. -/
  | heard (leaf : S) (event : Event)
  /-- No state has handled the event. -/
  | dropped

/-- An event, the current state when it was dispatched, and whether it was dropped. -/
structure Dispatch (S : Type) where
  leaf : S
  event : Event
  dropped : Bool

/-- What a dispatch leaves in a journal. -/
def Dispatch.hearings {S : Type} (dispatch : Dispatch S) : List (Hearing S) :=
  .heard dispatch.leaf dispatch.event :: if dispatch.dropped then [.dropped] else []

variable {S M : Type}

/-- The dispatches that have left some traces. -/
def dispatchesOf : List (Hearing S) → List (Dispatch S)
  | [] => []
  | .dropped :: rest => dispatchesOf rest
  | .heard leaf event :: .dropped :: rest => ⟨leaf, event, true⟩ :: dispatchesOf rest
  | .heard leaf event :: rest => ⟨leaf, event, false⟩ :: dispatchesOf rest

/-- Dispatches are read back from the traces that they leave. -/
theorem dispatchesOf_flatMap (dispatches : List (Dispatch S)) :
    dispatchesOf (dispatches.flatMap Dispatch.hearings) = dispatches := by
  induction dispatches with
  | nil => rfl
  | cons first rest ih =>
    obtain ⟨leaf, event, dropped⟩ := first
    rw [List.flatMap_cons]
    cases dropped with
    | true => exact congrArg (Dispatch.mk leaf event true :: ·) ih
    | false =>
      -- What follows an event that was handled is another event, if anything.
      cases rest with
      | nil => rfl
      | cons next rest => exact congrArg (Dispatch.mk leaf event false :: ·) ih

variable [DecidableEq S]

def Effect.hearing? : Effect S → Option (Hearing S)
  | .asked leaf state (.event event) => if state = leaf then some (.heard leaf event) else none
  | .warned .unhandled => some .dropped
  | _ => none

def hearings (journal : List (Effect S)) : List (Hearing S) :=
  journal.filterMap Effect.hearing?

/-- The events that a journal tells to have been dispatched, in their order. -/
def dispatches (journal : List (Effect S)) : List (Dispatch S) :=
  dispatchesOf (hearings journal)

/-! ## Handlers and transitions -/

theorem hearings_append (journal added : List (Effect S)) :
    hearings (journal ++ added) = hearings journal ++ hearings added :=
  List.filterMap_append

theorem Scope.hearings_record {effect : Effect S} (silent : effect.hearing? = none)
    (scope : Scope S M) : hearings (scope.record effect).journal = hearings scope.journal := by
  rw [record, hearings_append, hearings, hearings, List.filterMap_cons_none silent]
  exact List.append_nil _

theorem Scope.hearings_act (scope : Scope S M) (action : Action M) :
    hearings (scope.act action).journal = hearings scope.journal := by
  cases action with
  | setMemory memory => rfl
  | post event topic => exact hearings_record rfl scope
  | postSelf event => exact hearings_record rfl scope
  | noteCall call reply => exact hearings_record rfl scope
  | cancel id => rfl
  | requestReplay => rfl
  | schedule event topic delay =>
    simp only [act, schedule]
    split
    · exact hearings_record rfl scope
    · rfl
  | defer event =>
    simp only [act, defer]
    split
    · exact hearings_record rfl scope
    · rfl

theorem Scope.Becomes.hearings_eq {before after : Scope S M} (becomes : before.Becomes after) :
    hearings after.journal = hearings before.journal := by
  obtain ⟨actions, rfl⟩ := becomes
  refine List.foldlRecOn (motive := fun after => hearings after.journal = hearings before.journal)
    actions Scope.act rfl ?_
  intro middle same action _
  exact (middle.hearings_act action).trans same

namespace Chart

variable (chart : Chart S M)

theorem hearings_ask (leaf state : S) (signal : Signal) (scope : Scope S M) :
    hearings (chart.ask leaf state signal scope).1.journal =
      hearings scope.journal ++ hearings [.asked leaf state signal] := by
  rw [ask, (chart.handle_becomes state signal _).hearings_eq, Scope.record, hearings_append]

/-- What happens between two events says nothing of events. -/
theorem hearings_outlasts (past : List (Hearing S)) :
    chart.Outlasts fun scope => hearings scope.journal = past where
  ask leaf state signal scope plain before := by
    rw [hearings_ask, before]
    cases signal with
    | event event => exact absurd rfl (plain event)
    | entry | exit | init => exact List.append_nil _
  warn {warning} scope other before := by
    refine (Scope.hearings_record ?_ scope).trans before
    cases warning with
    | unhandled => exact absurd rfl other
    | _ => rfl

theorem hearings_transition (source target : S) (scope : Scope S M) :
    hearings (chart.transition source target scope).2.journal = hearings scope.journal :=
  (chart.hearings_outlasts _).transition source target rfl

theorem hearings_enter (scope : Scope S M) :
    hearings (chart.enter scope).2.journal = hearings scope.journal :=
  (chart.hearings_outlasts _).enter rfl

/-! ## Events -/

variable {chart}

theorem hearings_heard (leaf : S) (event : Event) (scope : Scope S M) :
    hearings (chart.ask leaf leaf (.event event) scope).1.journal =
      hearings scope.journal ++ [.heard leaf event] := by
  rw [hearings_ask]
  simp [hearings, Effect.hearing?]

/-- An event that the current state does not pass on is not dropped. -/
theorem hearings_process_of_answered {leaf : S} {event : Event} {scope : Scope S M}
    (answered : (chart.ask leaf leaf (.event event) scope).2 ≠ .delegate) :
    hearings (chart.process (leaf, scope) event).2.journal =
      hearings scope.journal ++ Dispatch.hearings ⟨leaf, event, false⟩ := by
  have heard := chart.hearings_heard leaf event scope
  rw [process, show Limits.maxStateDepth = 15 + 1 from rfl, bubble]
  cases found : chart.ask leaf leaf (.event event) scope with
  | mk after reaction =>
    rw [found] at heard answered
    cases reaction with
    | handled => exact heard
    | transition target => exact (chart.hearings_transition leaf target after).trans heard
    | delegate => exact absurd rfl answered

/-- Every event leaves the trace of one dispatch. -/
theorem hearings_process (shallow : chart.Shallow) (run : S × Scope S M) (event : Event) :
    ∃ dropped, hearings (chart.process run event).2.journal =
      hearings run.2.journal ++ Dispatch.hearings ⟨run.1, event, dropped⟩ := by
  obtain ⟨leaf, scope⟩ := run
  -- Until the current state has been asked nothing is noted, and after that nothing more until the
  -- event is dropped.
  refine process_induction shallow
    (fun cursor asked => cursor = some leaf ∧ hearings asked.journal = hearings scope.journal ∨
      (∀ state, cursor = some state →
        (chart.chain state).length < (chart.chain leaf).length) ∧
        hearings asked.journal = hearings scope.journal ++ [.heard leaf event])
    (fun run => ∃ dropped, hearings run.2.journal =
      hearings scope.journal ++ Dispatch.hearings ⟨leaf, event, dropped⟩) ?_ ?_
    (.inl ⟨rfl, rfl⟩)
  · intro state asked _ noted
    have heard : hearings (chart.ask leaf state (.event event) asked).1.journal =
        hearings scope.journal ++ [.heard leaf event] := by
      rcases noted with ⟨equal, nothing⟩ | ⟨above, once⟩
      · cases equal
        rw [hearings_heard, nothing]
      · have other : state ≠ leaf := by
          rintro rfl
          exact Nat.lt_irrefl _ (above state rfl)
        rw [hearings_ask, once]
        simp [hearings, Effect.hearing?, other]
    cases found : chart.ask leaf state (.event event) asked with
    | mk after reaction =>
      rw [found] at heard
      cases reaction with
      | handled => exact ⟨false, heard⟩
      | transition target =>
        exact ⟨false, (chart.hearings_transition leaf target after).trans heard⟩
      | delegate =>
        refine .inr ⟨fun above parent => ?_, heard⟩
        have shorter := length_chain_lt shallow parent
        rcases noted with ⟨equal, -⟩ | ⟨higher, -⟩
        · cases equal
          exact shorter
        · exact shorter.trans (higher state rfl)
  · intro asked noted
    have heard := (noted.resolve_left fun here => nomatch here.1).2
    refine ⟨true, ?_⟩
    show hearings (asked.journal ++ [.warned .unhandled]) = _
    rw [hearings_append, heard, List.append_assoc]
    rfl

end Chart

end Tether
