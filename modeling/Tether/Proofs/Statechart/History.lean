import Tether.Proofs.Statechart.Passage

/-!
# The history of a machine

A machine obeys orders one after the other. Between two orders anything may happen to the timers,
which other machines share; so every order brings along the timers and the time that it finds. The
history of a machine is its state now and the journal of all that it has done.
-/

namespace Tether

/-- An order, with the timers and the time that it finds. -/
structure Occasion where
  order : Order
  timers : Timers
  now : Nat

/-- A machine, and the journal of all that it has done. -/
structure History (S M : Type) where
  machine : Machine S M
  journal : List (Effect S)

namespace History

variable {S M : Type}

/-- The history of a machine that has not been started. -/
def new (chart : Chart S M) (memory : M) : History S M :=
  ⟨chart.machine memory, []⟩

/-- The history of a machine that obeys one more order. -/
def obey [DecidableEq S] (chart : Chart S M) (history : History S M) (occasion : Occasion)
    (rounds : Nat := Limits.replayRounds) : History S M :=
  let turn := chart.obey history.machine occasion.timers occasion.now occasion.order rounds
  ⟨turn.machine, history.journal ++ turn.journal⟩

/-- The history of a machine that obeys orders one after the other. -/
def obeyAll [DecidableEq S] (chart : Chart S M) (history : History S M)
    (occasions : List Occasion) (rounds : Nat := Limits.replayRounds) : History S M :=
  occasions.foldl (fun history occasion => history.obey chart occasion rounds) history

end History

/-! ## What handlers add to the journal -/

/-- Whether an entry of a journal is a state being asked. -/
def Effect.isAsked {S : Type} : Effect S → Bool
  | .asked .. => true
  | _ => false

/-- The event that an entry of a journal puts into the mailbox of a listener to some topics; `own`
tells whether the listener is the machine itself. -/
def Effect.heard? {S : Type} (topics : List Topic) (own : Bool) : Effect S → Option Event
  | .posted event topic => if topic ∈ topics then some event else none
  | .postedSelf event => if own then some event else none
  | _ => none

/-- The warning of an entry of a journal. -/
def Effect.warning? {S : Type} : Effect S → Option Warning
  | .warned warning => some warning
  | _ => none

theorem Effect.not_warned {S : Type} {warning : Warning} {journal : List (Effect S)}
    (absent : warning ∉ journal.filterMap Effect.warning?) : .warned warning ∉ journal :=
  fun member => absent (List.mem_filterMap.mpr ⟨.warned warning, member, rfl⟩)

variable {S M : Type}

/-- Handlers add to the journal, but never in the name of the engine. -/
theorem Scope.act_journal (scope : Scope S M) (action : Action M) :
    ∃ added, (scope.act action).journal = scope.journal ++ added ∧
      ∀ effect ∈ added, effect.isAsked = false := by
  cases action with
  | setMemory memory => exact ⟨[], (List.append_nil _).symm, fun _ => nofun⟩
  | post event topic =>
    exact ⟨[_], rfl, fun _ member => by cases List.mem_singleton.mp member; rfl⟩
  | postSelf event =>
    exact ⟨[_], rfl, fun _ member => by cases List.mem_singleton.mp member; rfl⟩
  | noteCall call reply =>
    exact ⟨[_], rfl, fun _ member => by cases List.mem_singleton.mp member; rfl⟩
  | cancel id => exact ⟨[], (List.append_nil _).symm, fun _ => nofun⟩
  | requestReplay => exact ⟨[], (List.append_nil _).symm, fun _ => nofun⟩
  | schedule event topic delay =>
    simp only [act, schedule]
    split
    · exact ⟨[_], rfl, fun _ member => by cases List.mem_singleton.mp member; rfl⟩
    · exact ⟨[], (List.append_nil _).symm, fun _ => nofun⟩
  | defer event =>
    simp only [act, defer]
    split
    · exact ⟨[_], rfl, fun _ member => by cases List.mem_singleton.mp member; rfl⟩
    · exact ⟨[], (List.append_nil _).symm, fun _ => nofun⟩

theorem Scope.Becomes.journal {before after : Scope S M} (becomes : before.Becomes after) :
    ∃ added, after.journal = before.journal ++ added ∧
      ∀ effect ∈ added, effect.isAsked = false := by
  obtain ⟨actions, rfl⟩ := becomes
  induction actions generalizing before with
  | nil => exact ⟨[], (List.append_nil _).symm, fun _ => nofun⟩
  | cons action rest ih =>
    obtain ⟨first, grown, firstQuiet⟩ := before.act_journal action
    obtain ⟨later, grownOn, laterQuiet⟩ := @ih (before.act action)
    refine ⟨first ++ later, ?_, ?_⟩
    · rw [List.foldl_cons, grownOn, grown, List.append_assoc]
    · intro effect member
      rcases List.mem_append.mp member with inFirst | inLater
      · exact firstQuiet effect inFirst
      · exact laterQuiet effect inLater

/-- An answer adds to the journal that the state was asked, and then what its handler adds. -/
theorem Chart.ask_journal (chart : Chart S M) (leaf state : S) (signal : Signal)
    (scope : Scope S M) :
    ∃ added, (chart.ask leaf state signal scope).1.journal =
        scope.journal ++ .asked leaf state signal :: added ∧
      ∀ effect ∈ added, effect.isAsked = false := by
  obtain ⟨added, grown, quiet⟩ :=
    (chart.handle_becomes state signal (scope.record (.asked leaf state signal))).journal
  refine ⟨added, ?_, quiet⟩
  rw [ask, grown, Scope.record, List.append_assoc]
  rfl

/-! ## The journal only grows -/

namespace Chart

variable {chart : Chart S M}

theorem prefix_preserves (chart : Chart S M) (past : List (Effect S)) :
    chart.Preserves (past <+: ·.journal) where
  ask leaf state signal scope grown := by
    obtain ⟨added, equal, _⟩ := chart.ask_journal leaf state signal scope
    rw [equal]
    exact grown.trans (List.prefix_append _ _)
  warn _ _ grown := grown.trans (List.prefix_append _ _)
  take grown := grown

variable [DecidableEq S]

theorem prefix_processAll (shallow : chart.Shallow) (events : List Event) (run : S × Scope S M) :
    run.2.journal <+: (events.foldl chart.process run).2.journal :=
  ((prefix_preserves chart run.2.journal).sustains shallow).processAll events List.prefix_rfl

theorem prefix_replayHeld (shallow : chart.Shallow) (rounds : Nat) (run : S × Scope S M) :
    run.2.journal <+: (chart.replayHeld rounds run).2.journal :=
  ((prefix_preserves chart run.2.journal).sustains shallow).replayHeld rounds List.prefix_rfl

theorem started_obey (history : History S M) (occasion : Occasion) {rounds : Nat} :
    (history.obey chart occasion rounds).machine.started = true := by
  unfold History.obey obey
  cases occasion.order <;> rfl

theorem started_obeyAll (history : History S M) (first : Occasion) (occasions : List Occasion) :
    (history.obeyAll chart (first :: occasions)).machine.started = true := by
  refine List.foldlRecOn (motive := fun later => later.machine.started = true) occasions
    (History.obey chart) (started_obey history first) ?_
  intro later _ occasion _
  exact started_obey later occasion

end Chart

theorem History.prefix_obeyAll [DecidableEq S] (chart : Chart S M) (history : History S M)
    (occasions : List Occasion) :
    history.journal <+: (history.obeyAll chart occasions).journal := by
  induction occasions generalizing history with
  | nil => exact List.prefix_rfl
  | cons occasion rest ih =>
    have now : history.journal <+: (history.obey chart occasion).journal :=
      List.prefix_append _ _
    exact now.trans (ih _)

end Tether
