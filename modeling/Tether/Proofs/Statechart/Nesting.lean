import Tether.Mode
import Tether.Proofs.Statechart.History

/-!
# States are entered and left like brackets

Reading every entry of a state as a push and every exit as a pop, the journal of a shallow chart
never fails: a state is entered only inside its parent, or as a root where no state is entered, and
only the state that was entered last is left (`nesting_obeyAll`). Whenever a machine is at rest, the
states that are entered are the chain of its current state.
-/

namespace Tether

namespace Chart

variable {S M : Type}

section Reading

variable [DecidableEq S]

/-- What an entry of a journal does to the entered states, innermost first: an entry must happen
inside the parent, and an exit must leave the innermost state. -/
def nest (chart : Chart S M) (entered : List S) : Effect S → Option (List S)
  | .asked _ state .entry =>
      if chart.parent state = entered.head? then some (state :: entered) else none
  | .asked _ state .exit =>
      match entered with
      | [] => none
      | top :: rest => if state = top then some rest else none
  | _ => some entered

/-- The states that are entered at the end of a journal, innermost first; there are none if states
were entered or left out of turn. -/
def nesting (chart : Chart S M) (journal : List (Effect S)) : Option (List S) :=
  journal.foldlM chart.nest []

end Reading

variable {chart : Chart S M}

theorem head?_chainFrom (shallow : chart.Shallow) (cursor : Option S) :
    (chart.chainFrom cursor).head? = cursor := by
  cases cursor with
  | none => rfl
  | some state => rw [chainFrom, chain_eq_cons shallow]; rfl

variable [DecidableEq S]

theorem nesting_append {journal : List (Effect S)} {entered : List S}
    (nested : chart.nesting journal = some entered) (added : List (Effect S)) :
    chart.nesting (journal ++ added) = added.foldlM chart.nest entered := by
  unfold nesting at nested ⊢
  rw [List.foldlM_append, nested]
  rfl

theorem nest_of_not_isAsked {effect : Effect S} (quiet : effect.isAsked = false)
    (entered : List S) : chart.nest entered effect = some entered := by
  cases effect with
  | asked leaf state signal => cases quiet
  | called call reply => rfl
  | posted event topic => rfl
  | postedSelf event => rfl
  | warned warning => rfl

theorem foldlM_nest_of_quiet {added : List (Effect S)}
    (quiet : ∀ effect ∈ added, effect.isAsked = false) (entered : List S) :
    added.foldlM chart.nest entered = some entered := by
  induction added with
  | nil => rfl
  | cons effect rest ih =>
    rw [List.foldlM_cons, nest_of_not_isAsked (quiet effect List.mem_cons_self)]
    exact ih fun other member => quiet other (List.mem_cons_of_mem effect member)

/-- An answer changes the entered states only by its signal. -/
theorem nesting_ask {past : List (Effect S)} {entered : List S} {scope : Scope S M}
    (nested : chart.nesting (past ++ scope.journal) = some entered) (leaf state : S)
    (signal : Signal) :
    chart.nesting (past ++ (chart.ask leaf state signal scope).1.journal) =
      chart.nest entered (.asked leaf state signal) := by
  obtain ⟨added, grown, quiet⟩ := chart.ask_journal leaf state signal scope
  rw [grown, ← List.append_assoc, nesting_append nested, List.foldlM_cons]
  cases chart.nest entered (.asked leaf state signal) with
  | none => rfl
  | some after => exact foldlM_nest_of_quiet quiet after

theorem nesting_warn {past : List (Effect S)} {entered : List S} {scope : Scope S M}
    (nested : chart.nesting (past ++ scope.journal) = some entered) (warning : Warning) :
    chart.nesting (past ++ (scope.warn warning).journal) = some entered := by
  rw [Scope.warn, Scope.record, ← List.append_assoc, nesting_append nested]
  rfl

/-- Every step of a transition keeps the entered states a chain. -/
theorem nesting_carries (shallow : chart.Shallow) (past : List (Effect S)) :
    chart.Carries
      (fun _ cursor scope =>
        chart.nesting (past ++ scope.journal) = some (chart.chainFrom cursor))
      (fun _ cursor scope =>
        chart.nesting (past ++ scope.journal) = some (chart.chainFrom cursor)) where
  leave leaf _ state scope _ nested := by
    rw [nesting_ask nested, chainFrom, chain_eq_cons shallow, chainFrom_parent]
    exact if_pos rfl
  turn _ nested := nested
  enter leaf _ state scope _ nested := by
    rw [nesting_ask nested, nest, head?_chainFrom shallow, if_pos rfl, chainFrom_parent,
      chainFrom, chain_eq_cons shallow]
  init {leaf scope} nested := by
    have asked := nesting_ask nested leaf leaf .init
    cases found : chart.ask leaf leaf .init scope with
    | mk after reaction =>
      rw [found] at asked
      cases reaction <;> exact asked
  leaving_warn warning nested := nesting_warn nested warning
  entering_warn warning nested := nesting_warn nested warning

/-- After a past, a run has entered just the chain of its current state. -/
def NestedAfter (chart : Chart S M) (past : List (Effect S)) (run : S × Scope S M) : Prop :=
  chart.nesting (past ++ run.2.journal) = some (chart.chain run.1)

theorem nestedAfter_process (shallow : chart.Shallow) {past : List (Effect S)}
    {run : S × Scope S M} (nested : chart.NestedAfter past run) (event : Event) :
    chart.NestedAfter past (chart.process run event) := by
  obtain ⟨leaf, scope⟩ := run
  refine process_induction shallow
    (fun _ scope => chart.nesting (past ++ scope.journal) = some (chart.chain leaf))
    (chart.NestedAfter past) ?_ (fun _ asked => nesting_warn asked .unhandled) nested
  intro state scope _ asked
  have answered := nesting_ask asked leaf state (.event event)
  cases found : chart.ask leaf state (.event event) scope with
  | mk after reaction =>
    rw [found] at answered
    cases reaction with
    | handled => exact answered
    | transition target => exact (nesting_carries shallow past).transition shallow answered
    | delegate => exact answered

theorem nestedAfter_processAll (shallow : chart.Shallow) {past : List (Effect S)}
    (events : List Event) {run : S × Scope S M} (nested : chart.NestedAfter past run) :
    chart.NestedAfter past (events.foldl chart.process run) := by
  induction events generalizing run with
  | nil => exact nested
  | cons event rest ih => exact ih (nestedAfter_process shallow nested event)

theorem nestedAfter_replayHeld (shallow : chart.Shallow) {past : List (Effect S)} {rounds : Nat}
    {run : S × Scope S M} (nested : chart.NestedAfter past run) :
    chart.NestedAfter past (chart.replayHeld rounds run) :=
  replayHeld_induction (chart.NestedAfter past)
    (fun _ _ _ before => nestedAfter_processAll shallow _ before) nested

/-- A history has entered just the chain of its current state, or nothing before its start. -/
def NestedHistory (chart : Chart S M) (history : History S M) : Prop :=
  chart.nesting history.journal =
    some (if history.machine.started then chart.chain history.machine.leaf else [])

theorem nestedAfter_startRun (shallow : chart.Shallow) {history : History S M}
    (nested : chart.NestedHistory history) (timers : Timers) (now rounds : Nat) :
    chart.NestedAfter history.journal (chart.startRun history.machine timers now rounds) := by
  unfold NestedHistory at nested
  unfold startRun
  split
  · next started =>
    rw [if_pos started] at nested
    rw [NestedAfter, Machine.scope, List.append_nil]
    exact nested
  · next unstarted =>
    rw [if_neg unstarted] at nested
    apply nestedAfter_replayHeld shallow
    apply (nesting_carries shallow history.journal).enter_chart shallow
    rw [Machine.scope, List.append_nil]
    exact nested

theorem nesting_obey (shallow : chart.Shallow) {history : History S M}
    (nested : chart.NestedHistory history) (occasion : Occasion) (rounds : Nat) :
    chart.nesting (history.obey chart occasion rounds).journal =
      some (chart.chain (history.obey chart occasion rounds).machine.leaf) := by
  have started := nestedAfter_startRun shallow nested occasion.timers occasion.now rounds
  unfold History.obey obey
  cases occasion.order with
  | start => exact started
  | dispatch event =>
    exact nestedAfter_replayHeld shallow (nestedAfter_process shallow started event)

theorem nestedHistory_obeyAll (shallow : chart.Shallow) (memory : M) (occasions : List Occasion)
    (rounds : Nat) :
    chart.NestedHistory (History.obeyAll chart (.new chart memory) occasions rounds) := by
  refine List.foldlRecOn (motive := chart.NestedHistory) occasions _ rfl ?_
  intro history nested occasion _
  rw [NestedHistory, started_obey, if_pos rfl]
  exact nesting_obey shallow nested occasion rounds

/-- States are entered and left like brackets in every history of a shallow chart, and after every
order the entered states are the chain of the current state. That holds of replays of any length,
and wherever they are broken off. -/
theorem nesting_obeyAll (chart : Chart S M) (shallow : chart.Shallow) (memory : M)
    (occasions : List Occasion) (last : Occasion) (rounds : Nat) :
    let history := History.obeyAll chart (.new chart memory) (occasions ++ [last]) rounds
    chart.nesting history.journal = some (chart.chain history.machine.leaf) := by
  rw [History.obeyAll, List.foldl_append]
  exact nesting_obey shallow (nestedHistory_obeyAll shallow memory occasions rounds) last rounds

/-- The mode controller, which is left and entered again below its outermost state. -/
theorem nesting_obeyAll_mode :
    Mode.chart.Shallow ∧
      Mode.chart.nesting
          (History.obeyAll Mode.chart (.new Mode.chart (.new 5000))
            ([⟨.start, .empty, 0⟩] ++
              [⟨.dispatch (.runIntervalometer 1000 3), .empty, 0⟩])).journal =
        some [.running, .super] :=
  have shallow : Mode.chart.Shallow := fun state => by cases state <;> rfl
  ⟨shallow,
    nesting_obeyAll Mode.chart shallow (.new 5000) [⟨.start, .empty, 0⟩]
      ⟨.dispatch (.runIntervalometer 1000 3), .empty, 0⟩ Limits.replayRounds⟩

end Chart

end Tether
