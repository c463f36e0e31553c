import Tether.Proofs.Statechart.Journal

/-!
# What a machine upholds

A property of the memory and of the journal of all that a machine has done, in which neither the
timers nor the held events occur. A chart upholds it (`Upholds`) if the steps of a transition carry
it along and every state that is asked about an event keeps it. Then it holds after every order that
a machine obeys, with all the events that are replayed meanwhile (`Upholds.obeyAll`), and the
machine is in a state that it can rest in.

As in `Carries` the property may be another one while states are left than while they are entered,
so nothing needs to be known about a state that is about to be left.
-/

namespace Tether

namespace Chart

variable {S M : Type} {chart : Chart S M}

/-- A property of the memory and the journal, as a property of a scope with a past. -/
def sinceThen (past : List (Effect S)) (holds : S → Option S → M → List (Effect S) → Prop) :
    S → Option S → Scope S M → Prop :=
  fun goal cursor scope => holds goal cursor scope.memory (past ++ scope.journal)

/-- What a property demands of an answer while `leaf` is the current state: another property if the
answer asks for a transition. -/
def Demands (leaving entering : S → Option S → Scope S M → Prop) (leaf : S)
    (answer : Scope S M × Reaction S) : Prop :=
  match answer.2 with
  | .transition target => leaving target (some leaf) answer.1
  | _ => entering leaf (some leaf) answer.1

variable [DecidableEq S]

/-- A chart whose transitions end in states that a machine can rest in keeps up a property of the
memory and the journal. -/
structure Upholds (chart : Chart S M) (rests : S → Prop)
    (leaving entering : S → Option S → M → List (Effect S) → Prop) : Prop where
  carries : ∀ past, chart.Carries (sinceThen past leaving) (sinceThen past entering)
  answers : ∀ (past : List (Effect S)) {leaf state : S} (event : Event) {scope : Scope S M},
    rests leaf → state ∈ chart.chain leaf → sinceThen past entering leaf (some leaf) scope →
    Demands (sinceThen past leaving) (sinceThen past entering) leaf
      (chart.ask leaf state (.event event) scope)
  arrives : ∀ source target scope, rests (chart.transition source target scope).1
  begins : ∀ scope, rests (chart.enter scope).1

namespace Upholds

variable {rests : S → Prop} {leaving entering : S → Option S → M → List (Effect S) → Prop}

/-- A run is at rest, and the property holds. -/
def AtRest (rests : S → Prop) (entering : S → Option S → M → List (Effect S) → Prop)
    (past : List (Effect S)) (run : S × Scope S M) : Prop :=
  rests run.1 ∧ sinceThen past entering run.1 (some run.1) run.2

theorem sustains (upholds : chart.Upholds rests leaving entering) (shallow : chart.Shallow)
    (past : List (Effect S)) : chart.Sustains (AtRest rests entering past) where
  -- Neither the memory nor the journal changes.
  take atRest := atRest
  process event run atRest := by
    obtain ⟨leaf, scope⟩ := run
    obtain ⟨resting, holds⟩ := atRest
    refine process_induction shallow
      (fun _ asked => sinceThen past entering leaf (some leaf) asked)
      (AtRest rests entering past) ?_ ?_ holds
    · intro state asked member before
      have answered := upholds.answers past event resting member before
      cases found : chart.ask leaf state (.event event) asked with
      | mk after reaction =>
        rw [found] at answered
        cases reaction with
        | handled => exact ⟨resting, answered⟩
        | delegate => exact answered
        | transition target =>
          exact ⟨upholds.arrives leaf target after,
            (upholds.carries past).transition shallow answered⟩
    · intro asked before
      exact ⟨resting, (upholds.carries past).entering_warn .unhandled before⟩

/-- The property holds of a history: at rest, or before the machine has entered any state. -/
def Upheld (chart : Chart S M) (rests : S → Prop)
    (entering : S → Option S → M → List (Effect S) → Prop) (history : History S M) : Prop :=
  if history.machine.started then
    rests history.machine.leaf ∧
      entering history.machine.leaf (some history.machine.leaf) history.machine.memory
        history.journal
  else entering chart.initial none history.machine.memory history.journal

theorem obey (upholds : chart.Upholds rests leaving entering) (shallow : chart.Shallow)
    {history : History S M} (upheld : Upheld chart rests entering history)
    (occasion : Occasion) :
    Upheld chart rests entering (history.obey chart occasion) := by
  unfold Upheld at upheld
  have turned := (upholds.sustains shallow history.journal).obey history.machine occasion.timers
    occasion.now occasion.order ?_ ?_
  · obtain ⟨run, turn, atRest⟩ := turned
    unfold History.obey
    rw [turn]
    exact atRest
  · intro started
    rw [if_pos started] at upheld
    simpa [AtRest, sinceThen, Machine.scope] using upheld
  · intro fresh
    rw [if_neg (by rw [fresh]; exact Bool.false_ne_true)] at upheld
    refine ⟨upholds.begins _, (upholds.carries history.journal).enter_chart shallow ?_⟩
    simpa [sinceThen, Machine.scope] using upheld

/-- What a chart upholds holds after every order, if it holds before a machine enters the chart. -/
theorem obeyAll (upholds : chart.Upholds rests leaving entering) (shallow : chart.Shallow)
    (memory : M) (begins : entering chart.initial none memory []) (first : Occasion)
    (occasions : List Occasion) :
    let history := History.obeyAll chart (.new chart memory) (first :: occasions)
    rests history.machine.leaf ∧
      entering history.machine.leaf (some history.machine.leaf) history.machine.memory
        history.journal := by
  intro history
  have fresh : Upheld chart rests entering (.new chart memory) := begins
  have upheld : Upheld chart rests entering history :=
    List.foldlRecOn (first :: occasions) (History.obey chart) fresh
      fun _ before occasion _ => upholds.obey shallow before occasion
  have started : history.machine.started = true := started_obeyAll _ first occasions
  unfold Upheld at upheld
  rwa [if_pos started] at upheld

end Upholds

end Chart

end Tether
