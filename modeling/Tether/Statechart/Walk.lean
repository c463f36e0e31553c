import Tether.Statechart.Basic

/-!
# Walking the states of a chart

A transition leaves the states of the current chain up to the pivot, the innermost of them that lies
strictly above the target, and enters the states from below the pivot down to the target. So a
transition to the current state or to one of its ancestors leaves the target and enters it again.
The target may then ask for an initial transition, which is carried out by the same rule.

Chains, delegations and initial transitions are cut off after `Limits.maxStateDepth` steps, so they
end whatever the parent table is. The way down to a target has no limit: it ends at the pivot or at
the top, or not at all. The number of steps after which `entries` gives up is not part of the rule;
it only makes the walk a total function, and is larger than any way down in a chart that lists its
states.
-/

namespace Tether

namespace Chart

variable {S M : Type}

/-- At most `limit` states from a state upwards, innermost first. -/
def climb (chart : Chart S M) : Nat → Option S → List S
  | 0, _ => []
  | _, none => []
  | limit + 1, some state => state :: climb chart limit (chart.parent state)

/-- A state and its ancestors, innermost first. -/
def chain (chart : Chart S M) (state : S) : List S :=
  chart.climb Limits.maxStateDepth (some state)

/-- Whether a state has ancestors that its chain leaves out. -/
def isCut (chart : Chart S M) (state : S) : Bool :=
  (chart.climb (Limits.maxStateDepth + 1) (some state)).length > Limits.maxStateDepth

/-- The ancestors of a state without the state itself. -/
def chainAbove (chart : Chart S M) (state : S) : List S :=
  match chart.parent state with
  | some parent => chart.chain parent
  | none => []

/-- Warns if the chain of a state leaves ancestors out. -/
def warnCut (chart : Chart S M) (state : S) (scope : Scope S M) : Scope S M :=
  if chart.isCut state then scope.warn .hierarchyTooDeep else scope

/-- Asks a state about a signal while `leaf` is the current state. -/
def ask (chart : Chart S M) (leaf state : S) (signal : Signal) (scope : Scope S M) :
    Scope S M × Reaction S :=
  chart.handle state signal (scope.record (.asked leaf state signal))

/-- Tells a state that it is entered or left while `leaf` is the current state. It cannot ask for a
transition. -/
def notify (chart : Chart S M) (leaf : S) (signal : Signal) (scope : Scope S M) (state : S) :
    Scope S M :=
  match chart.ask leaf state signal scope with
  | (scope, .transition _) => scope.warn (.transitionIgnored signal)
  | (scope, _) => scope

section Transitions

variable [DecidableEq S]

/-- The innermost state of the chain of `source` that lies strictly above `target`. -/
def pivot? (chart : Chart S M) (source target : S) : Option S :=
  (chart.chain source).find? fun state => decide (state ∈ chart.chainAbove target)

/-- The states that a transition leaves, innermost first. -/
def exits (chart : Chart S M) (source target : S) : List S :=
  (chart.chain source).takeWhile fun state => decide (some state ≠ chart.pivot? source target)

/-- The states from a state upwards to below the pivot, innermost first. -/
def climbBelow (chart : Chart S M) (pivot : Option S) : Nat → Option S → List S
  | 0, _ => []
  | _, none => []
  | limit + 1, some state =>
      -- The pivot stays entered, and so do the states around it.
      if some state = pivot then []
      else state :: climbBelow chart pivot limit (chart.parent state)

/-- The states that a transition enters, outermost first. -/
def entries (chart : Chart S M) (source target : S) : List S :=
  (chart.climbBelow (chart.pivot? source target) (chart.states.length + Limits.maxStateDepth)
    (some target)).reverse

/-- Leaves and enters the states of a transition. The source is the current state until the target
has been entered. -/
def move (chart : Chart S M) (source target : S) (scope : Scope S M) : Scope S M :=
  let scope := chart.warnCut source scope
  let scope :=
    match chart.parent target with
    | some parent => chart.warnCut parent scope
    | none => scope
  let scope := (chart.exits source target).foldl (chart.notify source .exit) scope
  (chart.entries source target).foldl (chart.notify source .entry) scope

/-- Follows at most `limit` initial transitions from a state; the result is the state at rest. -/
def settle (chart : Chart S M) : Nat → S → Scope S M → S × Scope S M
  | 0, leaf, scope => (leaf, scope.warn .initChainTooLong)
  | limit + 1, leaf, scope =>
      match chart.ask leaf leaf .init scope with
      | (scope, .transition target) => settle chart limit target (chart.move leaf target scope)
      | (scope, _) => (leaf, scope)

/-- Carries out a transition with all initial transitions that follow it. -/
def transition (chart : Chart S M) (source target : S) (scope : Scope S M) : S × Scope S M :=
  chart.settle Limits.maxStateDepth target (chart.move source target scope)

/-- Asks a state and then its ancestors about an event until one of them does not delegate. -/
def bubble (chart : Chart S M) (leaf : S) (event : Event) :
    Nat → Option S → Scope S M → S × Scope S M
  | 0, _, scope => (leaf, scope.warn .unhandled)
  | _, none, scope => (leaf, scope.warn .unhandled)
  | limit + 1, some state, scope =>
      match chart.ask leaf state (.event event) scope with
      | (scope, .handled) => (leaf, scope)
      | (scope, .transition target) => chart.transition leaf target scope
      | (scope, .delegate) => bubble chart leaf event limit (chart.parent state) scope

/-- Lets the current state and its ancestors process an event. -/
def process (chart : Chart S M) (run : S × Scope S M) (event : Event) : S × Scope S M :=
  chart.bubble run.1 event Limits.maxStateDepth (some run.1) run.2

/-- Enters the initial state from the outside. -/
def enter (chart : Chart S M) (scope : Scope S M) : S × Scope S M :=
  let scope := chart.warnCut chart.initial scope
  let scope := (chart.chain chart.initial).reverse.foldl (chart.notify chart.initial .entry) scope
  chart.settle Limits.maxStateDepth chart.initial scope

/-- Dispatches the held events again as long as that is asked for, at most `rounds` times. Events
that are held back meanwhile wait for the next time. -/
def replayHeld (chart : Chart S M) : Nat → S × Scope S M → S × Scope S M
  | 0, run => run
  | rounds + 1, (leaf, scope) =>
      if scope.replay then
        replayHeld chart rounds
          (scope.held.items.foldl chart.process
            (leaf, { scope with replay := false, held := .empty }))
      else (leaf, scope)

end Transitions

end Chart

end Tether
