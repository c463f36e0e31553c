import Tether.Proofs.Statechart.Ancestry
import Tether.Statechart.Machine

/-!
# What a passage between states carries along

A property of the scope that depends on the innermost entered state is carried through a whole
transition if every single step carries it: leaving a state, turning round at the pivot, entering a
state, and an initial transition. The property may be another one on the way out than on the way in,
and it may depend on the goal of the transition.

* `Carries.move`, `Carries.settle`, `Carries.transition`: from the steps to a whole transition with
  its initial transitions;
* `process_induction`: from the answer of each state to an event to what the event brings about;
* `replayHeld_induction`: from one batch of held events to a whole replay;
* `Outlasts.transition`: from what states are told to all that happens between two events, also in a
  chart that is not shallow.

What holds of a machine at rest, and again after every event, holds after every turn
(`Sustains.obey`). A property that does not depend on the states at all needs less: it is enough
that a chart keeps it up whenever a state is asked (`Preserves`).
-/

namespace Tether

namespace Chart

variable {S M : Type} {chart : Chart S M}

/-- The steps of a transition to `goal` carry a property along, where the innermost entered state is
`cursor`: `leaving` on the way out, and `entering` on the way in and at rest. -/
structure Carries (chart : Chart S M)
    (leaving entering : S → Option S → Scope S M → Prop) : Prop where
  leave : ∀ (leaf : S) {goal state : S} {scope : Scope S M}, state ∉ chart.chainAbove goal →
    leaving goal (some state) scope →
    leaving goal (chart.parent state) (chart.ask leaf state .exit scope).1
  turn : ∀ {goal : S} {cursor : Option S} {scope : Scope S M},
    (∀ state, cursor = some state → state ∈ chart.chainAbove goal) →
    leaving goal cursor scope → entering goal cursor scope
  enter : ∀ (leaf : S) {goal state : S} {scope : Scope S M}, state ∈ chart.chain goal →
    entering goal (chart.parent state) scope →
    entering goal (some state) (chart.ask leaf state .entry scope).1
  init : ∀ {leaf : S} {scope : Scope S M}, entering leaf (some leaf) scope →
    match chart.ask leaf leaf .init scope with
    | (after, .transition target) => leaving target (some leaf) after
    | (after, _) => entering leaf (some leaf) after
  leaving_warn : ∀ {goal : S} {cursor : Option S} {scope : Scope S M} (warning : Warning),
    leaving goal cursor scope → leaving goal cursor (scope.warn warning)
  entering_warn : ∀ {goal : S} {cursor : Option S} {scope : Scope S M} (warning : Warning),
    entering goal cursor scope → entering goal cursor (scope.warn warning)

theorem notify_eq (chart : Chart S M) (leaf : S) (signal : Signal) (scope : Scope S M) (state : S) :
    chart.notify leaf signal scope state = (chart.ask leaf state signal scope).1 ∨
      chart.notify leaf signal scope state =
        (chart.ask leaf state signal scope).1.warn (.transitionIgnored signal) := by
  unfold notify
  cases chart.ask leaf state signal scope with
  | mk after reaction =>
    cases reaction with
    | handled => exact Or.inl rfl
    | transition target => exact Or.inr rfl
    | delegate => exact Or.inl rfl

theorem warnCut_eq (shallow : chart.Shallow) (state : S) (scope : Scope S M) :
    chart.warnCut state scope = scope := by
  rw [warnCut, shallow state]
  rfl

theorem move_eq [DecidableEq S] (shallow : chart.Shallow) (source target : S)
    (scope : Scope S M) :
    chart.move source target scope =
      (chart.entries source target).foldl (chart.notify source .entry)
        ((chart.exits source target).foldl (chart.notify source .exit) scope) := by
  unfold move
  rw [warnCut_eq shallow]
  cases chart.parent target with
  | none => rfl
  | some parent => dsimp only; rw [warnCut_eq shallow]

namespace Carries

variable {leaving entering : S → Option S → Scope S M → Prop}

theorem notify_exit (carries : chart.Carries leaving entering) (leaf : S) {goal state : S}
    {scope : Scope S M} (outside : state ∉ chart.chainAbove goal)
    (before : leaving goal (some state) scope) :
    leaving goal (chart.parent state) (chart.notify leaf .exit scope state) := by
  have left := carries.leave leaf outside before
  rcases notify_eq chart leaf .exit scope state with equal | equal
  · rw [equal]; exact left
  · rw [equal]; exact carries.leaving_warn _ left

theorem notify_entry (carries : chart.Carries leaving entering) (leaf : S) {goal state : S}
    {scope : Scope S M} (inside : state ∈ chart.chain goal)
    (before : entering goal (chart.parent state) scope) :
    entering goal (some state) (chart.notify leaf .entry scope state) := by
  have entered := carries.enter leaf inside before
  rcases notify_eq chart leaf .entry scope state with equal | equal
  · rw [equal]; exact entered
  · rw [equal]; exact carries.entering_warn _ entered

/-- Leaving the states of a chain down to the pivot, innermost first. -/
theorem leave_all (carries : chart.Carries leaving entering) (shallow : chart.Shallow)
    (leaf : S) {goal : S} {pivot cursor : Option S} {states : List S}
    {scope : Scope S M} (walk : chart.chainFrom cursor = states ++ chart.chainFrom pivot)
    (outside : ∀ state ∈ states, state ∉ chart.chainAbove goal)
    (before : leaving goal cursor scope) :
    leaving goal pivot (states.foldl (chart.notify leaf .exit) scope) := by
  induction states generalizing cursor scope with
  | nil =>
    rw [List.nil_append] at walk
    rw [← chainFrom_injective shallow walk]
    exact before
  | cons state rest ih =>
    obtain ⟨here, above⟩ := chainFrom_eq_cons shallow walk
    rw [here] at before
    exact ih above (fun other member => outside other (List.mem_cons_of_mem state member))
      (carries.notify_exit leaf (outside state List.mem_cons_self) before)

/-- Entering the states of a chain from the pivot on, outermost first. -/
theorem enter_all (carries : chart.Carries leaving entering) (shallow : chart.Shallow)
    (leaf : S) {goal : S} {pivot cursor : Option S} {states : List S}
    {scope : Scope S M} (walk : chart.chainFrom cursor = states ++ chart.chainFrom pivot)
    (inside : ∀ state ∈ states, state ∈ chart.chain goal)
    (before : entering goal pivot scope) :
    entering goal cursor (states.reverse.foldl (chart.notify leaf .entry) scope) := by
  induction states generalizing cursor with
  | nil =>
    rw [List.nil_append] at walk
    rw [chainFrom_injective shallow walk]
    exact before
  | cons state rest ih =>
    obtain ⟨here, above⟩ := chainFrom_eq_cons shallow walk
    rw [here, List.reverse_cons, List.foldl_append]
    exact carries.notify_entry leaf (inside state List.mem_cons_self)
      (ih above fun other member => inside other (List.mem_cons_of_mem state member))

section Transitions

variable [DecidableEq S]

theorem move (carries : chart.Carries leaving entering) (shallow : chart.Shallow)
    {source target : S} {scope : Scope S M} (before : leaving target (some source) scope) :
    entering target (some target) (chart.move source target scope) := by
  have outward : chart.chainFrom (some source) =
      chart.exits source target ++ chart.chainFrom (chart.pivot? source target) :=
    chain_eq_exits_append shallow source target
  have inward : chart.chainFrom (some target) =
      (chart.entries source target).reverse ++ chart.chainFrom (chart.pivot? source target) :=
    chain_eq_entries_append shallow source target
  have left := carries.leave_all shallow source outward
    (fun _ => not_mem_chainAbove_of_mem_exits) before
  have turned := carries.turn (fun _ found => (mem_of_mem_pivot found).2) left
  have below : ∀ state ∈ (chart.entries source target).reverse,
    state ∈ chart.chain target := by
    intro state member
    rw [chain_eq_entries_append shallow source target]
    exact List.mem_append_left _ member
  have entered := carries.enter_all shallow source inward below turned
  rw [List.reverse_reverse] at entered
  rw [move_eq shallow]
  exact entered

theorem settle (carries : chart.Carries leaving entering) (shallow : chart.Shallow) {limit : Nat}
    {leaf : S} {scope : Scope S M} (before : entering leaf (some leaf) scope) :
    entering (chart.settle limit leaf scope).1 (some (chart.settle limit leaf scope).1)
      (chart.settle limit leaf scope).2 := by
  induction limit generalizing leaf scope with
  | zero => exact carries.entering_warn _ before
  | succ limit ih =>
    have asked := carries.init before
    unfold Chart.settle
    cases found : chart.ask leaf leaf .init scope with
    | mk after reaction =>
      rw [found] at asked
      cases reaction with
      | handled => exact asked
      | delegate => exact asked
      | transition target => exact ih (carries.move shallow asked)

theorem transition (carries : chart.Carries leaving entering) (shallow : chart.Shallow)
    {source target : S} {scope : Scope S M} (before : leaving target (some source) scope) :
    entering (chart.transition source target scope).1
      (some (chart.transition source target scope).1)
      (chart.transition source target scope).2 :=
  carries.settle shallow (carries.move shallow before)

/-- Entering a chart from the outside. -/
theorem enter_chart (carries : chart.Carries leaving entering) (shallow : chart.Shallow)
    {scope : Scope S M} (before : entering chart.initial none scope) :
    entering (chart.enter scope).1 (some (chart.enter scope).1) (chart.enter scope).2 := by
  unfold Chart.enter
  rw [warnCut_eq shallow]
  apply carries.settle shallow
  have inward : chart.chainFrom (some chart.initial) =
      chart.chain chart.initial ++ chart.chainFrom none := (List.append_nil _).symm
  exact carries.enter_all shallow chart.initial inward (fun _ member => member) before

end Transitions

end Carries

section Processing

variable [DecidableEq S]

/-- What an event brings about follows from the answers of the states that are asked about it. Here
`asking` holds while a state, or nobody any more, is to be asked. -/
theorem process_induction (shallow : chart.Shallow) {leaf : S} {event : Event}
    (asking : Option S → Scope S M → Prop) (goal : S × Scope S M → Prop)
    (answer : ∀ state scope, state ∈ chart.chain leaf → asking (some state) scope →
      match chart.ask leaf state (.event event) scope with
      | (after, .handled) => goal (leaf, after)
      | (after, .transition target) => goal (chart.transition leaf target after)
      | (after, .delegate) => asking (chart.parent state) after)
    (unhandled : ∀ scope, asking none scope → goal (leaf, scope.warn .unhandled))
    {scope : Scope S M} (before : asking (some leaf) scope) :
    goal (chart.process (leaf, scope) event) := by
  -- The limit suffices for the states that are left to ask, which are an end of the chain.
  suffices climbing : ∀ limit cursor scope, (chart.chainFrom cursor).length ≤ limit →
      chart.chainFrom cursor <:+ chart.chain leaf → asking cursor scope →
      goal (chart.bubble leaf event limit cursor scope) from
    climbing _ (some leaf) scope (length_chain_le leaf) List.suffix_rfl before
  intro limit
  induction limit with
  | zero =>
    intro cursor scope enough _ asked
    cases cursor with
    | none => exact unhandled scope asked
    | some state =>
      rw [chainFrom, chain_eq_cons shallow] at enough
      exact absurd enough (Nat.not_succ_le_zero _)
  | succ limit ih =>
    intro cursor scope enough inside asked
    cases cursor with
    | none => exact unhandled scope asked
    | some state =>
      rw [chainFrom, chain_eq_cons shallow, ← chainFrom_parent] at enough inside
      have answered := answer state scope (inside.subset List.mem_cons_self) asked
      unfold bubble
      cases found : chart.ask leaf state (.event event) scope with
      | mk after reaction =>
        rw [found] at answered
        cases reaction with
        | handled => exact answered
        | transition target => exact answered
        | delegate =>
          exact ih _ _ (Nat.le_of_succ_le_succ enough)
            ((List.suffix_cons _ _).trans inside) answered

/-- What holds after every batch of held events holds after a whole replay. -/
theorem replayHeld_induction (goal : S × Scope S M → Prop)
    (batch : ∀ leaf scope, scope.replay = true → goal (leaf, scope) →
      goal (scope.held.items.foldl chart.process
        (leaf, { scope with replay := false, held := .empty })))
    {rounds : Nat} {run : S × Scope S M} (before : goal run) :
    goal (chart.replayHeld rounds run) := by
  induction rounds generalizing run with
  | zero => exact before
  | succ rounds ih =>
    obtain ⟨leaf, scope⟩ := run
    unfold replayHeld
    split
    · next asked => exact ih (batch leaf scope asked before)
    · exact before

/-- Nothing is replayed unless that is asked for. -/
theorem replayHeld_eq_self {run : S × Scope S M} (idle : run.2.replay = false) (rounds : Nat) :
    chart.replayHeld rounds run = run := by
  obtain ⟨leaf, scope⟩ := run
  cases rounds with
  | zero => rfl
  | succ rounds =>
    unfold replayHeld
    rw [if_neg (by rw [idle]; exact Bool.false_ne_true)]

/-- The replay of a turn is a single batch if nothing asks for another one meanwhile. -/
theorem replayHeld_eq_batch {leaf : S} {scope : Scope S M} (asked : scope.replay = true)
    (idle : (scope.held.items.foldl chart.process
      (leaf, { scope with replay := false, held := .empty })).2.replay = false) :
    chart.replayHeld Limits.replayRounds (leaf, scope) =
      scope.held.items.foldl chart.process
        (leaf, { scope with replay := false, held := .empty }) := by
  obtain ⟨rounds, positive⟩ : ∃ rounds, Limits.replayRounds = rounds + 1 :=
    Nat.exists_eq_succ_of_ne_zero (Nat.ne_of_gt (Nat.two_pow_pos 32))
  rw [positive, replayHeld, if_pos asked, replayHeld_eq_self idle]

end Processing

/-! ## Between two events -/

/-- A property of the scope outlasts all that happens between two events: states are told of their
entry and their exit, initial transitions are followed, and the engine warns of anything but an
event that nobody handles. -/
structure Outlasts (chart : Chart S M) (holds : Scope S M → Prop) : Prop where
  ask : ∀ (leaf state : S) {signal : Signal} {scope : Scope S M},
    (∀ event, signal ≠ .event event) →
    holds scope → holds (chart.ask leaf state signal scope).1
  warn : ∀ {warning : Warning} {scope : Scope S M}, warning ≠ .unhandled → holds scope →
    holds (scope.warn warning)

namespace Outlasts

variable {holds : Scope S M → Prop}

theorem notifyAll (outlasts : chart.Outlasts holds) (signal : Signal)
    (plain : ∀ event, signal ≠ .event event) (leaf : S) (states : List S) {scope : Scope S M}
    (before : holds scope) : holds (states.foldl (chart.notify leaf signal) scope) := by
  refine List.foldlRecOn (motive := holds) states (chart.notify leaf signal) before ?_
  intro middle holding state _
  have asked := outlasts.ask leaf state plain holding
  rcases notify_eq chart leaf signal middle state with equal | equal
  · rw [equal]; exact asked
  · rw [equal]; exact outlasts.warn nofun asked

theorem warnCut (outlasts : chart.Outlasts holds) (state : S) {scope : Scope S M}
    (before : holds scope) : holds (chart.warnCut state scope) := by
  unfold Chart.warnCut
  split
  · exact outlasts.warn nofun before
  · exact before

variable [DecidableEq S]

theorem move (outlasts : chart.Outlasts holds) (source target : S) {scope : Scope S M}
    (before : holds scope) : holds (chart.move source target scope) := by
  have cut := outlasts.warnCut source before
  unfold Chart.move
  refine outlasts.notifyAll .entry (fun _ => nofun) source _
    (outlasts.notifyAll .exit (fun _ => nofun) source _ ?_)
  cases chart.parent target with
  | none => exact cut
  | some parent => exact outlasts.warnCut parent cut

theorem settle (outlasts : chart.Outlasts holds) (limit : Nat) (leaf : S) {scope : Scope S M}
    (before : holds scope) : holds (chart.settle limit leaf scope).2 := by
  induction limit generalizing leaf scope with
  | zero => exact outlasts.warn nofun before
  | succ limit ih =>
    have asked : holds (chart.ask leaf leaf .init scope).1 :=
      outlasts.ask leaf leaf (fun _ => nofun) before
    unfold Chart.settle
    cases found : chart.ask leaf leaf .init scope with
    | mk after reaction =>
      rw [found] at asked
      cases reaction with
      | transition target => exact ih target (outlasts.move leaf target asked)
      | handled | delegate => exact asked

theorem transition (outlasts : chart.Outlasts holds) (source target : S) {scope : Scope S M}
    (before : holds scope) : holds (chart.transition source target scope).2 :=
  outlasts.settle _ target (outlasts.move source target before)

theorem enter (outlasts : chart.Outlasts holds) {scope : Scope S M} (before : holds scope) :
    holds (chart.enter scope).2 :=
  outlasts.settle _ chart.initial
    (outlasts.notifyAll .entry (fun _ => nofun) chart.initial _
      (outlasts.warnCut chart.initial before))

end Outlasts

/-! ## Machines at rest -/

/-- What holds of a machine at rest holds again after every event, and does not depend on the events
that are held back. -/
structure Sustains [DecidableEq S] (chart : Chart S M)
    (atRest : S × Scope S M → Prop) : Prop where
  process : ∀ (event : Event) {run : S × Scope S M}, atRest run →
    atRest (chart.process run event)
  take : ∀ {leaf : S} {scope : Scope S M}, atRest (leaf, scope) →
    atRest (leaf, { scope with replay := false, held := .empty })

namespace Sustains

variable [DecidableEq S] {atRest : S × Scope S M → Prop} {run : S × Scope S M}

theorem processAll (sustains : chart.Sustains atRest) (events : List Event) (before : atRest run) :
    atRest (events.foldl chart.process run) :=
  List.foldlRecOn events chart.process before fun _ holds event _ => sustains.process event holds

theorem replayHeld (sustains : chart.Sustains atRest) (rounds : Nat) (before : atRest run) :
    atRest (chart.replayHeld rounds run) :=
  replayHeld_induction atRest
    (fun _ scope _ holds => sustains.processAll scope.held.items (sustains.take holds)) before

/-- A machine that has been started, or can be, is at rest after its start. -/
theorem startRun (sustains : chart.Sustains atRest) (machine : Machine S M) (timers : Timers)
    (now : Nat)
    (started : machine.started = true → atRest (machine.leaf, machine.scope timers now))
    (enters : machine.started = false → atRest (chart.enter (machine.scope timers now))) :
    atRest (chart.startRun machine timers now) := by
  unfold Chart.startRun
  split
  · next already => exact started already
  · next fresh => exact sustains.replayHeld _ (enters (Bool.eq_false_iff.mpr fresh))

/-- A turn of a machine that has been started, or can be, ends at rest. -/
theorem obey (sustains : chart.Sustains atRest) (machine : Machine S M) (timers : Timers)
    (now : Nat) (order : Order)
    (started : machine.started = true → atRest (machine.leaf, machine.scope timers now))
    (enters : machine.started = false → atRest (chart.enter (machine.scope timers now))) :
    ∃ run, chart.obey machine timers now order = Machine.turn run ∧ atRest run := by
  have begun := sustains.startRun machine timers now started enters
  cases order with
  | start => exact ⟨_, rfl, begun⟩
  | dispatch event => exact ⟨_, rfl, sustains.replayHeld _ (sustains.process event begun)⟩

end Sustains

/-! ## Properties that do not depend on the states -/

/-- A property of the scope is kept up by all that a chart does. -/
structure Preserves (chart : Chart S M) (holds : Scope S M → Prop) : Prop where
  ask : ∀ (leaf state : S) (signal : Signal) {scope : Scope S M}, holds scope →
    holds (chart.ask leaf state signal scope).1
  warn : ∀ (warning : Warning) {scope : Scope S M}, holds scope → holds (scope.warn warning)
  /-- The held events are taken out of the queue for a replay. -/
  take : ∀ {scope : Scope S M}, holds scope →
    holds { scope with replay := false, held := .empty }

namespace Preserves

variable {holds : Scope S M → Prop}

theorem carries (preserves : chart.Preserves holds) :
    chart.Carries (fun _ _ => holds) (fun _ _ => holds) where
  leave leaf _ state _ _ before := preserves.ask leaf state .exit before
  turn _ before := before
  enter leaf _ state _ _ before := preserves.ask leaf state .entry before
  init {leaf scope} before := by
    have asked := preserves.ask leaf leaf .init before
    cases found : chart.ask leaf leaf .init scope with
    | mk after reaction =>
      rw [found] at asked
      cases reaction <;> exact asked
  leaving_warn warning before := preserves.warn warning before
  entering_warn warning before := preserves.warn warning before

section Runs

variable [DecidableEq S]

theorem sustains (preserves : chart.Preserves holds) (shallow : chart.Shallow) :
    chart.Sustains (fun run => holds run.2) where
  take before := preserves.take before
  process event run before := by
    obtain ⟨leaf, scope⟩ := run
    refine process_induction shallow (fun _ => holds) (fun run => holds run.2) ?_
      (fun _ => preserves.warn .unhandled) before
    intro state asked _ holding
    have answered := preserves.ask leaf state (.event event) holding
    cases found : chart.ask leaf state (.event event) asked with
    | mk after reaction =>
      rw [found] at answered
      cases reaction with
      | handled => exact answered
      | transition target => exact preserves.carries.transition shallow answered
      | delegate => exact answered

/-- A turn of a machine ends with a scope that has the property. -/
theorem obey (preserves : chart.Preserves holds) (shallow : chart.Shallow)
    (machine : Machine S M) (timers : Timers) (now : Nat) (order : Order)
    (before : holds (machine.scope timers now)) :
    ∃ run, chart.obey machine timers now order = Machine.turn run ∧ holds run.2 :=
  (preserves.sustains shallow).obey machine timers now order (fun _ => before)
    fun _ => preserves.carries.enter_chart shallow before

end Runs

end Preserves

end Chart

end Tether
