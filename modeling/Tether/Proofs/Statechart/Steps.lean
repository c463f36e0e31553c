import Tether.Proofs.Statechart.History

/-!
# What a machine does, step by step

While a machine obeys its orders, states are asked, their handlers act and answer, and the engine
warns, dispatches events and begins replays (`Step`). An account of a chart says what its handlers
do, action by action; every chart has one (`nonempty_account`). With an account everything that a
machine does can be told in steps, function by function of the engine (`Account.obeyingAll`).
Carrying out the steps one after the other makes the same changes as the engine does (`Leads`), and
the journal tells of each asking among them (`Step.askings_foldl`).

The steps also show at any moment what the engine is about (`Phase`): an event makes it ask states
until one of them answers, an answer can ask for a transition, and a transition is over when the
current state does not ask for another one. What the engine is about decides what states are asked
(`Phase.Allows`). Whatever the handlers do, an event is put to the current state and then finished
when the engine is done with it (`leads_processing`).
-/

namespace Tether

/-- One thing that happens while a machine obeys orders. -/
inductive Step (S M : Type) where
  /-- The machine is given an order. -/
  | wakes (timers : Timers) (now : Nat)
  /-- The chart is entered from the outside. -/
  | enters
  /-- An event from the outside is dispatched. -/
  | dispatches (event : Event)
  /-- A replay begins: the held events are taken out of the queue as a batch. -/
  | begins
  /-- An event of the batch is dispatched again. -/
  | repeats (event : Event)
  /-- A state is asked about a signal while `leaf` is the current state. -/
  | asks (leaf state : S) (signal : Signal)
  /-- The handler of the state that has been asked does something. -/
  | acts (action : Action M)
  /-- The state that has been asked answers. -/
  | answers (signal : Signal) (reaction : Reaction S)
  | warns (warning : Warning)

/-- What the engine is about. -/
inductive Phase where
  /-- It waits for the next event. -/
  | idle
  /-- It has an event that no state has been asked about yet. -/
  | called (event : Event)
  /-- It asks states about an event. -/
  | asking (event : Event)
  /-- It carries out a transition. -/
  | moving
deriving DecidableEq

variable {S M : Type}

namespace Step

/-- The scope after a step. -/
def apply (scope : Scope S M) : Step S M → Scope S M
  | .wakes timers now => { scope with timers := timers, now := now, journal := [] }
  | .begins => { scope with replay := false, held := .empty }
  | .asks leaf state signal => scope.record (.asked leaf state signal)
  | .acts action => scope.act action
  | .warns warning => scope.warn warning
  | .enters | .dispatches _ | .repeats _ | .answers .. => scope

/-- Whether a step is part of what an event brings about. -/
def isInner : Step S M → Bool
  | .asks .. | .acts _ | .answers .. | .warns _ => true
  | _ => false

/-- Whether a machine is given an order by a step. Each order has a journal of its own. -/
def isWaking : Step S M → Bool
  | .wakes .. => true
  | _ => false

/-- What a step tells the journal about who is asked. -/
def asked? : Step S M → Option (Effect S)
  | .asks leaf state signal => some (.asked leaf state signal)
  | _ => none

theorem isWaking_of_isInner {step : Step S M} (inner : step.isInner) : step.isWaking = false := by
  cases step with
  | wakes => cases inner
  | _ => rfl

/-- While an order is obeyed, the journal tells of each asking, and of no other one. -/
theorem askings_apply (scope : Scope S M) {step : Step S M} (same : step.isWaking = false) :
    (apply scope step).journal.filter Effect.isAsked =
      scope.journal.filter Effect.isAsked ++ step.asked?.toList := by
  cases step with
  | wakes => cases same
  | asks => exact List.filter_append _ _
  | warns => exact List.filter_append _ _
  | acts action =>
    obtain ⟨added, grown, silent⟩ := scope.act_journal action
    have none : added.filter Effect.isAsked = [] :=
      List.filter_eq_nil_iff.mpr fun effect member => by simp [silent effect member]
    show (scope.act action).journal.filter Effect.isAsked = _
    rw [grown, List.filter_append, none]
    rfl
  | _ => exact (List.append_nil _).symm

theorem askings_foldl (scope : Scope S M) {steps : List (Step S M)}
    (same : ∀ step ∈ steps, step.isWaking = false) :
    (steps.foldl apply scope).journal.filter Effect.isAsked =
      scope.journal.filter Effect.isAsked ++ steps.filterMap asked? := by
  induction steps generalizing scope with
  | nil => exact (List.append_nil _).symm
  | cons step rest ih =>
    obtain ⟨now, later⟩ := List.forall_mem_cons.mp same
    rw [List.foldl_cons, ih _ later, askings_apply scope now, List.append_assoc]
    cases told : step.asked? with
    | none => rw [List.filterMap_cons_none told]; rfl
    | some effect => rw [List.filterMap_cons_some told]; rfl

end Step

namespace Phase

/-- What the engine is about after a step. -/
def step (phase : Phase) (step : Step S M) : Phase :=
  match step, phase with
  | .enters, _ => .moving
  | .dispatches event, _ | .repeats event, _ => .called event
  | .asks _ _ (.event event), _ => .asking event
  | .answers (.event _) .handled, .asking _ => .idle
  | .answers (.event _) (.transition _), .asking _ => .moving
  | .warns .unhandled, .asking _ => .idle
  | .answers .init .handled, .moving | .answers .init .delegate, .moving => .idle
  | .warns .initChainTooLong, .moving => .idle
  | _, phase => phase

/-- Whether the engine may take a step. An event is taken up only when the one before is finished,
and a state is asked only about what the engine is about. -/
def Allows (phase : Phase) : Step S M → Prop
  | .wakes .. | .enters | .dispatches _ | .begins | .repeats _ => phase = .idle
  | .asks _ _ (.event event) => phase = .called event ∨ phase = .asking event
  | .asks .. => phase = .moving
  | .acts _ | .answers .. | .warns _ => True

/-- Whether the engine may take some steps one after the other. -/
def AllowsAll (phase : Phase) : List (Step S M) → Prop
  | [] => True
  | step :: rest => phase.Allows step ∧ (phase.step step).AllowsAll rest

theorem AllowsAll.append {phase : Phase} {steps more : List (Step S M)}
    (allowed : phase.AllowsAll steps) (later : (steps.foldl Phase.step phase).AllowsAll more) :
    phase.AllowsAll (steps ++ more) := by
  induction steps generalizing phase with
  | nil => exact later
  | cons step rest ih => exact ⟨allowed.1, ih allowed.2 later⟩

end Phase

namespace Chart

/-- What the handlers of a chart do, action by action. -/
structure Account (chart : Chart S M) where
  actions : S → Signal → Scope S M → List (Action M)
  explains : ∀ (state : S) (signal : Signal) (scope : Scope S M),
    (actions state signal scope).foldl Scope.act scope = (chart.handle state signal scope).1

/-- Handlers do nothing but act. -/
theorem nonempty_account (chart : Chart S M) : Nonempty chart.Account :=
  ⟨fun state signal scope => (chart.handle_becomes state signal scope).choose,
    fun state signal scope => (chart.handle_becomes state signal scope).choose_spec⟩

namespace Account

variable {chart : Chart S M} (account : chart.Account)

/-! ## The steps of the engine -/

/-- The steps of asking a state. -/
def asking (leaf state : S) (signal : Signal) (scope : Scope S M) : List (Step S M) :=
  .asks leaf state signal ::
    ((account.actions state signal (scope.record (.asked leaf state signal))).map .acts ++
      [.answers signal (chart.ask leaf state signal scope).2])

/-- The steps of telling a state that it is entered or left. -/
def telling (leaf : S) (signal : Signal) (scope : Scope S M) (state : S) : List (Step S M) :=
  account.asking leaf state signal scope ++
    match (chart.ask leaf state signal scope).2 with
    | .transition _ => [.warns (.transitionIgnored signal)]
    | _ => []

/-- The steps of telling states one after the other. -/
def tellingAll (leaf : S) (signal : Signal) : List S → Scope S M → List (Step S M)
  | [], _ => []
  | state :: rest, scope =>
      account.telling leaf signal scope state ++
        tellingAll leaf signal rest (chart.notify leaf signal scope state)

/-- The steps of warning of a chain that leaves ancestors out. -/
def cutting (chart : Chart S M) (state : S) : List (Step S M) :=
  if chart.isCut state then [.warns .hierarchyTooDeep] else []

variable [DecidableEq S]

/-- The steps of leaving some states and entering others. -/
def walking (source target : S) (scope : Scope S M) : List (Step S M) :=
  let left := (chart.exits source target).foldl (chart.notify source .exit) scope
  account.tellingAll source .exit (chart.exits source target) scope ++
    account.tellingAll source .entry (chart.entries source target) left

/-- The steps of leaving and entering the states of a transition. -/
def moving (source target : S) (scope : Scope S M) : List (Step S M) :=
  let scope := chart.warnCut source scope
  cutting chart source ++
    match chart.parent target with
    | some parent =>
        cutting chart parent ++ account.walking source target (chart.warnCut parent scope)
    | none => account.walking source target scope

/-- The steps of following initial transitions. -/
def settling : Nat → S → Scope S M → List (Step S M)
  | 0, _, _ => [.warns .initChainTooLong]
  | limit + 1, leaf, scope =>
      account.asking leaf leaf .init scope ++
        match chart.ask leaf leaf .init scope with
        | (scope, .transition target) =>
            account.moving leaf target scope ++ settling limit target (chart.move leaf target scope)
        | _ => []

/-- The steps of a transition with all initial transitions that follow it. -/
def transiting (source target : S) (scope : Scope S M) : List (Step S M) :=
  account.moving source target scope ++
    account.settling Limits.maxStateDepth target (chart.move source target scope)

/-- The steps of asking a state and then its ancestors about an event. -/
def bubbling (leaf : S) (event : Event) : Nat → Option S → Scope S M → List (Step S M)
  | 0, _, _ => [.warns .unhandled]
  | _, none, _ => [.warns .unhandled]
  | limit + 1, some state, scope =>
      account.asking leaf state (.event event) scope ++
        match chart.ask leaf state (.event event) scope with
        | (_, .handled) => []
        | (scope, .transition target) => account.transiting leaf target scope
        | (scope, .delegate) => bubbling leaf event limit (chart.parent state) scope

/-- The steps that an event brings about. -/
def processing (run : S × Scope S M) (event : Event) : List (Step S M) :=
  account.bubbling run.1 event Limits.maxStateDepth (some run.1) run.2

/-- The steps of entering a chart from the outside. -/
def entering (scope : Scope S M) : List (Step S M) :=
  let states := (chart.chain chart.initial).reverse
  let scope := chart.warnCut chart.initial scope
  cutting chart chart.initial ++ (account.tellingAll chart.initial .entry states scope ++
    account.settling Limits.maxStateDepth chart.initial
      (states.foldl (chart.notify chart.initial .entry) scope))

/-- The steps of dispatching the events of a batch again. -/
def repeating : List Event → S × Scope S M → List (Step S M)
  | [], _ => []
  | event :: rest, run =>
      .repeats event :: (account.processing run event ++ repeating rest (chart.process run event))

/-- The steps of dispatching held events again as long as that is asked for. -/
def replaying : Nat → S × Scope S M → List (Step S M)
  | 0, _ => []
  | rounds + 1, (leaf, scope) =>
      if scope.replay then
        let run := (leaf, { scope with replay := false, held := .empty })
        .begins :: (account.repeating scope.held.items run ++
          replaying rounds (scope.held.items.foldl chart.process run))
      else []

/-- The steps of starting a machine that has not been started. -/
def starting (machine : Machine S M) (timers : Timers) (now rounds : Nat) : List (Step S M) :=
  if machine.started then []
  else
    let scope := machine.scope timers now
    .enters :: (account.entering scope ++ account.replaying rounds (chart.enter scope))

/-- The steps of obeying an order. -/
def obeying (machine : Machine S M) (occasion : Occasion) (rounds : Nat) : List (Step S M) :=
  let begun := chart.startRun machine occasion.timers occasion.now rounds
  .wakes occasion.timers occasion.now ::
    (account.starting machine occasion.timers occasion.now rounds ++
      match occasion.order with
      | .start => []
      | .dispatch event =>
          .dispatches event :: (account.processing begun event ++
            account.replaying rounds (chart.process begun event)))

/-- The steps of obeying orders one after the other. -/
def obeyingAll (history : History S M) (occasions : List Occasion) (rounds : Nat) :
    List (Step S M) :=
  match occasions with
  | [] => []
  | occasion :: rest =>
      account.obeying history.machine occasion rounds ++
        obeyingAll (history.obey chart occasion rounds) rest rounds

end Account

end Chart

/-! ## What the steps lead to -/

/-- Some steps that an event brings about lead from one scope to another, and from one phase to
another. -/
structure Leads (steps : List (Step S M)) (before : Scope S M) (phase : Phase)
    (after : Scope S M) (later : Phase) : Prop where
  inner : ∀ step ∈ steps, step.isInner
  allowed : phase.AllowsAll steps
  scope : steps.foldl Step.apply before = after
  phase : steps.foldl Phase.step phase = later

namespace Leads

variable {first second third : Scope S M} {phase later last : Phase} {steps more : List (Step S M)}

theorem nil (scope : Scope S M) (phase : Phase) : Leads [] scope phase scope phase :=
  ⟨List.forall_mem_nil _, trivial, rfl, rfl⟩

theorem append (early : Leads steps first phase second later)
    (late : Leads more second later third last) : Leads (steps ++ more) first phase third last where
  inner step member := (List.mem_append.mp member).elim (early.inner step) (late.inner step)
  allowed := early.allowed.append (early.phase ▸ late.allowed)
  scope := by rw [List.foldl_append, early.scope, late.scope]
  phase := by rw [List.foldl_append, early.phase, late.phase]

theorem cons {step : Step S M} (inner : step.isInner) (allowed : phase.Allows step)
    (late : Leads steps (Step.apply first step) (phase.step step) second later) :
    Leads (step :: steps) first phase second later :=
  ⟨List.forall_mem_cons.mpr ⟨inner, late.inner⟩, ⟨allowed, late.allowed⟩,
    late.scope, late.phase⟩

theorem warns (warning : Warning) (scope : Scope S M) (phase : Phase) :
    Leads [.warns warning] scope phase (scope.warn warning)
      (phase.step (.warns warning : Step S M)) :=
  .cons rfl trivial (.nil _ _)

/-- Handlers may do anything, but it does not change what the engine is about. -/
theorem acts (actions : List (Action M)) (scope : Scope S M) (phase : Phase) :
    Leads (actions.map .acts) scope phase (actions.foldl Scope.act scope) phase := by
  induction actions generalizing scope with
  | nil => exact .nil scope phase
  | cons action rest ih => exact .cons rfl trivial (ih _)

/-- It does not matter to what follows whether other states have been asked about an event. -/
theorem of_asking {event : Event} {leaf state : S}
    (leads : Leads (.asks leaf state (.event event) :: steps) first (.asking event) second later) :
    Leads (.asks leaf state (.event event) :: steps) first (.called event) second later :=
  ⟨leads.inner, ⟨.inl rfl, leads.allowed.2⟩, leads.scope, leads.phase⟩

end Leads

namespace Chart.Account

variable {chart : Chart S M} (account : chart.Account)

theorem leads_asking (leaf state : S) (signal : Signal) (scope : Scope S M) {phase : Phase}
    (allowed : phase.Allows (.asks leaf state signal : Step S M)) :
    Leads (account.asking leaf state signal scope) scope phase
      (chart.ask leaf state signal scope).1
      ((phase.step (.asks leaf state signal : Step S M)).step
        (.answers signal (chart.ask leaf state signal scope).2 : Step S M)) := by
  have acting := Leads.acts
    (account.actions state signal (scope.record (.asked leaf state signal)))
    (scope.record (.asked leaf state signal)) (phase.step (.asks leaf state signal : Step S M))
  rw [account.explains] at acting
  exact .cons rfl allowed (acting.append (.cons rfl trivial (.nil _ _)))

/-- A state that is told of its entry or its exit cannot change what the engine is about. -/
theorem leads_telling (leaf state : S) {signal : Signal} (told : signal = .entry ∨ signal = .exit)
    (scope : Scope S M) :
    Leads (account.telling leaf signal scope state) scope .moving
      (chart.notify leaf signal scope state) .moving := by
  have allowed : Phase.moving.Allows (.asks leaf state signal : Step S M) := by
    rcases told with rfl | rfl <;> rfl
  have same (reaction : Reaction S) : (Phase.moving.step (.asks leaf state signal : Step S M)).step
      (.answers signal reaction : Step S M) = .moving := by
    rcases told with rfl | rfl <;> rfl
  have asked := account.leads_asking leaf state signal scope allowed
  rw [same] at asked
  unfold telling notify
  rcases found : chart.ask leaf state signal scope with ⟨after, reaction⟩
  rw [found] at asked
  cases reaction with
  | transition target => exact asked.append (.warns (.transitionIgnored signal) after .moving)
  | handled | delegate => exact asked.append (.nil after .moving)

theorem leads_tellingAll (leaf : S) {signal : Signal} (told : signal = .entry ∨ signal = .exit)
    (states : List S) (scope : Scope S M) :
    Leads (account.tellingAll leaf signal states scope) scope .moving
      (states.foldl (chart.notify leaf signal) scope) .moving := by
  induction states generalizing scope with
  | nil => exact .nil scope .moving
  | cons state rest ih => exact (account.leads_telling leaf state told scope).append (ih _)

theorem leads_cutting (chart : Chart S M) (state : S) (scope : Scope S M) :
    Leads (cutting chart state) scope .moving (chart.warnCut state scope) .moving := by
  unfold cutting warnCut
  split
  · exact .warns .hierarchyTooDeep scope .moving
  · exact .nil scope .moving

variable [DecidableEq S]

theorem leads_moving (source target : S) (scope : Scope S M) :
    Leads (account.moving source target scope) scope .moving (chart.move source target scope)
      .moving := by
  have walks (scope : Scope S M) :
      Leads (account.walking source target scope) scope .moving _ .moving :=
    (account.leads_tellingAll source (.inr rfl) (chart.exits source target) scope).append
      (account.leads_tellingAll source (.inl rfl) (chart.entries source target) _)
  have cut := leads_cutting chart source scope
  unfold moving move
  cases chart.parent target with
  | none => exact cut.append (walks _)
  | some parent => exact cut.append ((leads_cutting chart parent _).append (walks _))

/-- Initial transitions end with the state that stays, or with a warning. -/
theorem leads_settling (limit : Nat) (leaf : S) (scope : Scope S M) :
    Leads (account.settling limit leaf scope) scope .moving (chart.settle limit leaf scope).2
      .idle := by
  induction limit generalizing leaf scope with
  | zero => exact .warns .initChainTooLong scope .moving
  | succ limit ih =>
    have asked := account.leads_asking leaf leaf .init scope
      (show Phase.moving.Allows (.asks leaf leaf .init : Step S M) from rfl)
    unfold settling settle
    rcases found : chart.ask leaf leaf .init scope with ⟨after, reaction⟩
    rw [found] at asked
    cases reaction with
    | transition target =>
      exact asked.append ((account.leads_moving leaf target after).append (ih target _))
    | handled | delegate => exact asked.append (.nil after .idle)

theorem leads_transiting (source target : S) (scope : Scope S M) :
    Leads (account.transiting source target scope) scope .moving
      (chart.transition source target scope).2 .idle :=
  (account.leads_moving source target scope).append (account.leads_settling _ target _)

theorem leads_bubbling (leaf : S) (event : Event) (limit : Nat) (cursor : Option S)
    (scope : Scope S M) :
    Leads (account.bubbling leaf event limit cursor scope) scope (.asking event)
      (chart.bubble leaf event limit cursor scope).2 .idle := by
  induction limit generalizing cursor scope with
  | zero => exact .warns .unhandled scope (.asking event)
  | succ limit ih =>
    cases cursor with
    | none => exact .warns .unhandled scope (.asking event)
    | some state =>
      have allowed : (Phase.asking event).Allows (.asks leaf state (.event event) : Step S M) :=
        .inr rfl
      have asked := account.leads_asking leaf state (.event event) scope allowed
      unfold bubbling bubble
      rcases found : chart.ask leaf state (.event event) scope with ⟨after, reaction⟩
      rw [found] at asked
      cases reaction with
      | handled => exact asked.append (.nil after .idle)
      | transition target => exact asked.append (account.leads_transiting leaf target after)
      | delegate => exact asked.append (ih (chart.parent state) after)

/-- An event is put to the current state. When the engine is done with it, it is about nothing else:
every transition has come to rest. -/
theorem leads_processing (run : S × Scope S M) (event : Event) :
    Leads (account.processing run event) run.2 (.called event) (chart.process run event).2 .idle :=
  (account.leads_bubbling run.1 event Limits.maxStateDepth (some run.1) run.2).of_asking

theorem leads_entering (scope : Scope S M) :
    Leads (account.entering scope) scope .moving (chart.enter scope).2 .idle :=
  (leads_cutting chart chart.initial scope).append
    ((account.leads_tellingAll chart.initial (.inl rfl) _ _).append
      (account.leads_settling _ chart.initial _))

end Chart.Account

end Tether
