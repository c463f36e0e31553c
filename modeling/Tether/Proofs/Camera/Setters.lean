import Tether.Proofs.Camera.Outcome

/-!
# Changes of settings are served in order

A change of a setting that arrives while the camera is busy or in trouble is held back. However the
camera behaves, no such change is lost, served twice or overtaken by another one, and none is served
unless the camera is ready (`setters_in_order`). Only the choice of where pictures are stored is
made before, on connecting.

The held events are taken out of the queue before they are dispatched again, and may be held back
again one by one. What carries the order through a batch is that its events never make the camera
ready: so whenever the camera is ready, nothing is held back (`Settled`).
-/

namespace Tether

namespace Camera

variable {δ : Type}

/-! ## Reading a journal -/

/-- The event that a deed was done for, if it was one. -/
def Deed.event? (deed : Deed) : Option Event :=
  match deed.asking with
  | some ⟨_, _, .event event⟩ => some event
  | _ => none

/-- The events for which settings have been changed, in the order of the changes. -/
def applied (journal : List (Effect State)) : List Event :=
  (setterDeeds journal).filterMap Deed.event?

/-- The changes of settings among events. -/
def setters (events : List Event) : List Event :=
  events.filter Event.isSetter

/-- Whether a deed chooses where pictures are stored on connecting. -/
def Deed.IsTarget (deed : Deed) : Prop :=
  (∃ leaf, deed.asking = some ⟨leaf, .connected, .entry⟩) ∧
    deed.call = .setCaptureTarget memoryCard

/-- Whether a deed changes a setting that the event asks to change, while the camera is ready. -/
def Deed.IsServed (deed : Deed) : Prop :=
  ∃ state event, deed.asking = some ⟨.ready, state, .event event⟩ ∧
    deed.call ∈ event.setters

/-- Whether a deed may change a setting. -/
def Deed.Proper (deed : Deed) : Prop :=
  deed.IsTarget ∨ deed.IsServed

/-- The change of a setting that an event adds to what is to be served. -/
def taken (leaf : State) (event : Event) : List Event :=
  if leaf = .disconnected then [] else setters [event]

/-! ## Transitions -/

/-- Since a transition began the held events have not been touched, and no settings have been
changed but on connecting. -/
structure Passed (start scope : Scope State (Memory δ)) : Prop where
  held : scope.held = start.held
  deeds : ∃ more, (∀ past, setterDeeds (past ++ scope.journal) =
      setterDeeds (past ++ start.journal) ++ more) ∧ ∀ deed ∈ more, deed.IsTarget

namespace Passed

variable {start scope : Scope State (Memory δ)}

theorem refl (start : Scope State (Memory δ)) : Passed start start :=
  ⟨rfl, [], fun _ => (List.append_nil _).symm, fun _ => nofun⟩

theorem warn (passed : Passed start scope) (warning : Warning) :
    Passed start (scope.warn warning) := by
  obtain ⟨more, deeds, targets⟩ := passed.deeds
  refine ⟨passed.held, more, fun past => ?_, targets⟩
  rw [Scope.warn, Scope.record, ← List.append_assoc, setterDeeds_append_warned, deeds]

theorem ask (passed : Passed start scope) (driver : Driver δ) (leaf state : State)
    (signal : Signal) (calls : List Call)
    (held : ((chart driver).ask leaf state signal scope).1.held = scope.held)
    (setters : setterCalls ((chart driver).ask leaf state signal scope).1.journal =
      setterCalls scope.journal ++ calls)
    (targets : ∀ call ∈ calls, (Deed.mk (some ⟨leaf, state, signal⟩) call).IsTarget) :
    Passed start ((chart driver).ask leaf state signal scope).1 := by
  obtain ⟨more, deeds, before⟩ := passed.deeds
  refine ⟨held.trans passed.held,
    more ++ calls.map (Deed.mk (some ⟨leaf, state, signal⟩)), ?_, ?_⟩
  · intro past
    rw [setterDeeds_ask driver leaf state signal setters, deeds, List.append_assoc]
  · intro deed member
    rcases List.mem_append.mp member with earlier | later
    · exact before deed earlier
    · obtain ⟨call, called, rfl⟩ := List.mem_map.mp later
      exact targets call called

theorem exit (passed : Passed start scope) (driver : Driver δ) (leaf state : State) :
    Passed start ((chart driver).ask leaf state .exit scope).1 := by
  have left := handle_exit driver state (scope.record (.asked leaf state .exit))
  refine passed.ask driver leaf state .exit [] ?_ ?_ (fun _ => nofun)
  · rw [Chart.ask, left, onExit_held]
    rfl
  · rw [Chart.ask, left, onExit_journal, setterCalls_asked, List.append_nil]

theorem entry (passed : Passed start scope) (driver : Driver δ) (leaf state : State) :
    Passed start ((chart driver).ask leaf state .entry scope).1 := by
  obtain ⟨middle, works, entered⟩ :=
    handle_entry driver state (scope.record (.asked leaf state .entry))
  refine passed.ask driver leaf state .entry state.entrySetters ?_ ?_ ?_
  · rw [Chart.ask, entered, onEntry_held, works.keeps.held]
    rfl
  · rw [Chart.ask, entered, onEntry_setters, works.setters, setterCalls_asked]
  · intro call member
    cases state with
    | connected => exact ⟨⟨leaf, rfl⟩, List.mem_singleton.mp member⟩
    | _ => cases member

end Passed

/-- The way out to `goal`: only from inside of being ready a busy state is reached. -/
structure Leaving (start : Scope State (Memory δ)) (goal : State) (cursor : Option State)
    (scope : Scope State (Memory δ)) : Prop where
  passed : Passed start scope
  replay : scope.replay = start.replay
  busy : goal.isBusy → ∃ state, cursor = some state ∧ (state = .ready ∨ state.isBusy)

/-- The way in to `goal`: the held events are asked for when the ready state is entered for good. -/
structure Entering (start : Scope State (Memory δ)) (goal : State) (cursor : Option State)
    (scope : Scope State (Memory δ)) : Prop where
  passed : Passed start scope
  replay : scope.replay =
    if cursor = some .ready ∧ goal = .ready then start.replay || !start.held.isEmpty
    else start.replay
  busy : goal.isBusy → ∃ state, cursor = some state ∧ (state = .ready ∨ state.isBusy)

theorem replay_exit (driver : Driver δ) (leaf state : State) (scope : Scope State (Memory δ)) :
    ((chart driver).ask leaf state .exit scope).1.replay = scope.replay := by
  rw [Chart.ask, handle_exit, onExit_replay]
  rfl

theorem replay_entry (driver : Driver δ) (leaf state : State) (scope : Scope State (Memory δ)) :
    ((chart driver).ask leaf state .entry scope).1.replay =
      if state = .ready then scope.replay || !scope.held.isEmpty else scope.replay := by
  obtain ⟨middle, works, entered⟩ :=
    handle_entry driver state (scope.record (.asked leaf state .entry))
  rw [Chart.ask, entered, onEntry_replay, works.keeps.held, works.keeps.replay]
  rfl

theorem ready_mem_chainAbove (driver : Driver δ) (goal : State) :
    .ready ∈ (chart driver).chainAbove goal ↔ goal.isBusy := by
  rw [chainAbove_eq]
  cases goal <;> decide

theorem ready_mem_chain (driver : Driver δ) (goal : State) :
    .ready ∈ (chart driver).chain goal ↔ goal = .ready ∨ goal.isBusy := by
  rw [chain_eq]
  cases goal <;> decide

theorem parent_of_isBusy (driver : Driver δ) {state : State} (busy : state.isBusy) :
    (chart driver).parent state = some .ready := by
  rw [parent_eq]
  revert busy
  cases state <;> decide

/-- Inside of being ready there are only the busy states. -/
theorem isBusy_of_parent (driver : Driver δ) {state above : State}
    (parent : (chart driver).parent state = some above) (inside : above = .ready ∨ above.isBusy) :
    state.isBusy := by
  rw [parent_eq] at parent
  revert parent inside
  cases state <;> cases above <;> decide

theorem carries (driver : Driver δ) (start : Scope State (Memory δ)) :
    (chart driver).Carries (Leaving start) (Entering start) where
  leave leaf goal state scope outside leaving :=
    { passed := leaving.passed.exit driver leaf state
      replay := (replay_exit driver leaf state scope).trans leaving.replay
      busy := by
        intro busy
        obtain ⟨_, equal, inside⟩ := leaving.busy busy
        cases equal
        rcases inside with ready | inside
        · subst ready
          -- The ready state lies above a busy goal, so it is not left.
          exact absurd ((ready_mem_chainAbove driver goal).mpr busy) outside
        · exact ⟨.ready, parent_of_isBusy driver inside, Or.inl rfl⟩ }
  turn above leaving :=
    { passed := leaving.passed
      replay := by
        rw [leaving.replay, if_neg]
        rintro ⟨rfl, rfl⟩
        exact absurd ((ready_mem_chainAbove driver .ready).mp (above .ready rfl)) nofun
      busy := leaving.busy }
  enter leaf goal state scope inside entering :=
    { passed := entering.passed.entry driver leaf state
      replay := by
        -- Inside of the ready state nothing is entered on the way to it.
        have outside : ¬ ((chart driver).parent state = some .ready ∧ goal = .ready) := by
          rintro ⟨parent, rfl⟩
          have busy := isBusy_of_parent driver parent (Or.inl rfl)
          rw [chain_eq] at inside
          revert busy inside
          cases state <;> decide
        rw [replay_entry, entering.replay, if_neg outside, entering.passed.held]
        by_cases ready : state = .ready
        · subst ready
          rcases (ready_mem_chain driver goal).mp inside with equal | busy
          · rw [if_pos rfl, if_pos ⟨rfl, equal⟩]
          · obtain ⟨above, parent, around⟩ := entering.busy busy
            exact absurd (isBusy_of_parent driver parent around) nofun
        · rw [if_neg ready, if_neg fun both => ready (Option.some.inj both.1)]
      busy := by
        intro busy
        obtain ⟨above, parent, around⟩ := entering.busy busy
        exact ⟨state, rfl, Or.inr (isBusy_of_parent driver parent around)⟩ }
  init {leaf scope} entering := by
    obtain ⟨unchanged, leads⟩ := handle_init driver leaf (scope.record (.asked leaf leaf .init))
    have passed : Passed start ((chart driver).ask leaf leaf .init scope).1 := by
      refine entering.passed.ask driver leaf leaf .init [] ?_ ?_ (fun _ => nofun)
      · rw [Chart.ask, unchanged]; rfl
      · rw [Chart.ask, unchanged, setterCalls_asked, List.append_nil]
    have replay : ((chart driver).ask leaf leaf .init scope).1.replay = scope.replay := by
      rw [Chart.ask, unchanged]; rfl
    cases found : (chart driver).ask leaf leaf .init scope with
    | mk after reaction =>
      rw [found] at passed replay
      cases reaction with
      | handled => exact ⟨passed, replay.trans entering.replay, entering.busy⟩
      | delegate => exact ⟨passed, replay.trans entering.replay, entering.busy⟩
      | transition target =>
        have initial := leads target (congrArg Prod.snd found)
        refine ⟨passed, (replay.trans entering.replay).trans (if_neg ?_), ?_⟩
        · rintro ⟨equal, _⟩
          cases equal
          cases initial
        · intro busy
          cases leaf with
          | super => cases initial; cases busy
          | connected => cases initial; cases busy
          | _ => cases initial
  leaving_warn warning leaving :=
    { leaving with passed := leaving.passed.warn warning }
  entering_warn warning entering :=
    { entering with passed := entering.passed.warn warning }

theorem transition_entering (driver : Driver δ) {leaf target : State}
    (busy : target.isBusy → leaf = .ready ∨ leaf.isBusy) (start : Scope State (Memory δ)) :
    Entering start target.settled (some target.settled)
      ((chart driver).transition leaf target start).2 := by
  have leaving : Leaving start target (some leaf) start :=
    ⟨.refl start, rfl, fun found => ⟨leaf, rfl, busy found⟩⟩
  have carried := (carries driver start).transition (shallow driver) leaving
  rw [transition_leaf] at carried
  exact carried

/-! ## Events -/

/-- After a past, a run has served the changes of settings in order: with those that are held back
and those that are still due these are all that were demanded. -/
structure InOrder (past : List (Effect State)) (due demanded : List Event)
    (run : State × Scope State (Memory δ)) : Prop where
  rests : run.1.rests
  waits : ∀ event ∈ run.2.held.items, event.Waits
  order : applied (past ++ run.2.journal) ++ (setters run.2.held.items ++ due) = demanded
  proper : ∀ deed ∈ setterDeeds (past ++ run.2.journal), deed.Proper

/-- No replay is asked for, and while the camera is ready nothing is held back. -/
structure Settled (run : State × Scope State (Memory δ)) : Prop where
  replay : run.2.replay = false
  ready : run.1 = .ready → run.2.held.items = []

theorem filterMap_servedDeeds (leaf : State) (event : Event) :
    (servedDeeds leaf event).filterMap Deed.event? =
      if leaf = .ready then setters [event] else [] := by
  unfold servedDeeds served
  split
  · have changes := event.isSome_change
    unfold Event.setters setters
    cases found : Change.ofEvent? event with
    | none => rw [found] at changes; rw [List.filter_cons, ← changes]; rfl
    | some change => rw [found] at changes; rw [List.filter_cons, ← changes]; rfl
  · rfl

theorem servedDeeds_proper {leaf : State} {event : Event} {deed : Deed}
    (member : deed ∈ servedDeeds leaf event) : deed.Proper := by
  obtain ⟨call, called, rfl⟩ := List.mem_map.mp member
  unfold served at called
  split at called
  · next ready => exact Or.inr ⟨leaf, event, by rw [ready], called⟩
  · cases called

theorem applied_append (journal : List (Effect State)) {after : List (Effect State)}
    {more : List Deed} (deeds : setterDeeds after = setterDeeds journal ++ more) :
    applied after = applied journal ++ more.filterMap Deed.event? := by
  rw [applied, deeds, List.filterMap_append]
  rfl

theorem filterMap_targets {more : List Deed} (targets : ∀ deed ∈ more, deed.IsTarget) :
    more.filterMap Deed.event? = [] := by
  apply List.filterMap_eq_nil_iff.mpr
  intro deed member
  obtain ⟨⟨leaf, asked⟩, _⟩ := targets deed member
  rw [Deed.event?, asked]

theorem setters_eq_nil {event : Event} (other : event.isSetter = false) : setters [event] = [] := by
  rw [setters, List.filter_cons, other]
  rfl

/-- What the current state serves is what is taken, unless the event is held back. -/
theorem served_eq_taken {leaf : State} {event : Event}
    (setter : event.isSetter → leaf = .disconnected ∨ leaf = .ready) :
    (if leaf = .ready then setters [event] else []) = taken leaf event := by
  unfold taken
  cases isSetter : event.isSetter with
  | false => rw [setters_eq_nil isSetter]; split <;> split <;> rfl
  | true =>
    rcases setter isSetter with equal | equal
    · rw [equal]; rfl
    · rw [equal]; rfl

section Outcomes

variable {driver : Driver δ} {leaf : State} {event : Event} {scope : Scope State (Memory δ)}
  {run : State × Scope State (Memory δ)}

theorem setterDeeds_defer (scope : Scope State (Memory δ)) (event : Event)
    (past : List (Effect State)) :
    setterDeeds (past ++ (scope.defer event).journal) =
      setterDeeds (past ++ scope.journal) ++ [] := by
  unfold Scope.defer
  split
  · rw [Scope.warn, Scope.record, ← List.append_assoc, setterDeeds_append_warned,
      List.append_nil]
  · exact (List.append_nil _).symm

/-- An event that is taken is served or held back behind the others. -/
theorem Outcome.inOrder (outcome : Outcome driver leaf event scope run)
    {past : List (Effect State)} {due demanded : List Event}
    (inOrder : InOrder past (taken leaf event ++ due) demanded (leaf, scope))
    (ready : leaf = .ready → scope.held.items = [])
    (room : .warned .deferredFull ∉ run.2.journal) : InOrder past due demanded run := by
  obtain ⟨rests, waits, order, proper⟩ := inOrder
  dsimp only at rests waits order proper
  -- What is served is put behind what has been served before: the held events are in between, but
  -- there are none of them while the camera is ready.
  have serves {after : Scope State (Memory δ)} (does : Does (servedDeeds leaf event) scope after)
      (setter : event.isSetter → leaf = .disconnected ∨ leaf = .ready) :
      applied (past ++ after.journal) ++ (setters after.held.items ++ due) = demanded := by
    rw [applied_append _ (does.deeds past), filterMap_servedDeeds, served_eq_taken setter,
      does.keeps.held, ← order]
    by_cases here : leaf = .ready
    · rw [ready here]
      simp [setters]
    · have nothing : taken leaf event = [] := by
        rw [← served_eq_taken setter, if_neg here]
      rw [nothing, List.append_nil, List.nil_append]
  have properly {after : Scope State (Memory δ)}
      (does : Does (servedDeeds leaf event) scope after) :
      ∀ deed ∈ setterDeeds (past ++ after.journal), deed.Proper := by
    intro deed member
    rw [does.deeds past] at member
    rcases List.mem_append.mp member with earlier | served
    · exact proper deed earlier
    · exact servedDeeds_proper served
  cases outcome with
  | stays does quiet =>
    refine ⟨rests, ?_, serves does quiet.setter, properly does⟩
    rw [does.keeps.held]
    exact waits
  | @holds after does holds =>
    -- The event was the first one due and becomes the last one held back.
    have items : (after.defer event).held.items = scope.held.items ++ [event] := by
      rw [Scope.items_defer room, does.keeps.held]
    refine ⟨rests, ?_, ?_, ?_⟩
    · intro held member
      rw [items] at member
      rcases List.mem_append.mp member with earlier | last
      · exact waits held earlier
      · rw [List.mem_singleton.mp last]; exact holds.waits
    · rw [applied_append _ (setterDeeds_defer after event past), items, setters,
        List.filter_append, List.append_assoc, applied_append _ (does.deeds past)]
      rw [taken, if_neg holds.connected] at order
      simpa [setters] using order
    · rw [setterDeeds_defer, List.append_nil, does.deeds past, List.append_nil]
      exact proper
  | @leads after target does leads =>
    -- Changes are served before the transition; on the way only the target may be chosen.
    have entering := transition_entering driver leads.busy after
    obtain ⟨more, deeds, targets⟩ := entering.passed.deeds
    refine ⟨?_, ?_, ?_, ?_⟩
    · rw [transition_leaf]
      exact settled_rests target
    · rw [entering.passed.held, does.keeps.held]
      exact waits
    · rw [applied_append _ (deeds past), filterMap_targets targets, List.append_nil,
        entering.passed.held]
      exact serves does fun setter => Or.inr (leads.waits (Event.waits_of_isSetter setter)).1
    · intro deed member
      rw [deeds past] at member
      rcases List.mem_append.mp member with earlier | target
      · exact properly does deed earlier
      · exact Or.inl (targets deed target)

/-- A replay is asked for only where the camera gets ready, and always if anything is held back
there. -/
theorem Outcome.replay (outcome : Outcome driver leaf event scope run)
    (settled : Settled (leaf, scope)) :
    (run.2.replay = true → run.1 = .ready) ∧
      (run.1 = .ready → run.2.held.items = [] ∨ run.2.replay = true) := by
  have still (after : Scope State (Memory δ)) (replay : after.replay = scope.replay) :
      after.replay = true → leaf = .ready := by
    intro asked
    rw [replay, settled.replay] at asked
    cases asked
  cases outcome with
  | @stays after does quiet =>
    refine ⟨still after does.keeps.replay, fun ready => Or.inl ?_⟩
    rw [does.keeps.held]
    exact settled.ready ready
  | @holds after does holds =>
    exact ⟨still _ ((after.defer_replay event).trans does.keeps.replay),
      fun ready => absurd ready holds.notReady⟩
  | @leads after target does leads =>
    have entering := transition_entering driver leads.busy after
    have replay := entering.replay
    rw [does.keeps.replay, settled.replay, does.keeps.held, Bool.false_or] at replay
    rw [transition_leaf, replay, entering.passed.held, does.keeps.held]
    by_cases ready : target.settled = .ready
    · rw [if_pos ⟨congrArg some ready, ready⟩]
      refine ⟨fun _ => ready, fun _ => ?_⟩
      cases empty : scope.held.isEmpty with
      | true => exact Or.inl (List.isEmpty_iff.mp empty)
      | false => exact Or.inr rfl
    · rw [if_neg fun both => ready both.2]
      exact ⟨nofun, fun found => absurd found ready⟩

/-- A held event is dispatched again without the camera getting ready or disconnected meanwhile. -/
theorem Outcome.again (outcome : Outcome driver leaf event scope run)
    (settled : Settled (leaf, scope)) (connected : leaf ≠ .disconnected) (waits : event.Waits) :
    Settled run ∧ run.1 ≠ .disconnected := by
  cases outcome with
  | @stays after does quiet =>
    refine ⟨⟨does.keeps.replay.trans settled.replay, fun ready => ?_⟩, connected⟩
    rw [does.keeps.held]
    exact settled.ready ready
  | @holds after does holds =>
    refine ⟨⟨?_, fun ready => absurd ready holds.notReady⟩, connected⟩
    exact ((after.defer_replay event).trans does.keeps.replay).trans settled.replay
  | @leads after target does leads =>
    have entering := transition_entering driver leads.busy after
    have replay := entering.replay
    rw [does.keeps.replay, settled.replay] at replay
    rw [transition_leaf]
    -- An event that waits leads to capturing or, where the camera fails, to the error state.
    rcases (leads.waits waits).2 with capturing | error
    · subst capturing; exact ⟨⟨replay, nofun⟩, nofun⟩
    · subst error; exact ⟨⟨replay, nofun⟩, nofun⟩

end Outcomes

/-- A batch of held events is dispatched again in order. -/
theorem batch_inOrder (driver : Driver δ) {past : List (Effect State)} {demanded : List Event}
    (events : List Event) {run : State × Scope State (Memory δ)}
    (inOrder : InOrder past (setters events) demanded run) (settled : Settled run)
    (connected : run.1 ≠ .disconnected) (waits : ∀ event ∈ events, event.Waits)
    (room : .warned .deferredFull ∉ (events.foldl (chart driver).process run).2.journal) :
    InOrder past [] demanded (events.foldl (chart driver).process run) ∧
      Settled (events.foldl (chart driver).process run) := by
  induction events generalizing run with
  | nil => exact ⟨inOrder, settled⟩
  | cons event rest ih =>
    have roomNow : .warned .deferredFull ∉ ((chart driver).process run event).2.journal :=
      fun full => room ((Chart.prefix_processAll (shallow driver) rest _).subset full)
    -- The first event of the batch is the first one due; the others stay due behind it.
    have due : setters (event :: rest) = taken run.1 event ++ setters rest := by
      rw [taken, if_neg connected, setters, setters, setters, List.filter_cons, List.filter_cons]
      split <;> rfl
    rw [due] at inOrder
    have outcome := outcome driver inOrder.rests event run.2
    obtain ⟨settledNow, connectedNow⟩ :=
      outcome.again settled connected (waits event List.mem_cons_self)
    exact ih (outcome.inOrder inOrder settled.ready roomNow) settledNow connectedNow
      (fun other member => waits other (List.mem_cons_of_mem event member)) room

/-- A replay is one batch, and leaves nothing held back while the camera is ready. -/
theorem replayHeld_inOrder (driver : Driver δ) {past : List (Effect State)}
    {demanded : List Event} {run : State × Scope State (Memory δ)}
    (inOrder : InOrder past [] demanded run) (asked : run.2.replay = true → run.1 = .ready)
    (ready : run.1 = .ready → run.2.held.items = [] ∨ run.2.replay = true) {rounds : Nat}
    (positive : 0 < rounds)
    (room : .warned .deferredFull ∉ ((chart driver).replayHeld rounds run).2.journal) :
    InOrder past [] demanded ((chart driver).replayHeld rounds run) ∧
      Settled ((chart driver).replayHeld rounds run) := by
  obtain ⟨leaf, scope⟩ := run
  cases found : scope.replay with
  | false =>
    have idle : (leaf, scope).2.replay = false := found
    rw [Chart.replayHeld_eq_self idle]
    refine ⟨inOrder, idle, fun here => (ready here).resolve_right ?_⟩
    rw [idle]
    exact Bool.false_ne_true
  | true =>
    obtain ⟨rounds, rfl⟩ := Nat.exists_eq_succ_of_ne_zero (Nat.ne_of_gt positive)
    unfold Chart.replayHeld at room ⊢
    rw [if_pos found] at room ⊢
    have roomNow := fun full =>
      room ((Chart.prefix_replayHeld (shallow driver) rounds _).subset full)
    have emptied : InOrder past (setters scope.held.items) demanded
        (leaf, { scope with replay := false, held := .empty }) :=
      { rests := inOrder.rests
        waits := fun _ member => absurd member List.not_mem_nil
        order := by rw [← inOrder.order, List.append_nil]; rfl
        proper := inOrder.proper }
    have connected : leaf ≠ .disconnected := by
      rw [show leaf = .ready from asked found]
      decide
    obtain ⟨inOrderNow, settled⟩ := batch_inOrder driver scope.held.items emptied
      ⟨rfl, fun _ => rfl⟩ connected inOrder.waits roomNow
    rw [Chart.replayHeld_eq_self settled.replay]
    exact ⟨inOrderNow, settled⟩

/-! ## Histories -/

theorem replayRounds_pos : 0 < Limits.replayRounds :=
  Nat.two_pow_pos 32

/-- A controller at rest that has served the changes of settings in order. -/
structure ServedHistory (demanded : List Event) (history : History State (Memory δ)) : Prop where
  started : history.machine.started = true
  inOrder : ∀ timers now,
    InOrder history.journal [] demanded (history.machine.leaf, history.machine.scope timers now)
  settled : ∀ timers now, Settled (history.machine.leaf, history.machine.scope timers now)

/-- The changes of settings that are dispatched while a session may be open. -/
def demanded (driver : Driver δ) (history : History State (Memory δ)) :
    List Occasion → List Event
  | [] => []
  | occasion :: rest =>
      (match occasion.order with
        | .start => []
        | .dispatch event => taken history.machine.leaf event) ++
        demanded driver (history.obey (chart driver) occasion) rest

/-- A run that has come to rest is the next state of the history. -/
theorem servedHistory_turn {past : List (Effect State)} {served : List Event}
    {run : State × Scope State (Memory δ)} (inOrder : InOrder past [] served run)
    (settled : Settled run) :
    ServedHistory served ⟨(Machine.turn run).machine, past ++ (Machine.turn run).journal⟩ where
  started := rfl
  inOrder timers now :=
    { inOrder with
      order := by rw [← inOrder.order]; exact congrArg (applied · ++ _) (List.append_nil _)
      proper := by
        intro deed member
        apply inOrder.proper deed
        rw [← List.append_nil (past ++ run.2.journal)]
        exact member }
  settled timers now := ⟨settled.replay, settled.ready⟩

theorem served_start (driver : Driver δ) (memory : Memory δ) (timers : Timers) (now : Nat) :
    ServedHistory []
      (History.obey (chart driver) (.new (chart driver) memory) ⟨.start, timers, now⟩) := by
  let fresh := ((chart driver).machine memory).scope timers now
  have outside : Entering fresh (chart driver).initial none fresh :=
    ⟨.refl fresh, rfl, nofun⟩
  have entering := (carries driver fresh).enter_chart (shallow driver) outside
  have leaf : ((chart driver).enter fresh).1 = .disconnected := rfl
  rw [leaf] at entering
  obtain ⟨more, deeds, targets⟩ := entering.passed.deeds
  have settled : Settled ((chart driver).enter fresh) :=
    ⟨entering.replay, by rw [leaf]; exact nofun⟩
  have inOrder : InOrder [] [] [] ((chart driver).enter fresh) := by
    refine ⟨by rw [leaf]; rfl, ?_, ?_, ?_⟩
    · rw [entering.passed.held]
      exact fun _ => nofun
    · rw [applied_append _ (deeds []), filterMap_targets targets, entering.passed.held]
      rfl
    · intro deed member
      rw [deeds []] at member
      rcases List.mem_append.mp member with earlier | target
      · cases earlier
      · exact Or.inl (targets deed target)
  have turn := servedHistory_turn inOrder settled
  have replayed : (chart driver).replayHeld Limits.replayRounds ((chart driver).enter fresh) =
      (chart driver).enter fresh := Chart.replayHeld_eq_self settled.replay _
  rw [← replayed] at turn
  exact turn

theorem served_obey (driver : Driver δ) {served : List Event} {history : History State (Memory δ)}
    (before : ServedHistory served history) (occasion : Occasion)
    (room : .warned .deferredFull ∉ (history.obey (chart driver) occasion).journal) :
    ServedHistory (served ++ demanded driver history [occasion])
      (history.obey (chart driver) occasion) := by
  obtain ⟨order, timers, now⟩ := occasion
  have inOrder := before.inOrder timers now
  have settled := before.settled timers now
  have startRun : (chart driver).startRun history.machine timers now =
      (history.machine.leaf, history.machine.scope timers now) := if_pos before.started
  unfold History.obey Chart.obey Chart.start Chart.dispatch at room ⊢
  rw [startRun] at room ⊢
  unfold demanded
  cases order with
  | start =>
    rw [demanded, List.append_nil, List.append_nil]
    exact servedHistory_turn inOrder settled
  | dispatch event =>
    rw [demanded, List.append_nil]
    have outcome := outcome driver inOrder.rests event (history.machine.scope timers now)
    have roomLater := fun full => room (List.mem_append_right _ full)
    have roomNow := fun full =>
      roomLater ((Chart.prefix_replayHeld (shallow driver) Limits.replayRounds _).subset full)
    -- Whatever is held back was dispatched before, so the event is due behind all that.
    have due : InOrder history.journal (taken history.machine.leaf event ++ [])
        (served ++ taken history.machine.leaf event)
        (history.machine.leaf, history.machine.scope timers now) := by
      refine { inOrder with order := ?_ }
      rw [← inOrder.order, List.append_nil, List.append_nil, List.append_assoc]
    obtain ⟨asked, ready⟩ := outcome.replay settled
    obtain ⟨inOrderNow, settledNow⟩ := replayHeld_inOrder driver
      (outcome.inOrder due settled.ready roomNow) asked ready replayRounds_pos roomLater
    exact servedHistory_turn inOrderNow settledNow

theorem served_obeyAll (driver : Driver δ) (occasions : List Occasion) {served : List Event}
    {history : History State (Memory δ)} (before : ServedHistory served history)
    (room : .warned .deferredFull ∉ (history.obeyAll (chart driver) occasions).journal) :
    ServedHistory (served ++ demanded driver history occasions)
      (history.obeyAll (chart driver) occasions) := by
  induction occasions generalizing served history with
  | nil => rw [demanded, List.append_nil]; exact before
  | cons occasion rest ih =>
    have roomNow : .warned .deferredFull ∉ (history.obey (chart driver) occasion).journal :=
      fun full => room ((History.prefix_obeyAll (chart driver) _ rest).subset full)
    have now := served_obey driver before occasion roomNow
    have later := ih now room
    rw [List.append_assoc] at later
    rw [demanded] at later ⊢
    rw [demanded, List.append_nil] at later
    exact later

/-- However the camera behaves: as long as the queue of held events never overflows, the changes of
settings that have been served, followed by those that are held back, are those that were dispatched
while a session might be open, in their order; and every change of a setting is made for such an
event while the camera is ready, but for the choice of where pictures are stored on connecting. -/
theorem setters_in_order (driver : Driver δ) (memory : Memory δ) (timers : Timers) (now : Nat)
    (occasions : List Occasion) :
    let started :=
      History.obey (chart driver) (.new (chart driver) memory) ⟨.start, timers, now⟩
    let history := History.obeyAll (chart driver) started occasions
    .warned .deferredFull ∉ history.journal →
      applied history.journal ++ setters history.machine.held.items =
          demanded driver started occasions ∧
        ∀ deed ∈ deeds history.journal, deed.call.isSetter → deed.Proper := by
  intro started history room
  have served := served_obeyAll driver occasions (served_start driver memory timers now) room
  have inOrder := served.inOrder timers now
  have order := inOrder.order
  have proper := inOrder.proper
  rw [Machine.scope, List.append_nil] at order proper
  rw [List.append_nil] at order
  refine ⟨order, fun deed member setter => proper deed ?_⟩
  exact List.mem_filter.mpr ⟨member, setter⟩

/-- A camera that takes pictures and has no settings. -/
def plainCamera : Driver Unit where
  name _ := "plain"
  isConnected _ := true
  perform call memory :=
    match call with
    | .connect => (.ok "plain", memory)
    | .capture => (.ok .none, memory)
    | _ => (.error (.unsupported "setting"), memory)

/-- The history of a controller of that camera that has been started. -/
def plainStart : History State (Memory Unit) :=
  History.obey (chart plainCamera) (.new (chart plainCamera) (.new () ⟨"", false, 0, 0, 0⟩))
    ⟨.start, .empty, 0⟩

/-- Two changes of settings arrive during a capture. -/
def changesDuringCapture : List Occasion :=
  [.connect, .capture, .setIso 200, .setAperture 400, .captureStep].map
    fun event => ⟨.dispatch event, .empty, 0⟩

/-- The first change fails, which leads to the error state; so the second one is held back again. -/
theorem setters_in_order_plainCamera :
    let history := History.obeyAll (chart plainCamera) plainStart changesDuringCapture
    .warned .deferredFull ∉ history.journal ∧
      applied history.journal ++ setters history.machine.held.items =
        [.setIso 200] ++ [.setAperture 400] := by
  have room : .warned .deferredFull ∉
      (History.obeyAll (chart plainCamera) plainStart changesDuringCapture).journal :=
    Effect.not_warned (by decide +kernel)
  have order := (setters_in_order plainCamera (.new () ⟨"", false, 0, 0, 0⟩) .empty 0
    changesDuringCapture room).1
  have due : demanded plainCamera plainStart changesDuringCapture =
      [.setIso 200] ++ [.setAperture 400] := by decide +kernel
  exact ⟨room, order.trans due⟩

end Camera

end Tether
