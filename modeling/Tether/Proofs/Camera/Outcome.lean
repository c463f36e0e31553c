import Tether.Proofs.Camera.Work

/-!
# What an event brings about

Everything that one event can bring about in the camera controller is said here once. Each state
answers an event in one of four ways (`Answers`, `handle_answers`). Along the chain of the current
state this leaves three outcomes (`outcome`): the machine stays where it is, it holds the event
back, or it takes a transition. Only a camera that is ready changes settings for an event.
-/

namespace Tether

namespace Camera

variable {δ : Type}

/-! ## Answers -/

/-- Whether a state is inside of being ready. -/
def State.isBusy : State → Bool
  | .capturing | .downloading => true
  | _ => false

/-- The settings that are changed for an event while `leaf` is the current state. -/
def served (leaf : State) (event : Event) : List Call :=
  if leaf = .ready then event.setters else []

/-- Where an event may be passed on by the current state. -/
structure Passes (leaf : State) (event : Event) : Prop where
  setter : event.isSetter → leaf = .disconnected
  waits : event.Waits → leaf ≠ .ready ∧ leaf.isBusy = false
  retry : leaf = .connectionError → event ≠ .connect
  recover : leaf = .error → event ≠ .recover

/-- Where an event may leave the current state and the held events as they are. -/
structure Quiet (leaf : State) (event : Event) : Prop where
  setter : event.isSetter → leaf = .disconnected ∨ leaf = .ready
  retry : leaf = .connectionError → event ≠ .connect
  recover : leaf = .error → event ≠ .recover

/-- Where an event may be held back. -/
structure Holds (leaf : State) (event : Event) : Prop where
  waits : event.Waits
  connected : leaf ≠ .disconnected
  notReady : leaf ≠ .ready

/-- Where an event may lead to a transition. -/
structure Leads (leaf : State) (event : Event) (target : State) : Prop where
  waits : event.Waits → leaf = .ready ∧ (target = .capturing ∨ target = .error)
  busy : target.isBusy → leaf = .ready ∨ leaf.isBusy

theorem Passes.quiet {leaf : State} {event : Event} (passes : Passes leaf event) :
    Quiet leaf event :=
  ⟨fun setter => Or.inl (passes.setter setter), passes.retry, passes.recover⟩

theorem Passes.served_eq_nil {leaf : State} {event : Event} (passes : Passes leaf event) :
    served leaf event = [] := by
  unfold served
  split
  · next ready =>
    apply Event.setters_eq_nil
    cases setter : event.isSetter with
    | false => rfl
    | true => exact absurd ready (passes.waits (Event.waits_of_isSetter setter)).1
  · rfl

/-- What a state may answer to an event while `leaf` is the current state. -/
inductive Answers (leaf : State) (event : Event) (before : Scope State (Memory δ)) :
    Scope State (Memory δ) × Reaction State → Prop where
  | handles {after : Scope State (Memory δ)} (works : Works (served leaf event) before after)
      (quiet : Quiet leaf event) : Answers leaf event before (after, .handled)
  | holds (holds : Holds leaf event) : Answers leaf event before (before.defer event, .handled)
  | leads {after : Scope State (Memory δ)} {target : State}
      (works : Works (served leaf event) before after) (leads : Leads leaf event target) :
      Answers leaf event before (after, .transition target)
  | passes (passes : Passes leaf event) : Answers leaf event before (before, .delegate)

section States

variable (driver : Driver δ) (scope : Scope State (Memory δ)) {leaf : State} {event : Event}

theorem Passes.handles {after : Scope State (Memory δ)} (passes : Passes leaf event)
    (works : Works [] scope after) : Answers leaf event scope (after, .handled) := by
  rw [← passes.served_eq_nil] at works
  exact .handles works passes.quiet

theorem answers_transition {outcome : Scope State (Memory δ) × Reaction State} {target : State}
    (works : Works (served leaf event) scope outcome.1)
    (reaction : outcome.2 = .transition target) (leads : Leads leaf event target) :
    Answers leaf event scope outcome := by
  obtain ⟨after, answer⟩ := outcome
  cases reaction
  exact .leads works leads

/-- Commands that never wait may lead to any state that is not busy. -/
theorem leads_of_not_waits {target : State} (command : ¬ event.Waits)
    (free : target.isBusy = false) : Leads leaf event target where
  waits waits := absurd waits command
  busy busy := by rw [free] at busy; cases busy

theorem connect_transition (onFailure : State) :
    (connect driver scope onFailure).2 = .transition .connected ∨
      (connect driver scope onFailure).2 = .transition onFailure := by
  unfold connect
  split
  · exact Or.inl rfl
  · exact Or.inr rfl

theorem connect_answers {before : Scope State (Memory δ)} (works : Works [] before scope)
    {onFailure : State} (idle : served leaf event = []) (command : ¬ event.Waits)
    (free : onFailure.isBusy = false) :
    Answers leaf event before (connect driver scope onFailure) := by
  have worked : Works (served leaf event) before (connect driver scope onFailure).1 := by
    rw [idle]
    exact works.trans (connect_works driver scope onFailure)
  rcases connect_transition driver scope onFailure with opened | failed
  · exact answers_transition before worked opened (leads_of_not_waits command rfl)
  · exact answers_transition before worked failed (leads_of_not_waits command free)

theorem takePicture_transition :
    ∃ target, (takePicture driver scope).2 = .transition target := by
  unfold takePicture
  split
  · split
    · exact ⟨_, rfl⟩
    · exact ⟨_, rfl⟩
  · exact ⟨_, rfl⟩

theorem fetchPicture_transition (source : CameraPath) :
    ∃ target, (fetchPicture driver scope source).2 = .transition target := by
  unfold fetchPicture
  dsimp only
  split
  · exact ⟨_, rfl⟩
  · exact ⟨_, rfl⟩

theorem super_answers (passes : Passes leaf event) :
    Answers leaf event scope (super scope (.event event)) := by
  unfold super
  split
  · next equal => cases equal
  · next equal => cases equal
  · next equal => cases equal
  · exact passes.handles scope (((Works.refl scope).update _ rfl rfl).post _ _)
  · exact passes.handles scope ((Works.refl scope).update _ rfl rfl)
  · exact passes.handles scope ((Works.refl scope).post _ _)
  · exact .passes passes

theorem disconnected_answers (resting : leaf = .disconnected) :
    Answers leaf event scope (disconnected driver scope (.event event)) := by
  subst resting
  unfold disconnected
  split
  · next equal => cases equal
  · next equal =>
    cases equal
    exact connect_answers driver scope (.refl scope) rfl (by decide) rfl
  · exact .passes
      ⟨fun _ => rfl, fun _ => ⟨nofun, rfl⟩, nofun, nofun⟩

theorem connected_answers (passes : Passes leaf event) :
    Answers leaf event scope (connected driver scope (.event event)) := by
  unfold connected
  split
  · next equal => cases equal
  · next equal => cases equal
  · next equal => cases equal
  · next equal =>
    cases equal
    have worked := disconnect_works driver scope
    rw [← passes.served_eq_nil] at worked
    exact .leads worked (leads_of_not_waits (by decide) rfl)
  · next equal =>
    cases equal
    have worked := Works.refl scope
    rw [← passes.served_eq_nil] at worked
    exact .leads worked (leads_of_not_waits (by decide) rfl)
  · exact .passes passes

theorem connectionError_answers (resting : leaf = .connectionError) :
    Answers leaf event scope (connectionError driver scope (.event event)) := by
  subst resting
  unfold connectionError
  split
  · next equal => cases equal
  · next equal => cases equal
  · next equal => cases equal
  · next equal =>
    cases equal
    exact connect_answers driver scope (.refl scope) rfl (by decide) rfl
  · next equal =>
    cases equal
    exact .leads (.refl scope) (leads_of_not_waits (by decide) rfl)
  · next other _ notConnect _ equal =>
    cases equal
    split
    · next setter => exact .holds ⟨Event.waits_of_isSetter setter, nofun, nofun⟩
    · next setter =>
      exact .passes ⟨fun found => absurd found setter, fun _ => ⟨nofun, rfl⟩,
        fun _ connect => notConnect connect, nofun⟩

/-- Nothing but captures and requests is held back while the camera is busy. -/
theorem deferWhileBusy_answers (busy : leaf.isBusy) :
    Answers leaf event scope (deferWhileBusy scope event) := by
  unfold deferWhileBusy
  split
  · next waits =>
    exact .holds ⟨waits, (by rintro rfl; cases busy), (by rintro rfl; cases busy)⟩
  · next waits =>
    exact .passes ⟨fun setter => absurd (Event.waits_of_isSetter setter) waits,
      fun found => absurd found waits, (by rintro rfl; cases busy), (by rintro rfl; cases busy)⟩

theorem capturing_answers (resting : leaf = .capturing) :
    Answers leaf event scope (capturing driver scope (.event event)) := by
  subst resting
  unfold capturing
  split
  · next equal => cases equal
  · next equal => cases equal
  · next equal => cases equal
  · next equal =>
    cases equal
    obtain ⟨target, leadsTo⟩ := takePicture_transition driver scope
    exact answers_transition scope (takePicture_works driver scope) leadsTo
      ⟨fun waits => absurd waits (by decide), fun _ => Or.inr rfl⟩
  · next equal => cases equal; exact deferWhileBusy_answers scope rfl

theorem downloading_answers (resting : leaf = .downloading) :
    Answers leaf event scope (downloading driver scope (.event event)) := by
  subst resting
  unfold downloading
  split
  · next equal => cases equal
  · next equal => cases equal
  · next equal => cases equal
  · next equal =>
    cases equal
    split
    · exact .leads (.refl scope) (leads_of_not_waits (by decide) rfl)
    · next source _ =>
      obtain ⟨target, leadsTo⟩ := fetchPicture_transition driver
        (update scope fun memory => { memory with lastCapture := none }) source
      refine answers_transition scope ?_ leadsTo
        ⟨fun waits => absurd waits (by decide), fun _ => Or.inr rfl⟩
      exact ((Works.refl scope).update _ rfl rfl).trans (fetchPicture_works driver _ source)
  · next equal => cases equal; exact deferWhileBusy_answers scope rfl

theorem error_answers (resting : leaf = .error) :
    Answers leaf event scope (error driver scope (.event event)) := by
  subst resting
  unfold error
  split
  · next equal => cases equal
  · next equal => cases equal
  · next equal => cases equal
  · next equal =>
    cases equal
    exact connect_answers driver (disconnect driver scope) (disconnect_works driver scope) rfl
      (by decide) rfl
  · next equal =>
    cases equal
    exact connect_answers driver (disconnect driver scope) (disconnect_works driver scope) rfl
      (by decide) rfl
  · next equal =>
    cases equal
    exact .leads (.refl scope) (leads_of_not_waits (by decide) rfl)
  · next equal =>
    cases equal
    exact .leads (disconnect_works driver scope) (leads_of_not_waits (by decide) rfl)
  · next equal =>
    cases equal
    exact .handles (.refl scope) ⟨nofun, nofun, fun _ => nofun⟩
  · next other notRecover _ _ _ _ equal =>
    cases equal
    split
    · next setter => exact .holds ⟨Event.waits_of_isSetter setter, nofun, nofun⟩
    · next setter =>
      exact .passes ⟨fun found => absurd found setter, fun _ => ⟨nofun, rfl⟩, nofun,
        fun _ recover => notRecover recover⟩

theorem answer_answers {request : Request} (found : Request.ofEvent? event = some request) :
    Answers .ready event scope (answer driver scope request) := by
  have works := serve_works driver scope request
  rw [Request.setters_of_ofEvent? found] at works
  unfold answer
  split
  · next equal =>
    rw [equal] at works
    exact .handles works ⟨fun _ => Or.inr rfl, nofun, nofun⟩
  · next equal =>
    rw [equal] at works
    exact .leads works ⟨fun _ => ⟨rfl, Or.inr rfl⟩, nofun⟩

theorem ready_answers (here : leaf = .ready ∨ leaf.isBusy ∧ Passes leaf event) :
    Answers leaf event scope (ready driver scope (.event event)) := by
  have idle : leaf ≠ .ready → ¬ event.Waits := by
    intro other waits
    obtain equal | ⟨busy, passes⟩ := here
    · exact other equal
    · rw [(passes.waits waits).2] at busy; cases busy
  unfold ready
  split
  · next equal => cases equal
  · next equal => cases equal
  · next equal => cases equal
  · next equal =>
    cases equal
    have here : leaf = .ready := Decidable.byContradiction fun other => idle other (Or.inl rfl)
    subst here
    exact .leads (.refl scope) ⟨fun _ => ⟨rfl, Or.inl rfl⟩, fun _ => Or.inl rfl⟩
  · next other _ notCapture equal =>
    cases equal
    have request := Request.isSome_ofEvent? event
    split
    · next found =>
      rw [found] at request
      have here : leaf = .ready :=
        Decidable.byContradiction fun other => idle other (Or.inr request.symm)
      subst here
      exact answer_answers driver scope found
    · next found =>
      rw [found] at request
      rcases here with ready | busy
      · have command : ¬ event.Waits := by
          rintro (capture | asked)
          · exact notCapture capture
          · rw [← request] at asked; cases asked
        subst ready
        exact .passes ⟨fun setter => absurd (Event.waits_of_isSetter setter) command,
          fun waits => absurd waits command, nofun, nofun⟩
      · exact .passes busy.2

end States

/-! ## Events -/

theorem shallow (driver : Driver δ) : (chart driver).Shallow := by
  intro state
  cases state <;> rfl

/-- Whether a machine can rest in a state: the others have initial transitions. -/
def State.rests : State → Bool
  | .super | .connected => false
  | _ => true

/-- A state and the states around it, innermost first. -/
def State.path : State → List State
  | .super => [.super]
  | .disconnected => [.disconnected, .super]
  | .connected => [.connected, .super]
  | .ready => [.ready, .connected, .super]
  | .capturing => [.capturing, .ready, .connected, .super]
  | .downloading => [.downloading, .ready, .connected, .super]
  | .connectionError => [.connectionError, .super]
  | .error => [.error, .super]

theorem chain_eq (driver : Driver δ) (state : State) :
    (chart driver).chain state = state.path := by
  cases state <;> rfl

theorem chainAbove_eq (driver : Driver δ) (state : State) :
    (chart driver).chainAbove state = state.path.tail := by
  cases state <;> rfl

theorem parent_eq (driver : Driver δ) (state : State) :
    (chart driver).parent state = state.path.tail.head? := by
  cases state <;> rfl

theorem mem_path {leaf state : State} (member : state ∈ leaf.path) :
    leaf = state ∨ state = .super ∨ state = .connected ∨ state = .ready ∧ leaf.isBusy := by
  revert member
  cases leaf <;> cases state <;> decide

/-- What the current state and the states around it may answer to an event. -/
theorem handle_answers (driver : Driver δ) (scope : Scope State (Memory δ)) {leaf state : State}
    {event : Event} (rests : leaf.rests) (member : state ∈ (chart driver).chain leaf)
    (here : state = leaf ∨ Passes leaf event) :
    Answers leaf event scope ((chart driver).handle state (.event event) scope) := by
  rw [chain_eq] at member
  have passes : state ≠ leaf → Passes leaf event := fun other => here.resolve_left other
  have around := mem_path member
  cases state with
  | super => exact super_answers scope (passes (by rintro rfl; cases rests))
  | connected => exact connected_answers driver scope (passes (by rintro rfl; cases rests))
  | ready =>
    apply ready_answers
    by_cases equal : leaf = .ready
    · exact Or.inl equal
    · have busy : leaf.isBusy := by simpa [equal] using around
      exact Or.inr ⟨busy, passes (Ne.symm equal)⟩
  | disconnected => exact disconnected_answers driver scope (by simpa using around)
  | connectionError => exact connectionError_answers driver scope (by simpa using around)
  | error => exact error_answers driver scope (by simpa using around)
  | capturing => exact capturing_answers driver scope (by simpa using around)
  | downloading => exact downloading_answers driver scope (by simpa using around)

/-- The state that a machine comes to rest in when it enters a state. -/
def State.settled (state : State) : State :=
  state.initial?.getD state

theorem transition_leaf (driver : Driver δ) (leaf target : State)
    (scope : Scope State (Memory δ)) :
    ((chart driver).transition leaf target scope).1 = target.settled := by
  cases target <;> rfl

theorem settled_rests (state : State) : state.settled.rests := by
  cases state <;> rfl

/-- From one asking to the next, neither the held events nor the timers have changed, and the
settings that have been changed are those of `done`. -/
structure Does (done : List Deed) (before after : Scope State (Memory δ)) : Prop where
  keeps : Keeps before after
  deeds : ∀ past,
    setterDeeds (past ++ after.journal) = setterDeeds (past ++ before.journal) ++ done

theorem Does.refl (scope : Scope State (Memory δ)) : Does [] scope scope :=
  ⟨.refl scope, fun _ => (List.append_nil _).symm⟩

theorem Does.after_idle {done : List Deed} {before middle after : Scope State (Memory δ)}
    (first : Does [] before middle) (second : Does done middle after) :
    Does done before after where
  keeps := first.keeps.trans second.keeps
  deeds past := by rw [second.deeds, first.deeds, List.append_nil]

/-- The deeds of an answer are made for its asking. -/
theorem setterDeeds_ask (driver : Driver δ) (leaf state : State) (signal : Signal)
    {scope : Scope State (Memory δ)} {calls : List Call}
    (setters : setterCalls ((chart driver).ask leaf state signal scope).1.journal =
      setterCalls scope.journal ++ calls) (past : List (Effect State)) :
    setterDeeds (past ++ ((chart driver).ask leaf state signal scope).1.journal) =
      setterDeeds (past ++ scope.journal) ++
        calls.map (Deed.mk (some ⟨leaf, state, signal⟩)) := by
  obtain ⟨added, grown, quiet⟩ := (chart driver).ask_journal leaf state signal scope
  have counted : setterCalls added = calls := by
    rw [grown, setterCalls, List.filterMap_append] at setters
    exact List.append_cancel_left setters
  rw [grown, ← List.append_assoc, setterDeeds_append_asked _ _ _ _ _ quiet, counted]

theorem setterCalls_asked (scope : Scope State (Memory δ)) (leaf state : State)
    (signal : Signal) :
    setterCalls (scope.record (.asked leaf state signal)).journal = setterCalls scope.journal := by
  rw [Scope.record, setterCalls, List.filterMap_append]
  exact List.append_nil _

theorem ask_does (driver : Driver δ) (leaf state : State) (signal : Signal)
    {scope after : Scope State (Memory δ)} {reaction : Reaction State} {calls : List Call}
    (asked : (chart driver).ask leaf state signal scope = (after, reaction))
    (works : Works calls (scope.record (.asked leaf state signal)) after) :
    Does (calls.map (Deed.mk (some ⟨leaf, state, signal⟩))) scope after where
  keeps :=
    ⟨works.keeps.held, works.keeps.replay, works.keeps.timers, works.keeps.retryTimer,
      works.keeps.recoveryTimer⟩
  deeds past := by
    have setters := works.setters
    rw [setterCalls_asked] at setters
    have told := @setterDeeds_ask δ driver leaf state signal scope calls
    rw [asked] at told
    exact told setters past

theorem asked_does (scope : Scope State (Memory δ)) (leaf state : State) (signal : Signal) :
    Does [] scope (scope.record (.asked leaf state signal)) where
  keeps := ⟨rfl, rfl, rfl, rfl, rfl⟩
  deeds past := by
    have quiet : ∀ effect ∈ ([] : List (Effect State)), effect.isAsked = false := fun _ => nofun
    rw [Scope.record, ← List.append_assoc, setterDeeds_append_asked _ [] _ _ _ quiet]
    rfl

/-- The changes of settings for an event that the current state answers. -/
def servedDeeds (leaf : State) (event : Event) : List Deed :=
  (served leaf event).map (Deed.mk (some ⟨leaf, leaf, .event event⟩))

/-- What an event can bring about while `leaf` is the current state of a machine at rest. -/
inductive Outcome (driver : Driver δ) (leaf : State) (event : Event)
    (before : Scope State (Memory δ)) : State × Scope State (Memory δ) → Prop where
  | stays {after : Scope State (Memory δ)} (does : Does (servedDeeds leaf event) before after)
      (quiet : Quiet leaf event) : Outcome driver leaf event before (leaf, after)
  | holds {after : Scope State (Memory δ)} (does : Does [] before after)
      (holds : Holds leaf event) : Outcome driver leaf event before (leaf, after.defer event)
  | leads {after : Scope State (Memory δ)} {target : State}
      (does : Does (servedDeeds leaf event) before after) (leads : Leads leaf event target) :
      Outcome driver leaf event before ((chart driver).transition leaf target after)

theorem Passes.servedDeeds_eq_nil {leaf : State} {event : Event} (passes : Passes leaf event) :
    servedDeeds leaf event = [] := by
  rw [servedDeeds, passes.served_eq_nil]
  rfl

theorem Does.warn {done : List Deed} {before after : Scope State (Memory δ)}
    (does : Does done before after) (warning : Warning) :
    Does done before (after.warn warning) where
  keeps :=
    ⟨does.keeps.held, does.keeps.replay, does.keeps.timers, does.keeps.retryTimer,
      does.keeps.recoveryTimer⟩
  deeds past := by
    rw [Scope.warn, Scope.record, ← List.append_assoc, setterDeeds_append_warned, does.deeds]

/-- Everything that an event can bring about at all. -/
theorem outcome (driver : Driver δ) {leaf : State} (rests : leaf.rests) (event : Event)
    (scope : Scope State (Memory δ)) :
    Outcome driver leaf event scope ((chart driver).process (leaf, scope) event) := by
  -- Before the current state has answered nothing is known about the event; afterwards it is one
  -- that the current state passes on.
  refine Chart.process_induction (shallow driver)
    (fun cursor asked => Does [] scope asked ∧ (cursor = some leaf ∨ Passes leaf event))
    (Outcome driver leaf event scope) ?_ ?_ ⟨.refl scope, Or.inl rfl⟩
  · rintro state asked member ⟨does, here⟩
    have here : state = leaf ∨ Passes leaf event := here.imp_left Option.some.inj
    have answers := handle_answers driver (asked.record (.asked leaf state (.event event))) rests
      member here
    -- Settings are changed by the current state only, if at all.
    have done : (served leaf event).map (Deed.mk (some ⟨leaf, state, .event event⟩)) =
        servedDeeds leaf event := by
      rcases here with equal | passes
      · rw [equal]; rfl
      · rw [passes.served_eq_nil, passes.servedDeeds_eq_nil]; rfl
    cases found : (chart driver).ask leaf state (.event event) asked with
    | mk after reaction =>
      have found' := found
      rw [Chart.ask] at found'
      rw [found'] at answers
      cases answers with
      | handles works quiet =>
        have finish := ask_does driver leaf state (.event event) found works
        rw [done] at finish
        exact .stays (does.after_idle finish) quiet
      | holds holds =>
        exact .holds (does.after_idle (asked_does asked leaf state (.event event))) holds
      | leads works leads =>
        have finish := ask_does driver leaf state (.event event) found works
        rw [done] at finish
        exact .leads (does.after_idle finish) leads
      | passes passes =>
        have finish := ask_does driver leaf state (.event event) found (.refl _)
        exact ⟨does.after_idle finish, Or.inr passes⟩
  · rintro asked ⟨does, here⟩
    have passes : Passes leaf event := here.resolve_left (Option.some_ne_none leaf).symm
    have warned := does.warn .unhandled
    rw [← passes.servedDeeds_eq_nil] at warned
    exact .stays warned passes.quiet

end Camera

end Tether
