import Tether.Proofs.Camera.Calls
import Tether.Proofs.Camera.Session
import Tether.Proofs.Statechart.Upkeep

/-!
# The discipline of sessions

The controller calls for a session only while none is open, arrives in `disconnected` and
`connectionError` only while none is open, and tells observers of the session as it is
(`Disciplined`). So sessions never overlap: between two calls that have opened one there is a call
that closes it (`closed_between`). At rest the flag in the memory is that of the journal
(`disciplined_obeyAll`).

An error that is ignored may lead to `connected` without a session, so nothing is known there. But
the states that open a session without closing one first are reached only while none is open
(`Abides`). What a state does that makes no session call follows from what is known of its runs
(`Abides.answered`); the answers that open or close a session are looked at one by one
(`Abides.connect`, `Abides.disconnect`).
-/

namespace Tether

namespace Camera

variable {δ : Type} {driver : Driver δ}

/-- The states that a session is opened from without closing one first. -/
def State.awaitsSession : State → Bool
  | .disconnected | .connectionError => true
  | _ => false

/-- A session is asked for only while none is open, the states that wait for one are entered only
while none is open, and observers are told of the session that is open. -/
structure Disciplined (past : List (Effect State)) (effect : Effect State) : Prop where
  opens : ∀ reply, effect = .called .connect reply → sessionOpen past = false
  arrives : ∀ leaf (state : State), effect = .asked leaf state .entry → state.awaitsSession →
    sessionOpen past = false
  tells : ∀ label connected download topic,
    effect = .posted (.cameraState label connected download) topic → connected = sessionOpen past

/-! ## Sessions do not overlap -/

theorem closed_of_latest {journal : List (Effect State)}
    (closed : latest session? journal = some false) :
    ∃ reply, .called .disconnect reply ∈ journal := by
  obtain ⟨effect, member, closes⟩ := List.mem_filterMap.mp (List.mem_of_getLast? closed)
  unfold session? at closes
  split at closes
  · cases closes
  · exact ⟨_, member⟩
  · cases closes

theorem closed_between {before between after : List (Effect State)} {name other : String}
    (orderly : Orderly Disciplined (before ++ [.called .connect (.ok name)] ++ between ++
      [.called .connect (.ok other)] ++ after)) :
    ∃ reply, .called .disconnect reply ∈ between := by
  have closed := (orderly _ _ (List.prefix_append _ after)).opens _ rfl
  rw [sessionOpen, latest_append, latest_concat session? rfl] at closed
  apply closed_of_latest
  cases found : latest session? between with
  | none => rw [found] at closed; cases closed
  | some isOpen => rw [found] at closed; exact congrArg some closed

/-! ## Harmless entries -/

/-- Entries that do not change the session and are right at any time. -/
def Harmless (effect : Effect State) : Prop :=
  session? effect = none ∧ ∀ past, Disciplined past effect

theorem harmless_asked (leaf state : State) {signal : Signal} (other : signal ≠ .entry) :
    Harmless (.asked leaf state signal) := by
  refine ⟨rfl, fun _ => ⟨nofun, ?_, nofun⟩⟩
  rintro _ _ ⟨⟩
  exact absurd rfl other

theorem harmless_warned (warning : Warning) : Harmless (.warned warning) :=
  ⟨rfl, fun _ => ⟨nofun, nofun, nofun⟩⟩

/-- Entries of a handler that neither open nor close a session. -/
def Sessionless (effect : Effect State) : Prop :=
  effect.isAsked = false ∧ ∀ call, effect.call? = some call → call.isSession = false

theorem Sessionless.harmless {effect : Effect State} (sessionless : Sessionless effect)
    (plain : Plain effect) : Harmless effect := by
  obtain ⟨quiet, other⟩ := sessionless
  cases effect with
  | asked leaf state signal => cases quiet
  | posted event topic =>
    refine ⟨rfl, fun _ => ⟨nofun, nofun, ?_⟩⟩
    rintro _ _ _ _ ⟨⟩
    cases plain
  | postedSelf event => exact ⟨rfl, fun _ => ⟨nofun, nofun, nofun⟩⟩
  | warned warning => exact harmless_warned warning
  | called call reply =>
    refine ⟨session?_called (other call rfl) reply, fun _ => ⟨?_, nofun, nofun⟩⟩
    rintro _ ⟨⟩
    cases other .connect rfl

/-! ## What is known along a way -/

/-- The discipline has been kept, the flag is that of the journal, and no session is open on the way
to a state that waits for one. The outermost state counts as one: it leads on to `disconnected`. -/
structure Abides (goal : State) (connected : Bool) (journal : List (Effect State)) : Prop where
  flag : connected = sessionOpen journal
  orderly : Orderly Disciplined journal
  closed : goal = .super ∨ goal.awaitsSession → connected = false

namespace Abides

variable {past : List (Effect State)} {before after scope : Scope State (Memory δ)}
  {goal target : State}

/-- Harmless entries, with the same flag, on the way to another state. -/
theorem leads (kept : Abides goal before.memory.connected (past ++ before.journal))
    (harmless : Scope.Adds Harmless before after)
    (same : after.memory.connected = before.memory.connected)
    (closed : target = .super ∨ target.awaitsSession → before.memory.connected = false) :
    Abides target after.memory.connected (past ++ after.journal) where
  flag := by rw [same, kept.flag, sessionOpen, sessionOpen, harmless.latest_eq fun _ => And.left]
  orderly := (harmless.orderly_iff (fun _ => And.right) past).mpr kept.orderly
  closed waits := same.trans (closed waits)

/-- Harmless entries, with the same flag. -/
theorem stays (kept : Abides goal before.memory.connected (past ++ before.journal))
    (harmless : Scope.Adds Harmless before after)
    (same : after.memory.connected = before.memory.connected) :
    Abides goal after.memory.connected (past ++ after.journal) :=
  kept.leads harmless same kept.closed

theorem warn (kept : Abides goal scope.memory.connected (past ++ scope.journal))
    (warning : Warning) :
    Abides goal (scope.warn warning).memory.connected (past ++ (scope.warn warning).journal) :=
  kept.stays ((Scope.Adds.refl scope).record (harmless_warned warning)) rfl

/-- One more entry that is right, with the flag that it leaves behind. -/
theorem concat {journal : List (Effect State)} {effect : Effect State} {connected : Bool}
    (orderly : Orderly Disciplined (past ++ journal)) (right : Disciplined (past ++ journal) effect)
    (flag : connected = sessionOpen (past ++ journal ++ [effect]))
    (closed : target = .super ∨ target.awaitsSession → connected = false) :
    Abides target connected (past ++ (journal ++ [effect])) := by
  rw [← List.append_assoc]
  exact ⟨flag, orderly_concat.mpr ⟨orderly, right⟩, closed⟩

/-- An entry that does not change the session, and is right because the flag is. -/
theorem record {effect : Effect State}
    (kept : Abides goal scope.memory.connected (past ++ scope.journal))
    (quiet : session? effect = none)
    (right : scope.memory.connected = sessionOpen (past ++ scope.journal) →
      Disciplined (past ++ scope.journal) effect) :
    Abides goal (scope.record effect).memory.connected
      (past ++ (scope.record effect).journal) := by
  refine concat kept.orderly (right kept.flag) ?_ kept.closed
  have silent : ∀ added ∈ [effect], session? added = none := by simpa using quiet
  rw [sessionOpen, latest_append_of_silent silent]
  exact kept.flag

theorem asked (kept : Abides goal scope.memory.connected (past ++ scope.journal))
    (leaf state : State) (signal : Signal) (other : signal ≠ .entry) :
    Abides goal (scope.record (.asked leaf state signal)).memory.connected
      (past ++ (scope.record (.asked leaf state signal)).journal) :=
  kept.record rfl fun _ => (harmless_asked leaf state other).2 _

/-- A state on the way to the goal is entered. -/
theorem entering (kept : Abides goal scope.memory.connected (past ++ scope.journal)) (leaf : State)
    {state : State} (inside : state ∈ goal.path) :
    Abides goal (scope.record (.asked leaf state .entry)).memory.connected
      (past ++ (scope.record (.asked leaf state .entry)).journal) := by
  refine kept.record rfl fun flag => ⟨nofun, ?_, nofun⟩
  rintro _ _ ⟨⟩ waits
  rw [← flag]
  refine kept.closed (Or.inr ?_)
  revert inside waits
  cases goal <;> cases state <;> decide

/-- Observers are told of the flag. -/
theorem announceStatus (kept : Abides goal scope.memory.connected (past ++ scope.journal)) :
    Abides goal (announceStatus scope).memory.connected
      (past ++ (announceStatus scope).journal) := by
  refine kept.record rfl fun flag => ⟨nofun, nofun, ?_⟩
  rintro _ _ _ _ ⟨⟩
  exact flag

theorem enterLeaf (kept : Abides goal scope.memory.connected (past ++ scope.journal))
    (state : State) :
    Abides goal (enterLeaf scope state).memory.connected
      (past ++ (enterLeaf scope state).journal) := by
  have noted : Abides goal
      (update scope fun memory => { memory with status := state }).memory.connected
      (past ++ (update scope fun memory => { memory with status := state }).journal) := kept
  exact noted.announceStatus

theorem announced (kept : Abides goal scope.memory.connected (past ++ scope.journal))
    (state : State) :
    Abides goal (state.announced scope).memory.connected
      (past ++ (state.announced scope).journal) := by
  cases state with
  | super => exact kept
  | connected => exact kept.record rfl fun _ => ⟨nofun, nofun, nofun⟩
  | ready => exact (kept.enterLeaf .ready).record rfl fun _ => ⟨nofun, nofun, nofun⟩
  | _ => exact kept.enterLeaf _

/-! ## Session calls -/

/-- Closing the session suits every state. -/
theorem disconnect (kept : Abides goal scope.memory.connected (past ++ scope.journal))
    (driver : Driver δ) (target : State) :
    Abides target (disconnect driver scope).memory.connected
      (past ++ (disconnect driver scope).journal) := by
  refine concat kept.orderly ⟨nofun, nofun, nofun⟩ ?_ fun _ => rfl
  rw [sessionOpen, latest_concat session? rfl]
  rfl

/-- Opening a session while none is open, to whatever state a failure leads. -/
theorem connect (kept : Abides goal scope.memory.connected (past ++ scope.journal))
    (closed : scope.memory.connected = false) (driver : Driver δ) (onFailure : State) :
    ∃ after target, connect driver scope onFailure = (after, .transition target) ∧
      Abides target after.memory.connected (past ++ after.journal) := by
  have right (reply : Except Fault String) :
      Disciplined (past ++ scope.journal) (.called .connect reply) :=
    ⟨fun _ _ => kept.flag.symm.trans closed, nofun, nofun⟩
  unfold Camera.connect perform
  cases driver.perform .connect scope.memory.device with
  | mk reply device =>
    cases reply with
    | ok name =>
      refine ⟨_, _, rfl, concat kept.orderly (right (.ok name)) ?_ ?_⟩
      · rw [sessionOpen, latest_concat session? rfl]
        rfl
      · rintro (waits | waits) <;> cases waits
    | error fault =>
      refine ⟨_, _, rfl, concat kept.orderly (right (.error fault)) ?_ fun _ => closed⟩
      rw [sessionOpen, latest_append_of_silent (by simp [session?])]
      exact kept.flag

end Abides

/-! ## The controller -/

/-- What is kept along every way of the controller, whatever state has been entered last. -/
def Abiding (goal : State) (_cursor : Option State) (memory : Memory δ)
    (journal : List (Effect State)) : Prop :=
  Abides goal memory.connected journal

/-- A state makes no session call when it is asked about a signal. -/
def State.Abstains (state : State) (signal : Signal) : Prop :=
  ∀ call, state.mayCall signal call → call.isSession = false

theorem abstains_exit (state : State) : state.Abstains .exit := by
  intro call may
  cases state <;> cases may

theorem isSession_of_isAccessor {call : Call} (accessor : call.isAccessor) :
    call.isSession = false := by
  cases call <;> first | rfl | cases accessor

theorem abstains_entry (state : State) : state.Abstains .entry := by
  intro call may
  cases state with
  | connected =>
    rw [of_decide_eq_true may]
    rfl
  | ready => exact isSession_of_isAccessor may
  | _ => cases may

theorem opens_of_mayCall {state : State} {event : Event}
    (may : state.mayCall (.event event) .connect) : state.awaitsSession ∧ event = .connect ∨
      state = .error ∧ (event = .recover ∨ event = .connect) := by
  unfold State.mayCall at may
  split at may <;> simp_all [State.awaitsSession, Call.isAccessor, Call.isDownload]

theorem closes_of_mayCall {state : State} {event : Event}
    (may : state.mayCall (.event event) .disconnect) :
    state = .error ∧ (event = .recover ∨ event = .connect) ∨
      (state = .connected ∨ state = .error) ∧ event = .disconnect := by
  unfold State.mayCall at may
  split at may <;> simp_all [Call.isAccessor, Call.isDownload]

/-- The three kinds of answers that open or close a session, and all others. -/
theorem abstains_or (state : State) (event : Event) : state.Abstains (.event event) ∨
    state.awaitsSession ∧ event = .connect ∨
    state = .error ∧ (event = .recover ∨ event = .connect) ∨
    (state = .connected ∨ state = .error) ∧ event = .disconnect := by
  by_cases opens : state.mayCall (.event event) .connect
  · exact Or.inr ((opens_of_mayCall opens).imp_right Or.inl)
  by_cases closes : state.mayCall (.event event) .disconnect
  · exact Or.inr (Or.inr (closes_of_mayCall closes))
  refine Or.inl fun call may => ?_
  cases call with
  | connect => exact absurd may opens
  | disconnect => exact absurd may closes
  | _ => rfl

/-- With a session open, the states that suit it are those that do not wait for one. -/
theorem suits_true_iff {state : State} :
    state.Suits true ↔ ¬ (state = .super ∨ state.awaitsSession) := by
  cases state <;> simp [State.Suits, State.awaitsSession]

section Answers

variable {past : List (Effect State)} {before middle after scope : Scope State (Memory δ)}
  {goal leaf state : State}

theorem handle_sessionless (driver : Driver δ) (scope : Scope State (Memory δ)) {signal : Signal}
    (abstains : state.Abstains signal) :
    Scope.Adds Sessionless scope ((chart driver).handle state signal scope).1 := by
  have quiet : Scope.Adds (fun effect => effect.isAsked = false) scope
      ((chart driver).handle state signal scope).1 :=
    ((chart driver).handle_becomes state signal scope).journal
  refine (quiet.and (handle_calls driver scope signal state)).imp ?_
  rintro effect ⟨unasked, called⟩
  refine ⟨unasked, fun call found => abstains call ?_⟩
  rwa [found, Option.all_some] at called

/-- What a state tells on entry comes first, and the rest of its entry is harmless. -/
theorem announced_adds (state : State) (scope : Scope State (Memory δ)) :
    Scope.Adds (fun _ => True) scope (state.announced scope) := by
  have entered (leaf : State) : Scope.Adds (fun _ => True) scope (enterLeaf scope leaf) :=
    Scope.Adds.record trivial (.of_journal_eq rfl)
  cases state with
  | super => exact .refl scope
  | connected => exact (Scope.Adds.refl scope).record trivial
  | ready => exact (entered .ready).record trivial
  | _ => exact entered _

/-- A run without session calls leaves the flag alone, which follows the journal. -/
theorem Abides.connected_eq {session : Option Bool}
    (kept : Abides goal before.memory.connected (past ++ before.journal))
    (runs : Runs session before after) (harmless : Scope.Adds Harmless before after) :
    after.memory.connected = before.memory.connected := by
  have same := runs.session past
  rw [harmless.latest_eq fun _ => And.left] at same
  rw [runs.connected, kept.flag, sessionOpen]
  cases session with
  | none => rfl
  | some isOpen => rw [same]; rfl

/-- A state is the current one if it waits for a session. -/
theorem eq_of_awaitsSession (inside : state ∈ leaf.path) (asleep : state.awaitsSession) :
    leaf = state := by
  revert inside asleep
  cases leaf <;> cases state <;> decide

/-- An answer without session calls. -/
theorem Abides.answered (kept : Abides leaf scope.memory.connected (past ++ scope.journal))
    {event : Event} (inside : state ∈ leaf.path) (abstains : state.Abstains (.event event)) :
    Chart.Demands (Chart.sinceThen past Abiding) (Chart.sinceThen past Abiding) leaf
      ((chart driver).handle state (.event event) scope) := by
  have sessionless := handle_sessionless driver scope abstains
  have steps := handle_steps driver scope event state
  generalize (chart driver).handle state (.event event) scope = answered at sessionless steps ⊢
  have harmless (plain : Scope.Adds Plain scope answered.1) :
      Scope.Adds Harmless scope answered.1 :=
    (sessionless.and plain).imp fun effect both => both.1.harmless both.2
  cases steps with
  | handles runs => exact kept.stays (harmless runs.adds) runs.connected
  | passes => exact kept
  | tells download =>
    have chosen : Abides leaf
        (update scope fun memory => { memory with download := download }).memory.connected
        (past ++ (update scope fun memory => { memory with download := download }).journal) := kept
    exact chosen.announceStatus
  | ignores here ignored =>
    exact kept.leads (.refl scope) rfl (by rintro (waits | waits) <;> cases waits)
  | leads inner runs suits =>
    have same := kept.connected_eq runs (harmless runs.adds)
    refine kept.leads (harmless runs.adds) same fun waits => ?_
    -- With a session open, a state that does not wait for one leads to no state that does.
    by_contra isOpen
    have flag : scope.memory.connected = true := eq_true_of_ne_false isOpen
    have awake : ¬ (state = .super ∨ state.awaitsSession) := by
      rintro (equal | asleep)
      · exact inner equal
      · have here := eq_of_awaitsSession inside asleep
        exact isOpen (kept.closed (Or.inr (here ▸ asleep)))
    have suited := suits (by rw [flag]; exact suits_true_iff.mpr awake)
    rw [same, flag] at suited
    exact suits_true_iff.mp suited waits

theorem handle_connect (asleep : state.awaitsSession) :
    (chart driver).handle state (.event .connect) scope =
      connect driver scope .connectionError := by
  cases state <;> first | rfl | cases asleep

theorem handle_again {event : Event} (again : event = .recover ∨ event = .connect) :
    (chart driver).handle .error (.event event) scope =
      connect driver (disconnect driver scope) .error := by
  rcases again with rfl | rfl <;> rfl

theorem abiding_answer {event : Event} (inside : state ∈ (chart driver).chain leaf)
    (abiding : Chart.sinceThen past Abiding leaf (some leaf) scope) :
    Chart.Demands (Chart.sinceThen past Abiding) (Chart.sinceThen past Abiding) leaf
      ((chart driver).ask leaf state (.event event) scope) := by
  rw [chain_eq] at inside
  have kept : Abides leaf scope.memory.connected (past ++ scope.journal) := abiding
  have asked := kept.asked leaf state (.event event) nofun
  unfold Chart.ask
  rcases abstains_or state event with abstains | ⟨asleep, rfl⟩ | ⟨rfl, again⟩ |
    ⟨place, rfl⟩
  · exact asked.answered inside abstains
  · have closed : scope.memory.connected = false :=
      kept.closed (Or.inr (eq_of_awaitsSession inside asleep ▸ asleep))
    obtain ⟨after, target, answered, keptOn⟩ := asked.connect closed driver .connectionError
    rw [handle_connect asleep, answered]
    exact keptOn
  · have closed := asked.disconnect driver leaf
    obtain ⟨after, target, answered, keptOn⟩ := closed.connect rfl driver .error
    rw [handle_again again, answered]
    exact keptOn
  · have closed := asked.disconnect driver .disconnected
    rcases place with rfl | rfl <;> exact closed

theorem abiding_carries (driver : Driver δ) (past : List (Effect State)) :
    (chart driver).Carries (Chart.sinceThen past Abiding) (Chart.sinceThen past Abiding) where
  leave leaf goal state scope _ abiding := by
    have asked := Abides.asked abiding leaf state .exit nofun
    have runs := exit_runs driver (scope.record (.asked leaf state .exit)) state
    have sessionless := handle_sessionless driver (scope.record (.asked leaf state .exit))
      (abstains_exit state)
    refine asked.stays ?_ runs.connected
    exact (sessionless.and runs.adds).imp fun effect both => both.1.harmless both.2
  turn _ abiding := abiding
  enter leaf goal state scope inside abiding := by
    rw [chain_eq] at inside
    have told := (Abides.entering abiding leaf inside).announced state
    have runs := entry_runs driver (scope.record (.asked leaf state .entry)) state
    have sessionless := (handle_sessionless driver (scope.record (.asked leaf state .entry))
      (abstains_entry state)).since (announced_adds state _) runs.adds
    refine told.stays ?_ runs.connected
    exact (sessionless.and runs.adds).imp fun effect both => both.1.harmless both.2
  init {leaf scope} abiding := by
    have kept : Abides leaf scope.memory.connected (past ++ scope.journal) := abiding
    have asked := kept.asked leaf leaf .init nofun
    cases leaf with
    | super =>
      exact asked.leads (.refl _) rfl fun _ => kept.closed (Or.inl rfl)
    | connected =>
      have awake : ¬ (State.ready = .super ∨ State.ready.awaitsSession) := by decide
      exact asked.leads (.refl _) rfl fun waits => absurd waits awake
    | _ => exact asked
  leaving_warn warning abiding := Abides.warn abiding warning
  entering_warn warning abiding := Abides.warn abiding warning

theorem abiding_upholds (driver : Driver δ) :
    (chart driver).Upholds (fun state => state.rests) Abiding Abiding where
  carries := abiding_carries driver
  answers _ _ _ _ _ _ inside abiding := abiding_answer inside abiding
  arrives source target scope := by
    rw [transition_leaf]
    exact settled_rests target
  begins scope := by
    show State.rests .disconnected
    rfl

end Answers

/-- Whatever the camera answers and whatever events are dispatched: a session is asked for, and the
states that wait for one are entered, only while none is open; observers are told of it as it is;
two sessions never overlap; and at rest the flag tells whether one is open, which it never is in a
state that waits for one. -/
theorem disciplined_obeyAll (driver : Driver δ) (device : δ) (settings : Settings)
    (first : Occasion) (occasions : List Occasion) :
    let history := History.obeyAll (chart driver) (.new (chart driver) (.new device settings))
      (first :: occasions)
    Orderly Disciplined history.journal ∧
      (∀ before between after name other, history.journal =
          before ++ [.called .connect (.ok name)] ++ between ++
            [.called .connect (.ok other)] ++ after →
        ∃ reply, .called .disconnect reply ∈ between) ∧
      history.machine.memory.connected = sessionOpen history.journal ∧
      (history.machine.leaf.awaitsSession → history.machine.memory.connected = false) := by
  intro history
  have begins : Abiding State.super none (Memory.new device settings) [] :=
    ⟨rfl, orderly_nil, fun _ => rfl⟩
  obtain ⟨-, kept⟩ := (abiding_upholds driver).obeyAll (shallow driver) _ begins first occasions
  refine ⟨kept.orderly, fun before between after name other equal => ?_, kept.flag,
    fun waits => kept.closed (Or.inr waits)⟩
  exact closed_between (equal ▸ kept.orderly)

end Camera

end Tether
