import Tether.Device.Scripted
import Tether.Proofs.Camera.Session
import Tether.Proofs.Statechart.Upkeep

/-!
# The reported connectivity

What observers are told of the connectivity is right as long as no error is ignored without a
session (`Sighted`). All other transitions into the connected states follow an attempt to open a
session that has succeeded. But an error is ignored without a look at the session, and an attempt to
recover closes the session even if no other one can be opened; so a camera can be reported ready
while none is open (`ready_without_session`), and this is the only way (`truthful_iff`).

Along a transition the news depend on its goal: whether a session has to be open is settled when the
transition is asked for, and the states are entered later. In between, an error that was ignored
without a session is a debt that the entry of `connected` pays (`Honest`).
-/

namespace Tether

namespace Camera

variable {δ : Type} {driver : Driver δ}

/-- Whether a state needs an open session. -/
def State.inSession : State → Bool
  | .ready | .capturing | .downloading => true
  | _ => false

theorem label_injective {state other : State} (same : state.label = other.label) :
    state = other := by
  revert same
  cases state <;> cases other <;> decide

/-- News of an open session are told only while one is open, and a status tells of the session that
is open, which has to be one if the state that it names needs one. -/
structure Truthful (past : List (Effect State)) (effect : Effect State) : Prop where
  opened : ∀ topic, effect = .posted .cameraConnected topic ∨
    effect = .posted .cameraReady topic → sessionOpen past = true
  status : ∀ label connected download topic,
    effect = .posted (.cameraState label connected download) topic →
    connected = sessionOpen past ∧
      ∀ state : State, state.inSession → label = state.label → connected = true

/-- Errors are ignored only while a session is open. -/
def Sighted (past : List (Effect State)) (effect : Effect State) : Prop :=
  ∀ leaf, effect = .asked leaf .error (.event .ignoreError) → sessionOpen past = true

/-- The flag of the session matches the current state. -/
structure Matching (machine : Machine State (Memory δ)) : Prop where
  opened : machine.leaf.inSession → machine.memory.connected = true
  closed : machine.leaf = .disconnected ∨ machine.leaf = .connectionError →
    machine.memory.connected = false

theorem Plain.truthful {effect : Effect State} (plain : Plain effect)
    (past : List (Effect State)) : Truthful past effect := by
  refine ⟨?_, ?_⟩
  · rintro topic (rfl | rfl) <;> cases plain
  · rintro label connected download topic rfl
    cases plain

theorem Plain.sighted {effect : Effect State} (plain : Plain effect)
    (past : List (Effect State)) : Sighted past effect := by
  rintro leaf rfl
  exact absurd ⟨rfl, rfl⟩ plain

theorem sighted_posted (past : List (Effect State)) (event : Event) (topic : Topic) :
    Sighted past (.posted event topic) :=
  fun _ => nofun

theorem truthful_asked (past : List (Effect State)) (leaf state : State) (signal : Signal) :
    Truthful past (.asked leaf state signal) where
  opened topic told := by rcases told with told | told <;> cases told
  status _ _ _ _ := nofun

/-! ## Honest journals -/

/-- The flag is that of the journal, and the journal is truthful just if no error was ignored
without a session. If one was ignored on the way to `connected` this shows once that is entered. -/
structure Honest (cursor : Option State) (goal : State) (connected : Bool)
    (journal : List (Effect State)) : Prop where
  flag : connected = sessionOpen journal
  suits : Orderly Sighted journal → goal.Suits connected
  truthful : Orderly Sighted journal → Orderly Truthful journal
  sighted : Orderly Truthful journal → Orderly Sighted journal ∨
    goal = .connected ∧ cursor ≠ some .connected ∧ connected = false

namespace Honest

variable {cursor : Option State} {goal : State} {connected : Bool}
  {journal past : List (Effect State)} {before after : Scope State (Memory δ)}

/-- Without a debt. -/
theorem sighted_of_truthful (honest : Honest cursor goal connected journal)
    (settled : goal = .connected → cursor = some .connected)
    (orderly : Orderly Truthful journal) :
    Orderly Sighted journal := by
  rcases honest.sighted orderly with sighted | ⟨equal, outside, _⟩
  · exact sighted
  · exact absurd (settled equal) outside

/-- The debt does not depend on which other state is the innermost one. -/
theorem elsewhere {other : Option State} (honest : Honest cursor goal connected journal)
    (outside : goal = .connected → other ≠ some .connected) :
    Honest other goal connected journal where
  flag := honest.flag
  suits := honest.suits
  truthful := honest.truthful
  sighted orderly := by
    rcases honest.sighted orderly with sighted | ⟨equal, _, closed⟩
    · exact Or.inl sighted
    · exact Or.inr ⟨equal, outside equal, closed⟩

/-- After a run the journal is as honest as before, if the goal suits and the debt is passed on. -/
theorem of_runs {session : Option Bool} {other : Option State} {target : State}
    (honest : Honest cursor goal before.memory.connected (past ++ before.journal))
    (runs : Runs session before after)
    (suits : goal.Suits before.memory.connected → target.Suits after.memory.connected)
    (debt : goal = .connected → cursor ≠ some .connected → before.memory.connected = false →
      target = .connected ∧ other ≠ some .connected ∧ after.memory.connected = false) :
    Honest other target after.memory.connected (past ++ after.journal) := by
  have sightedIff := runs.adds.orderly_iff (fun _ => Plain.sighted) past
  have truthfulIff := runs.adds.orderly_iff (fun _ => Plain.truthful) past
  refine ⟨?_, ?_, ?_, ?_⟩
  · have flag := honest.flag
    unfold sessionOpen at flag ⊢
    rw [runs.session, runs.connected, flag]
    cases session <;> rfl
  · intro sighted
    exact suits (honest.suits (sightedIff.mp sighted))
  · intro sighted
    exact truthfulIff.mpr (honest.truthful (sightedIff.mp sighted))
  · intro truthful
    rcases honest.sighted (truthfulIff.mp truthful) with sighted | ⟨equal, outside, closed⟩
    · exact Or.inl (sightedIff.mpr sighted)
    · exact Or.inr (debt equal outside closed)

/-- A run that leaves the session alone. -/
theorem keeps (honest : Honest cursor goal before.memory.connected (past ++ before.journal))
    (runs : Runs none before after) :
    Honest cursor goal after.memory.connected (past ++ after.journal) := by
  have same : after.memory.connected = before.memory.connected := runs.connected
  refine honest.of_runs runs ?_ ?_
  · rw [same]
    exact id
  · rw [same]
    exact fun equal outside closed => ⟨equal, outside, closed⟩

/-- News that are right if all errors so far were ignored with a session open. -/
theorem posted {event : Event} {topic : Topic} (honest : Honest cursor goal connected journal)
    (right : goal.Suits connected → Truthful journal (.posted event topic)) :
    Honest cursor goal connected (journal ++ [.posted event topic]) where
  flag := by
    rw [honest.flag, sessionOpen, sessionOpen, latest_append_of_silent]
    simp [session?]
  suits sighted := honest.suits (orderly_concat.mp sighted).1
  truthful sighted := by
    have earlier := (orderly_concat.mp sighted).1
    exact orderly_concat.mpr ⟨honest.truthful earlier, right (honest.suits earlier)⟩
  sighted truthful := by
    refine (honest.sighted (orderly_concat.mp truthful).1).imp_left fun earlier => ?_
    exact orderly_concat.mpr ⟨earlier, sighted_posted _ _ _⟩

theorem announceStatus {scope : Scope State (Memory δ)}
    (honest : Honest cursor goal scope.memory.connected (past ++ scope.journal))
    (needs : scope.memory.status.inSession → goal.Suits scope.memory.connected →
      scope.memory.connected = true) :
    Honest cursor goal (announceStatus scope).memory.connected
      (past ++ (announceStatus scope).journal) := by
  show Honest cursor goal scope.memory.connected (past ++ (scope.journal ++ [_]))
  rw [← List.append_assoc]
  refine honest.posted fun suits => ⟨?_, ?_⟩
  · rintro topic (equal | equal) <;> cases equal
  · rintro _ _ _ _ ⟨⟩
    refine ⟨honest.flag, fun state inSession same => ?_⟩
    rw [← label_injective same] at inSession
    exact needs inSession suits

end Honest

theorem mem_path_self (state : State) : state ∈ state.path := by
  cases state <;> decide

/-- The states of a session are entered only on the way to states of a session. -/
theorem suits_open {goal state : State} {flag : Bool} (inside : state ∈ goal.path)
    (needs : state = .connected ∨ state.inSession) (suits : goal.Suits flag) : flag = true := by
  cases goal <;> cases state <;> simp_all [State.path, State.inSession, State.Suits]

namespace Honest

variable {goal state : State} {past : List (Effect State)} {scope : Scope State (Memory δ)}

theorem enterLeaf {cursor : Option State} (inside : state ∈ goal.path)
    (other : state ≠ .connected)
    (honest : Honest cursor goal scope.memory.connected (past ++ scope.journal)) :
    Honest (some state) goal (enterLeaf scope state).memory.connected
      (past ++ (enterLeaf scope state).journal) := by
  have noted : Honest (some state) goal
      (update scope fun memory => { memory with status := state }).memory.connected
      (past ++ (update scope fun memory => { memory with status := state }).journal) :=
    honest.elsewhere fun _ equal => other (Option.some.inj equal)
  exact noted.announceStatus fun needs suits => suits_open inside (Or.inr needs) suits

/-- News of an open session are right if the goal suits. -/
theorem opened {cursor : Option State} {connected : Bool} {journal : List (Effect State)}
    {event : Event} {topic : Topic} (honest : Honest cursor goal connected journal)
    (news : event = .cameraConnected ∨ event = .cameraReady)
    (needs : goal.Suits connected → connected = true) :
    Honest cursor goal connected (journal ++ [.posted event topic]) := by
  refine honest.posted fun suits => ⟨fun _ _ => ?_, ?_⟩
  · rw [← honest.flag]
    exact needs suits
  · rintro label flag download place equal
    rcases news with rfl | rfl <;> cases equal

theorem announced (inside : state ∈ goal.path)
    (honest : Honest ((chart driver).parent state) goal scope.memory.connected
      (past ++ scope.journal)) :
    Honest (some state) goal (state.announced scope).memory.connected
      (past ++ (state.announced scope).journal) := by
  cases state with
  | super => exact honest.elsewhere fun _ => nofun
  | connected =>
    show Honest _ goal scope.memory.connected (past ++ (scope.journal ++ [_]))
    rw [← List.append_assoc]
    have told : Honest _ goal scope.memory.connected
        ((past ++ scope.journal) ++ [.posted .cameraConnected .cameraEvent]) :=
      honest.opened (Or.inl rfl) fun suits => suits_open inside (Or.inl rfl) suits
    -- Here the debt is paid.
    refine { told with sighted := fun truthful => Or.inl ?_ }
    rcases told.sighted truthful with sighted | ⟨_, _, closed⟩
    · exact sighted
    · have session := (orderly_concat.mp truthful).2.opened .cameraEvent (Or.inl rfl)
      rw [← honest.flag, closed] at session
      cases session
  | ready =>
    have entered := honest.enterLeaf inside nofun
    show Honest _ goal (Camera.enterLeaf scope .ready).memory.connected
      (past ++ ((Camera.enterLeaf scope .ready).journal ++ [_]))
    rw [← List.append_assoc]
    exact entered.opened (Or.inr rfl) fun suits => suits_open inside (Or.inr rfl) suits
  | _ => exact honest.enterLeaf inside nofun

/-- A transition from a state without a debt. -/
theorem leads {cursor : Option State} {target : State} {session : Option Bool}
    {before after : Scope State (Memory δ)}
    (honest : Honest cursor goal before.memory.connected (past ++ before.journal))
    (settled : goal = .connected → cursor = some .connected) (runs : Runs session before after)
    (suits : goal.Suits before.memory.connected → target.Suits after.memory.connected) :
    Honest none target after.memory.connected (past ++ after.journal) :=
  honest.of_runs runs suits fun equal outside _ => absurd (settled equal) outside

/-- Where an error is ignored without a session a debt is made. -/
theorem ignored {leaf : State} {connected : Bool} {journal : List (Effect State)}
    (honest : Honest (some .error) .error connected journal) :
    Honest none .connected connected (journal ++ [.asked leaf .error (.event .ignoreError)]) where
  flag := by
    rw [honest.flag, sessionOpen, sessionOpen, latest_append_of_silent]
    simp [session?]
  suits sighted := by
    have looked := (orderly_concat.mp sighted).2 leaf rfl
    rw [← honest.flag] at looked
    exact looked
  truthful sighted := by
    have earlier := honest.truthful (orderly_concat.mp sighted).1
    exact orderly_concat.mpr ⟨earlier, truthful_asked _ _ _ _⟩
  sighted truthful := by
    have earlier := honest.sighted_of_truthful nofun (orderly_concat.mp truthful).1
    cases found : connected with
    | true =>
      refine Or.inl (orderly_concat.mpr ⟨earlier, fun _ _ => ?_⟩)
      rw [← honest.flag, found]
    | false => exact Or.inr ⟨rfl, nofun, rfl⟩

end Honest

/-! ## The controller -/

/-- On the way out a debt may be open. -/
def Parting (goal : State) (_cursor : Option State) (memory : Memory δ)
    (journal : List (Effect State)) : Prop :=
  Honest none goal memory.connected journal

/-- On the way in and at rest. When the goal has been entered it is the state that was told. -/
structure Arriving (goal : State) (cursor : Option State) (memory : Memory δ)
    (journal : List (Effect State)) : Prop where
  honest : Honest cursor goal memory.connected journal
  status : cursor = some goal → goal.rests → memory.status = goal

section Carrying

variable {past : List (Effect State)} {before after : Scope State (Memory δ)}

theorem Arriving.keeps {goal : State} {cursor : Option State} (runs : Runs none before after)
    (arriving : Chart.sinceThen past Arriving goal cursor before) :
    Chart.sinceThen past Arriving goal cursor after where
  honest := Honest.keeps (Arriving.honest arriving) runs
  status here rests := runs.status.trans (Arriving.status arriving here rests)

theorem Arriving.tells {leaf : State} {scope : Scope State (Memory δ)} (download : Bool)
    (rests : leaf.rests) (arriving : Chart.sinceThen past Arriving leaf (some leaf) scope) :
    Chart.sinceThen past Arriving leaf (some leaf) (announceStatus
      (update scope fun memory => { memory with download := download })) := by
  have honest := Arriving.honest arriving
  have status : scope.memory.status = leaf := Arriving.status arriving rfl rests
  refine ⟨?_, fun _ _ => status⟩
  apply Honest.announceStatus
  · exact honest
  · intro needs suits
    have inSession : scope.memory.status.inSession := needs
    rw [status] at inSession
    exact suits_open (mem_path_self leaf) (Or.inr inSession) suits

theorem announced_status {state : State} (rests : state.rests) (scope : Scope State (Memory δ)) :
    (state.announced scope).memory.status = state := by
  cases state <;> first | rfl | cases rests

theorem arriving_entry (driver : Driver δ) (leaf : State) {goal state : State}
    {scope : Scope State (Memory δ)} (inside : state ∈ (chart driver).chain goal)
    (arriving : Chart.sinceThen past Arriving goal ((chart driver).parent state) scope) :
    Chart.sinceThen past Arriving goal (some state)
      ((chart driver).ask leaf state .entry scope).1 := by
  rw [chain_eq] at inside
  have asked := Arriving.keeps (Runs.asked scope leaf state .entry nofun) arriving
  have told : Chart.sinceThen past Arriving goal (some state)
      (state.announced (scope.record (.asked leaf state .entry))) := by
    refine ⟨(Arriving.honest asked).announced inside, ?_⟩
    rintro ⟨⟩ rests
    exact announced_status rests _
  exact Arriving.keeps (entry_runs driver _ state) told

theorem arriving_carries (driver : Driver δ) (past : List (Effect State)) :
    (chart driver).Carries (Chart.sinceThen past Parting) (Chart.sinceThen past Arriving) where
  leave leaf goal state scope _ parting := by
    have runs := (Runs.asked scope leaf state .exit nofun).then_idle
      (exit_runs driver (scope.record (.asked leaf state .exit)) state)
    exact Honest.keeps parting runs
  turn {goal cursor scope} above parting := by
    -- Where the way turns round the goal has not been entered.
    have outside : cursor ≠ some goal := by
      intro here
      have member := above goal here
      rw [chainAbove_eq] at member
      exact absurd member (by cases goal <;> decide)
    refine ⟨Honest.elsewhere parting ?_, fun here => absurd here outside⟩
    rintro rfl
    exact outside
  enter leaf _ _ _ inside arriving := arriving_entry driver leaf inside arriving
  init {leaf scope} arriving := by
    have runs := Runs.asked scope leaf leaf .init nofun
    cases leaf with
    | super => exact (Arriving.honest arriving).leads nofun runs fun suits => suits
    | connected => exact (Arriving.honest arriving).leads (fun _ => rfl) runs fun suits => suits
    | _ => exact Arriving.keeps runs arriving
  leaving_warn _ parting := Honest.keeps parting ((Runs.refl _).record trivial rfl)
  entering_warn _ arriving := Arriving.keeps ((Runs.refl _).record trivial rfl) arriving

/-- The states around a state of a session suit as it does. -/
theorem suits_of_mem_path {leaf state : State} (inside : state ∈ leaf.path)
    (inner : state ≠ .super) (flag : Bool) (suits : leaf.Suits flag) : state.Suits flag := by
  cases leaf <;> cases state <;> simp_all [State.path, State.Suits]

theorem arriving_answer {leaf state : State} (event : Event) {scope : Scope State (Memory δ)}
    (rests : leaf.rests) (inside : state ∈ (chart driver).chain leaf)
    (arriving : Chart.sinceThen past Arriving leaf (some leaf) scope) :
    Chart.Demands (Chart.sinceThen past Parting) (Chart.sinceThen past Arriving) leaf
      ((chart driver).ask leaf state (.event event) scope) := by
  rw [chain_eq] at inside
  have settled : leaf = .connected → some leaf = some .connected := congrArg some
  by_cases ignored : state = .error ∧ event = .ignoreError
  · obtain ⟨rfl, rfl⟩ := ignored
    have here : leaf = .error := by
      revert inside
      cases leaf <;> decide
    subst here
    show Honest none .connected scope.memory.connected (past ++ (scope.journal ++ [_]))
    rw [← List.append_assoc]
    exact (Arriving.honest arriving).ignored
  · have asking : ¬ (state = .error ∧ Signal.event event = .event .ignoreError) := by
      simpa using ignored
    have asked := Arriving.keeps (Runs.asked scope leaf state (.event event) asking) arriving
    have steps := handle_steps driver (scope.record (.asked leaf state (.event event))) event state
    unfold Chart.ask
    generalize (chart driver).handle state (.event event) _ = answered at steps ⊢
    cases steps with
    | handles runs => exact Arriving.keeps runs asked
    | passes => exact asked
    | tells download => exact Arriving.tells download rests asked
    | leads inner runs suits =>
      exact (Arriving.honest asked).leads settled runs fun suited =>
        suits (suits_of_mem_path inside inner _ suited)
    | ignores here same => exact absurd ⟨here, same⟩ ignored

theorem arriving_upholds (driver : Driver δ) :
    (chart driver).Upholds (fun state => state.rests) Parting Arriving where
  carries := arriving_carries driver
  answers _ _ _ event _ rests inside arriving := arriving_answer event rests inside arriving
  arrives source target scope := by
    rw [transition_leaf]
    exact settled_rests target
  begins scope := by
    show State.rests .disconnected
    rfl

end Carrying

theorem honest_new (device : δ) (settings : Settings) :
    Arriving .super none (Memory.new device settings) [] where
  honest :=
    ⟨rfl, fun _ => rfl, fun _ => orderly_nil, fun _ => Or.inl orderly_nil⟩
  status := nofun

/-- Whatever the camera answers and whatever events are dispatched: the reported connectivity is
right, now and in all reports so far, just if no error has been ignored without a session. -/
theorem truthful_iff (driver : Driver δ) (device : δ) (settings : Settings) (first : Occasion)
    (occasions : List Occasion) :
    let history := History.obeyAll (chart driver) (.new (chart driver) (.new device settings))
      (first :: occasions)
    Matching history.machine ∧ Orderly Truthful history.journal ↔
      Orderly Sighted history.journal := by
  intro history
  obtain ⟨rests, arriving⟩ := (arriving_upholds driver).obeyAll (shallow driver) _
    (honest_new device settings) first occasions
  have honest := arriving.honest
  constructor
  · rintro ⟨-, truthful⟩
    refine honest.sighted_of_truthful (fun equal => ?_) truthful
    exact congrArg some equal
  · intro sighted
    have suits := honest.suits sighted
    refine ⟨⟨fun inSession => ?_, fun closed => ?_⟩, honest.truthful sighted⟩
    · exact suits_open (mem_path_self _) (Or.inr inSession) suits
    · rcases closed with equal | equal
      · rw [equal] at suits
        exact suits
      · rw [equal] at suits
        exact suits

/-- A camera that can be reached once, and takes no pictures. -/
def onceCamera : Driver Bool where
  name _ := "once"
  isConnected reached := reached
  perform call reached :=
    match call with
    | .connect => if reached then (.error .notConnected, true) else (.ok "once", true)
    | .disconnect => (.ok (), reached)
    | .capture => (.error (.communication "no answer"), reached)
    | _ => (.error (.unsupported "setting"), reached)

/-- A failed capture, a failed recovery, and then the error is ignored. -/
def ignoredTooLate : List Occasion :=
  [.connect, .capture, .captureStep, .recover, .ignoreError].map
    fun event => ⟨.dispatch event, .empty, 0⟩

/-- The camera is reported ready while the flag, the journal and the report itself have it that no
session is open. -/
theorem ready_without_session :
    let history := History.obeyAll (chart onceCamera)
      (.new (chart onceCamera) (.new false ⟨"", false, 0, 0, 0⟩))
      (⟨.start, .empty, 0⟩ :: ignoredTooLate)
    history.machine.leaf = .ready ∧ history.machine.memory.connected = false ∧
      sessionOpen history.journal = false ∧
      latest (Effect.report? .cameraEvent Event.isNews) history.journal = some .cameraReady ∧
      .cameraState "ready" false false ∈
        history.journal.filterMap (Effect.report? .cameraEvent Event.isNews) := by
  decide +kernel

end Camera

end Tether
