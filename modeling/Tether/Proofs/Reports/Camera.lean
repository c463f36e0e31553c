import Tether.Proofs.Camera.Session
import Tether.Proofs.Statechart.Upkeep

/-!
# Reports of the camera controller

Whenever the camera controller is at rest, the status that it reported last is that of its current
state, with the flags as they are (`Camera.reported_at_rest`). The flag of the session changes only
on the way to a transition, and every state that a transition can end in reports on entry; the flag
of the download is reported when it is set. So nothing has to be known of the reports while states
are left.
-/

namespace Tether

/-- Whether an event is a report of the status of the camera controller. -/
def Event.isCameraState : Event → Bool
  | .cameraState .. => true
  | _ => false

namespace Camera

variable {δ : Type} {driver : Driver δ}

/-- The status that an entry of a journal reports. -/
def report? : Effect State → Option Event :=
  Effect.report? .cameraEvent Event.isCameraState

theorem report?_of_plain {effect : Effect State} (plain : Plain effect) :
    report? effect = none := by
  cases effect with
  | posted event topic =>
    cases event with
    | cameraState state connected download => cases plain
    | _ => simp [report?, Effect.report?, Event.isCameraState]
  | _ => rfl

/-- The status is that of a state, and was reported last. -/
structure Current (state : State) (memory : Memory δ) (journal : List (Effect State)) : Prop where
  status : memory.status = state
  reported : latest report? journal = some memory.statusEvent

/-- When the goal of a transition has been entered, the status was reported. -/
def Reported (goal : State) (cursor : Option State) (memory : Memory δ)
    (journal : List (Effect State)) : Prop :=
  cursor = some goal → goal.rests → Current goal memory journal

section Handlers

variable {past : List (Effect State)} {before after scope : Scope State (Memory δ)}

/-- Entries that are no reports do not matter. -/
theorem Current.of_adds {state : State}
    (current : Current state before.memory (past ++ before.journal))
    (adds : Scope.Adds (report? · = none) before after) (memory : after.memory = before.memory) :
    Current state after.memory (past ++ after.journal) := by
  rw [memory]
  exact ⟨current.status, (adds.latest_eq (fun _ quiet => quiet) past).trans current.reported⟩

/-- A run that leaves the session alone has nothing to report. -/
theorem Runs.current {state : State} (runs : Runs none before after)
    (current : Current state before.memory (past ++ before.journal)) :
    Current state after.memory (past ++ after.journal) where
  status := runs.status.trans current.status
  reported := by
    have told : after.memory.statusEvent = before.memory.statusEvent := by
      unfold Memory.statusEvent
      rw [runs.status, runs.connected, runs.download]
      rfl
    rw [runs.adds.latest_eq fun _ => report?_of_plain, current.reported, told]

theorem reported_of_adds {goal : State} {cursor : Option State}
    (adds : Scope.Adds (report? · = none) before after) (memory : after.memory = before.memory)
    (reported : Chart.sinceThen past Reported goal cursor before) :
    Chart.sinceThen past Reported goal cursor after :=
  fun here rests => (reported here rests).of_adds adds memory

theorem Runs.reported {goal : State} {cursor : Option State} (runs : Runs none before after)
    (reported : Chart.sinceThen past Reported goal cursor before) :
    Chart.sinceThen past Reported goal cursor after :=
  fun here rests => runs.current (reported here rests)

theorem announceStatus_current (past : List (Effect State)) (scope : Scope State (Memory δ)) :
    Current scope.memory.status (announceStatus scope).memory
      (past ++ (announceStatus scope).journal) := by
  refine ⟨rfl, ?_⟩
  show latest report? (past ++ (scope.journal ++ [_])) = _
  rw [← List.append_assoc]
  exact latest_concat report? rfl _

theorem enterLeaf_current (past : List (Effect State)) (scope : Scope State (Memory δ))
    (state : State) :
    Current state (enterLeaf scope state).memory (past ++ (enterLeaf scope state).journal) :=
  announceStatus_current past (update scope fun memory => { memory with status := state })

/-- The news that follow the report of a state are no reports. -/
theorem announced_current (past : List (Effect State)) (scope : Scope State (Memory δ))
    {state : State} (rests : state.rests) :
    Current state (state.announced scope).memory (past ++ (state.announced scope).journal) := by
  have entered := enterLeaf_current past scope state
  cases state with
  | super => cases rests
  | connected => cases rests
  | ready => exact entered.of_adds ((Scope.Adds.refl _).record rfl) rfl
  | _ => exact entered

end Handlers

theorem asked_adds (scope : Scope State (Memory δ)) (leaf state : State) (signal : Signal) :
    Scope.Adds (report? · = none) scope (scope.record (.asked leaf state signal)) :=
  (Scope.Adds.refl scope).record rfl

theorem reported_carries (driver : Driver δ) (past : List (Effect State)) :
    (chart driver).Carries (Chart.sinceThen past fun _ _ _ _ => True)
      (Chart.sinceThen past Reported) where
  leave _ _ _ _ _ _ := trivial
  turn {goal cursor scope} above _ := by
    -- Where the way turns round the goal has not been entered.
    intro here
    have member := above goal here
    rw [chainAbove_eq] at member
    exact absurd member (by cases goal <;> decide)
  enter leaf goal state scope _ _ := by
    rintro ⟨⟩ rests
    have announced := announced_current past (scope.record (.asked leaf goal .entry)) rests
    exact (entry_runs driver _ goal).current announced
  init {leaf scope} reported := by
    have asked := reported_of_adds (asked_adds scope leaf leaf .init) rfl reported
    cases leaf with
    | super => trivial
    | connected => trivial
    | _ => exact asked
  leaving_warn _ _ := trivial
  entering_warn warning reported := reported_of_adds ((Scope.Adds.refl _).record rfl) rfl reported

/-- A state that keeps the machine where it is has nothing to report, or reports it. -/
theorem answer_keeps {past : List (Effect State)} {leaf state : State} (event : Event)
    {scope : Scope State (Memory δ)} (rests : leaf.rests)
    (reported : Chart.sinceThen past Reported leaf (some leaf) scope) :
    Chart.Demands (Chart.sinceThen past fun _ _ _ _ => True) (Chart.sinceThen past Reported) leaf
      ((chart driver).ask leaf state (.event event) scope) := by
  have asked := reported_of_adds (asked_adds scope leaf state (.event event)) rfl reported
  have steps := handle_steps driver (scope.record (.asked leaf state (.event event))) event state
  unfold Chart.ask
  generalize (chart driver).handle state (.event event) _ = answered at steps ⊢
  cases steps with
  | handles runs => exact runs.reported asked
  | passes => exact asked
  | tells download =>
    intro here _
    have status : scope.memory.status = leaf := (reported here rests).status
    have told := announceStatus_current past (update
      (scope.record (.asked leaf state (.event event)))
      fun memory => { memory with download := download })
    exact ⟨status, told.reported⟩
  | leads inner runs suits => trivial
  | ignores here ignored => trivial

theorem reported_upholds (driver : Driver δ) :
    (chart driver).Upholds (fun state => state.rests) (fun _ _ _ _ => True) Reported where
  carries := reported_carries driver
  answers _ _ _ event _ rests _ reported := answer_keeps event rests reported
  arrives source target scope := by
    rw [transition_leaf]
    exact settled_rests target
  begins scope := by
    show State.rests .disconnected
    rfl

/-- After every order the camera controller is in a state that has no initial transition, and has
reported that state and both flags last. -/
theorem reported_at_rest (driver : Driver δ) (memory : Memory δ) (first : Occasion)
    (occasions : List Occasion) :
    let history := History.obeyAll (chart driver) (.new (chart driver) memory) (first :: occasions)
    history.machine.leaf.rests ∧
      latest report? history.journal =
        some (.cameraState history.machine.leaf.label history.machine.memory.connected
          history.machine.memory.download) := by
  intro history
  obtain ⟨rests, reported⟩ :=
    (reported_upholds driver).obeyAll (shallow driver) memory nofun first occasions
  have current := reported rfl rests
  refine ⟨rests, ?_⟩
  rw [current.reported, Memory.statusEvent, current.status]

end Camera

end Tether
