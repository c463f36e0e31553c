import Tether.Proofs.Handshake.Intervalometer
import Tether.Proofs.Statechart.Upkeep

/-!
# Reports of the intervalometer

Whenever the intervalometer is at rest, the progress that it reported last is that of its current
state (`Intervalometer.reported_at_rest`). The interval, the counters and the total change only on
the way to a transition, and every state that a transition can end in reports them on entry. So
nothing has to be known of the reports while states are left.
-/

namespace Tether

/-- Whether an event is a report of the progress of the intervalometer. -/
def Event.isIntervalometerState : Event → Bool
  | .intervalometerState .. => true
  | _ => false

namespace Intervalometer

/-- The progress that an entry of a journal reports. -/
def report? : Effect State → Option Event :=
  Effect.report? .modeState Event.isIntervalometerState

/-- The status is that of a state, and the progress was reported last. -/
structure Current (state : State) (memory : Memory) (journal : List (Effect State)) : Prop where
  status : memory.status = state
  reported : latest report? journal = some memory.report

/-- The states that a machine can rest in have reported the progress on entry. -/
def Reported (_goal : State) (cursor : Option State) (memory : Memory)
    (journal : List (Effect State)) : Prop :=
  ∀ state, cursor = some state → state.Rests → Current state memory journal

/-- A change of scope that neither changes nor reports the progress. -/
structure Silent (before after : Scope State Memory) : Prop where
  status : after.memory.status = before.memory.status
  report : after.memory.report = before.memory.report
  adds : Scope.Adds (report? · = none) before after

namespace Silent

variable {before middle after : Scope State Memory}

theorem refl (scope : Scope State Memory) : Silent scope scope :=
  ⟨rfl, rfl, .refl scope⟩

theorem trans (first : Silent before middle) (second : Silent middle after) :
    Silent before after :=
  ⟨second.status.trans first.status, second.report.trans first.report,
    first.adds.trans second.adds⟩

theorem record {effect : Effect State} (quiet : report? effect = none)
    (first : Silent before after) : Silent before (after.record effect) :=
  ⟨first.status, first.report, first.adds.record quiet⟩

theorem update (scope : Scope State Memory) (change : Memory → Memory)
    (status : (change scope.memory).status = scope.memory.status)
    (report : (change scope.memory).report = scope.memory.report) :
    Silent scope (Intervalometer.update scope change) :=
  ⟨status, report, .of_journal_eq rfl⟩

theorem cancelDeadline (scope : Scope State Memory) :
    Silent scope (Intervalometer.cancelDeadline scope) := by
  refine (update scope (fun memory => { memory with deadline := none }) rfl rfl).trans ?_
  exact ⟨by simp [Intervalometer.cancelDeadline], by simp [Intervalometer.cancelDeadline],
    .of_journal_eq (by simp [Intervalometer.cancelDeadline])⟩

theorem setDeadline (scope : Scope State Memory) :
    Silent scope (Intervalometer.setDeadline scope) := by
  unfold Intervalometer.setDeadline
  split
  · have scheduled (event : Event) (topic : Topic) (delay : Nat) :
        Silent scope (scope.schedule event topic delay).1 :=
      ⟨by simp, by simp, .schedule (report? · = none) rfl scope event topic delay⟩
    exact (scheduled _ _ _).trans (update _ _ rfl rfl)
  · exact refl scope

theorem noteExpiry (scope : Scope State Memory) :
    Silent scope (Intervalometer.noteExpiry scope) :=
  (update scope (fun memory => { memory with deadline := none }) rfl rfl).trans
    (update _ _ rfl rfl)

theorem current {past : List (Effect State)} {state : State} (silent : Silent before after)
    (current : Current state before.memory (past ++ before.journal)) :
    Current state after.memory (past ++ after.journal) where
  status := silent.status.trans current.status
  reported := by
    rw [silent.adds.latest_eq (fun _ quiet => quiet), silent.report]
    exact current.reported

theorem reported {past : List (Effect State)} {goal : State} {cursor : Option State}
    (silent : Silent before after) (reported : Chart.sinceThen past Reported goal cursor before) :
    Chart.sinceThen past Reported goal cursor after :=
  fun state here rests => silent.current (reported state here rests)

end Silent

theorem report_current (past : List (Effect State)) (scope : Scope State Memory) :
    Current scope.memory.status (report scope).memory (past ++ (report scope).journal) := by
  refine ⟨rfl, ?_⟩
  show latest report? (past ++ (scope.journal ++ [_])) = _
  rw [← List.append_assoc]
  exact latest_concat report? rfl _

theorem enterLeaf_current (past : List (Effect State)) (scope : Scope State Memory)
    (state : State) :
    Current state (enterLeaf scope state).memory (past ++ (enterLeaf scope state).journal) :=
  report_current past (update scope fun memory => { memory with status := state })

theorem beginCapture_current (past : List (Effect State)) (scope : Scope State Memory) :
    Current .capturing (beginCapture scope).memory (past ++ (beginCapture scope).journal) := by
  have entered := enterLeaf_current past scope .capturing
  have rest : Silent (enterLeaf scope .capturing) (beginCapture scope) := by
    refine Silent.trans ?_ (Silent.setDeadline _)
    refine Silent.record rfl ?_
    exact (Silent.update _ (fun memory => { memory with expired := false }) rfl rfl).trans
      (Silent.cancelDeadline _)
  exact rest.current entered

/-- Every state that the machine can rest in reports on entry. -/
theorem entry_current (past : List (Effect State)) (scope : Scope State Memory) {state : State}
    (rests : state.Rests) :
    Current state (chart.handle state .entry scope).1.memory
      (past ++ (chart.handle state .entry scope).1.journal) := by
  cases state with
  | super => exact absurd rfl rests.1
  | running => exact absurd rfl rests.2
  | ready => exact enterLeaf_current past scope .ready
  | capturing => exact beginCapture_current past scope
  | waiting => exact enterLeaf_current past scope .waiting
  | error => exact enterLeaf_current past scope .error

theorem asked_silent (scope : Scope State Memory) (leaf state : State) (signal : Signal) :
    Silent scope (scope.record (.asked leaf state signal)) :=
  (Silent.refl scope).record rfl

theorem reported_carries (past : List (Effect State)) :
    chart.Carries (Chart.sinceThen past fun _ _ _ _ => True) (Chart.sinceThen past Reported) where
  leave _ _ _ _ _ _ := trivial
  turn {goal cursor scope} above _ := by
    -- Where the way turns round only a state around others is entered.
    intro state here rests
    have member := above state here
    have around : state ∉ chart.chainAbove goal := by
      revert rests
      cases goal <;> cases state <;> decide
    exact absurd member around
  enter leaf _ state scope _ _ := by
    rintro _ ⟨⟩ rests
    exact entry_current past _ rests
  init {leaf scope} reported := by
    have asked := (asked_silent scope leaf leaf .init).reported reported
    cases leaf with
    | super => trivial
    | running => trivial
    | _ => exact asked
  leaving_warn _ _ := trivial
  entering_warn warning reported := ((Silent.refl _).record rfl).reported reported

/-- A state that keeps the machine where it is leaves the progress alone, or reports it. -/
theorem answer_keeps {past : List (Effect State)} {leaf state : State} {event : Event}
    {scope : Scope State Memory} (reported : Chart.sinceThen past Reported leaf (some leaf) scope) :
    Chart.Demands (Chart.sinceThen past fun _ _ _ _ => True) (Chart.sinceThen past Reported) leaf
      (chart.handle state (.event event) scope) := by
  have expiry := (Silent.noteExpiry scope).reported reported
  cases state with
  | super =>
    cases event with
    | getMode =>
      rintro _ ⟨⟩ rests
      have told := report_current past scope
      rwa [(reported leaf rfl rests).status] at told
    | _ => exact reported
  | ready =>
    cases event with
    | intervalometerStart interval total => trivial
    | _ => exact reported
  | running =>
    cases event with
    | stopMode => trivial
    | _ => exact reported
  | capturing =>
    cases event with
    | intervalometerDeadline => exact expiry
    | captureDone downloaded file => trivial
    | cameraError => trivial
    | _ => exact reported
  | waiting =>
    cases event with
    | intervalometerDeadline => trivial
    | cameraError => trivial
    | _ => exact reported
  | error =>
    cases event with
    | intervalometerDeadline => exact expiry
    | cameraConnected => trivial
    | _ => exact reported

/-- The state that a transition to a state comes to rest in. -/
def State.settled : State → State
  | .super => .ready
  | .running => .capturing
  | state => state

theorem transition_settled (source target : State) (scope : Scope State Memory) :
    (chart.transition source target scope).1 = target.settled := by
  cases target <;> rfl

theorem upholds : chart.Upholds State.Rests (fun _ _ _ _ => True) Reported where
  carries := reported_carries
  answers past {leaf state} event {scope} _ _ reported :=
    answer_keeps ((asked_silent scope leaf state (.event event)).reported reported)
  arrives source target scope := by
    rw [transition_settled]
    cases target <;> decide
  begins scope := by
    show State.Rests .ready
    decide

/-- After every order the intervalometer is in a state that has no states inside, and has reported
the state and the progress that it is in last. -/
theorem reported_at_rest (memory : Memory) (first : Occasion) (occasions : List Occasion) :
    let history := History.obeyAll chart (.new chart memory) (first :: occasions)
    history.machine.leaf.Rests ∧
      latest report? history.journal =
        some (.intervalometerState history.machine.leaf.label history.machine.memory.interval
          history.machine.memory.captures history.machine.memory.total) := by
  intro history
  obtain ⟨rests, reported⟩ := upholds.obeyAll shallow memory (fun _ => nofun) first occasions
  have current := reported history.machine.leaf rfl rests
  refine ⟨rests, ?_⟩
  rw [current.reported, Memory.report, current.status]

end Intervalometer

end Tether
