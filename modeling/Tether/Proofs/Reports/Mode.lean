import Tether.Proofs.Handshake.Mode
import Tether.Proofs.Statechart.Upkeep

/-!
# Reports of the mode

Whenever the mode controller is at rest, the mode that it reported last is its own
(`Mode.reported_at_rest`). Manual mode is set and reported when it is entered. Control is handed
over before the transition to `Running`, which itself changes and reports nothing; so what holds on
the way there depends on the goal of the transition.
-/

namespace Tether

/-- Whether an event is a report of the mode. -/
def Event.isModeValue : Event → Bool
  | .modeValue _ => true
  | _ => false

namespace Mode

/-- The mode that an entry of a journal reports. -/
def report? : Effect State → Option Event :=
  Effect.report? .modeState Event.isModeValue

/-- A mode has been set, and was reported last. -/
structure Announced (control : Control) (memory : Memory) (journal : List (Effect State)) :
    Prop where
  noted : memory.control = control
  reported : latest report? journal = some (.modeValue control.name)

/-- On the way to `Running` control has been handed over. -/
def Leaving (goal : State) (_cursor : Option State) (memory : Memory)
    (journal : List (Effect State)) : Prop :=
  goal = .running → Announced .intervalometer memory journal

/-- Manual mode is set on entry, and control is handed over before. -/
structure Entering (goal : State) (cursor : Option State) (memory : Memory)
    (journal : List (Effect State)) : Prop where
  running : goal = .running → Announced .intervalometer memory journal
  selection : cursor = some .selection → Announced .manual memory journal

/-- A change of scope that neither changes nor reports the mode. -/
structure Silent (before after : Scope State Memory) : Prop where
  control : after.memory.control = before.memory.control
  adds : Scope.Adds (fun effect => report? effect = none) before after

namespace Silent

variable {before after : Scope State Memory}

theorem announced {past : List (Effect State)} {control : Control} (silent : Silent before after)
    (announced : Announced control before.memory (past ++ before.journal)) :
    Announced control after.memory (past ++ after.journal) where
  noted := silent.control.trans announced.noted
  reported := by
    rw [silent.adds.latest_eq (fun _ quiet => quiet)]
    exact announced.reported

theorem entering {past : List (Effect State)} {goal : State} {cursor : Option State}
    (silent : Silent before after)
    (entering : Chart.sinceThen past Entering goal cursor before) :
    Chart.sinceThen past Entering goal cursor after where
  running equal := silent.announced (entering.running equal)
  selection equal := silent.announced (entering.selection equal)

theorem asked (scope : Scope State Memory) (leaf state : State) (signal : Signal) :
    Silent scope (scope.record (.asked leaf state signal)) :=
  ⟨rfl, (Scope.Adds.refl scope).record rfl⟩

theorem warn (scope : Scope State Memory) (warning : Warning) :
    Silent scope (scope.warn warning) :=
  ⟨rfl, (Scope.Adds.refl scope).record rfl⟩

theorem trans {middle : Scope State Memory} (first : Silent before middle)
    (second : Silent middle after) : Silent before after :=
  ⟨second.control.trans first.control, first.adds.trans second.adds⟩

theorem armHeartbeat (scope : Scope State Memory) : Silent scope (armHeartbeat scope) :=
  ⟨by simp [Mode.armHeartbeat], Scope.Adds.schedule (report? · = none) rfl scope _ _ _⟩

end Silent

/-- Reporting the mode leaves it as it is. -/
theorem announce_entering {past : List (Effect State)} {goal : State} {cursor : Option State}
    {scope : Scope State Memory} (entering : Chart.sinceThen past Entering goal cursor scope) :
    Chart.sinceThen past Entering goal cursor (announce scope) := by
  have told : latest report? (past ++ (announce scope).journal) =
      some (.modeValue scope.memory.control.name) := by
    show latest report? (past ++ (scope.journal ++ [_])) = _
    rw [← List.append_assoc]
    exact latest_concat report? rfl _
  refine ⟨fun equal => ?_, fun equal => ?_⟩
  · have before := entering.running equal
    exact ⟨before.noted, by rw [told, before.noted]⟩
  · have before := entering.selection equal
    exact ⟨before.noted, by rw [told, before.noted]⟩

theorem setControl_announced (past : List (Effect State)) (scope : Scope State Memory)
    (control : Control) :
    Announced control (setControl scope control).memory
      (past ++ (setControl scope control).journal) := by
  refine ⟨rfl, ?_⟩
  show latest report? (past ++ (scope.journal ++ [_])) = _
  rw [← List.append_assoc]
  exact latest_concat report? rfl _

theorem exit_silent (leaf state : State) (scope : Scope State Memory) :
    Silent scope (chart.ask leaf state .exit scope).1 := by
  refine (Silent.asked scope leaf state .exit).trans ?_
  cases state <;> exact ⟨rfl, .refl _⟩

theorem entry_entering {past : List (Effect State)} (leaf : State) {goal state : State}
    {scope : Scope State Memory} (inside : state ∈ chart.chain goal)
    (entering : Chart.sinceThen past Entering goal (chart.parent state) scope) :
    Chart.sinceThen past Entering goal (some state) (chart.ask leaf state .entry scope).1 := by
  have asked := (Silent.asked scope leaf state .entry).entering entering
  cases state with
  | super =>
    have armed := Silent.armHeartbeat (scope.record (.asked leaf .super .entry))
    exact ⟨fun equal => armed.announced (asked.running equal), nofun⟩
  | selection =>
    -- Manual mode is not entered on the way to `Running`.
    refine ⟨?_, fun _ => setControl_announced past _ .manual⟩
    rintro rfl
    exact absurd inside (by decide)
  | running => exact ⟨asked.running, nofun⟩

theorem carries (past : List (Effect State)) :
    chart.Carries (Chart.sinceThen past Leaving) (Chart.sinceThen past Entering) where
  leave leaf _ state scope _ leaving equal :=
    (exit_silent leaf state scope).announced (leaving equal)
  turn {goal cursor scope} above leaving := by
    have free : State.selection ∉ chart.chainAbove goal := by cases goal <;> decide
    exact ⟨leaving, fun equal => absurd (above .selection equal) free⟩
  enter leaf _ _ _ inside entering := entry_entering leaf inside entering
  init {leaf scope} entering := by
    have asked := (Silent.asked scope leaf leaf .init).entering entering
    cases leaf with
    | super => exact nofun
    | selection => exact asked
    | running => exact asked
  leaving_warn warning leaving equal := (Silent.warn _ warning).announced (leaving equal)
  entering_warn warning entering := (Silent.warn _ warning).entering entering

theorem answer_keeps {past : List (Effect State)} {leaf state : State} {event : Event}
    {scope : Scope State Memory} (member : state ∈ chart.chain leaf)
    (entering : Chart.sinceThen past Entering leaf (some leaf) scope) :
    Chart.Demands (Chart.sinceThen past Leaving) (Chart.sinceThen past Entering) leaf
      (chart.handle state (.event event) scope) := by
  cases state with
  | super =>
    cases event with
    | heartbeat => exact (Silent.armHeartbeat scope).entering entering
    | getMode => exact announce_entering entering
    | _ => exact entering
  | selection =>
    cases event with
    | runIntervalometer interval total =>
      intro _
      have started : Silent (setControl scope .intervalometer)
          ((setControl scope .intervalometer).post
            (.intervalometerStart interval total) .modeFsm) :=
        ⟨rfl, (Scope.Adds.refl _).record rfl⟩
      exact started.announced (setControl_announced past scope .intervalometer)
    | _ => exact entering
  | running =>
    cases event with
    | modeStopped => exact nofun
    | _ => exact entering

theorem upholds : chart.Upholds (fun state => state ≠ .super) Leaving Entering where
  carries := carries
  answers past {leaf state} event {scope} _ member entering :=
    answer_keeps member ((Silent.asked scope leaf state (.event event)).entering entering)
  arrives source target scope := by
    cases target <;> nofun
  begins scope := nofun

/-- After every order the mode controller is in manual mode, or in `Running` under control of the
intervalometer, and has reported that last. -/
theorem reported_at_rest (memory : Memory) (first : Occasion) (occasions : List Occasion) :
    let history := History.obeyAll chart (.new chart memory) (first :: occasions)
    history.machine.leaf ≠ .super ∧
      (history.machine.memory.control = .intervalometer ↔ history.machine.leaf = .running) ∧
      latest report? history.journal = some (.modeValue history.machine.memory.control.name) := by
  intro history
  obtain ⟨rests, entering⟩ := upholds.obeyAll shallow memory ⟨nofun, nofun⟩ first occasions
  refine ⟨rests, ?_⟩
  cases leaf : history.machine.leaf with
  | super => exact absurd leaf rests
  | selection =>
    have announced := entering.selection (congrArg some leaf)
    rw [announced.noted]
    exact ⟨by simp, announced.reported⟩
  | running =>
    have announced := entering.running leaf
    rw [announced.noted]
    exact ⟨by simp, announced.reported⟩

end Mode

end Tether
