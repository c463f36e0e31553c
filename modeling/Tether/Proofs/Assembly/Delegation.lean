import Tether.Proofs.Assembly.Silence
import Tether.Proofs.Camera.Shots
import Tether.Proofs.Gate.Passing
import Tether.Proofs.Statechart.Delegation

/-!
# Events that no machine answers

In each of the four machines it is the event alone that decides whether a state delegates it, and a
state that does has done nothing before. So an event that no state answers leaves no trace of the
dispatch but the asking itself, in whatever state a machine has come to (`unhandled_traceless`).
-/

namespace Tether

/-! ## Who delegates -/

theorem Mode.decided : Mode.chart.Decided := by
  intro state event
  cases state <;> cases event
  all_goals first
    | exact .inl fun _ => rfl
    | exact .inr fun _ => nofun

theorem Intervalometer.decided : Intervalometer.chart.Decided := by
  intro state event
  cases state <;> cases event
  all_goals first
    | exact .inl fun _ => rfl
    | exact .inr fun _ => nofun

/-- The gate answers everything itself. -/
theorem Gate.decided : Gate.chart.Decided := by
  intro state event
  cases state <;> cases event
  all_goals exact .inr fun _ => nofun

namespace Camera

variable {δ : Type} (driver : Driver δ)

theorem connect_ne_delegate (scope : Scope State (Memory δ)) (onFailure : State) :
    (connect driver scope onFailure).2 ≠ .delegate := by
  rcases connect_transition driver scope onFailure with opened | failed
  · rw [opened]; nofun
  · rw [failed]; nofun

theorem takePicture_ne_delegate (scope : Scope State (Memory δ)) :
    (takePicture driver scope).2 ≠ .delegate := by
  obtain ⟨target, leads⟩ := takePicture_transition driver scope
  rw [leads]
  nofun

theorem fetchPicture_ne_delegate (scope : Scope State (Memory δ)) (source : CameraPath) :
    (fetchPicture driver scope source).2 ≠ .delegate := by
  obtain ⟨target, leads⟩ := fetchPicture_transition driver scope source
  rw [leads]
  nofun

theorem answer_ne_delegate (scope : Scope State (Memory δ)) (request : Request) :
    (answer driver scope request).2 ≠ .delegate := by
  unfold answer
  split <;> nofun

/-- The download is over, or there was none to do. -/
theorem downloadStep_ne_delegate (scope : Scope State (Memory δ)) :
    (downloading driver scope (.event .downloadStep)).2 ≠ .delegate := by
  unfold downloading
  dsimp only
  split
  · nofun
  · exact fetchPicture_ne_delegate driver _ _

/-- A camera that is ready answers requests and captures. -/
theorem ready_decided (event : Event) :
    (chart driver).Delegates .ready event ∨ (chart driver).Answers .ready event := by
  cases event
  case capture => exact .inr fun _ => nofun
  all_goals first
    | exact .inl fun _ => rfl
    | exact .inr fun scope => answer_ne_delegate driver scope _

/-- What a call to the device comes to decides where a state leads, but not whether it answers. -/
theorem decided : (chart driver).Decided := by
  intro state event
  cases state
  case ready => exact ready_decided driver event
  all_goals cases event
  case disconnected.connect | connectionError.connect =>
    exact .inr fun scope => connect_ne_delegate driver scope _
  case error.connect | error.recover => exact .inr fun scope => connect_ne_delegate driver _ _
  case capturing.captureStep => exact .inr fun scope => takePicture_ne_delegate driver scope
  case downloading.downloadStep => exact .inr fun scope => downloadStep_ne_delegate driver scope
  all_goals first
    | exact .inl fun _ => rfl
    | exact .inr fun _ => nofun

end Camera

/-! ## Machines at rest -/

theorem Camera.idles {δ : Type} {driver : Driver δ} {machine : Machine State (Memory δ)}
    (kept : Kept machine) : (chart driver).Idles machine := by
  intro timers now
  obtain ⟨-, -, -, settled⟩ := startRun_keeps kept driver timers now
  exact settled.replay

theorem Gate.idles {course : Course} {history : History State Memory}
    (agrees : Agrees course history) : chart.Idles history.machine :=
  fun timers now => (agrees.started timers now).replay

theorem Mode.idles {machine : Machine State Memory} (placed : Placed machine) :
    chart.Idles machine :=
  fun timers now => (startRun_eq placed timers now).1.replay.trans placed.replay

theorem Intervalometer.idles {machine : Machine State Memory} (placed : Placed machine) :
    chart.Idles machine :=
  fun timers now => (startRun_eq placed timers now).1.tells.replay.trans placed.replay

theorem Mode.placed_obeyAll (memory : Memory) (occasions : List Occasion) :
    Placed (History.obeyAll chart (.new chart memory) occasions).machine :=
  List.foldlRecOn (motive := fun later : History State Memory => Placed later.machine) occasions
    (History.obey chart) ⟨rfl, fun _ => rfl, nofun⟩
    fun _ placed occasion _ => (turn_eq placed occasion.timers occasion.now occasion.order).1

theorem Intervalometer.placed_obeyAll (occasions : List Occasion) :
    Placed (History.obeyAll chart (.new chart .new) occasions).machine :=
  List.foldlRecOn (motive := fun later : History State Memory => Placed later.machine) occasions
    (History.obey chart) ⟨rfl, fun _ => rfl, nofun, .inl rfl⟩
    fun _ placed occasion _ => (turn_told placed occasion.timers occasion.now occasion.order).1

/-! ## The four machines -/

/-- Whatever the four machines have been through, an event is passed from the current state upwards
to the first state that answers it; if there is none, nothing has happened. -/
theorem unhandled_traceless :
    (∀ {δ : Type} (driver : Driver δ) (memory : Camera.Memory δ),
      (Camera.chart driver).TracelessFrom memory) ∧
    (∀ heartbeat, Mode.chart.TracelessFrom (.new heartbeat)) ∧
    Intervalometer.chart.TracelessFrom .new ∧
    Gate.chart.TracelessFrom () := by
  refine ⟨fun driver memory occasions => ?_, fun heartbeat occasions => ?_,
    fun occasions => ?_, fun occasions => ?_⟩
  · have kept := Camera.kept_obeyAll (Camera.kept_new driver memory) driver occasions
    exact Chart.traceless (Camera.shallow driver) (Camera.decided driver) (Camera.idles kept)
  · have placed := Mode.placed_obeyAll (.new heartbeat) occasions
    exact Chart.traceless Mode.shallow Mode.decided (Mode.idles placed)
  · have placed := Intervalometer.placed_obeyAll occasions
    have idles := Intervalometer.idles placed
    exact Chart.traceless Intervalometer.shallow Intervalometer.decided idles
  · have agrees := Gate.agrees_obeyAll occasions Gate.agrees_new
    exact Chart.traceless Gate.shallow Gate.decided (Gate.idles agrees)

/-- A mode controller that has been started is told of trouble with the camera, which it does not
mind. -/
theorem unhandled_traceless_cameraError :
    let history := History.obeyAll Mode.chart (.new Mode.chart (.new 1000))
      [⟨.start, .empty, 0⟩]
    (∀ state ∈ Mode.chart.chain history.machine.leaf,
      Mode.chart.Delegates state .cameraError) ∧
      Mode.chart.dispatch history.machine .cameraError .empty 0 =
        ⟨history.machine, .empty,
          [.asked .selection .selection (.event .cameraError),
            .asked .selection .super (.event .cameraError), .warned .unhandled]⟩ := by
  intro history
  have unheard : ∀ state ∈ Mode.chart.chain history.machine.leaf,
      Mode.chart.Delegates state .cameraError := by
    intro state member
    obtain rfl | rfl := Mode.mem_chain member <;> exact fun _ => rfl
  have traceless : Mode.chart.Traceless history.machine := unhandled_traceless.2.1 1000 _
  have whole := (traceless.consults .cameraError .empty 0).unheard
  exact ⟨unheard, whole _ (traceless.begins rfl _ _) unheard⟩

end Tether
