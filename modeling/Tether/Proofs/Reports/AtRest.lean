import Tether.Proofs.Reports.Camera
import Tether.Proofs.Reports.Intervalometer
import Tether.Proofs.Reports.Mode

/-!
# Reports at rest

Nobody who listens to the reports is left with an old one (`reports_current`). The three machines
report at different times: the camera controller and the intervalometer when they enter a state, the
mode controller when the mode is set. But each of them comes to rest with its last report being the
one that it would make now.
-/

namespace Tether

/-- Whatever the camera answers and whatever events are dispatched, with all the held events that
are dispatched again meanwhile: no machine comes to rest in a state with an initial transition, and
the last report of each machine is that of its current state. -/
theorem reports_current {δ : Type} (driver : Driver δ) (device : δ) (settings : Camera.Settings)
    (heartbeat : Nat) (first : Occasion) (occasions : List Occasion) :
    (let camera := History.obeyAll (Camera.chart driver)
        (.new (Camera.chart driver) (.new device settings)) (first :: occasions)
     (camera.machine.leaf ≠ .super ∧ camera.machine.leaf ≠ .connected) ∧
       latest Camera.report? camera.journal =
         some (.cameraState camera.machine.leaf.label camera.machine.memory.connected
           camera.machine.memory.download)) ∧
    (let meter := History.obeyAll Intervalometer.chart (.new Intervalometer.chart .new)
        (first :: occasions)
     (meter.machine.leaf ≠ .super ∧ meter.machine.leaf ≠ .running) ∧
       latest Intervalometer.report? meter.journal =
         some (.intervalometerState meter.machine.leaf.label meter.machine.memory.interval
           meter.machine.memory.captures meter.machine.memory.total)) ∧
    (let mode := History.obeyAll Mode.chart (.new Mode.chart (.new heartbeat)) (first :: occasions)
     mode.machine.leaf ≠ .super ∧
       (mode.machine.memory.control = .intervalometer ↔ mode.machine.leaf = .running) ∧
       latest Mode.report? mode.journal =
         some (.modeValue mode.machine.memory.control.name)) := by
  refine ⟨?_, Intervalometer.reported_at_rest _ first occasions,
    Mode.reported_at_rest _ first occasions⟩
  intro camera
  obtain ⟨rests, reported⟩ :=
    Camera.reported_at_rest driver (.new device settings) first occasions
  refine ⟨⟨?_, ?_⟩, reported⟩
  · intro equal
    rw [equal] at rests
    cases rests
  · intro equal
    rw [equal] at rests
    cases rests

end Tether
