import Tether.Proofs.Camera.Shots
import Tether.Proofs.Intervalometer.Asking
import Tether.Proofs.Statechart.Traffic

/-!
# The intervalometer and the camera controller

The two machines on one broker, each with its mailbox, and a camera that may behave in any way. The
intervalometer asks for a shot whenever it enters `Capturing`, and stays there until it hears how
the capture has ended. Anybody may post any event on any topic meanwhile, and the timers and the
clock may change in any way. The mailboxes never overflow.

The intervalometer may wait for a shot that nobody will take: a camera that is not connected drops
the demand, and tells nobody (`uncovered_unconnected`). This is the first of three ways in which
demands get lost, all of which are silent (`Camera.drops`). Other than by these no shot is ever
lost: it is still to come, or in hand, or the news of its end is queued (`covered_of_record`).
-/

namespace Tether

/-- The two machines. -/
inductive Part where
  | camera
  | meter
deriving DecidableEq

/-- The topics that a machine listens to. -/
def Part.topics : Part → List Topic
  | .camera => Camera.topics
  | .meter => Intervalometer.topics

/-- The camera controller, the intervalometer, and what goes on between them. -/
structure Rig (δ : Type) where
  camera : Machine Camera.State (Camera.Memory δ)
  meter : Machine Intervalometer.State Intervalometer.Memory
  traffic : Traffic Part

namespace Rig

variable {δ : Type}

/-- Both machines before their start. -/
def new (driver : Driver δ) (memory : Camera.Memory δ) : Rig δ :=
  ⟨(Camera.chart driver).machine memory, Intervalometer.chart.machine .new,
    .new [(.camera, Camera.topics), (.meter, Intervalometer.topics)]⟩

/-- What is queued for a machine, oldest first. -/
def queue (rig : Rig δ) (part : Part) : List Event :=
  (rig.traffic.inbox part).items

/-- The turn of the camera controller that follows an order. -/
def cameraTurn (driver : Driver δ) (rig : Rig δ) (now : Nat) (order : Order) :
    Turn Camera.State (Camera.Memory δ) :=
  (Camera.chart driver).obey rig.camera rig.traffic.service.timers now order

/-- The turn of the intervalometer that follows an order. -/
def meterTurn (rig : Rig δ) (now : Nat) (order : Order) :
    Turn Intervalometer.State Intervalometer.Memory :=
  Intervalometer.chart.obey rig.meter rig.traffic.service.timers now order

/-- Takes over a turn of the camera controller. -/
def absorbCamera (rig : Rig δ) (turn : Turn Camera.State (Camera.Memory δ)) : Rig δ :=
  { rig with camera := turn.machine, traffic := rig.traffic.absorb .camera turn }

/-- Takes over a turn of the intervalometer. -/
def absorbMeter (rig : Rig δ) (turn : Turn Intervalometer.State Intervalometer.Memory) : Rig δ :=
  { rig with meter := turn.machine, traffic := rig.traffic.absorb .meter turn }

/-- Whether all that is said in a turn fits into the mailboxes. -/
def HasRoom {S M : Type} (rig : Rig δ) (sender : Part) (turn : Turn S M) : Prop :=
  Traffic.HasRoom Part.topics rig.traffic sender turn

/-- Whether the intervalometer asks the camera for a shot in a turn. -/
def asks (turn : Turn Intervalometer.State Intervalometer.Memory) : Bool :=
  decide (.capture ∈ Traffic.heard Part.topics .camera .meter turn.journal)

/-- Whether the last demand for a shot is dropped when the camera takes an event and leaves
`rest`. -/
def dropsLast (rig : Rig δ) (event : Event) (rest : Traffic Part) : Bool :=
  Camera.drops (Camera.base rig.camera) rig.camera.held event &&
    decide (.capture ∉ (rest.inbox .camera).items)

/-- What two machines can become, and whether the last demand for a shot has been dropped since the
intervalometer asked for a shot. -/
inductive Record (driver : Driver δ) (memory : Camera.Memory δ) : Rig δ → Bool → Prop where
  | initial : Record driver memory (.new driver memory) false
  | cameraStart {rig : Rig δ} {lost : Bool} (record : Record driver memory rig lost) (now : Nat)
      (room : rig.HasRoom .camera (rig.cameraTurn driver now .start)) :
      Record driver memory (rig.absorbCamera (rig.cameraTurn driver now .start)) lost
  | cameraTurn {rig : Rig δ} {lost : Bool} {event : Event} {rest : Traffic Part}
      (record : Record driver memory rig lost) (now : Nat)
      (taken : rig.traffic.take? .camera = some (event, rest))
      (room : { rig with traffic := rest }.HasRoom .camera
        (rig.cameraTurn driver now (.dispatch event))) :
      Record driver memory
        ({ rig with traffic := rest }.absorbCamera (rig.cameraTurn driver now (.dispatch event)))
        (lost || rig.dropsLast event rest)
  | meterStart {rig : Rig δ} {lost : Bool} (record : Record driver memory rig lost) (now : Nat)
      (room : rig.HasRoom .meter (rig.meterTurn now .start)) :
      Record driver memory (rig.absorbMeter (rig.meterTurn now .start)) lost
  | meterTurn {rig : Rig δ} {lost : Bool} {event : Event} {rest : Traffic Part}
      (record : Record driver memory rig lost) (now : Nat)
      (taken : rig.traffic.take? .meter = some (event, rest))
      (room : { rig with traffic := rest }.HasRoom .meter (rig.meterTurn now (.dispatch event))) :
      Record driver memory
        ({ rig with traffic := rest }.absorbMeter (rig.meterTurn now (.dispatch event)))
        (lost && !asks (rig.meterTurn now (.dispatch event)))
  | post {rig : Rig δ} {lost : Bool} (record : Record driver memory rig lost) (event : Event)
      (topic : Topic)
      (room : ∀ part : Part, topic ∈ part.topics →
        (rig.traffic.inbox part).items.length < Limits.mailbox) :
      Record driver memory { rig with traffic := rig.traffic.post event topic } lost
  | clock {rig : Rig δ} {lost : Bool} (record : Record driver memory rig lost)
      (service : TimerService) :
      Record driver memory { rig with traffic := rig.traffic.withService service } lost

/-- A demand for a shot is queued for the camera or held back there, or the camera is busy, or the
news of the end of a capture is queued for the intervalometer. -/
def Covered (rig : Rig δ) : Prop :=
  .capture ∈ rig.queue .camera ∨ .capture ∈ rig.camera.held.items ∨
    (rig.camera.leaf = .capturing ∨ rig.camera.leaf = .downloading) ∨
    (.cameraError ∈ rig.queue .meter ∨
      ∃ downloaded file, .captureDone downloaded file ∈ rig.queue .meter)

theorem covered_iff {rig : Rig δ} : rig.Covered ↔
    .capture ∈ rig.queue .camera ∨ Camera.Minds rig.camera.leaf rig.camera.held ∨
      ∃ event ∈ rig.queue .meter, event.isOutcome := by
  have busy : rig.camera.leaf = .capturing ∨ rig.camera.leaf = .downloading ↔
      rig.camera.leaf.isBusy := by
    cases rig.camera.leaf <;> decide
  have news : (.cameraError ∈ rig.queue .meter ∨
      ∃ downloaded file, .captureDone downloaded file ∈ rig.queue .meter) ↔
      ∃ event ∈ rig.queue .meter, event.isOutcome := by
    constructor
    · rintro (trouble | ⟨downloaded, file, done⟩)
      · exact ⟨_, trouble, rfl⟩
      · exact ⟨_, done, rfl⟩
    · rintro ⟨event, queued, outcome⟩
      rcases Event.isOutcome_cases outcome with rfl | ⟨downloaded, file, rfl⟩
      · exact Or.inl queued
      · exact Or.inr ⟨downloaded, file, queued⟩
  rw [Covered, busy, news, Camera.Minds, or_assoc]

/-! ## What a step keeps -/

/-- What is kept by every step. -/
structure Sound (rig : Rig δ) (lost : Bool) : Prop where
  wired : Traffic.Wired Part.topics rig.traffic
  camera : Camera.Kept rig.camera
  meter : Intervalometer.Placed rig.meter
  covered : rig.meter.leaf = .capturing → rig.Covered ∨ lost = true

section Steps

variable {driver : Driver δ} {rig : Rig δ} {lost : Bool} {rest : Traffic Part} {event : Event}

/-- The queues may change while the camera stays as it is, as long as no demand and no news are
lost. -/
theorem Covered.mono {after : Rig δ} (covered : rig.Covered) (camera : after.camera = rig.camera)
    (demand : .capture ∈ rig.queue .camera → .capture ∈ after.queue .camera)
    (news : ∀ event ∈ rig.queue .meter, event.isOutcome → event ∈ after.queue .meter) :
    after.Covered := by
  rw [covered_iff] at covered ⊢
  rcases covered with asked | minds | ⟨event, queued, outcome⟩
  · exact Or.inl (demand asked)
  · refine Or.inr (Or.inl ?_)
    rw [camera]
    exact minds
  · exact Or.inr (Or.inr ⟨event, news event queued outcome, outcome⟩)

/-- News of the end of a capture gets to the intervalometer. -/
theorem heard_of_tells {journal : List (Effect Camera.State)} (tells : Camera.Tells journal) :
    ∃ event ∈ Traffic.heard Part.topics .meter .camera journal, event.isOutcome := by
  obtain ⟨event, outcome, told⟩ := tells
  obtain ⟨effect, member, marked⟩ := List.mem_filterMap.mp told
  obtain rfl := Camera.mark?_eq_told marked
  exact ⟨event, List.mem_filterMap.mpr ⟨_, member, rfl⟩, outcome⟩

/-- A turn of the camera controller leaves a shot covered if a demand is still queued, the news of
its end is, or the controller sees to that. -/
theorem covered_absorbCamera {turn : Turn Camera.State (Camera.Memory δ)}
    (wired : Traffic.Wired Part.topics rig.traffic) (room : rig.HasRoom .camera turn)
    (covered : .capture ∈ rig.queue .camera ∨
      (∃ event ∈ rig.queue .meter, event.isOutcome) ∨
      Camera.Minds turn.machine.leaf turn.machine.held ∨ Camera.Tells turn.journal) :
    (rig.absorbCamera turn).Covered := by
  have filled (part : Part) : (rig.absorbCamera turn).queue part =
      rig.queue part ++ Traffic.heard Part.topics part .camera turn.journal :=
    Traffic.items_absorb wired room part
  rw [covered_iff]
  rcases covered with asked | ⟨news, queued, outcome⟩ | minds | tells
  · refine Or.inl ?_
    rw [filled]
    exact List.mem_append_left _ asked
  · refine Or.inr (Or.inr ⟨news, ?_, outcome⟩)
    rw [filled]
    exact List.mem_append_left _ queued
  · exact Or.inr (Or.inl minds)
  · obtain ⟨news, heard, outcome⟩ := heard_of_tells tells
    refine Or.inr (Or.inr ⟨news, ?_, outcome⟩)
    rw [filled]
    exact List.mem_append_right _ heard

theorem covered_absorbMeter {turn : Turn Intervalometer.State Intervalometer.Memory}
    (wired : Traffic.Wired Part.topics rig.traffic) (room : rig.HasRoom .meter turn)
    (covered : rig.Covered ∨ asks turn = true) : (rig.absorbMeter turn).Covered := by
  have filled (part : Part) : (rig.absorbMeter turn).queue part =
      rig.queue part ++ Traffic.heard Part.topics part .meter turn.journal :=
    Traffic.items_absorb wired room part
  rcases covered with covered | asked
  · refine covered.mono rfl (fun demand => ?_) fun event queued _ => ?_
    · rw [filled]
      exact List.mem_append_left _ demand
    · rw [filled]
      exact List.mem_append_left _ queued
  · refine Or.inl ?_
    rw [filled]
    exact List.mem_append_right _ (of_decide_eq_true asked)

theorem Sound.cameraStart (sound : Sound rig lost) (now : Nat)
    (room : rig.HasRoom .camera (rig.cameraTurn driver now .start)) :
    Sound (rig.absorbCamera (rig.cameraTurn driver now .start)) lost := by
  obtain ⟨run, turn, kept, based, held⟩ :=
    Camera.obey_keeps sound.camera driver rig.traffic.service.timers now .start
  have turn : rig.cameraTurn driver now .start = Machine.turn run := turn
  rw [turn] at room ⊢
  refine ⟨sound.wired.absorb .camera _, kept, sound.meter, fun here => ?_⟩
  refine (sound.covered here).imp_left fun covered => covered_absorbCamera sound.wired room ?_
  rcases covered_iff.mp covered with asked | minds | news
  · exact Or.inl asked
  · refine Or.inr (Or.inr (Or.inl ?_))
    show Camera.Minds run.1 run.2.held
    rw [based, held]
    exact Camera.minds_base sound.camera minds
  · exact Or.inr (Or.inl news)

theorem Sound.cameraTurn (sound : Sound rig lost) (now : Nat)
    (taken : rig.traffic.take? .camera = some (event, rest))
    (room : { rig with traffic := rest }.HasRoom .camera
      (rig.cameraTurn driver now (.dispatch event))) :
    Sound ({ rig with traffic := rest }.absorbCamera (rig.cameraTurn driver now (.dispatch event)))
      (lost || rig.dropsLast event rest) := by
  obtain ⟨first, others, wiring⟩ := Traffic.of_take? taken
  obtain ⟨run, turn, kept, minded⟩ :=
    Camera.obey_keeps sound.camera driver rig.traffic.service.timers now (.dispatch event)
  have turn : rig.cameraTurn driver now (.dispatch event) = Machine.turn run := turn
  rw [turn] at room ⊢
  refine ⟨(wiring sound.wired).absorb .camera _, kept, sound.meter, fun here => ?_⟩
  cases gone : lost || rig.dropsLast event rest with
  | true => exact Or.inr rfl
  | false =>
    obtain ⟨unlost, safe⟩ := Bool.or_eq_false_iff.mp gone
    left
    apply covered_absorbCamera (wiring sound.wired) room
    by_cases later : .capture ∈ (rest.inbox .camera).items
    · exact Or.inl later
    right
    have safe : Camera.drops (Camera.base rig.camera) rig.camera.held event = false :=
      (Bool.and_eq_false_iff.mp safe).resolve_right (by simpa using later)
    have covered := (sound.covered here).resolve_right (by rw [unlost]; exact Bool.false_ne_true)
    rcases covered_iff.mp covered with asked | minds | ⟨news, queued, outcome⟩
    · rw [queue, first] at asked
      have capture := (List.mem_cons.mp asked).resolve_right later
      exact Or.inr (minded (Or.inr capture.symm) safe)
    · exact Or.inr (minded (Or.inl (Camera.minds_base sound.camera minds)) safe)
    · refine Or.inl ⟨news, ?_, outcome⟩
      rw [queue, others .meter (by decide)]
      exact queued

/-- The demands of the intervalometer are heard by the camera controller. -/
theorem asks_of_posted {turn : Turn Intervalometer.State Intervalometer.Memory}
    (posted : .posted .capture .cameraCmd ∈ turn.journal) : asks turn = true :=
  decide_eq_true (List.mem_filterMap.mpr ⟨_, posted, rfl⟩)

theorem Sound.meterStart (sound : Sound rig lost) (now : Nat)
    (room : rig.HasRoom .meter (rig.meterTurn now .start)) :
    Sound (rig.absorbMeter (rig.meterTurn now .start)) lost := by
  obtain ⟨placed, -⟩ :=
    Intervalometer.turn_told sound.meter rig.traffic.service.timers now .start
  refine ⟨sound.wired.absorb .meter _, sound.camera, placed, fun here => ?_⟩
  rcases Intervalometer.asks_or_waits sound.meter rig.traffic.service.timers now .start here with
    posted | ⟨waiting, -⟩
  · exact Or.inl (covered_absorbMeter sound.wired room (Or.inr (asks_of_posted posted)))
  · exact (sound.covered waiting).imp_left fun covered =>
      covered_absorbMeter sound.wired room (Or.inl covered)

theorem Sound.meterTurn (sound : Sound rig lost) (now : Nat)
    (taken : rig.traffic.take? .meter = some (event, rest))
    (room : { rig with traffic := rest }.HasRoom .meter (rig.meterTurn now (.dispatch event))) :
    Sound ({ rig with traffic := rest }.absorbMeter (rig.meterTurn now (.dispatch event)))
      (lost && !asks (rig.meterTurn now (.dispatch event))) := by
  obtain ⟨first, others, wiring⟩ := Traffic.of_take? taken
  obtain ⟨placed, -⟩ :=
    Intervalometer.turn_told sound.meter rig.traffic.service.timers now (.dispatch event)
  refine ⟨(wiring sound.wired).absorb .meter _, sound.camera, placed, fun here => ?_⟩
  cases asked : asks (rig.meterTurn now (.dispatch event)) with
  | true => exact Or.inl (covered_absorbMeter (wiring sound.wired) room (Or.inr asked))
  | false =>
    -- The sequence has gone on waiting, so the event was not the end of a capture.
    obtain ⟨waiting, noOutcome⟩ :=
      (Intervalometer.asks_or_waits sound.meter _ now (.dispatch event) here).resolve_left
        fun posted => by rw [Rig.meterTurn, asks_of_posted posted] at asked; cases asked
    refine (sound.covered waiting).imp (fun covered => ?_) fun lost => by rw [lost]; rfl
    refine covered_absorbMeter (wiring sound.wired) room (Or.inl (covered.mono rfl ?_ ?_))
    · intro demand
      rw [queue, others .camera (by decide)]
      exact demand
    · intro news queued outcome
      rw [queue, first] at queued
      refine (List.mem_cons.mp queued).resolve_left ?_
      rintro rfl
      rcases Event.isOutcome_cases outcome with trouble | ⟨downloaded, file, done⟩
      · exact (noOutcome _ rfl).trouble trouble
      · exact (noOutcome _ rfl).done downloaded file done

theorem Sound.post (sound : Sound rig lost) (event : Event) (topic : Topic)
    (room : ∀ part : Part, topic ∈ part.topics →
      (rig.traffic.inbox part).items.length < Limits.mailbox) :
    Sound { rig with traffic := rig.traffic.post event topic } lost := by
  refine ⟨sound.wired.post event topic, sound.camera, sound.meter, fun here => ?_⟩
  refine (sound.covered here).imp_left fun covered =>
    covered.mono rfl (fun demand => ?_) fun news queued _ => ?_
  · rw [queue, Traffic.items_post sound.wired event topic room]
    exact List.mem_append_left _ demand
  · rw [queue, Traffic.items_post sound.wired event topic room]
    exact List.mem_append_left _ queued

theorem wired_new : Traffic.Wired Part.topics
    (.new [(.camera, Camera.topics), (.meter, Intervalometer.topics)]) where
  nodup topic := by cases topic <;> decide
  listens topic part := by cases topic <;> cases part <;> decide

theorem sound_new (driver : Driver δ) (memory : Camera.Memory δ) :
    Sound (new driver memory) false where
  wired := wired_new
  camera := ⟨nofun, nofun, fun _ => ⟨rfl, rfl, rfl⟩⟩
  meter := ⟨rfl, fun _ => rfl, nofun, Or.inl rfl⟩
  covered := nofun

theorem Record.sound {memory : Camera.Memory δ} (record : Record driver memory rig lost) :
    Sound rig lost := by
  induction record with
  | initial => exact sound_new driver memory
  | cameraStart record now room ih => exact ih.cameraStart now room
  | cameraTurn record now taken room ih => exact ih.cameraTurn now taken room
  | meterStart record now room ih => exact ih.meterStart now room
  | meterTurn record now taken room ih => exact ih.meterTurn now taken room
  | post record event topic room ih => exact ih.post event topic room
  | clock record service ih =>
    exact ⟨ih.wired.of_subscriptions rfl, ih.camera, ih.meter, fun here => ih.covered here⟩

/-- While the intervalometer is in `Capturing`, a shot is still to come, or the camera has it in
hand, or the news of its end is queued, unless the camera has dropped the last demand for a shot
since the intervalometer asked for one. -/
theorem covered_of_record {memory : Camera.Memory δ} (record : Record driver memory rig lost)
    (capturing : rig.meter.leaf = .capturing) : rig.Covered ∨ lost = true :=
  record.sound.covered capturing

end Steps

/-! ## Runs -/

/-- A sequence begins while the camera is ready, which takes the demand. -/
theorem covered_of_record_busy :
    ∃ rig lost, Record Camera.plainCamera (.new () ⟨"", false, 0, 0, 0⟩) rig lost ∧
      lost = false ∧ rig.meter.leaf = .capturing ∧ rig.camera.leaf = .capturing ∧
      (rig.Covered ∨ lost = true) := by
  have begun : Record Camera.plainCamera (.new () ⟨"", false, 0, 0, 0⟩) _ _ :=
    .post (.post .initial (.intervalometerStart 60000 0) .modeFsm fun part => by
      cases part <;> decide) .connect .cameraCmd fun part => by cases part <;> decide
  have ready : Record _ _ _ _ :=
    begun.cameraTurn 0 rfl fun part => by cases part <;> decide +kernel
  have asked : Record _ _ _ _ :=
    ready.meterTurn 0 rfl fun part => by cases part <;> decide +kernel
  have busy : Record _ _ _ _ :=
    asked.cameraTurn 0 rfl fun part => by cases part <;> decide +kernel
  exact ⟨_, _, busy, by decide +kernel, rfl, rfl, covered_of_record busy rfl⟩

/-- A sequence begins while the camera is not connected. The camera drops the demand, and the
intervalometer waits for a shot that nobody will take. -/
theorem uncovered_unconnected :
    ∃ rig lost, Record Camera.plainCamera (.new () ⟨"", false, 0, 0, 0⟩) rig lost ∧
      rig.meter.leaf = .capturing ∧ ¬ rig.Covered := by
  have begun : Record Camera.plainCamera (.new () ⟨"", false, 0, 0, 0⟩) _ _ :=
    .post .initial (.intervalometerStart 60000 0) .modeFsm fun part => by cases part <;> decide
  have asked : Record _ _ _ _ :=
    begun.meterTurn 0 rfl fun part => by cases part <;> decide +kernel
  have dropped : Record _ _ _ _ :=
    asked.cameraTurn 0 rfl fun part => by cases part <;> decide +kernel
  refine ⟨_, _, dropped, rfl, ?_⟩
  rw [covered_iff]
  decide +kernel

/-- The session is ended before the step in which the shot would be taken, and the intervalometer
waits for it just as well. -/
theorem uncovered_hungUp :
    ∃ rig lost, Record Camera.plainCamera (.new () ⟨"", false, 0, 0, 0⟩) rig lost ∧
      rig.meter.leaf = .capturing ∧ ¬ rig.Covered := by
  have begun : Record Camera.plainCamera (.new () ⟨"", false, 0, 0, 0⟩) _ _ :=
    .post (.post .initial (.intervalometerStart 60000 0) .modeFsm fun part => by
      cases part <;> decide) .connect .cameraCmd fun part => by cases part <;> decide
  have ready : Record _ _ _ _ :=
    begun.cameraTurn 0 rfl fun part => by cases part <;> decide +kernel
  have asked : Record _ _ _ _ :=
    (ready.meterTurn 0 rfl fun part => by cases part <;> decide +kernel).post .disconnect .cameraCmd
      fun part => by cases part <;> decide +kernel
  have busy : Record _ _ _ _ :=
    asked.cameraTurn 0 rfl fun part => by cases part <;> decide +kernel
  have ended : Record _ _ _ _ :=
    busy.cameraTurn 0 rfl fun part => by cases part <;> decide +kernel
  refine ⟨_, _, ended, rfl, ?_⟩
  rw [covered_iff]
  decide +kernel

end Rig

end Tether
