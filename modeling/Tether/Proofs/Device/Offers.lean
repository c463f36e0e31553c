import Tether.Device.Simulated

/-!
# A simulated camera reports what it offers

Calls may come in any order, with any arguments, and some of them fail. Whatever came before, the
settings of the camera are among its choices, its charge is a percentage that never rises, and its
next picture has a four-digit number (`Sound`). A setter snaps to a choice because the nearest of
some choices is one of them (`nearest_mem`); only taking a picture wears the battery down; and only
opening and closing a session changes whether one is open (`Call.leavesOpen`).

`driver_serves` is the step, one case for every call; `serves_after` is the run. What a client sees
of it are the answers of a connected camera (`Reports`) and the refusals of one without a session
(`Refuses`).
-/

namespace Tether

/-- Whether a session is open after a call, given whether one was open before. -/
def Call.leavesOpen (wasOpen : Bool) : Call → Bool
  | .connect => true
  | .disconnect => false
  | _ => wasOpen

namespace Simulated

/-- The camera after some calls. -/
def after (lateness : Nat → Nat) (camera : Simulated) (calls : List Call) : Simulated :=
  calls.foldl (fun camera call => ((driver lateness).perform call camera).2) camera

/-- What holds of a simulated camera at all times. -/
structure Sound (camera : Simulated) : Prop where
  shutterSpeed : camera.shutterSpeed ∈ shutterChoices
  aperture : camera.aperture ∈ apertureChoices
  iso : camera.iso ∈ isoChoices
  focusMode : camera.focusMode < focusModes.length
  captureTarget : camera.captureTarget = "Internal RAM" ∨ camera.captureTarget = "Memory card"
  battery_nonneg : 0 ≤ camera.battery
  battery_le : camera.battery ≤ 100
  nextFile_pos : 1 ≤ camera.nextFile
  nextFile_le : camera.nextFile ≤ 9999

theorem sound_new (storage : Storage) (bulbDuration : Nat) : Sound (new storage bulbDuration) := by
  constructor <;> simp only [new] <;> decide

/-- From one camera to another the session and the soundness are kept, and the battery does not
rise. -/
structure Serves (before after : Simulated) : Prop where
  connected : after.connected = before.connected
  sound : Sound before → Sound after
  battery_le : Sound before → after.battery ≤ before.battery

namespace Serves

variable {before middle after : Simulated}

theorem refl (camera : Simulated) : Serves camera camera :=
  ⟨rfl, id, fun _ => Int32.le_refl _⟩

theorem trans (first : Serves before middle) (second : Serves middle after) :
    Serves before after where
  connected := second.connected.trans first.connected
  sound start := second.sound (first.sound start)
  battery_le start :=
    Int32.le_trans (second.battery_le (first.sound start)) (first.battery_le start)

/-- Whether the session is open makes no difference to the rest. -/
theorem withSession (isOpen : Bool) (served : Serves before after) :
    Serves { before with connected := isOpen } { after with connected := isOpen } where
  connected := rfl
  sound start := { served.sound { start with } with }
  battery_le start := served.battery_le { start with }

/-- A change that keeps the charge has only the soundness to keep. -/
theorem of_battery_eq (session : after.connected = before.connected)
    (charge : after.battery = before.battery) (kept : Sound before → Sound after) :
    Serves before after where
  connected := session
  sound := kept
  battery_le _ := by
    rw [charge]
    exact Int32.le_refl _

theorem shutterSpeed {choice : Int32} (offered : choice ∈ shutterChoices) (camera : Simulated) :
    Serves camera { camera with shutterSpeed := choice } :=
  .of_battery_eq rfl rfl fun sound => { sound with shutterSpeed := offered }

theorem aperture {choice : Int32} (offered : choice ∈ apertureChoices) (camera : Simulated) :
    Serves camera { camera with aperture := choice } :=
  .of_battery_eq rfl rfl fun sound => { sound with aperture := offered }

theorem iso {choice : Int32} (offered : choice ∈ isoChoices) (camera : Simulated) :
    Serves camera { camera with iso := choice } :=
  .of_battery_eq rfl rfl fun sound => { sound with iso := offered }

theorem focusMode {mode : Nat} (offered : mode < focusModes.length) (camera : Simulated) :
    Serves camera { camera with focusMode := mode } :=
  .of_battery_eq rfl rfl fun sound => { sound with focusMode := offered }

/-- Only what is no matter of soundness has changed. -/
theorem of_aside (sessions bulbDuration : Nat) (autoIso longExposureNr vibrationReduction : Bool)
    (notices : List (Nat × Notice)) (clock waits : Nat) (storage : Storage)
    (camera : Simulated) :
    Serves camera { camera with
      sessions, bulbDuration, autoIso, longExposureNr, vibrationReduction, notices, clock, waits,
      storage } :=
  .of_battery_eq rfl rfl fun sound => { sound with }

end Serves

/-! ## Setting a value -/

theorem foldl_nearer_mem (value : Int32) (choices : List Int32) (best : Int32) :
    choices.foldl (nearer value) best ∈ best :: choices := by
  induction choices generalizing best with
  | nil => exact List.mem_singleton_self best
  | cons choice rest ih =>
      have better : nearer value best choice = best ∨ nearer value best choice = choice := by
        unfold nearer
        split
        · exact .inr rfl
        · exact .inl rfl
      have found := ih (nearer value best choice)
      simp only [List.foldl_cons, List.mem_cons] at found ⊢
      grind

theorem nearest_mem {choices : List Int32} (offered : choices ≠ []) (value : Int32) :
    nearest choices value ∈ choices := by
  cases choices with
  | nil => exact absurd rfl offered
  | cons first rest => exact foldl_nearer_mem value rest first

theorem bulb_mem : bulb ∈ shutterChoices := by
  decide

/-- Bulb is never the nearest choice: it is not a time. -/
theorem nearest_timed_mem (microseconds : Int32) :
    nearest timedChoices microseconds ∈ shutterChoices := by
  have timed : nearest timedChoices microseconds ∈ timedChoices :=
    nearest_mem (by decide) microseconds
  unfold timedChoices at timed
  exact (List.mem_filter.mp timed).1

theorem chooseShutter_serves (camera : Simulated) (microseconds : Int32) :
    Serves camera (camera.chooseShutter microseconds) := by
  unfold chooseShutter
  split
  · exact .shutterSpeed bulb_mem camera
  · split
    · exact (Serves.shutterSpeed bulb_mem camera).trans (.of_aside ..)
    · exact .shutterSpeed (nearest_timed_mem microseconds) camera

theorem chooseTarget_serves (camera : Simulated) (target : String) :
    Serves camera (camera.chooseTarget target).2 := by
  unfold chooseTarget
  split
  · next offered =>
      exact .of_battery_eq rfl rfl fun sound => { sound with captureTarget := offered }
  · exact .refl camera

/-! ## Taking a picture -/

/-- The charge after one more step of wear: it stops at nothing. -/
theorem wear_down {charge : Int32} (nonneg : 0 ≤ charge) :
    0 ≤ (if charge ≤ 0 then 0 else charge - 1) ∧
      (if charge ≤ 0 then 0 else charge - 1) ≤ charge := by
  split
  · exact ⟨by decide, nonneg⟩
  · next left =>
      have low : (-2 ^ 31 : Int) ≤ charge.toInt := Int32.le_toInt charge
      have high : charge.toInt < 2 ^ 31 := Int32.toInt_lt charge
      simp only [Int32.le_iff_toInt_le, Int32.toInt_sub, Int32.toInt_zero, Int32.toInt_one]
        at left ⊢
      have exact : (charge.toInt - 1).bmod (2 ^ 32) = charge.toInt - 1 := by
        apply Int.bmod_eq_of_le <;> omega
      omega

/-- Every fiftieth number costs a step of charge. -/
theorem allocateFile_battery {camera : Simulated} (nonneg : 0 ≤ camera.battery) :
    0 ≤ camera.allocateFile.2.battery ∧ camera.allocateFile.2.battery ≤ camera.battery := by
  unfold allocateFile
  dsimp only
  generalize (if 9999 ≤ camera.nextFile then 1 else camera.nextFile + 1) = number
  split
  · exact wear_down nonneg
  · exact ⟨nonneg, Int32.le_refl _⟩

theorem allocateFile_nextFile (camera : Simulated) :
    1 ≤ camera.allocateFile.2.nextFile ∧ camera.allocateFile.2.nextFile ≤ 9999 := by
  unfold allocateFile
  dsimp only
  split <;> omega

theorem allocateFile_serves (camera : Simulated) : Serves camera camera.allocateFile.2 where
  connected := rfl
  sound start :=
    { start with
      battery_nonneg := (allocateFile_battery start.battery_nonneg).1
      battery_le := Int32.le_trans (allocateFile_battery start.battery_nonneg).2 start.battery_le
      nextFile_pos := (allocateFile_nextFile camera).1
      nextFile_le := (allocateFile_nextFile camera).2 }
  battery_le start := (allocateFile_battery start.battery_nonneg).2

theorem wait_serves (lateness : Nat → Nat) (camera : Simulated) (duration : Nat) :
    Serves camera (camera.wait lateness duration) :=
  .of_aside ..

theorem closeShutter_serves (camera : Simulated) : Serves camera camera.closeShutter :=
  (allocateFile_serves camera).trans (.of_aside ..)

theorem awaitNotice_serves (lateness : Nat → Nat) (camera : Simulated) (limit : Nat) :
    Serves camera (camera.awaitNotice lateness limit).2 := by
  unfold awaitNotice
  split
  · exact .refl camera
  · dsimp only
    split
    · exact wait_serves lateness camera limit
    · exact .of_aside ..

theorem pollForFile_serves (lateness : Nat → Nat) (deadline : Nat) (failure : Fault) (polls : Nat)
    (complete : Bool) (camera : Simulated) :
    Serves camera (pollForFile lateness deadline failure polls complete camera).2 := by
  induction polls generalizing complete camera with
  | zero => exact .refl camera
  | succ polls ih =>
      unfold pollForFile
      dsimp only
      split
      · exact .refl camera
      · have polled := awaitNotice_serves lateness camera
          (min (deadline - camera.clock) pollInterval)
        split
        · next answer =>
            rw [answer] at polled
            exact polled.trans (ih ..)
        · next path later answer =>
            rw [answer] at polled
            split
            · exact polled
            · have pushed : Serves later
                  { later with notices := (later.clock, .fileAdded path) :: later.notices } :=
                .of_aside ..
              exact (polled.trans pushed).trans (ih ..)
        · next answer =>
            rw [answer] at polled
            exact polled.trans (ih ..)

theorem bulbCapture_serves (lateness : Nat → Nat) (camera : Simulated) :
    Serves camera (camera.bulbCapture lateness).2 :=
  ((wait_serves lateness camera _).trans (closeShutter_serves _)).trans (pollForFile_serves ..)

theorem capture_serves (lateness : Nat → Nat) (camera : Simulated) :
    Serves camera (camera.capture lateness).2 := by
  unfold capture
  split
  · exact bulbCapture_serves lateness camera
  · exact (wait_serves lateness camera _).trans (allocateFile_serves _)

theorem download_serves (camera : Simulated) (source : CameraPath) (destination : String) :
    Serves camera (camera.download source destination).2 := by
  unfold download
  dsimp only
  split
  · exact .of_aside ..
  · exact .refl camera

/-! ## A call and a run -/

/-- A call opens or closes the session as it says and keeps everything else in order. -/
theorem perform_serves (lateness : Nat → Nat) (call : Call) (camera : Simulated) :
    Serves { camera with connected := call.leavesOpen camera.connected }
      (perform lateness call camera).2 := by
  cases call with
  | capture => exact capture_serves lateness camera
  | download source destination => exact download_serves camera source destination
  | setShutterSpeed microseconds => exact chooseShutter_serves camera microseconds
  | setCaptureTarget target => exact chooseTarget_serves camera target
  | setAperture value => exact .aperture (nearest_mem (by decide) value) camera
  | setIso value => exact .iso (nearest_mem (by decide) value) camera
  | nextFocusMode => exact .focusMode (Nat.mod_lt _ (by decide)) camera
  | connect | disconnect | setAutoIso | setLongExposureNr | setVibrationReduction =>
      exact .of_aside ..
  | _ => exact .refl camera

/-- A call that is made without a session is refused, and nothing changes. -/
theorem driver_disconnected (lateness : Nat → Nat) {call : Call} {camera : Simulated}
    (closed : camera.connected = false) (needs : needsSession call = true) :
    (driver lateness).perform call camera = (.error .notConnected, camera) := by
  simp [driver, closed, needs]

theorem driver_connected (lateness : Nat → Nat) (call : Call) {camera : Simulated}
    (connected : camera.connected = true) :
    (driver lateness).perform call camera = perform lateness call camera := by
  simp [driver, connected]

theorem leavesOpen_of_needsSession {call : Call} (needs : needsSession call = true)
    (wasOpen : Bool) : call.leavesOpen wasOpen = wasOpen := by
  cases call <;> first | rfl | contradiction

theorem driver_serves (lateness : Nat → Nat) (call : Call) (camera : Simulated) :
    Serves { camera with connected := call.leavesOpen camera.connected }
      ((driver lateness).perform call camera).2 := by
  unfold driver
  dsimp only
  split
  · next refused =>
      have needs : needsSession call = true := (Bool.and_eq_true_iff.mp refused).1
      rw [leavesOpen_of_needsSession needs]
      exact .refl camera
  · exact perform_serves lateness call camera

theorem serves_after (lateness : Nat → Nat) (calls : List Call) (camera : Simulated) :
    Serves { camera with connected := calls.foldl Call.leavesOpen camera.connected }
      (after lateness camera calls) := by
  induction calls generalizing camera with
  | nil => exact .refl camera
  | cons call rest ih =>
      have head := driver_serves lateness call camera
      have tail := ih ((driver lateness).perform call camera).2
      rw [head.connected] at tail
      exact (head.withSession _).trans tail

/-! ## What a client sees -/

/-- The answers of a camera are among its choices, and asking changes nothing. -/
structure Reports (lateness : Nat → Nat) (camera : Simulated) : Prop where
  shutterSpeed : ∃ speed choices,
    (driver lateness).perform .shutterSpeed camera = (.ok speed, camera) ∧
    (driver lateness).perform .shutterSpeedChoices camera = (.ok choices, camera) ∧
    speed.microseconds ∈ choices ∧ (speed.bulb = true ↔ speed.microseconds = -1)
  aperture : ∃ aperture choices,
    (driver lateness).perform .aperture camera = (.ok aperture, camera) ∧
    (driver lateness).perform .apertureChoices camera = (.ok choices, camera) ∧
    aperture ∈ choices
  iso : ∃ iso choices,
    (driver lateness).perform .iso camera = (.ok iso, camera) ∧
    (driver lateness).perform .isoChoices camera = (.ok choices, camera) ∧ iso ∈ choices
  captureTarget : ∃ target,
    (driver lateness).perform .captureTarget camera = (.ok target, camera) ∧
    (target = "Internal RAM" ∨ target = "Memory card")
  focusMode : ∃ mode,
    (driver lateness).perform .focusMode camera = (.ok mode, camera) ∧
    focusModes[camera.focusMode]? = some mode
  battery : ∃ charge,
    (driver lateness).perform .battery camera = (.ok charge, camera) ∧
      0 ≤ charge ∧ charge ≤ 100

theorem Sound.reports {camera : Simulated} (sound : Sound camera) (lateness : Nat → Nat)
    (connected : camera.connected = true) : Reports lateness camera := by
  constructor <;> simp only [driver_connected lateness _ connected, perform]
  case shutterSpeed =>
    refine ⟨_, _, rfl, rfl, sound.shutterSpeed, ?_⟩
    exact beq_iff_eq
  case aperture => exact ⟨_, _, rfl, rfl, sound.aperture⟩
  case iso => exact ⟨_, _, rfl, rfl, sound.iso⟩
  case captureTarget => exact ⟨_, rfl, sound.captureTarget⟩
  case focusMode =>
    refine ⟨_, rfl, ?_⟩
    rw [List.getD_eq_getElem?_getD, List.getElem?_eq_getElem sound.focusMode, Option.getD_some]
  case battery => exact ⟨_, rfl, sound.battery_nonneg, sound.battery_le⟩

/-- Every call that needs a session is refused, and nothing changes. -/
def Refuses (lateness : Nat → Nat) (camera : Simulated) : Prop :=
  ∀ call, call ≠ .connect → call ≠ .disconnect →
    (driver lateness).perform call camera = (.error .notConnected, camera)

theorem refuses_of_disconnected (lateness : Nat → Nat) {camera : Simulated}
    (closed : camera.connected = false) : Refuses lateness camera := by
  intro call opens closes
  have needs : needsSession call = true := by
    cases call <;> first | rfl | contradiction
  exact driver_disconnected lateness closed needs

/-- After any calls on a new camera its memory is sound, and whatever is called next, the battery
does not rise. If a session was opened and not closed since, the camera is connected and reports
only what it offers; if not, it is not connected and refuses what needs a session. -/
theorem offers_after_new (lateness : Nat → Nat) (storage : Storage) (bulbDuration : Nat)
    (calls : List Call) :
    let camera := after lateness (new storage bulbDuration) calls
    Sound camera ∧ (∀ more, (after lateness camera more).battery ≤ camera.battery) ∧
    (driver lateness).isConnected camera = calls.foldl Call.leavesOpen false ∧
    if calls.foldl Call.leavesOpen false then Reports lateness camera
    else Refuses lateness camera := by
  intro camera
  have served := serves_after lateness calls (new storage bulbDuration)
  have sound : Sound camera := served.sound { sound_new storage bulbDuration with }
  have connected : camera.connected = calls.foldl Call.leavesOpen false := served.connected
  refine ⟨sound, ?_, connected, ?_⟩
  · intro more
    exact (serves_after lateness more camera).battery_le { sound with }
  · split
    · next isOpen => exact sound.reports lateness (connected.trans isOpen)
    · next closed =>
        exact refuses_of_disconnected lateness (connected.trans (Bool.eq_false_iff.mpr closed))

end Simulated

end Tether
