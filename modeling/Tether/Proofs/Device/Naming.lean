import Tether.Proofs.Device.Offers

/-!
# The names of pictures

Pictures are numbered from 1 to 9999, and then from 1 again. The name of a picture shows its number,
so two pictures have the same name only if they have the same number (`picture_injective`).

A short exposure returns the name that it has just used. A hand-timed one puts it into the queue of
notices and gets it back from there, so it returns its own name only if no older one is left in the
queue. A camera that finds the queue empty leaves it empty again (`capture_hands`), unless it gives
up before the notice is found; and then some wait has ended seconds too late. So as long as no
picture times out, each one gets the number that follows, whatever else is called in between
(`pictures_named`).
-/

namespace Tether

namespace Simulated

/-- The place of the picture with a number. -/
def picture (number : Nat) : CameraPath :=
  ⟨folder, "DSC_" ++ fourDigits number ++ ".JPG"⟩

/-! ## Names show numbers -/

theorem ofDigitChars_zeros (count : Nat) (digits : List Char) :
    Nat.ofDigitChars 10 (List.replicate count '0' ++ digits) 0 = Nat.ofDigitChars 10 digits 0 := by
  induction count with
  | zero => rfl
  | succ count ih => exact ih

theorem ofDigitChars_fourDigits (n : Nat) : Nat.ofDigitChars 10 (fourDigits n).toList 0 = n := by
  simp [fourDigits, ofDigitChars_zeros, Nat.toString_eq_repr]

theorem picture_injective {number other : Nat} (same : picture number = picture other) :
    number = other := by
  have names : "DSC_" ++ fourDigits number ++ ".JPG" = "DSC_" ++ fourDigits other ++ ".JPG" :=
    congrArg CameraPath.name same
  have digits : (fourDigits number).toList = (fourDigits other).toList := by
    simpa using congrArg String.toList names
  rw [← ofDigitChars_fourDigits number, digits, ofDigitChars_fourDigits]

/-! ## Waiting for the file -/

section Notices

variable {lateness : Nat → Nat} {camera : Simulated} {due limit : Nat} {notice : Notice}
  {rest : List (Nat × Notice)}

/-- A notice that is due later is left in the queue. -/
theorem awaitNotice_early (queue : camera.notices = (due, notice) :: rest)
    (early : limit < due - camera.clock) :
    camera.awaitNotice lateness limit = (none, camera.wait lateness limit) := by
  unfold awaitNotice
  rw [queue]
  exact if_pos early

theorem awaitNotice_due (queue : camera.notices = (due, notice) :: rest)
    (inTime : due - camera.clock ≤ limit) :
    camera.awaitNotice lateness limit =
      (some notice, { camera.wait lateness (due - camera.clock) with notices := rest }) := by
  unfold awaitNotice
  rw [queue]
  exact if_neg (Nat.not_lt.mpr inTime)

end Notices

/-- What comes of taking a picture: its own place, with nothing left in the queue; or the camera has
given up, and then a wait has ended much too late. -/
def Hands (lateness : Nat → Nat) (path : CameraPath) (number : Nat) (failure : Fault)
    (outcome : Except Fault CameraPath × Simulated) : Prop :=
  outcome.1 = .ok path ∧ outcome.2.notices = [] ∧ outcome.2.nextFile = number ∨
    outcome.1 = .error failure ∧ ∃ wait, completionBudget ≤ writeLatency + lateness wait

/-- Once the capture is complete, the file is found as soon as it is due. The polls suffice for the
time until then. -/
theorem pollForFile_hands {lateness : Nat → Nat} {opened : Nat} {failure : Fault} {polls : Nat}
    {camera : Simulated} {path : CameraPath}
    (queue : camera.notices = [(opened + writeLatency, .fileAdded path)])
    (enough : opened + writeLatency - camera.clock < polls * pollInterval)
    (late : ∃ wait, camera.clock ≤ opened + writeLatency + lateness wait) :
    Hands lateness path camera.nextFile failure
      (pollForFile lateness (opened + completionBudget) failure polls true camera) := by
  induction polls generalizing camera with
  | zero => exact absurd enough (by simp)
  | succ polls ih =>
    unfold pollForFile
    dsimp only
    by_cases expired : opened + completionBudget - camera.clock = 0
    · rw [if_pos expired]
      obtain ⟨wait, bound⟩ := late
      exact .inr ⟨rfl, wait, by omega⟩
    · rw [if_neg expired]
      by_cases early : min (opened + completionBudget - camera.clock) pollInterval <
          opened + writeLatency - camera.clock
      · rw [awaitNotice_early queue early]
        -- The deadline is further away than the file, so this was a whole interval.
        have whole : min (opened + completionBudget - camera.clock) pollInterval =
            pollInterval := by
          unfold completionBudget pollInterval writeLatency at *
          omega
        refine ih queue ?_ ⟨camera.waits, ?_⟩
        · unfold wait
          unfold pollInterval at *
          dsimp only
          omega
        · unfold wait
          dsimp only
          omega
      · rw [awaitNotice_due queue (Nat.not_lt.mp early)]
        exact .inl ⟨rfl, rfl, rfl⟩

/-- The notice that the capture is complete is found by the first poll. -/
theorem pollForFile_opening {lateness : Nat → Nat} (camera : Simulated) {failure : Fault}
    {polls : Nat} {path : CameraPath}
    (queue : camera.notices = [(camera.clock, .captureComplete),
      (camera.clock + writeLatency, .fileAdded path)])
    (enough : writeLatency < polls * pollInterval) :
    Hands lateness path camera.nextFile failure
      (pollForFile lateness (camera.clock + completionBudget) failure (polls + 1) false
        camera) := by
  have budget : camera.clock + completionBudget - camera.clock ≠ 0 := by
    unfold completionBudget
    omega
  unfold pollForFile
  dsimp only
  rw [if_neg budget, awaitNotice_due queue (by omega)]
  refine pollForFile_hands rfl ?_ ⟨camera.waits, ?_⟩
  · unfold wait
    dsimp only
    omega
  · unfold wait
    dsimp only
    omega

/-- What a hand-timed exposure leaves in an empty queue: that it is complete, and the file. -/
theorem closeShutter_notices (camera : Simulated) (empty : camera.notices = []) :
    camera.closeShutter.notices =
      [(camera.clock, .captureComplete),
        (camera.clock + writeLatency, .fileAdded camera.allocateFile.1)] := by
  unfold closeShutter
  dsimp only
  rw [show camera.allocateFile.2.notices = [] from empty]
  rfl

theorem bulbCapture_hands (lateness : Nat → Nat) {camera : Simulated}
    (empty : camera.notices = []) :
    ∃ text, Hands lateness camera.allocateFile.1 camera.allocateFile.2.nextFile (.timeout text)
      (camera.bulbCapture lateness) := by
  refine ⟨"no file after " ++ secondsText camera.exposure ++ "s exposure",
    pollForFile_opening (camera.wait lateness camera.exposure).closeShutter ?_ ?_⟩
  · -- The picture gets its place when the exposure is over.
    exact closeShutter_notices (camera.wait lateness camera.exposure) empty
  · unfold writeLatency completionBudget pollInterval
    omega

/-- Taking a picture with a session open. -/
theorem capture_hands (lateness : Nat → Nat) {camera : Simulated} (empty : camera.notices = []) :
    ∃ text, Hands lateness camera.allocateFile.1 camera.allocateFile.2.nextFile (.timeout text)
      (camera.capture lateness) := by
  unfold capture
  split
  · exact bulbCapture_hands lateness empty
  · exact ⟨"", .inl ⟨rfl, empty, rfl⟩⟩

/-! ## A call and a run -/

/-- The number of the picture that follows some others. -/
def numberAfter (taken : Nat) : Nat :=
  taken % 9999 + 1

/-- No notice is left, and some pictures have been taken. -/
structure Tidy (taken : Nat) (camera : Simulated) : Prop where
  notices : camera.notices = []
  nextFile : camera.nextFile = numberAfter taken

/-- No picture that is taken among some calls times out. -/
def InTime (lateness : Nat → Nat) (camera : Simulated) (calls : List Call) : Prop :=
  ∀ before, before ++ [.capture] <+: calls → ∀ text,
    ((driver lateness).perform .capture (after lateness camera before)).1 ≠ .error (.timeout text)

/-- The picture that a call takes. -/
def picture? (lateness : Nat → Nat) (camera : Simulated) : Call → Option CameraPath
  | .capture => ((driver lateness).perform .capture camera).1.toOption
  | _ => none

/-- The pictures that some calls take, in their order. -/
def pictures (lateness : Nat → Nat) (camera : Simulated) : List Call → List CameraPath
  | [] => []
  | call :: rest =>
      (camera.picture? lateness call).toList ++
        pictures lateness ((driver lateness).perform call camera).2 rest

/-- A picture is refused without a session, and with one it gets the next place, which is returned
at once. -/
def TakesPicture (lateness : Nat → Nat) (camera : Simulated) : Prop :=
  if camera.connected then
    ∃ later, (driver lateness).perform .capture camera = (.ok camera.allocateFile.1, later) ∧
      later.nextFile = camera.allocateFile.2.nextFile ∧ later.notices = []
  else (driver lateness).perform .capture camera = (.error .notConnected, camera)

section Runs

variable {lateness : Nat → Nat} {camera : Simulated} {taken : Nat} {call : Call}
  {calls : List Call}

theorem tidy_new (storage : Storage) (bulbDuration : Nat) : Tidy 0 (new storage bulbDuration) :=
  ⟨rfl, rfl⟩

theorem inTime_cons : InTime lateness camera (call :: calls) ↔
    (call = .capture → ∀ text,
      ((driver lateness).perform .capture camera).1 ≠ .error (.timeout text)) ∧
    InTime lateness ((driver lateness).perform call camera).2 calls := by
  constructor
  · intro inTime
    refine ⟨?_, fun before inside => ?_⟩
    · rintro rfl
      exact inTime [] (by simp)
    · exact inTime (call :: before) (List.cons_prefix_cons.mpr ⟨rfl, inside⟩)
  · rintro ⟨first, later⟩ before inside
    cases before with
    | nil => exact first (List.cons_prefix_cons.mp inside).1.symm
    | cons other before =>
      obtain ⟨rfl, within⟩ := List.cons_prefix_cons.mp inside
      exact later before within

theorem Tidy.takesPicture (tidy : Tidy taken camera)
    (inTime : ∀ text, ((driver lateness).perform .capture camera).1 ≠ .error (.timeout text)) :
    TakesPicture lateness camera := by
  unfold TakesPicture
  split
  · next connected =>
    rw [driver_connected lateness _ connected] at inTime ⊢
    obtain ⟨text, ⟨path, empty, number⟩ | ⟨failed, -⟩⟩ :=
      capture_hands lateness tidy.notices
    · exact ⟨_, Prod.ext path rfl, number, empty⟩
    · exact absurd failed (inTime text)
  · next closed => exact driver_disconnected lateness (Bool.eq_false_iff.mpr closed) rfl

theorem numberAfter_succ (taken : Nat) :
    (if 9999 ≤ numberAfter taken then 1 else numberAfter taken + 1) =
      numberAfter (taken + 1) := by
  unfold numberAfter
  split <;> omega

/-- A picture that has been taken has the next number. -/
theorem TakesPicture.tidy (takes : TakesPicture lateness camera) (tidy : Tidy taken camera) :
    (camera.picture? lateness .capture = none ∧
      Tidy taken ((driver lateness).perform .capture camera).2) ∨
    (camera.picture? lateness .capture = some (picture (numberAfter taken)) ∧
      Tidy (taken + 1) ((driver lateness).perform .capture camera).2) := by
  unfold TakesPicture at takes
  split at takes
  · obtain ⟨later, taken, number, empty⟩ := takes
    refine .inr ⟨?_, ?_⟩
    · unfold picture?
      rw [taken, ← tidy.nextFile]
      rfl
    · rw [taken]
      refine ⟨empty, number.trans ?_⟩
      rw [← numberAfter_succ, ← tidy.nextFile]
      rfl
  · refine .inl ⟨?_, ?_⟩
    · unfold picture?
      rw [takes]
      rfl
    · rw [takes]
      exact tidy

/-- Other calls leave the names alone. -/
theorem Tidy.perform (tidy : Tidy taken camera) (other : call ≠ .capture) :
    Tidy taken ((driver lateness).perform call camera).2 := by
  obtain ⟨empty, number⟩ := tidy
  unfold driver
  dsimp only
  split
  · exact ⟨empty, number⟩
  · cases call with
    | capture => exact absurd rfl other
    | connect => exact ⟨rfl, number⟩
    | download source destination =>
      unfold Simulated.perform download
      dsimp only
      split <;> exact ⟨empty, number⟩
    | setShutterSpeed microseconds =>
      unfold Simulated.perform chooseShutter
      dsimp only
      split
      · exact ⟨empty, number⟩
      · split <;> exact ⟨empty, number⟩
    | setCaptureTarget target =>
      unfold Simulated.perform chooseTarget
      dsimp only
      split <;> exact ⟨empty, number⟩
    | _ => unfold Simulated.perform; exact ⟨empty, number⟩

/-- A call takes the picture with the next number, or none. -/
theorem Tidy.step (tidy : Tidy taken camera) (inTime : InTime lateness camera (call :: calls)) :
    (camera.picture? lateness call = none ∧
      Tidy taken ((driver lateness).perform call camera).2) ∨
    (camera.picture? lateness call = some (picture (numberAfter taken)) ∧
      Tidy (taken + 1) ((driver lateness).perform call camera).2) := by
  by_cases shot : call = .capture
  · subst shot
    exact (tidy.takesPicture ((inTime_cons.mp inTime).1 rfl)).tidy tidy
  · refine .inl ⟨?_, tidy.perform shot⟩
    unfold picture?
    cases call <;> first | rfl | exact absurd rfl shot

theorem Tidy.after (tidy : Tidy taken camera) (inTime : InTime lateness camera calls) :
    ∃ more, Tidy more (after lateness camera calls) := by
  induction calls generalizing camera taken with
  | nil => exact ⟨taken, tidy⟩
  | cons call rest ih =>
    have later := (inTime_cons.mp inTime).2
    rcases tidy.step inTime with ⟨-, same⟩ | ⟨-, next⟩
    · exact ih same later
    · exact ih next later

/-- The pictures of a run are numbered in their order. -/
theorem Tidy.numbered (tidy : Tidy taken camera) (inTime : InTime lateness camera calls)
    {index : Nat} {path : CameraPath}
    (found : (pictures lateness camera calls)[index]? = some path) :
    path = picture (numberAfter (taken + index)) := by
  induction calls generalizing camera taken index with
  | nil => cases found
  | cons call rest ih =>
    have later := (inTime_cons.mp inTime).2
    unfold pictures at found
    rcases tidy.step inTime with ⟨none, same⟩ | ⟨some, next⟩
    · rw [none] at found
      exact ih same later found
    · rw [some] at found
      cases index with
      | zero => exact (Option.some.inj found).symm
      | succ index =>
        rw [ih next later found, Nat.add_right_comm]
        rfl

theorem InTime.of_prefix {before : List Call} (inTime : InTime lateness camera calls)
    (inside : before <+: calls) : InTime lateness camera before :=
  fun earlier within => inTime earlier (within.trans inside)

/-- A clock none of whose waits ends much too late lets no picture time out. -/
theorem inTime_of_punctual (punctual : ∀ wait, writeLatency + lateness wait < completionBudget)
    (tidy : Tidy taken camera) (calls : List Call) : InTime lateness camera calls := by
  induction calls generalizing camera taken with
  | nil =>
    intro before inside
    simp at inside
  | cons call rest ih =>
    have first : ∀ text,
        ((driver lateness).perform .capture camera).1 ≠ .error (.timeout text) := by
      intro text failed
      by_cases connected : camera.connected = true
      · rw [driver_connected lateness _ connected] at failed
        obtain ⟨-, ⟨path, -⟩ | ⟨-, wait, late⟩⟩ := capture_hands lateness tidy.notices
        · exact nomatch path.symm.trans failed
        · exact absurd late (Nat.not_le.mpr (punctual wait))
      · rw [driver_disconnected lateness (Bool.eq_false_iff.mpr connected) rfl] at failed
        cases failed
    have alone : InTime lateness camera [call] :=
      inTime_cons.mpr ⟨fun _ => first, fun before inside => by simp at inside⟩
    rcases tidy.step alone with ⟨-, same⟩ | ⟨-, next⟩
    · exact inTime_cons.mpr ⟨fun _ => first, ih same⟩
    · exact inTime_cons.mpr ⟨fun _ => first, ih next⟩

end Runs

/-- How the pictures of some calls are named. -/
structure NamesPictures (lateness : Nat → Nat) (camera : Simulated)
    (calls : List Call) : Prop where
  takes : ∀ before, before ++ [.capture] <+: calls →
    TakesPicture lateness (after lateness camera before)
  numbered : ∀ index path, (pictures lateness camera calls)[index]? = some path →
    path = picture (index % 9999 + 1)
  distinct : ∀ first second path, (pictures lateness camera calls)[first]? = some path →
    (pictures lateness camera calls)[second]? = some path → first < second →
    9999 ≤ second - first

/-- Whatever is called on a new camera, and however late its waits end: as long as no picture times
out, each one is returned by the call that takes it, and bears a name that none of the 9998 pictures
before it has. -/
theorem pictures_named (lateness : Nat → Nat) (storage : Storage) (bulbDuration : Nat)
    {calls : List Call} (inTime : InTime lateness (new storage bulbDuration) calls) :
    NamesPictures lateness (new storage bulbDuration) calls := by
  have tidy := tidy_new storage bulbDuration
  have numbered (index : Nat) (path : CameraPath)
      (found : (pictures lateness (new storage bulbDuration) calls)[index]? = some path) :
      path = picture (numberAfter index) := by
    rw [tidy.numbered inTime found, Nat.zero_add]
  refine ⟨fun before inside => ?_, numbered, fun first second path one other less => ?_⟩
  · obtain ⟨taken, here⟩ :=
      tidy.after (inTime.of_prefix ((List.prefix_append _ _).trans inside))
    exact here.takesPicture (inTime before inside)
  · have same : numberAfter first = numberAfter second :=
      picture_injective ((numbered first path one).symm.trans (numbered second path other))
    unfold numberAfter at same
    omega

/-- A short exposure, a bulb one, one that is refused, and another short one in a second session;
waits end more or less late. -/
theorem pictures_named_sessions :
    let lateness := fun wait => 7000 * (wait % 5)
    let calls := [.connect, .capture, .setShutterSpeed (-1), .capture, .disconnect, .capture,
      .connect, .setShutterSpeed 8000, .capture]
    InTime lateness (new default 1000000) calls ∧
      NamesPictures lateness (new default 1000000) calls ∧
      pictures lateness (new default 1000000) calls = [picture 1, picture 2, picture 3] := by
  intro lateness calls
  have inTime : InTime lateness (new default 1000000) calls := by
    refine inTime_of_punctual (fun wait => ?_) (tidy_new _ _) calls
    dsimp only [lateness, writeLatency, completionBudget]
    omega
  exact ⟨inTime, pictures_named lateness default 1000000 inTime, by decide +kernel⟩

end Simulated

end Tether
