import Tether.Device.Basic
import Tether.Number.Logarithm
import Tether.Storage

/-!
# The simulated camera

A camera without a body: settings snap to the nearest value on offer, pictures get consecutive names
on a pretended memory card, and downloading a picture writes a short placeholder.

An exposure of a second or more runs the sequence of a hand-timed one: open the shutter, wait, close
it, then poll for two notices, the end of the capture at once and the new file a little later.
Times are in microseconds on the camera's own clock. A wait may end late; `lateness n` is how much
later the `n`-th wait ends than asked for.
-/

namespace Tether

/-- What the camera announces after a hand-timed exposure. -/
inductive Notice where
  | captureComplete
  | fileAdded (path : CameraPath)
deriving DecidableEq

/-- The memory of a simulated camera. -/
structure Simulated where
  connected : Bool
  /-- How many sessions have been opened. A counter of 32 bits agrees with this one as long as there
  are fewer than 2³² of them. -/
  sessions : Nat
  shutterSpeed : Int32
  /-- The exposure of a bulb picture, in microseconds. -/
  bulbDuration : Nat
  aperture : Int32
  iso : Int32
  autoIso : Bool
  longExposureNr : Bool
  vibrationReduction : Bool
  focusMode : Nat
  captureTarget : String
  battery : Int32
  nextFile : Nat
  notices : List (Nat × Notice)
  clock : Nat
  waits : Nat
  storage : Storage

namespace Simulated

/-- The folder of all pictures. -/
def folder : String := "/store_00010001/DCIM/100SIM"

/-- The shutter speed that stands for bulb. -/
def bulb : Int32 := -1

/-- Exposures of at least this many microseconds are timed by hand. -/
def longExposure : Int32 := 1000000

/-- How long after the exposure the file may take to appear. -/
def completionBudget : Nat := 5000000

/-- How long one poll for a notice lasts at most. -/
def pollInterval : Nat := 20000

/-- How long after the exposure the file appears. -/
def writeLatency : Nat := 60000

/-- The shutter speeds on offer, bulb first and then from slow to fast. -/
def shutterChoices : List Int32 :=
  [-1, 30000000, 15000000, 8000000, 4000000, 2000000, 1000000, 500000, 250000,
    125000, 66666, 33333, 16666, 8000, 4000, 2000, 1000, 500, 250]

def slowestShutter : Int32 := 30000000

/-- The shutter speeds on offer without bulb. -/
def timedChoices : List Int32 :=
  shutterChoices.filter fun choice => choice != bulb

def apertureChoices : List Int32 :=
  [180, 280, 400, 560, 800, 1100, 1600, 2200]

def isoChoices : List Int32 :=
  [100, 200, 400, 800, 1600, 3200, 6400, 12800]

/-- The focus modes in the order in which they follow one another. -/
def focusModes : List String :=
  ["AF-S", "AF-C", "AF-A", "MF"]

/-- A camera that was never connected, with the given files and bulb exposure. -/
def new (storage : Storage) (bulbDuration : Nat) : Simulated where
  connected := false
  sessions := 0
  shutterSpeed := 8000
  bulbDuration := bulbDuration
  aperture := 800
  iso := 100
  autoIso := false
  longExposureNr := false
  vibrationReduction := true
  focusMode := 0
  captureTarget := "Internal RAM"
  battery := 100
  nextFile := 1
  notices := []
  clock := 0
  waits := 0
  storage := storage

instance : Inhabited Simulated := ⟨new default 1000000⟩

/-- The distance of two settings, without overflow. -/
def distance (a b : Int32) : Nat :=
  (a.toInt - b.toInt).natAbs

/-- The better of a choice and the best of the choices before it: a later one has to be nearer. -/
def nearer (value best choice : Int32) : Int32 :=
  if distance choice value < distance best value then choice else best

/-- The choice nearest to a value, of several the one listed first; the value itself if there is no
choice. -/
def nearest (choices : List Int32) (value : Int32) : Int32 :=
  match choices with
  | [] => value
  | first :: rest => rest.foldl (nearer value) first

/-- How long the shutter is open, in microseconds. -/
def exposure (camera : Simulated) : Nat :=
  if camera.shutterSpeed = bulb then camera.bulbDuration else camera.shutterSpeed.toInt.natAbs

def fourDigits (n : Nat) : String :=
  let digits := toString n
  String.ofList (List.replicate (4 - digits.length) '0') ++ digits

/-- Gives the next picture its place, counts it, and wears the battery down every fifty pictures. -/
def allocateFile (camera : Simulated) : CameraPath × Simulated :=
  let path : CameraPath := ⟨folder, "DSC_" ++ fourDigits camera.nextFile ++ ".JPG"⟩
  let nextFile := if 9999 ≤ camera.nextFile then 1 else camera.nextFile + 1
  let battery :=
    if nextFile % 50 = 0 then (if camera.battery ≤ 0 then 0 else camera.battery - 1)
    else camera.battery
  (path, { camera with nextFile := nextFile, battery := battery })

/-- Lets time pass; the wait may end late. -/
def wait (lateness : Nat → Nat) (camera : Simulated) (duration : Nat) : Simulated :=
  { camera with
    clock := camera.clock + duration + lateness camera.waits
    waits := camera.waits + 1 }

/-- Ends a hand-timed exposure: the picture gets its place and both notices are on their way. -/
def closeShutter (camera : Simulated) : Simulated :=
  let (path, camera) := camera.allocateFile
  { camera with
    notices := camera.notices
      ++ [(camera.clock, .captureComplete), (camera.clock + writeLatency, .fileAdded path)] }

/-- The next notice if it is due within `limit`, waiting for it if needed. -/
def awaitNotice (lateness : Nat → Nat) (camera : Simulated) (limit : Nat) :
    Option Notice × Simulated :=
  match camera.notices with
  | [] => (none, camera)
  | (due, notice) :: rest =>
      let remaining := due - camera.clock
      if limit < remaining then (none, camera.wait lateness limit)
      else (some notice, { camera.wait lateness remaining with notices := rest })

/-- Polls until the file of a hand-timed exposure appears, at most `polls` times and until the
deadline. -/
def pollForFile (lateness : Nat → Nat) (deadline : Nat) (failure : Fault) :
    Nat → Bool → Simulated → Except Fault CameraPath × Simulated
  | 0, _, camera => (.error failure, camera)
  | polls + 1, complete, camera =>
      let remaining := deadline - camera.clock
      if remaining = 0 then (.error failure, camera)
      else
        match camera.awaitNotice lateness (min remaining pollInterval) with
        | (some .captureComplete, camera) => pollForFile lateness deadline failure polls true camera
        | (some (.fileAdded path), camera) =>
            if complete then (.ok path, camera)
            else
              pollForFile lateness deadline failure polls true
                { camera with notices := (camera.clock, .fileAdded path) :: camera.notices }
        | (none, camera) => pollForFile lateness deadline failure polls complete camera

def secondsText (microseconds : Nat) : String :=
  let rest := microseconds % 1000000
  let fraction := (toString (1000000 + rest)).toList.drop 1
  let digits := (fraction.reverse.dropWhile (· == '0')).reverse
  toString (microseconds / 1000000)
    ++ (if digits = [] then "" else "." ++ String.ofList digits)

/-- Takes a hand-timed picture. -/
def bulbCapture (lateness : Nat → Nat) (camera : Simulated) :
    Except Fault CameraPath × Simulated :=
  let exposure := camera.exposure
  let camera := (camera.wait lateness exposure).closeShutter
  let failure := Fault.timeout ("no file after " ++ secondsText exposure ++ "s exposure")
  pollForFile lateness (camera.clock + completionBudget) failure
    (completionBudget + camera.notices.length + 2) false camera

def capture (lateness : Nat → Nat) (camera : Simulated) : Except Fault CameraPath × Simulated :=
  if camera.shutterSpeed = bulb ∨ longExposure ≤ camera.shutterSpeed then
    camera.bulbCapture lateness
  else
    let (path, camera) := (camera.wait lateness camera.exposure).allocateFile
    (.ok path, camera)

/-- Writes the placeholder of a picture to a local file. -/
def download (camera : Simulated) (source : CameraPath) (destination : String) :
    Except Fault Unit × Simulated :=
  let body := ("simulated image " ++ source.display ++ "\n").toUTF8.data.toList
  match camera.storage.write destination body with
  | .ok storage => (.ok (), { camera with storage := storage })
  | .error e => (.error (.storage (destination ++ ": " ++ e.message)), camera)

/-- Chooses a shutter speed: bulb as it is, anything slower than the slowest as bulb with that
exposure, everything else by the nearest timed choice. -/
def chooseShutter (camera : Simulated) (microseconds : Int32) : Simulated :=
  if microseconds = bulb then { camera with shutterSpeed := bulb }
  else if slowestShutter < microseconds then
    { camera with shutterSpeed := bulb, bulbDuration := microseconds.toInt.natAbs }
  else { camera with shutterSpeed := nearest timedChoices microseconds }

/-- A small natural number as a 32-bit float. -/
def single (n : Nat) : Binary :=
  FloatFormat.single.ofNat n

/-- Meters a scene of exposure value twelve: every step is rounded to 32 bits. -/
def meter (camera : Simulated) : LightMeter :=
  let format := FloatFormat.single
  let stop := format.div (format.ofInt camera.aperture.toInt) (single 100)
  let squared := format.mul (format.mul stop stop) (single 1000000)
  let shutter := format.ofInt (max camera.shutterSpeed.toInt 1)
  let light := format.log2 (format.div squared shutter)
  let gain := format.log2 (format.div (format.ofInt camera.iso.toInt) (single 100))
  let value := format.sub (format.sub light gain) (single 12)
  let low := (single 3).neg
  ⟨value.clamp low (single 3), low, single 3⟩

/-- Changes the capture target to one that the camera has. -/
def chooseTarget (camera : Simulated) (target : String) : Except Fault Unit × Simulated :=
  if target = "Internal RAM" ∨ target = "Memory card" then
    (.ok (), { camera with captureTarget := target })
  else (.error (.invalidValue "capture_target" target), camera)

/-- Opens a session and forgets old notices. -/
def connect (camera : Simulated) : Except Fault String × Simulated :=
  let sessions := camera.sessions + 1
  (.ok ("Simulated Camera v0.1.0 (session " ++ toString sessions ++ ")"),
    { camera with connected := true, sessions := sessions, notices := [] })

/-- The answer to a call while a session is open. -/
def perform (lateness : Nat → Nat) :
    (call : Call) → Simulated → Except Fault call.Reply × Simulated
  | .connect, camera => camera.connect
  | .disconnect, camera => (.ok (), { camera with connected := false })
  | .capture, camera => camera.capture lateness
  | .download source destination, camera => camera.download source destination
  | .shutterSpeed, camera =>
      (.ok ⟨camera.shutterSpeed, camera.shutterSpeed == bulb⟩, camera)
  | .shutterSpeedChoices, camera => (.ok shutterChoices, camera)
  | .setShutterSpeed microseconds, camera => (.ok (), camera.chooseShutter microseconds)
  | .aperture, camera => (.ok camera.aperture, camera)
  | .apertureChoices, camera => (.ok apertureChoices, camera)
  | .setAperture aperture, camera =>
      (.ok (), { camera with aperture := nearest apertureChoices aperture })
  | .iso, camera => (.ok camera.iso, camera)
  | .isoChoices, camera => (.ok isoChoices, camera)
  | .setIso iso, camera => (.ok (), { camera with iso := nearest isoChoices iso })
  | .autoIso, camera => (.ok camera.autoIso, camera)
  | .setAutoIso enabled, camera => (.ok (), { camera with autoIso := enabled })
  | .exposureProgram, camera => (.ok "M", camera)
  | .lightMeter, camera => (.ok camera.meter, camera)
  | .battery, camera => (.ok camera.battery, camera)
  | .focalLength, camera => (.ok 50, camera)
  | .focusMode, camera => (.ok (focusModes.getD camera.focusMode ""), camera)
  | .nextFocusMode, camera =>
      (.ok (), { camera with focusMode := (camera.focusMode + 1) % focusModes.length })
  | .longExposureNr, camera => (.ok camera.longExposureNr, camera)
  | .setLongExposureNr enabled, camera => (.ok (), { camera with longExposureNr := enabled })
  | .vibrationReduction, camera => (.ok camera.vibrationReduction, camera)
  | .setVibrationReduction enabled, camera =>
      (.ok (), { camera with vibrationReduction := enabled })
  | .captureTarget, camera => (.ok camera.captureTarget, camera)
  | .setCaptureTarget target, camera => camera.chooseTarget target

/-- Whether a call needs an open session: all but opening and closing one. -/
def needsSession : Call → Bool
  | .connect | .disconnect => false
  | _ => true

def driverName : String := "simulation"

def driver (lateness : Nat → Nat) : Driver Simulated where
  name _ := driverName
  isConnected camera := camera.connected
  perform call camera :=
    if needsSession call && !camera.connected then (.error .notConnected, camera)
    else perform lateness call camera

end Simulated

end Tether
