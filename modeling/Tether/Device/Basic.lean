import Tether.Device.CameraPath
import Tether.Number.Binary

/-!
# The camera contract

A driver answers the calls of the camera controller. Each call has a type of reply, and each call
can fail; what a camera remembers between calls is the driver's own business. Shutter speeds are in
microseconds, `-1` for bulb, and apertures in hundredths of an F-number.
-/

namespace Tether

/-- Why a call failed. -/
inductive Fault where
  /-- There is no open session. -/
  | notConnected
  /-- The camera could not be reached. -/
  | communication (text : String)
  /-- The camera did not answer in time. -/
  | timeout (text : String)
  /-- The camera has no such setting. -/
  | unsupported (setting : String)
  /-- The camera does not offer the value. -/
  | invalidValue (setting value : String)
  /-- A file could not be stored. -/
  | storage (text : String)
deriving DecidableEq, Repr

namespace Fault

def message : Fault → String
  | .notConnected => "Device not connected"
  | .communication text => "Device communication error: " ++ text
  | .timeout text => "Device operation timed out: " ++ text
  | .unsupported setting => "Setting not supported: " ++ setting
  | .invalidValue setting value => "Invalid value for " ++ setting ++ ": " ++ value
  | .storage text => "Storage error: " ++ text

/-- Whether a fault means that the camera is in trouble. A missing setting or a value that is not
offered does not. -/
def isTrouble : Fault → Bool
  | .unsupported _ => false
  | .invalidValue .. => false
  | _ => true

end Fault

/-- The shutter speed of a camera, and whether it is left open by hand. -/
structure ShutterSpeed where
  microseconds : Int32
  bulb : Bool
deriving DecidableEq

/-- A reading of the light meter and the range of such readings. -/
structure LightMeter where
  value : Binary
  min : Binary
  max : Binary
deriving DecidableEq

/-- A call to a camera. -/
inductive Call where
  | connect
  | disconnect
  | capture
  | download (source : CameraPath) (destination : String)
  | shutterSpeed
  | shutterSpeedChoices
  | setShutterSpeed (microseconds : Int32)
  | aperture
  | apertureChoices
  | setAperture (aperture : Int32)
  | iso
  | isoChoices
  | setIso (iso : Int32)
  | autoIso
  | setAutoIso (enabled : Bool)
  | exposureProgram
  | lightMeter
  | battery
  | focalLength
  | focusMode
  | nextFocusMode
  | longExposureNr
  | setLongExposureNr (enabled : Bool)
  | vibrationReduction
  | setVibrationReduction (enabled : Bool)
  | captureTarget
  | setCaptureTarget (target : String)
deriving DecidableEq

namespace Call

abbrev Reply : Call → Type
  | .connect => String
  | .capture => CameraPath
  | .shutterSpeed => ShutterSpeed
  | .shutterSpeedChoices | .apertureChoices | .isoChoices => List Int32
  | .aperture | .iso | .battery | .focalLength => Int32
  | .autoIso | .longExposureNr | .vibrationReduction => Bool
  | .exposureProgram | .focusMode | .captureTarget => String
  | .lightMeter => LightMeter
  | .disconnect | .download .. | .setShutterSpeed _ | .setAperture _ | .setIso _ | .setAutoIso _
  | .nextFocusMode | .setLongExposureNr _ | .setVibrationReduction _ | .setCaptureTarget _ => Unit

/-- Whether a call changes a setting. -/
def isSetter : Call → Bool
  | .setShutterSpeed _ | .setAperture _ | .setIso _ | .setAutoIso _ | .nextFocusMode
  | .setLongExposureNr _ | .setVibrationReduction _ | .setCaptureTarget _ => true
  | _ => false

/-- The name of a call in scripts and logs. -/
def name : Call → String
  | .connect => "connect"
  | .disconnect => "disconnect"
  | .capture => "capture"
  | .download .. => "download_file"
  | .shutterSpeed => "shutter_speed"
  | .shutterSpeedChoices => "shutter_speed_choices"
  | .setShutterSpeed _ => "set_shutter_speed"
  | .aperture => "aperture"
  | .apertureChoices => "aperture_choices"
  | .setAperture _ => "set_aperture"
  | .iso => "iso"
  | .isoChoices => "iso_choices"
  | .setIso _ => "set_iso"
  | .autoIso => "auto_iso"
  | .setAutoIso _ => "set_auto_iso"
  | .exposureProgram => "exposure_program"
  | .lightMeter => "light_meter"
  | .battery => "battery_percent"
  | .focalLength => "focal_length"
  | .focusMode => "focus_mode"
  | .nextFocusMode => "next_focus_mode"
  | .longExposureNr => "long_exposure_nr"
  | .setLongExposureNr _ => "set_long_exposure_nr"
  | .vibrationReduction => "vibration_reduction"
  | .setVibrationReduction _ => "set_vibration_reduction"
  | .captureTarget => "capture_target"
  | .setCaptureTarget _ => "set_capture_target"

/-- The arguments of a call in logs; an empty one is not shown. -/
def argument? : Call → Option String
  | .download source destination => some (source.display ++ " " ++ destination)
  | .setShutterSpeed n | .setAperture n | .setIso n => some (toString n.toInt)
  | .setAutoIso b | .setLongExposureNr b | .setVibrationReduction b => some (toString b)
  | .setCaptureTarget target => if target.isEmpty then none else some target
  | _ => none

/-- A call in a log: its name, and its arguments if it has any. -/
def display (call : Call) : String :=
  match call.argument? with
  | some argument => call.name ++ " " ++ argument
  | none => call.name

/-- The setting that a call reads or changes, if it is about one. -/
def setting? : Call → Option String
  | .shutterSpeed | .shutterSpeedChoices | .setShutterSpeed _ => some "shutter_speed"
  | .aperture | .apertureChoices | .setAperture _ => some "aperture"
  | .iso | .isoChoices | .setIso _ => some "iso"
  | .autoIso | .setAutoIso _ => some "auto_iso"
  | .exposureProgram => some "exposure_program"
  | .lightMeter => some "light_meter"
  | .battery => some "battery"
  | .focalLength => some "focal_length"
  | .focusMode | .nextFocusMode => some "focus_mode"
  | .longExposureNr | .setLongExposureNr _ => some "long_exp_nr"
  | .vibrationReduction | .setVibrationReduction _ => some "vr"
  | .captureTarget | .setCaptureTarget _ => some "capture_target"
  | .connect | .disconnect | .capture | .download .. => none

end Call

/-- A camera backend whose memory is a value of type `δ`. -/
structure Driver (δ : Type) where
  name : δ → String
  isConnected : δ → Bool
  perform : (call : Call) → δ → Except Fault call.Reply × δ

namespace Driver

variable {δ : Type}

/-- The driver that has no settings: it answers every call about one with a fault. -/
def withoutSettings (driver : Driver δ) (name : String) : Driver δ where
  name _ := name
  isConnected := driver.isConnected
  perform call memory :=
    match call.setting? with
    | some setting => (.error (.unsupported setting), memory)
    | none => driver.perform call memory

end Driver

end Tether
