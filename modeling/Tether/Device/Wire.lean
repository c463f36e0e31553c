import Tether.Device.Scripted
import Tether.Json.Fields

/-!
# Calls to cameras in JSON

A call is an object with the name of the call and its argument, and a reply is the value that the
call asks for. A fault is an object with its kind and its text; in a script it is a list of its kind
and its parts.
-/

namespace Tether

def Fault.kind : Fault → String
  | .notConnected => "NotConnected"
  | .communication _ => "Communication"
  | .timeout _ => "Timeout"
  | .unsupported _ => "Unsupported"
  | .invalidValue .. => "InvalidValue"
  | .storage _ => "Storage"

def Fault.toJson (fault : Fault) : Json :=
  .ofFields [("error", .str fault.kind), ("message", .str fault.message)]

/-- The fault of a list of its kind and its parts. -/
def Fault.ofJson : Json → Except Json.Mismatch Fault
  | .arr [.str "NotConnected"] => .ok .notConnected
  | .arr [.str "Communication", .str text] => .ok (.communication text)
  | .arr [.str "Timeout", .str text] => .ok (.timeout text)
  | .arr [.str "Unsupported", .str setting] => .ok (.unsupported setting)
  | .arr [.str "InvalidValue", .str setting, .str value] => .ok (.invalidValue setting value)
  | .arr [.str "Storage", .str text] => .ok (.storage text)
  | other => .error (.wrongType other "a fault")

/-- The script of an object: faults or nulls for calls in line, and faults for all later calls. -/
def FaultScript.ofJson (json : Json) : Except Json.Mismatch FaultScript := do
  let queued ← (← json.readOr "queued" Json.toMembers []).mapM fun (name, faults) => do
    let faults ← (← faults.toItems).mapM fun
      | .null => pure Option.none
      | fault => some <$> Fault.ofJson fault
    return (name, faults)
  let always ← (← json.readOr "always" Json.toMembers []).mapM fun (name, fault) => do
    return (name, ← Fault.ofJson fault)
  return ⟨queued, always⟩

def Call.ofJson (json : Json) : Except Json.Mismatch Call := do
  let argument {α : Type} (reader : Json → Except Json.Mismatch α) := json.read "arg" reader
  match ← json.read "call" Json.toText with
  | "download_file" =>
      return .download
        ⟨← json.read "folder" Json.toText, ← json.read "name" Json.toText⟩
        (← json.read "dest" Json.toText)
  | "set_shutter_speed" => return .setShutterSpeed (← argument Json.toInt32)
  | "set_aperture" => return .setAperture (← argument Json.toInt32)
  | "set_iso" => return .setIso (← argument Json.toInt32)
  | "set_auto_iso" => return .setAutoIso (← argument Json.toBool)
  | "set_long_exposure_nr" => return .setLongExposureNr (← argument Json.toBool)
  | "set_vibration_reduction" => return .setVibrationReduction (← argument Json.toBool)
  | "set_capture_target" => return .setCaptureTarget (← argument Json.toText)
  | name =>
      let plain : List Call :=
        [.connect, .disconnect, .capture, .shutterSpeed, .shutterSpeedChoices, .aperture,
          .apertureChoices, .iso, .isoChoices, .autoIso, .exposureProgram, .lightMeter, .battery,
          .focalLength, .focusMode, .nextFocusMode, .longExposureNr, .vibrationReduction,
          .captureTarget]
      match plain.find? fun call => call.name = name with
      | some call => return call
      | none => throw (.wrongType json "a call")

/-- The reply to a call, null for a call that only acts. -/
def Call.replyToJson : (call : Call) → call.Reply → Json
  | .connect, id => .str id
  | .capture, path =>
      .ofFields
        [("folder", .str path.folder), ("name", .str path.name), ("path", .str path.display)]
  | .shutterSpeed, reply =>
      .ofFields [("shutter_speed", .int reply.microseconds.toInt), ("bulb", .bool reply.bulb)]
  | .shutterSpeedChoices, choices => .ofInt32s choices
  | .aperture, n => .int n.toInt
  | .apertureChoices, choices => .ofInt32s choices
  | .iso, n => .int n.toInt
  | .isoChoices, choices => .ofInt32s choices
  | .autoIso, enabled => .bool enabled
  | .exposureProgram, program => .str program
  | .lightMeter, meter =>
      .ofFields
        [("value", .ofSingle meter.value), ("min", .ofSingle meter.min),
          ("max", .ofSingle meter.max)]
  | .battery, percent => .int percent.toInt
  | .focalLength, millimetres => .int millimetres.toInt
  | .focusMode, mode => .str mode
  | .longExposureNr, enabled => .bool enabled
  | .vibrationReduction, enabled => .bool enabled
  | .captureTarget, target => .str target
  | _, _ => .null

end Tether
