import Tether.Event
import Tether.Limits
import Tether.Topic
import Tether.Json.Fields
import Tether.Json.Parser

/-!
# The JSON form of events

An event is an object with its number under the key `event_id` and one field per argument. Decoding
checks, in this order, that the value is an object, that it has a number, that the number is known,
and then each field in the order of declaration; the first failure is reported. Other fields are
ignored.
-/

namespace Tether

namespace Event

/-- Why a JSON value is no event. -/
inductive DecodeError where
  | notAnObject
  | missingId
  | unknownId (id : Int)
  | missingField (field : String)
  | invalidField (field : String) (reason : Json.Mismatch)

/-- The arguments of an event as named JSON values, in the order of declaration. -/
def arguments : Event → List (String × Json)
  | .setDownload download =>
      [("download", .bool download)]
  | .setLowLatency lowLatency =>
      [("low_latency", .bool lowLatency)]
  | .captureDone downloaded file =>
      [("downloaded", .bool downloaded), ("file", .str file)]
  | .cameraState state connected download =>
      [("state", .str state), ("camera_connected", .bool connected),
        ("download", .bool download)]
  | .setShutterSpeed microseconds =>
      [("shutter_speed", .int microseconds.toInt)]
  | .shutterSpeedValue microseconds bulb =>
      [("shutter_speed", .int microseconds.toInt), ("bulb", .bool bulb)]
  | .shutterSpeedChoices choices =>
      [("shutter_speed_choices", .ofInt32s choices)]
  | .setAperture aperture =>
      [("aperture", .int aperture.toInt)]
  | .apertureValue aperture =>
      [("aperture", .int aperture.toInt)]
  | .apertureChoices choices =>
      [("aperture_choices", .ofInt32s choices)]
  | .setIso iso =>
      [("iso", .int iso.toInt)]
  | .isoValue iso =>
      [("iso", .int iso.toInt)]
  | .isoChoices choices =>
      [("iso_choices", .ofInt32s choices)]
  | .batteryValue percent =>
      [("battery", .int percent.toInt)]
  | .focalLengthValue millimetres =>
      [("focal_length", .int millimetres.toInt)]
  | .focusModeValue mode =>
      [("focus_mode", .str mode)]
  | .setLongExposureNr enabled =>
      [("long_exp_nr", .bool enabled)]
  | .longExposureNrValue enabled =>
      [("long_exp_nr", .bool enabled)]
  | .setVibrationReduction enabled =>
      [("vr", .bool enabled)]
  | .vibrationReductionValue enabled =>
      [("vr", .bool enabled)]
  | .setCaptureTarget target =>
      [("target", .str target)]
  | .captureTargetValue target =>
      [("target", .str target)]
  | .exposureProgramValue program =>
      [("exposure_program", .str program)]
  | .lightMeterValue value min max =>
      [("light_meter", .ofSingle value), ("min", .ofSingle min), ("max", .ofSingle max)]
  | .setAutoIso enabled =>
      [("auto_iso", .bool enabled)]
  | .autoIsoValue enabled =>
      [("auto_iso", .bool enabled)]
  | .modeValue mode =>
      [("mode", .str mode)]
  | .runIntervalometer interval total =>
      [("intervalms", .int interval.toInt), ("total_captures", .int total.toInt)]
  | .intervalometerStart interval total =>
      [("intervalms", .int interval.toInt), ("total_captures", .int total.toInt)]
  | .intervalometerState state interval captures total =>
      [("state", .str state), ("intervalms", .int interval.toInt),
        ("num_captures", .int captures.toInt), ("total_captures", .int total.toInt)]
  | _ => []

def toJson (event : Event) : Json :=
  .ofFields ((Limits.eventKey, .int event.id) :: event.arguments)

/-- A field of an object, read as the type that `read` expects. -/
def field {α : Type} (fields : List (String × Json)) (key : String)
    (read : Json → Except Json.Mismatch α) : Except DecodeError α :=
  match fields.lookup key with
  | none => .error (.missingField key)
  | some value =>
      match read value with
      | .ok result => .ok result
      | .error reason => .error (.invalidField key reason)

/-- The event of a number, with its arguments taken from the fields of an object. -/
def ofIdAndFields (fields : List (String × Json)) : Nat → Except DecodeError Event
  | 10 => pure .connect
  | 11 => pure .disconnect
  | 12 => pure .recover
  | 13 => pure .capture
  | 14 => pure .captureStep
  | 15 => return .setDownload (← field fields "download" Json.toBool)
  | 16 => pure .downloadStep
  | 17 => pure .cameraConnected
  | 18 => pure .cameraReady
  | 19 => pure .cameraDisconnected
  | 20 => pure .cameraConnectionError
  | 21 => pure .cameraError
  | 22 => pure .ignoreError
  | 23 => return .setLowLatency (← field fields "low_latency" Json.toBool)
  | 24 => do
      let downloaded ← field fields "downloaded" Json.toBool
      let file ← field fields "file" Json.toText
      return .captureDone downloaded file
  | 25 => pure .getCameraState
  | 26 => do
      let state ← field fields "state" Json.toText
      let connected ← field fields "camera_connected" Json.toBool
      let download ← field fields "download" Json.toBool
      return .cameraState state connected download
  | 27 => pure .getShutterSpeed
  | 28 => pure .getShutterSpeedChoices
  | 29 => return .setShutterSpeed (← field fields "shutter_speed" Json.toInt32)
  | 30 => do
      let microseconds ← field fields "shutter_speed" Json.toInt32
      let bulb ← field fields "bulb" Json.toBool
      return .shutterSpeedValue microseconds bulb
  | 31 => return .shutterSpeedChoices (← field fields "shutter_speed_choices" Json.toInt32s)
  | 32 => pure .getAperture
  | 33 => pure .getApertureChoices
  | 34 => return .setAperture (← field fields "aperture" Json.toInt32)
  | 35 => return .apertureValue (← field fields "aperture" Json.toInt32)
  | 36 => return .apertureChoices (← field fields "aperture_choices" Json.toInt32s)
  | 37 => pure .getIso
  | 38 => pure .getIsoChoices
  | 39 => return .setIso (← field fields "iso" Json.toInt32)
  | 40 => return .isoValue (← field fields "iso" Json.toInt32)
  | 41 => return .isoChoices (← field fields "iso_choices" Json.toInt32s)
  | 42 => pure .getBattery
  | 43 => return .batteryValue (← field fields "battery" Json.toInt32)
  | 44 => pure .getFocalLength
  | 45 => return .focalLengthValue (← field fields "focal_length" Json.toInt32)
  | 46 => pure .getFocusMode
  | 47 => pure .nextFocusMode
  | 48 => return .focusModeValue (← field fields "focus_mode" Json.toText)
  | 49 => pure .getLongExposureNr
  | 50 => return .setLongExposureNr (← field fields "long_exp_nr" Json.toBool)
  | 51 => return .longExposureNrValue (← field fields "long_exp_nr" Json.toBool)
  | 52 => pure .getVibrationReduction
  | 53 => return .setVibrationReduction (← field fields "vr" Json.toBool)
  | 54 => return .vibrationReductionValue (← field fields "vr" Json.toBool)
  | 55 => pure .getCaptureTarget
  | 56 => return .setCaptureTarget (← field fields "target" Json.toText)
  | 57 => return .captureTargetValue (← field fields "target" Json.toText)
  | 58 => pure .getExposureProgram
  | 59 => return .exposureProgramValue (← field fields "exposure_program" Json.toText)
  | 60 => pure .getLightMeter
  | 61 => do
      let value ← field fields "light_meter" Json.toSingle
      let min ← field fields "min" Json.toSingle
      let max ← field fields "max" Json.toSingle
      return .lightMeterValue value min max
  | 62 => pure .getAutoIso
  | 63 => return .setAutoIso (← field fields "auto_iso" Json.toBool)
  | 64 => return .autoIsoValue (← field fields "auto_iso" Json.toBool)
  | 65 => pure .getAll
  | 66 => pure .getMode
  | 67 => return .modeValue (← field fields "mode" Json.toText)
  | 68 => pure .modeStopped
  | 69 => pure .stopMode
  | 70 => do
      let interval ← field fields "intervalms" Json.toInt32
      let total ← field fields "total_captures" Json.toInt32
      return .runIntervalometer interval total
  | 71 => do
      let interval ← field fields "intervalms" Json.toInt32
      let total ← field fields "total_captures" Json.toInt32
      return .intervalometerStart interval total
  | 72 => pure .intervalometerDeadline
  | 73 => do
      let state ← field fields "state" Json.toText
      let interval ← field fields "intervalms" Json.toInt32
      let captures ← field fields "num_captures" Json.toInt32
      let total ← field fields "total_captures" Json.toInt32
      return .intervalometerState state interval captures total
  | 74 => pure .enableGate
  | 75 => pure .disableGate
  | 76 => pure .heartbeat
  | other => throw (.unknownId other)

/-- The event that a JSON value stands for. -/
def ofJson (json : Json) : Except DecodeError Event :=
  match json with
  | .obj fields =>
      match fields.lookup Limits.eventKey with
      | some (.int (.ofNat id)) => ofIdAndFields fields id
      | _ => .error .missingId
  | _ => .error .notAnObject

def DecodeError.message : DecodeError → String
  | .notAnObject => "event body is not a JSON object"
  | .missingId => "missing or non-integer \"event_id\""
  | .unknownId id => "unknown event id " ++ toString id
  | .missingField field => "missing field \"" ++ field ++ "\""
  | .invalidField field reason =>
      "invalid field \"" ++ field ++ "\": " ++ reason.message

/-- The event of an object, or of the bare number of an event without fields. -/
def ofShort (json : Json) : Except Json.Mismatch Event :=
  let object : Json :=
    match json with
    | .int n => .ofFields [(Limits.eventKey, .int n)]
    | other => other
  match ofJson object with
  | .ok event => .ok event
  | .error _ => .error (.wrongType json "an event")

/-- Why a text is not the JSON text of an event. -/
inductive ParseError where
  | syntaxError
  | notAnEvent (reason : DecodeError)

/-- Reads an event from JSON text. The value at the head of the text is decoded before the rest of
the text is looked at. -/
def parse (text : String) : Except ParseError Event :=
  match Json.parseFirst? text with
  | none => .error .syntaxError
  | some (json, rest) =>
      match ofJson json with
      | .error reason => .error (.notAnEvent reason)
      | .ok event => if Json.skipSpace rest = [] then .ok event else .error .syntaxError

end Event

def Topic.ofJson (json : Json) : Except Json.Mismatch Topic :=
  match json with
  | .str name =>
      match Topic.ofName? name with
      | some topic => .ok topic
      | none => .error (.wrongType json "a topic")
  | _ => .error (.wrongType json "a topic")

end Tether
