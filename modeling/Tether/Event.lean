import Tether.Number.Binary

/-!
# Events

The closed vocabulary of messages. Every event has a number that never changes and a name for logs.
Whole-number fields are 32-bit integers; shutter speeds are in microseconds with `-1` for bulb,
apertures in hundredths of an F-number, intervals in milliseconds.
-/

namespace Tether

/-- A message between machines, or between a client and a machine. -/
inductive Event where
  /-- Ask the camera controller to open a session. -/
  | connect
  /-- Ask the camera controller to close the session. -/
  | disconnect
  /-- Ask the camera controller to leave its error state by reconnecting. -/
  | recover
  /-- Ask for one picture. -/
  | capture
  /-- The camera controller tells itself to take the picture. -/
  | captureStep
  /-- Turn the download after each capture on or off. -/
  | setDownload (download : Bool)
  /-- The camera controller tells itself to fetch the picture. -/
  | downloadStep
  | cameraConnected
  | cameraReady
  | cameraDisconnected
  | cameraConnectionError
  | cameraError
  | ignoreError
  /-- Turn the refresh of all settings on becoming ready off or on. -/
  | setLowLatency (lowLatency : Bool)
  /-- A picture was taken; `file` is where it was stored if it was downloaded. -/
  | captureDone (downloaded : Bool) (file : String)
  | getCameraState
  /-- The status of the camera controller. -/
  | cameraState (state : String) (connected download : Bool)
  | getShutterSpeed
  | getShutterSpeedChoices
  | setShutterSpeed (microseconds : Int32)
  | shutterSpeedValue (microseconds : Int32) (bulb : Bool)
  | shutterSpeedChoices (choices : List Int32)
  | getAperture
  | getApertureChoices
  | setAperture (aperture : Int32)
  | apertureValue (aperture : Int32)
  | apertureChoices (choices : List Int32)
  | getIso
  | getIsoChoices
  | setIso (iso : Int32)
  | isoValue (iso : Int32)
  | isoChoices (choices : List Int32)
  | getBattery
  | batteryValue (percent : Int32)
  | getFocalLength
  | focalLengthValue (millimetres : Int32)
  | getFocusMode
  | nextFocusMode
  | focusModeValue (mode : String)
  | getLongExposureNr
  | setLongExposureNr (enabled : Bool)
  | longExposureNrValue (enabled : Bool)
  | getVibrationReduction
  | setVibrationReduction (enabled : Bool)
  | vibrationReductionValue (enabled : Bool)
  | getCaptureTarget
  | setCaptureTarget (target : String)
  | captureTargetValue (target : String)
  | getExposureProgram
  | exposureProgramValue (program : String)
  | getLightMeter
  | lightMeterValue (value min max : Binary)
  | getAutoIso
  | setAutoIso (enabled : Bool)
  | autoIsoValue (enabled : Bool)
  | getAll
  | getMode
  | modeValue (mode : String)
  | modeStopped
  | stopMode
  /-- Hand control to the intervalometer. -/
  | runIntervalometer (interval total : Int32)
  /-- Begin a sequence of captures. -/
  | intervalometerStart (interval total : Int32)
  /-- The interval of the running capture is over. -/
  | intervalometerDeadline
  /-- The progress of the intervalometer. -/
  | intervalometerState (state : String) (interval captures total : Int32)
  | enableGate
  | disableGate
  /-- The periodic sign of life. -/
  | heartbeat
deriving DecidableEq

namespace Event

def id : Event → Nat
  | .connect => 10
  | .disconnect => 11
  | .recover => 12
  | .capture => 13
  | .captureStep => 14
  | .setDownload .. => 15
  | .downloadStep => 16
  | .cameraConnected => 17
  | .cameraReady => 18
  | .cameraDisconnected => 19
  | .cameraConnectionError => 20
  | .cameraError => 21
  | .ignoreError => 22
  | .setLowLatency .. => 23
  | .captureDone .. => 24
  | .getCameraState => 25
  | .cameraState .. => 26
  | .getShutterSpeed => 27
  | .getShutterSpeedChoices => 28
  | .setShutterSpeed .. => 29
  | .shutterSpeedValue .. => 30
  | .shutterSpeedChoices .. => 31
  | .getAperture => 32
  | .getApertureChoices => 33
  | .setAperture .. => 34
  | .apertureValue .. => 35
  | .apertureChoices .. => 36
  | .getIso => 37
  | .getIsoChoices => 38
  | .setIso .. => 39
  | .isoValue .. => 40
  | .isoChoices .. => 41
  | .getBattery => 42
  | .batteryValue .. => 43
  | .getFocalLength => 44
  | .focalLengthValue .. => 45
  | .getFocusMode => 46
  | .nextFocusMode => 47
  | .focusModeValue .. => 48
  | .getLongExposureNr => 49
  | .setLongExposureNr .. => 50
  | .longExposureNrValue .. => 51
  | .getVibrationReduction => 52
  | .setVibrationReduction .. => 53
  | .vibrationReductionValue .. => 54
  | .getCaptureTarget => 55
  | .setCaptureTarget .. => 56
  | .captureTargetValue .. => 57
  | .getExposureProgram => 58
  | .exposureProgramValue .. => 59
  | .getLightMeter => 60
  | .lightMeterValue .. => 61
  | .getAutoIso => 62
  | .setAutoIso .. => 63
  | .autoIsoValue .. => 64
  | .getAll => 65
  | .getMode => 66
  | .modeValue .. => 67
  | .modeStopped => 68
  | .stopMode => 69
  | .runIntervalometer .. => 70
  | .intervalometerStart .. => 71
  | .intervalometerDeadline => 72
  | .intervalometerState .. => 73
  | .enableGate => 74
  | .disableGate => 75
  | .heartbeat => 76

/-- The name of an event in logs. -/
def name : Event → String
  | .connect => "CameraCmdConnect"
  | .disconnect => "CameraCmdDisconnect"
  | .recover => "CameraCmdRecoverError"
  | .capture => "CameraCmdCapture"
  | .captureStep => "CameraCmdCaptureInternal"
  | .setDownload .. => "CameraCmdDownload"
  | .downloadStep => "CameraCmdDownloadInternal"
  | .cameraConnected => "CameraConnected"
  | .cameraReady => "CameraReady"
  | .cameraDisconnected => "CameraDisconnected"
  | .cameraConnectionError => "CameraConnectionError"
  | .cameraError => "CameraError"
  | .ignoreError => "CameraIgnoreError"
  | .setLowLatency .. => "CameraCmdLowLatency"
  | .captureDone .. => "CameraCaptureDone"
  | .getCameraState => "GetCameraControllerState"
  | .cameraState .. => "CameraControllerState"
  | .getShutterSpeed => "ConfigGetShutterSpeed"
  | .getShutterSpeedChoices => "ConfigGetChoicesShutterSpeed"
  | .setShutterSpeed .. => "ConfigSetShutterSpeed"
  | .shutterSpeedValue .. => "ConfigValueShutterSpeed"
  | .shutterSpeedChoices .. => "ConfigChoicesShutterSpeed"
  | .getAperture => "ConfigGetAperture"
  | .getApertureChoices => "ConfigGetChoicesAperture"
  | .setAperture .. => "ConfigSetAperture"
  | .apertureValue .. => "ConfigValueAperture"
  | .apertureChoices .. => "ConfigChoicesAperture"
  | .getIso => "ConfigGetIso"
  | .getIsoChoices => "ConfigGetChoicesIso"
  | .setIso .. => "ConfigSetIso"
  | .isoValue .. => "ConfigValueIso"
  | .isoChoices .. => "ConfigChoicesIso"
  | .getBattery => "ConfigGetBattery"
  | .batteryValue .. => "ConfigValueBattery"
  | .getFocalLength => "ConfigGetFocalLength"
  | .focalLengthValue .. => "ConfigValueFocalLength"
  | .getFocusMode => "ConfigGetFocusMode"
  | .nextFocusMode => "ConfigNextFocusMode"
  | .focusModeValue .. => "ConfigValueFocusMode"
  | .getLongExposureNr => "ConfigGetLongExpNr"
  | .setLongExposureNr .. => "ConfigSetLongExpNr"
  | .longExposureNrValue .. => "ConfigValueLongExpNr"
  | .getVibrationReduction => "ConfigGetVibRed"
  | .setVibrationReduction .. => "ConfigSetVibRed"
  | .vibrationReductionValue .. => "ConfigValueVibRed"
  | .getCaptureTarget => "ConfigGetCaptureTarget"
  | .setCaptureTarget .. => "ConfigSetCaptureTarget"
  | .captureTargetValue .. => "ConfigValueCaptureTarget"
  | .getExposureProgram => "ConfigGetExposureProgram"
  | .exposureProgramValue .. => "ConfigValueExposureProgram"
  | .getLightMeter => "ConfigGetLightMeter"
  | .lightMeterValue .. => "ConfigValueLightMeter"
  | .getAutoIso => "ConfigGetAutoIso"
  | .setAutoIso .. => "ConfigSetAutoIso"
  | .autoIsoValue .. => "ConfigValueAutoIso"
  | .getAll => "ConfigGetAll"
  | .getMode => "GetCurrentMode"
  | .modeValue .. => "ValueCurrentMode"
  | .modeStopped => "ModeStopped"
  | .stopMode => "ModeStop"
  | .runIntervalometer .. => "ModeIntervalometer"
  | .intervalometerStart .. => "IntervalometerStart"
  | .intervalometerDeadline => "IntervalometerDeadlineExpired"
  | .intervalometerState .. => "IntervalometerState"
  | .enableGate => "EnableEventPassThrough"
  | .disableGate => "DisableEventPassThrough"
  | .heartbeat => "HeartBeat"

/-- An event in a log line: its name and number. -/
def display (event : Event) : String :=
  event.name ++ "(" ++ toString event.id ++ ")"

def allIds : List Nat :=
  (List.range 67).map (· + 10)

/-- Whether an event asks to change a setting of the camera. -/
def isSetter : Event → Bool
  | .setShutterSpeed .. | .setAperture .. | .setIso .. | .nextFocusMode | .setLongExposureNr ..
  | .setVibrationReduction .. | .setCaptureTarget .. | .setAutoIso .. => true
  | _ => false

/-- Whether an event asks to read a setting of the camera, or all of them. -/
def isGetter : Event → Bool
  | .getShutterSpeed | .getShutterSpeedChoices | .getAperture | .getApertureChoices | .getIso
  | .getIsoChoices | .getBattery | .getFocalLength | .getFocusMode | .getLongExposureNr
  | .getVibrationReduction | .getCaptureTarget | .getExposureProgram | .getLightMeter
  | .getAutoIso | .getAll => true
  | _ => false

/-- Whether an event asks to read or change a setting of the camera. -/
def isRequest (event : Event) : Bool :=
  event.isGetter || event.isSetter

end Event

end Tether
