import Tether.Device.Basic
import Tether.Event

/-!
# Requests for settings

A query is a call that reads a setting, together with the event that carries its reply. A change
is a call that writes a setting, together with the query that reads it back.
-/

namespace Tether

/-- A call that only reads a setting, and the event that carries the reply. -/
structure Query where
  call : Call
  event : call.Reply → Event
  reads : call.isSetter = false

/-- A call that writes a setting, and the query that reads it back. -/
structure Change where
  call : Call
  query : Query
  writes : call.isSetter = true

namespace Query

def shutterSpeed : Query :=
  ⟨.shutterSpeed, fun reply => .shutterSpeedValue reply.microseconds reply.bulb, rfl⟩

def shutterSpeedChoices : Query := ⟨.shutterSpeedChoices, .shutterSpeedChoices, rfl⟩

def aperture : Query := ⟨.aperture, .apertureValue, rfl⟩

def apertureChoices : Query := ⟨.apertureChoices, .apertureChoices, rfl⟩

def iso : Query := ⟨.iso, .isoValue, rfl⟩

def isoChoices : Query := ⟨.isoChoices, .isoChoices, rfl⟩

/-- Reads whether the camera chooses the sensitivity. -/
def autoIso : Query := ⟨.autoIso, .autoIsoValue, rfl⟩

def battery : Query := ⟨.battery, .batteryValue, rfl⟩

def focalLength : Query := ⟨.focalLength, .focalLengthValue, rfl⟩

def focusMode : Query := ⟨.focusMode, .focusModeValue, rfl⟩

/-- Reads whether long exposures are cleaned of noise. -/
def longExposureNr : Query := ⟨.longExposureNr, .longExposureNrValue, rfl⟩

/-- Reads whether the lens steadies the picture. -/
def vibrationReduction : Query := ⟨.vibrationReduction, .vibrationReductionValue, rfl⟩

/-- Reads where the camera stores pictures. -/
def captureTarget : Query := ⟨.captureTarget, .captureTargetValue, rfl⟩

def exposureProgram : Query := ⟨.exposureProgram, .exposureProgramValue, rfl⟩

def lightMeter : Query :=
  ⟨.lightMeter, fun reply => .lightMeterValue reply.value reply.min reply.max, rfl⟩

def ofEvent? : Event → Option Query
  | .getShutterSpeed => some shutterSpeed
  | .getShutterSpeedChoices => some shutterSpeedChoices
  | .getAperture => some aperture
  | .getApertureChoices => some apertureChoices
  | .getIso => some iso
  | .getIsoChoices => some isoChoices
  | .getAutoIso => some autoIso
  | .getBattery => some battery
  | .getFocalLength => some focalLength
  | .getFocusMode => some focusMode
  | .getLongExposureNr => some longExposureNr
  | .getVibrationReduction => some vibrationReduction
  | .getCaptureTarget => some captureTarget
  | .getExposureProgram => some exposureProgram
  | .getLightMeter => some lightMeter
  | _ => none

/-- All queries in the order of a full refresh. -/
def refresh : List Query :=
  [shutterSpeed, shutterSpeedChoices, aperture, apertureChoices, iso, isoChoices, autoIso, battery,
    focalLength, focusMode, longExposureNr, vibrationReduction, captureTarget, exposureProgram,
    lightMeter]

end Query

def Change.ofEvent? : Event → Option Change
  | .setShutterSpeed microseconds => some ⟨.setShutterSpeed microseconds, .shutterSpeed, rfl⟩
  | .setAperture aperture => some ⟨.setAperture aperture, .aperture, rfl⟩
  | .setIso iso => some ⟨.setIso iso, .iso, rfl⟩
  | .setAutoIso enabled => some ⟨.setAutoIso enabled, .autoIso, rfl⟩
  | .nextFocusMode => some ⟨.nextFocusMode, .focusMode, rfl⟩
  | .setLongExposureNr enabled => some ⟨.setLongExposureNr enabled, .longExposureNr, rfl⟩
  | .setVibrationReduction enabled =>
      some ⟨.setVibrationReduction enabled, .vibrationReduction, rfl⟩
  | .setCaptureTarget target => some ⟨.setCaptureTarget target, .captureTarget, rfl⟩
  | _ => none

/-- What an event asks of the settings of the camera. -/
inductive Request where
  | query (query : Query)
  | change (change : Change)
  /-- Read all settings. -/
  | all

/-- The queries that a request leads to. -/
def Request.queries : Request → List Query
  | .query asked => [asked]
  | .change wanted => [wanted.query]
  | .all => Query.refresh

/-- The request of an event, if it is one. -/
def Request.ofEvent? (event : Event) : Option Request :=
  match Query.ofEvent? event, Change.ofEvent? event with
  | some found, _ => some (.query found)
  | none, some found => some (.change found)
  | none, none => if event = .getAll then some .all else none

/-- Every query that an event leads to is one of a full refresh. -/
theorem Request.queries_subset {event : Event} {request : Request}
    (found : Request.ofEvent? event = some request) : request.queries ⊆ Query.refresh := by
  cases event <;> cases found <;> simp [queries, Query.refresh]

end Tether
