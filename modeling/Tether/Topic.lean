/-!
# Topics

The channels over which events are published. Every subscription names one topic.
-/

namespace Tether

/-- A channel of events. -/
inductive Topic where
  /-- Values and choices of the camera's settings. -/
  | cameraConfig
  /-- Commands for the camera controller. -/
  | cameraCmd
  /-- News of the camera's life cycle. -/
  | cameraEvent
  /-- Everything that remote and console clients send. -/
  | remoteCmd
  /-- Messages for the mode controller. -/
  | modeController
  /-- Messages for the machine of the running mode. -/
  | modeFsm
  /-- The mode and the progress of the intervalometer, for observers. -/
  | modeState
  /-- The periodic sign of life. -/
  | heartbeat
deriving DecidableEq, Repr, Inhabited

namespace Topic

def all : List Topic :=
  [.cameraConfig, .cameraCmd, .cameraEvent, .remoteCmd,
    .modeController, .modeFsm, .modeState, .heartbeat]

def number : Topic → Nat
  | .cameraConfig => 0
  | .cameraCmd => 1
  | .cameraEvent => 2
  | .remoteCmd => 3
  | .modeController => 4
  | .modeFsm => 5
  | .modeState => 6
  | .heartbeat => 7

def name : Topic → String
  | .cameraConfig => "CameraConfig"
  | .cameraCmd => "CameraCmd"
  | .cameraEvent => "CameraEvent"
  | .remoteCmd => "RemoteCmd"
  | .modeController => "ModeController"
  | .modeFsm => "ModeFsm"
  | .modeState => "ModeState"
  | .heartbeat => "Heartbeat"

def ofName? (name : String) : Option Topic :=
  all.find? fun topic => topic.name = name

end Topic

end Tether
