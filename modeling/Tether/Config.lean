import Tether.Address
import Tether.Camera.Chart
import Tether.Storage
import Tether.Text.Blank
import Tether.Toml.Parser

/-!
# Configuration

The configuration is a TOML document of four sections. Sections and keys may be missing, and then
have their defaults; unknown ones are ignored. A section may also be an array with the values of its
keys in their order. Reading looks at the types only; a second check looks at the values.
-/

namespace Tether

inductive LogLevel where
  | trace
  | debug
  | info
  | warn
  | error
deriving DecidableEq, Repr

namespace LogLevel

def all : List LogLevel := [.trace, .debug, .info, .warn, .error]

def name : LogLevel → String
  | .trace => "trace"
  | .debug => "debug"
  | .info => "info"
  | .warn => "warn"
  | .error => "error"

/-- The name of a level in a log. -/
def label : LogLevel → String
  | .trace => "TRACE"
  | .debug => "DEBUG"
  | .info => "INFO"
  | .warn => "WARN"
  | .error => "ERROR"

def ofName? (name : String) : Option LogLevel :=
  all.find? fun level => level.name = name

end LogLevel

/-- What all programs share. -/
structure SharedConfig where
  logLevel : LogLevel
  serviceName : String
deriving DecidableEq

/-- The camera and where its pictures go. -/
structure DeviceConfig where
  driver : String
  downloadDir : String
  download : Bool
deriving DecidableEq

/-- The remote link. -/
structure TransportConfig where
  enabled : Bool
  bind : Address
  port : Nat
  maxFrame : Nat
deriving DecidableEq

/-- Delays and periods in milliseconds. -/
structure TimingConfig where
  connectionRetry : Nat
  errorRetry : Nat
  recoveryGrace : Nat
  heartbeat : Nat
deriving DecidableEq

/-- The whole configuration. -/
structure Config where
  shared : SharedConfig
  device : DeviceConfig
  transport : TransportConfig
  timing : TimingConfig
deriving DecidableEq

/-- What is wrong with a configuration. -/
inductive ConfigError where
  | fileNotFound (path : String)
  /-- The file cannot be read, is no TOML document, or has a value of a wrong type. -/
  | unreadable
  | invalid (reason : String)
deriving DecidableEq, Repr

/-- The text of a configuration error; that of an unreadable one is left to the reader. -/
def ConfigError.message : ConfigError → String
  | .fileNotFound path => "Configuration file not found: " ++ path
  | .unreadable => "Failed to parse configuration"
  | .invalid reason => "Configuration validation failed: " ++ reason

namespace Config

/-! ## Defaults -/

def defaultShared : SharedConfig := ⟨.info, "camctl"⟩

def defaultDevice : DeviceConfig := ⟨"simulation", ".", false⟩

def defaultTransport : TransportConfig :=
  ⟨true, .v4 0 0 0 0, Limits.defaultPort, Limits.maxFrame⟩

def defaultTiming : TimingConfig := ⟨2000, 2000, 500, 1000⟩

def default : Config :=
  ⟨defaultShared, defaultDevice, defaultTransport, defaultTiming⟩

instance : Inhabited Config := ⟨default⟩

/-! ## Reading -/

/-- The values of the keys of a section, as far as it has them. Values of other keys are ignored,
but their numbers have to be readable; surplus items of an array are not even read. A date counts as
a section without keys. -/
def members? (keys : List String) : Toml.Value → Option (List (Option Toml.Value))
  | .table entries =>
      let others := entries.filter fun entry => !keys.contains entry.1
      if Toml.entriesReadable others then some (keys.map fun key => entries.lookup key) else none
  | .array items => some ((List.range keys.length).map fun i => items[i]?)
  | .datetime _ => some (keys.map fun _ => none)
  | _ => none

/-- The value of a key, or its default if there is none. -/
def orDefault {α : Type} (default : α) (read : Toml.Value → Option α) :
    Option Toml.Value → Option α
  | none => some default
  | some value => read value

def text? : Toml.Value → Option String
  | .string value => some value
  | _ => none

def bool? : Toml.Value → Option Bool
  | .boolean value => some value
  | _ => none

def natBelow? (bound : Nat) : Toml.Value → Option Nat
  | .integer value => if 0 ≤ value ∧ value < bound then some value.toNat else none
  | _ => none

def address? : Toml.Value → Option Address
  | .string value => Address.parse? value
  | _ => none

/-- Whether a value is an array or a table without content. -/
def isEmptyValue : Toml.Value → Bool
  | .array [] => true
  | .table [] => true
  | _ => false

/-- A log level: its name, or a table with its name as the only key and no content. -/
def level? : Toml.Value → Option LogLevel
  | .string value => LogLevel.ofName? value
  | .table [(name, content)] => if isEmptyValue content then LogLevel.ofName? name else none
  | _ => none

def shared? (value : Toml.Value) : Option SharedConfig := do
  match ← members? ["log_level", "service_name"] value with
  | [level, name] =>
      return ⟨← orDefault defaultShared.logLevel level? level,
        ← orDefault defaultShared.serviceName text? name⟩
  | _ => none

def device? (value : Toml.Value) : Option DeviceConfig := do
  match ← members? ["driver", "download_dir", "download"] value with
  | [driver, directory, download] =>
      return ⟨← orDefault defaultDevice.driver text? driver,
        ← orDefault defaultDevice.downloadDir text? directory,
        ← orDefault defaultDevice.download bool? download⟩
  | _ => none

def transport? (value : Toml.Value) : Option TransportConfig := do
  match ← members? ["enabled", "bind", "port", "max_frame_len"] value with
  | [enabled, bind, port, maxFrame] =>
      return ⟨← orDefault defaultTransport.enabled bool? enabled,
        ← orDefault defaultTransport.bind address? bind,
        ← orDefault defaultTransport.port (natBelow? (Nat.pow 2 16)) port,
        ← orDefault defaultTransport.maxFrame (natBelow? (Nat.pow 2 32)) maxFrame⟩
  | _ => none

def timing? (value : Toml.Value) : Option TimingConfig := do
  match ← members? ["connection_retry_ms", "error_retry_ms", "recovery_grace_ms", "heartbeat_ms"]
    value with
  | [connectionRetry, errorRetry, recoveryGrace, heartbeat] =>
      let milliseconds := natBelow? (Nat.pow 2 64)
      return ⟨← orDefault defaultTiming.connectionRetry milliseconds connectionRetry,
        ← orDefault defaultTiming.errorRetry milliseconds errorRetry,
        ← orDefault defaultTiming.recoveryGrace milliseconds recoveryGrace,
        ← orDefault defaultTiming.heartbeat milliseconds heartbeat⟩
  | _ => none

/-- The configuration in the entries of a document. -/
def ofEntries? (entries : List (String × Toml.Value)) : Option Config := do
  match ← members? ["shared", "device", "transport", "timing"] (.table entries) with
  | [shared, device, transport, timing] =>
      return ⟨← orDefault defaultShared shared? shared,
        ← orDefault defaultDevice device? device,
        ← orDefault defaultTransport transport? transport,
        ← orDefault defaultTiming timing? timing⟩
  | _ => none

def parse (document : String) : Except ConfigError Config :=
  match (Toml.parse? document).bind ofEntries? with
  | some config => .ok config
  | none => .error .unreadable

def ofFile (path : String) (content : Except FileError (List UInt8)) :
    Except ConfigError Config :=
  match content with
  | .error .notFound => .error (.fileNotFound path)
  | .error _ => .error .unreadable
  | .ok bytes =>
      match String.fromUTF8? ⟨bytes.toArray⟩ with
      | some document => parse document
      | none => .error .unreadable

def load (storage : Storage) (path : String) : Except ConfigError Config :=
  ofFile path (storage.read path)

/-! ## Checking -/

/-- Checks the values of a configuration; the first failure is reported. -/
def validate (storage : Storage) (config : Config) : Except ConfigError Unit :=
  if Text.isAllBlank config.shared.serviceName then
    .error (.invalid "service_name cannot be empty")
  else if Text.isAllBlank config.device.driver then
    .error (.invalid "device.driver cannot be empty")
  else if !storage.isDirectory config.device.downloadDir then
    .error (.invalid
      ("device.download_dir " ++ config.device.downloadDir ++ " is not a directory"))
  else if config.transport.enabled ∧ config.transport.port = 0 then
    .error (.invalid "transport.port must be non-zero")
  else if config.transport.maxFrame = 0 ∨ Limits.maxFrame < config.transport.maxFrame then
    .error (.invalid ("transport.max_frame_len must be in 1..=" ++ toString Limits.maxFrame))
  else if config.timing.heartbeat = 0 then
    .error (.invalid "timing.heartbeat_ms must be non-zero")
  else .ok ()

/-! ## Uses -/

def cameraSettings (config : Config) : Camera.Settings :=
  ⟨config.device.downloadDir, config.device.download, config.timing.connectionRetry,
    config.timing.errorRetry, config.timing.recoveryGrace⟩

/-- The text of the address and port that the remote link listens at. -/
def listenAddress (config : Config) : String :=
  config.transport.bind.renderWithPort config.transport.port

end Config

end Tether
