import Tether.Console.Session
import Tether.Controller
import Tether.Number.Integer

/-!
# The command line

Options are read from left to right, and the first fault decides. A long option may carry its value
behind a sign of equality, a short one right behind its letter; otherwise the next word is the
value, unless it looks like an option. Short switches may share one minus. No option may be
repeated, and a request for help or for the version ends the reading.
-/

namespace Tether

namespace CommandLine

def programName : String := "camctl"

def versionLine : String := programName ++ " 0.1.0\n"

/-- The options that take a value. -/
inductive Setting where
  | config
  | downloadDir
  | port
  | driver
deriving DecidableEq, Repr

/-- The options that are either given or not. -/
inductive Switch where
  | listDrivers
  | console
  | verbose
  | json
deriving DecidableEq, Repr

/-- What an option on the command line is. -/
inductive Item where
  | setting (setting : Setting)
  | switch (switch : Switch)
  | help
  | version
deriving DecidableEq, Repr

def longNames : List (String × Item) :=
  [("config", .setting .config), ("download-dir", .setting .downloadDir),
    ("port", .setting .port), ("driver", .setting .driver),
    ("list-drivers", .switch .listDrivers), ("console", .switch .console),
    ("verbose", .switch .verbose), ("json", .switch .json), ("help", .help),
    ("version", .version)]

def shortNames : List (Char × Item) :=
  [('c', .setting .config), ('d', .setting .downloadDir), ('p', .setting .port),
    ('v', .switch .verbose), ('h', .help), ('V', .version)]

def usage : String :=
  "Usage: " ++ programName ++ " [OPTIONS]\n\n"
    ++ "  -c, --config FILE        Path to the configuration file\n"
    ++ "  -d, --download-dir DIR   Directory where downloaded photos are stored\n"
    ++ "  -p, --port PORT          TCP port of the remote control server\n"
    ++ "      --driver DRIVER      Device driver to use\n"
    ++ "      --list-drivers       List the device drivers and exit\n"
    ++ "      --console            Read commands from the standard input\n"
    ++ "  -v, --verbose            Enable verbose logging\n"
    ++ "      --json               Output logs in JSON format\n"
    ++ "  -h, --help               Print help\n"
    ++ "  -V, --version            Print version\n"

/-- The options of one run. -/
structure Options where
  config : Option String
  downloadDir : Option String
  port : Option Nat
  driver : Option String
  switches : List Switch
deriving DecidableEq, Repr

def Options.empty : Options := ⟨none, none, none, none, []⟩

/-- Why a command line cannot be read. -/
inductive UsageError where
  | unknown (argument : String)
  | missingValue (argument : String)
  | unexpectedValue (argument : String)
  | repeated (argument : String)
  | badValue (argument value : String)
deriving DecidableEq, Repr

def UsageError.message : UsageError → String
  | .unknown argument => "unexpected argument '" ++ argument ++ "' found"
  | .missingValue argument => "a value is required for '" ++ argument ++ "' but none was supplied"
  | .unexpectedValue argument => "no value is expected for '" ++ argument ++ "'"
  | .repeated argument => "the argument '" ++ argument ++ "' cannot be used multiple times"
  | .badValue argument value => "invalid value '" ++ value ++ "' for '" ++ argument ++ "'"

/-- What a command line asks for. -/
inductive Request where
  | run (options : Options)
  | help
  | version
deriving DecidableEq, Repr

/-! ## Reading -/

def port? (value : String) : Option Nat :=
  match Text.readInteger value.toList with
  | .ok n => if 0 ≤ n ∧ n < 65536 then some n.toNat else none
  | .error _ => none

/-- Gives an option its value. Paths must not be empty. -/
def assign (options : Options) (argument : String) (setting : Setting) (value : String) :
    Except UsageError Options :=
  let put {α : Type} (old : Option α) (value? : Option α) (set : α → Options) :
      Except UsageError Options :=
    if old.isSome then .error (.repeated argument)
    else
      match value? with
      | some value => .ok (set value)
      | none => .error (.badValue argument value)
  let path? := if value = "" then none else some value
  match setting with
  | .config => put options.config path? fun path => { options with config := some path }
  | .downloadDir =>
      put options.downloadDir path? fun path => { options with downloadDir := some path }
  | .port => put options.port (port? value) fun port => { options with port := some port }
  | .driver => put options.driver (some value) fun name => { options with driver := some name }

def turnOn (options : Options) (argument : String) (switch : Switch) :
    Except UsageError Options :=
  if options.switches.contains switch then .error (.repeated argument)
  else .ok { options with switches := options.switches ++ [switch] }

/-- Whether a word can be the value of the option in front of it. -/
def isValue (word : String) : Bool :=
  match word.toList with
  | '-' :: _ :: _ => false
  | _ => true

/-- What the reading of a word leads to: a request for help or the version, or further options; the
flag is set when the word needs the next one as the value of a setting. -/
inductive Progress where
  | done (request : Request)
  | options (options : Options)
  | needsValue (options : Options) (argument : String) (setting : Setting)

/-- Reads a long option behind its two minuses. -/
def readLong (options : Options) (text : List Char) : Except UsageError Progress :=
  let name := String.ofList (text.takeWhile (· != '='))
  let argument := "--" ++ name
  let attached :=
    match text.dropWhile (· != '=') with
    | [] => none
    | _ :: value => some (String.ofList value)
  match longNames.lookup name, attached with
  | none, _ => .error (.unknown argument)
  | some (.setting setting), some value => (assign options argument setting value).map .options
  | some (.setting setting), none => .ok (.needsValue options argument setting)
  | some _, some _ => .error (.unexpectedValue argument)
  | some (.switch switch), none => (turnOn options argument switch).map .options
  | some .help, none => .ok (.done .help)
  | some .version, none => .ok (.done .version)

/-- Reads short options behind their minus. -/
def readShort (options : Options) : List Char → Except UsageError Progress
  | [] => .ok (.options options)
  | letter :: rest =>
      let argument := String.ofList ['-', letter]
      match shortNames.lookup letter with
      | none => .error (.unknown argument)
      | some (.setting setting) =>
          match rest with
          | [] => .ok (.needsValue options argument setting)
          | '=' :: value => (assign options argument setting (String.ofList value)).map .options
          | value => (assign options argument setting (String.ofList value)).map .options
      | some (.switch switch) =>
          match turnOn options argument switch with
          | .error e => .error e
          | .ok options => readShort options rest
      | some .help => .ok (.done .help)
      | some .version => .ok (.done .version)

/-- Reads one word that is no value. -/
def readWord (options : Options) (word : String) : Except UsageError Progress :=
  match word.toList with
  | '-' :: '-' :: c :: rest => readLong options (c :: rest)
  | '-' :: c :: rest => readShort options (c :: rest)
  | _ => .error (.unknown word)

/-- Reads words into options. Nothing may follow the word `--`. -/
def readWords (options : Options) : List String → Except UsageError Request
  | [] => .ok (.run options)
  | ["--"] => .ok (.run options)
  | "--" :: word :: _ => .error (.unknown word)
  | word :: rest =>
      match readWord options word with
      | .error e => .error e
      | .ok (.done request) => .ok request
      | .ok (.options options) => readWords options rest
      | .ok (.needsValue options argument setting) =>
          match rest with
          | [] => .error (.missingValue argument)
          | value :: rest =>
              if isValue value then
                match assign options argument setting value with
                | .error e => .error e
                | .ok options => readWords options rest
              else .error (.missingValue argument)

def parse (words : List String) : Except UsageError Request :=
  readWords .empty words

/-! ## Running -/

namespace Options

def has (options : Options) (switch : Switch) : Bool :=
  options.switches.contains switch

/-- A configuration with the values that options override. -/
def override (options : Options) (config : Config) : Config :=
  { config with
    device := { config.device with
      driver := options.driver.getD config.device.driver
      downloadDir := options.downloadDir.getD config.device.downloadDir }
    transport := { config.transport with port := options.port.getD config.transport.port } }

/-- The configuration for options, where the files are read by `read`. -/
def load (options : Options) (read : String → Except FileError (List UInt8)) :
    Except ConfigError Config :=
  match options.config with
  | some path => (Config.ofFile path (read path)).map options.override
  | none => .ok (options.override .default)

end Options

def driverList (host : Host) : String :=
  String.join ((Registry.builtin host.storage).names.map (· ++ "\n"))

/-- How a run of the program ends: with an exit code, or not by itself. -/
structure Outcome where
  exit? : Option Nat
  output : String
deriving DecidableEq, Repr

/-- The outcome of a run whose controller can be made. It goes on until somebody quits at the
console. -/
def work (options : Options) (input : List UInt8) : Outcome :=
  if options.has .console ∧ (Console.Session.run true input).running = false then ⟨some 0, ""⟩
  else ⟨none, ""⟩

def runWith (host : Host) (options : Options) (input : List UInt8) : Outcome :=
  match options.load host.storage.read with
  | .error _ => ⟨some 1, ""⟩
  | .ok config =>
      if options.has .listDrivers then ⟨some 0, driverList host⟩
      else
        match Controller.findDevice host config with
        | .error _ => ⟨some 1, ""⟩
        | .ok device =>
            match Controller.new host config device.driver device.memory with
            | .error _ => ⟨some 1, ""⟩
            | .ok _ => work options input

def run (host : Host) (words : List String) (input : List UInt8) : Outcome :=
  match parse words with
  | .error _ => ⟨some 2, ""⟩
  | .ok .help => ⟨some 0, usage⟩
  | .ok .version => ⟨some 0, versionLine⟩
  | .ok (.run options) => runWith host options input

end CommandLine

end Tether
