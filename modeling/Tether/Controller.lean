import Tether.Assembly
import Tether.Config
import Tether.Console.Session
import Tether.Device.Registry
import Tether.Link

/-!
# The controller

The controller is the whole application: the four machines on their broker, the timer thread and,
where it is enabled, the remote link. It is made from a configuration, started once, and shut down
for good. In between it is at rest whenever all mailboxes are empty, and time passes only while
somebody waits.
-/

namespace Tether

/-- What the controller needs to know of the machine that it runs on: its files, and why it refuses
to listen at an address and port, if it does. -/
structure Host where
  storage : Storage
  refusal : Address → Nat → Option String

/-- Why no controller can be made. -/
inductive ControllerError where
  | config (reason : ConfigError)
  | registry (reason : RegistryError)
  /-- The remote link cannot listen. -/
  | transport (address reason : String)
deriving DecidableEq

def ControllerError.message : ControllerError → String
  | .config reason => "configuration error: " ++ reason.message
  | .registry reason => reason.message
  | .transport address reason =>
      "transport error: cannot listen on " ++ address ++ ": " ++ reason

/-- The application with a camera. -/
structure Controller (δ : Type) where
  assembly : Assembly δ
  /-- The life of the threads of the machines, which start and end together. -/
  lifecycle : Lifecycle
  link? : Option Link
  /-- How much of what has been posted the link has been offered. -/
  relayed : Nat
  /-- Whether the application is to go on. -/
  running : Bool

namespace Controller

variable {δ : Type}

def makeLink (host : Host) (config : Config) : Except ControllerError (Option Link) :=
  if config.transport.enabled then
    match host.refusal config.transport.bind config.transport.port with
    | some reason => .error (.transport config.listenAddress reason)
    | none => .ok (some (.new config.transport.maxFrame))
  else .ok none

def new (host : Host) (config : Config) (driver : Driver δ) (device : δ) :
    Except ControllerError (Controller δ) :=
  match config.validate host.storage with
  | .error reason => .error (.config reason)
  | .ok _ =>
      (makeLink host config).map fun link? =>
        { assembly := .new driver device config.cameraSettings config.timing.heartbeat
          lifecycle := .idle
          link? := link?
          relayed := 0
          running := false }

def findDevice (host : Host) (config : Config) : Except ControllerError Device :=
  match (Registry.builtin host.storage).create config.device.driver with
  | .ok device => .ok device
  | .error reason => .error (.registry reason)

/-- Whether a remote client can connect once the controller runs. -/
def isListening (controller : Controller δ) : Bool :=
  controller.link?.isSome

def posted (controller : Controller δ) : List (Topic × Event) :=
  controller.assembly.posted

def pendingTimers (controller : Controller δ) : Nat :=
  controller.assembly.service.pendingCount

/-! ## Work -/

/-- How many rounds of turns the machines may take before they are at rest. -/
def patience : Nat := 1000000

/-- Offers the link what has been posted since the last time. -/
def relay (controller : Controller δ) : Controller δ :=
  let fresh := controller.posted.drop controller.relayed
  { controller with
    link? := controller.link?.map fun link =>
      fresh.foldl (fun link entry => link.forward entry.2 entry.1) link
    relayed := controller.posted.length }

/-- Lets the machines empty their mailboxes, if their threads run. -/
def settle (driver : Driver δ) (controller : Controller δ) : Controller δ :=
  match controller.lifecycle with
  | .running =>
      relay { controller with assembly := (controller.assembly.rounds driver patience).1 }
  | _ => controller.relay

def post (driver : Driver δ) (controller : Controller δ) (event : Event) (topic : Topic) :
    Controller δ :=
  settle driver { controller with assembly := controller.assembly.post event topic }

/-- Starts the threads that have never run, and asks the camera to connect. -/
def start (driver : Driver δ) (controller : Controller δ) : Controller δ :=
  let assembly := controller.assembly.withService controller.assembly.service.start
  let assembly :=
    match controller.lifecycle with
    | .idle => assembly.start driver
    | _ => assembly
  post driver
    { controller with
      assembly := assembly
      lifecycle := controller.lifecycle.start
      link? := controller.link?.map Link.start
      running := true }
    .connect .cameraCmd

/-- Asks the application to end. -/
def quit (controller : Controller δ) : Controller δ :=
  { controller with running := false }

def shutdown (controller : Controller δ) : Controller δ :=
  let service := controller.assembly.service.stop
  { controller with
    assembly := controller.assembly.withService { service with timers := service.timers.clear }
    lifecycle := controller.lifecycle.stop
    link? := controller.link?.map Link.stop
    running := false }

/-! ## Remote clients -/

/-- Changes the link, and posts what its clients have said meanwhile. -/
def onLink (driver : Driver δ) (controller : Controller δ)
    (change : Link → List Event × Link) : Controller δ :=
  match controller.link? with
  | none => controller
  | some link =>
      let (events, link) := change link
      events.foldl (fun controller event => controller.post driver event Link.remoteTopic)
        { controller with link? := some link }

def connectClient (driver : Driver δ) (controller : Controller δ) (name : String) :
    Controller δ :=
  controller.onLink driver fun link => link.connect name

/-- Takes bytes that a client has sent. -/
def receive (driver : Driver δ) (controller : Controller δ) (name : String) (bytes : List UInt8) :
    Controller δ :=
  controller.onLink driver fun link => link.send name bytes

def closeClient (driver : Driver δ) (controller : Controller δ) (name : String) : Controller δ :=
  controller.onLink driver fun link => link.close name

/-! ## The console -/

/-- Posts what a session at the console has posted, and ends if somebody has quit there. -/
def converse (driver : Driver δ) (controller : Controller δ) (session : Console.Session) :
    Controller δ :=
  let controller := session.posted.foldl
    (fun controller event => controller.post driver event .remoteCmd) controller
  if session.running then controller else controller.quit

/-! ## Time -/

def setTime (controller : Controller δ) (now : Nat) : Controller δ :=
  let service := controller.assembly.service
  { controller with
    assembly := controller.assembly.withService { service with now := max service.now now } }

/-- The next deadline up to a time, if the timer thread runs. -/
def nextDeadline? (controller : Controller δ) (limit : Nat) : Option Nat :=
  if controller.assembly.service.isRunning then
    controller.assembly.service.timers.nextDeadline?.filter (· ≤ limit)
  else none

/-- Lets time pass until the next deadline, and posts what fires then. -/
def fireNext (driver : Driver δ) (controller : Controller δ) : Controller δ :=
  settle driver
    { controller with
      assembly := { controller.assembly with traffic := controller.assembly.traffic.fireNext } }

/-- Lets time pass up to a limit, for at most `deadlines` deadlines, until a condition on what has
been posted holds; the result says whether it does. -/
def waitUntil (driver : Driver δ) (met : List (Topic × Event) → Bool) (limit : Nat) :
    Nat → Controller δ → Bool × Controller δ
  | 0, controller => (met controller.posted, controller)
  | deadlines + 1, controller =>
      if met controller.posted then (true, controller)
      else if (controller.nextDeadline? limit).isSome then
        waitUntil driver met limit deadlines (controller.fireNext driver)
      else (false, controller.setTime limit)

/-- Waits some milliseconds at most until a condition on what has been posted holds; the result says
whether it does. Every deadline lies after the one before, so that there are no more of them than
milliseconds. -/
def waitFor (driver : Driver δ) (met : List (Topic × Event) → Bool) (milliseconds : Nat)
    (controller : Controller δ) : Bool × Controller δ :=
  let limit := controller.assembly.service.now + milliseconds
  controller.waitUntil driver met limit milliseconds

/-- Lets time pass up to a limit. -/
def advanceTo (driver : Driver δ) (limit : Nat) (controller : Controller δ) : Controller δ :=
  let deadlines := limit + 1 - controller.assembly.service.now
  (controller.waitUntil driver (fun _ => false) limit deadlines).2

def forget (controller : Controller δ) : Controller δ :=
  { controller with assembly := controller.assembly.clearPosted, relayed := 0 }

end Controller

end Tether
