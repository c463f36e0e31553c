import Tether.Camera.Chart
import Tether.Gate
import Tether.Intervalometer
import Tether.Mode
import Tether.Statechart.Traffic

/-!
# The four machines together

The gate, the camera controller, the mode controller and the intervalometer on one broker, each with
a mailbox of its own that listens to the topics of the machine. A machine takes one event from its
mailbox at a time, and everything that it posts meanwhile is delivered before another machine has
its turn.
-/

namespace Tether

/-- The places of the machines. -/
inductive Station where
  | gate
  | camera
  | mode
  | intervalometer
deriving DecidableEq, Repr

namespace Station

/-- All places in the order in which their machines have their turns. -/
def all : List Station := [.gate, .camera, .mode, .intervalometer]

def topics : Station → List Topic
  | .gate => Gate.topics
  | .camera => Camera.topics
  | .mode => Mode.topics
  | .intervalometer => Intervalometer.topics

end Station

/-- The machines with their mailboxes. -/
structure Assembly (δ : Type) where
  traffic : Traffic Station
  gate : Machine Gate.State Gate.Memory
  camera : Machine Camera.State (Camera.Memory δ)
  mode : Machine Mode.State Mode.Memory
  intervalometer : Machine Intervalometer.State Intervalometer.Memory

namespace Assembly

variable {δ : Type}

/-- The machines for a camera, not started. -/
def new (driver : Driver δ) (device : δ) (settings : Camera.Settings) (heartbeat : Nat) :
    Assembly δ where
  traffic := .new (Station.all.map fun station => (station, station.topics))
  gate := Gate.chart.machine ()
  camera := (Camera.chart driver).machine (.new device settings)
  mode := Mode.chart.machine (.new heartbeat)
  intervalometer := Intervalometer.chart.machine .new

def inbox (assembly : Assembly δ) (station : Station) : Mailbox Event Limits.mailbox :=
  assembly.traffic.inbox station

def posted (assembly : Assembly δ) : List (Topic × Event) :=
  assembly.traffic.posted

def service (assembly : Assembly δ) : TimerService :=
  assembly.traffic.service

def withService (assembly : Assembly δ) (service : TimerService) : Assembly δ :=
  { assembly with traffic := assembly.traffic.withService service }

def clearPosted (assembly : Assembly δ) : Assembly δ :=
  { assembly with traffic := assembly.traffic.clearPosted }

def post (assembly : Assembly δ) (event : Event) (topic : Topic) : Assembly δ :=
  { assembly with traffic := assembly.traffic.post event topic }

def order (driver : Driver δ) (assembly : Assembly δ) (order : Order) (station : Station) :
    Assembly δ :=
  let timers := assembly.service.timers
  let now := assembly.service.now
  match station with
  | .gate =>
      let turn := Gate.chart.obey assembly.gate timers now order
      { assembly with gate := turn.machine, traffic := assembly.traffic.absorb .gate turn }
  | .camera =>
      let turn := (Camera.chart driver).obey assembly.camera timers now order
      { assembly with camera := turn.machine, traffic := assembly.traffic.absorb .camera turn }
  | .mode =>
      let turn := Mode.chart.obey assembly.mode timers now order
      { assembly with mode := turn.machine, traffic := assembly.traffic.absorb .mode turn }
  | .intervalometer =>
      let turn := Intervalometer.chart.obey assembly.intervalometer timers now order
      { assembly with
        intervalometer := turn.machine
        traffic := assembly.traffic.absorb .intervalometer turn }

def start (driver : Driver δ) (assembly : Assembly δ) : Assembly δ :=
  Station.all.foldl (fun assembly station => assembly.order driver .start station) assembly

/-- Lets the machine of a place take one event from its mailbox; nothing happens if it is empty. -/
def turn? (driver : Driver δ) (assembly : Assembly δ) (station : Station) :
    Option (Assembly δ) :=
  (assembly.traffic.take? station).map fun (event, traffic) =>
    { assembly with traffic := traffic }.order driver (.dispatch event) station

/-- Gives every machine one turn; the result includes how many took an event. -/
def round (driver : Driver δ) (assembly : Assembly δ) : Assembly δ × Nat :=
  Station.all.foldl
    (fun (assembly, turns) station =>
      match assembly.turn? driver station with
      | some next => (next, turns + 1)
      | none => (assembly, turns))
    (assembly, 0)

/-- Runs rounds until one of them finds all mailboxes empty, at most `limit` rounds; the result
includes how many events were taken. -/
def rounds (driver : Driver δ) : Nat → Assembly δ → Assembly δ × Nat
  | 0, assembly => (assembly, 0)
  | limit + 1, assembly =>
      let (assembly, turns) := assembly.round driver
      if turns = 0 then (assembly, 0)
      else
        let (assembly, later) := rounds driver limit assembly
        (assembly, turns + later)

/-- Lets timers fire until at most `keep` are pending. -/
def runTimers (assembly : Assembly δ) (keep : Nat) : Assembly δ :=
  let (fired, service) := assembly.service.run keep
  { assembly with traffic := (assembly.traffic.withService service).postFired fired }

end Assembly

end Tether
