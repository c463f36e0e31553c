import Tether.Broker
import Tether.Event.Wire
import Tether.Frame.Reader
import Tether.Frame.Writer
import Tether.Mailbox
import Tether.Worker

/-!
# The remote link

One remote client at a time is connected over a stream of frames. What it sends is posted as remote
commands; what is posted on the forwarded topics is sent to it. A frame that is no event is dropped
and changes nothing else; a frame that cannot be read ends the session. A client that connects while
another one is served waits for its turn.
-/

namespace Tether

namespace Link

/-- The topics that the remote client hears of. -/
def forwardedTopics : List Topic := [.cameraConfig, .cameraEvent, .modeState, .heartbeat]

/-- The topic that the remote client speaks on. -/
def remoteTopic : Topic := .remoteCmd

def listen {σ : Type} [DecidableEq σ] (broker : Broker σ) (link : σ) : Broker σ :=
  broker.subscribeAll link forwardedTopics

def leave {σ : Type} [DecidableEq σ] (broker : Broker σ) (link : σ) : Broker σ :=
  broker.unsubscribeAll link

/-- The event of the body of a frame, if it is one. -/
def eventOfBody? (body : List UInt8) : Option Event :=
  match Frame.decodeBody body with
  | .ok value => (Event.ofJson value).toOption
  | .error _ => none

/-- The events that a client sends in a session, in their order. -/
def inbound (max : Nat) (source : List Chunk) : List Event :=
  (Frame.readAll max source).1.filterMap eventOfBody?

/-- The values that wait for the client. -/
abbrev Outbound : Type := Mailbox Json Limits.outbound

def enqueue (outbound : Outbound) (event : Event) : Outbound :=
  outbound.put event.toJson

/-- Sends everything that waits for the client. Values that do not fit a frame are dropped, and a
failure of the stream ends the session with what is left unsent. -/
def transmit (max : Nat) : List Json → Sink → Bool × Sink
  | [], sink => (true, sink)
  | value :: rest, sink =>
      match Frame.write max sink value with
      | (.ok _, sink) => transmit max rest sink
      | (.error (.oversized ..), sink) => transmit max rest sink
      | (.error _, sink) => (false, sink)

structure Client where
  name : String
  /-- What it has sent and is not read yet. -/
  unread : List UInt8
  /-- Whether it has closed its side. -/
  finished : Bool
  /-- What has been sent to it. -/
  received : Sink
  /-- Whether its session is over. -/
  ended : Bool

/-- A client that has just connected. -/
def Client.new (name : String) : Client :=
  ⟨name, [], false, .unlimited, false⟩

/-- What has been sent to a client since the last time. -/
def Client.takeReceived (client : Client) : List UInt8 × Client :=
  (client.received.taken, { client with received := .unlimited })

/-- Reads the complete frames that a client has sent; the result includes their events. An error of
framing ends the session, and so does the end of the stream. -/
def Client.readFrames (max : Nat) : Nat → Client → List Event × Client
  | 0, client => ([], client)
  | limit + 1, client =>
      match Frame.next max client.unread with
      | .ok (some (body, rest)) =>
          let (events, client) := readFrames max limit { client with unread := rest }
          ((eventOfBody? body).toList ++ events, client)
      | .ok none => ([], { client with ended := client.ended || client.finished })
      | .error (.oversized ..) => ([], { client with ended := true })
      | .error _ => ([], { client with ended := client.ended || client.finished })

end Link

/-- The server side of the remote link. The first client whose session is not over is served. -/
structure Link where
  /-- The greatest length of a frame body. -/
  max : Nat
  worker : Worker
  clients : List Link.Client

namespace Link

def new (max : Nat) : Link :=
  ⟨max, .new "comm-accept", []⟩

def start (link : Link) : Link :=
  { link with worker := link.worker.start }

/-- Ends all sessions and stops accepting clients. -/
def stop (link : Link) : Link :=
  { link with
    worker := link.worker.stop
    clients := link.clients.map fun client => { client with ended := true } }

def served? (link : Link) : Option Client :=
  if link.worker.isRunning then link.clients.find? fun client => !client.ended else none

def isConnected (link : Link) : Bool :=
  link.served?.isSome

def modify (link : Link) (name : String) (change : Client → Client) : Link :=
  { link with
    clients := link.clients.map fun client => if client.name = name then change client else client }

/-- Reads what the served client has sent. If that ends its session, the next client is served, and
so on; the result includes the events of all of them. -/
def advance : Nat → Link → List Event × Link
  | 0, link => ([], link)
  | sessions + 1, link =>
      match link.served? with
      | none => ([], link)
      | some client =>
          let (events, after) := client.readFrames link.max (client.unread.length + 1)
          let link := link.modify client.name fun _ => after
          if after.ended then
            let (later, link) := advance sessions link
            (events ++ later, link)
          else (events, link)

/-- Reads what clients have sent; the result includes the events in their order. -/
def settle (link : Link) : List Event × Link :=
  advance (link.clients.length + 1) link

/-- Lets a client connect. A name that was used before is free again. -/
def connect (link : Link) (name : String) : List Event × Link :=
  settle
    { link with
      clients := link.clients.filter (fun client => client.name != name) ++ [.new name] }

def send (link : Link) (name : String) (bytes : List UInt8) : List Event × Link :=
  settle (link.modify name fun client => { client with unread := client.unread ++ bytes })

/-- Lets a client close its side. -/
def close (link : Link) (name : String) : List Event × Link :=
  settle (link.modify name fun client => { client with finished := true })

/-- Forwards an event that was posted on a topic to the client that is served. -/
def forward (link : Link) (event : Event) (topic : Topic) : Link :=
  if topic ∈ forwardedTopics then
    match link.served? with
    | some client =>
        link.modify client.name fun client =>
          { client with
            received := (transmit link.max (enqueue .empty event).items client.received).2 }
    | none => link
  else link

/-- What has been sent to the clients of a name since the last time, and whether one of them is
still to be heard. -/
def drain (link : Link) (name : String) : List UInt8 × Bool × Link :=
  let clients := link.clients.filter fun client => client.name = name
  (clients.flatMap fun client => client.received.taken,
    clients.any fun client => !client.ended,
    link.modify name fun client => client.takeReceived.2)

end Link

end Tether
