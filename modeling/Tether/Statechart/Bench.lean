import Tether.Statechart.Machine
import Tether.Timers.Service

/-!
# Stepping one machine

A bench holds one machine with its mailbox and its timers, and keeps a record of everything that
becomes visible outside. Nothing that the machine publishes comes back to it, except what it posts
to itself.
-/

namespace Tether

/-- An item in the mailbox of a machine. -/
inductive Message where
  | event (event : Event)
  /-- Wakes the reader and means nothing else. -/
  | wake
deriving DecidableEq

/-- The mailbox of a machine. -/
abbrev Inbox : Type := Mailbox Message Limits.mailbox

/-- A machine under observation. -/
structure Bench (S M : Type) where
  machine : Machine S M
  inbox : Inbox
  service : TimerService
  /-- What has been published, oldest first. -/
  posted : List (Topic × Event)
  /-- The warnings so far, oldest first. -/
  warnings : List Warning

namespace Bench

variable {S M : Type}

/-- A bench with a machine that has not been started. -/
def new (chart : Chart S M) (memory : M) : Bench S M :=
  ⟨chart.machine memory, .empty, .new, [], []⟩

def clearRecord (bench : Bench S M) : Bench S M :=
  { bench with posted := [], warnings := [] }

def published (journal : List (Effect S)) : List (Topic × Event) :=
  journal.filterMap fun
    | .posted event topic => some (topic, event)
    | _ => none

/-- Puts an event into the machine's own mailbox; the result includes a warning if that pushed the
oldest message out. -/
def deliverSelf (inbox : Inbox) (event : Event) : Inbox × List Warning :=
  (inbox.put (.event event), if inbox.overwrites then [.mailboxFull] else [])

/-- Carries the mailbox through a journal; the result includes the warnings in their order. -/
def settleInbox : List (Effect S) → Inbox → Inbox × List Warning
  | [], inbox => (inbox, [])
  | .postedSelf event :: rest, inbox =>
      let (inbox, warnings) := deliverSelf inbox event
      let (inbox, later) := settleInbox rest inbox
      (inbox, warnings ++ later)
  | .warned warning :: rest, inbox =>
      let (inbox, later) := settleInbox rest inbox
      (inbox, warning :: later)
  | _ :: rest, inbox => settleInbox rest inbox

/-- Takes over the outcome of a turn of the machine. -/
def absorb (bench : Bench S M) (turn : Turn S M) : Bench S M :=
  let (inbox, warnings) := settleInbox turn.journal bench.inbox
  { machine := turn.machine
    inbox := inbox
    service := { bench.service with timers := turn.timers }
    posted := bench.posted ++ published turn.journal
    warnings := bench.warnings ++ warnings }

section Steps

variable [DecidableEq S]

def start (chart : Chart S M) (bench : Bench S M) : Bench S M :=
  bench.absorb (chart.start bench.machine bench.service.timers bench.service.now)

def dispatch (chart : Chart S M) (bench : Bench S M) (event : Event) : Bench S M :=
  bench.absorb (chart.dispatch bench.machine event bench.service.timers bench.service.now)

/-- Dispatches at most `limit` messages of the mailbox. -/
def pump (chart : Chart S M) : Nat → Bench S M → Bench S M
  | 0, bench => bench
  | limit + 1, bench =>
      match bench.inbox.pop? with
      | none => bench
      | some (.wake, inbox) => pump chart limit { bench with inbox := inbox }
      | some (.event event, inbox) =>
          pump chart limit (dispatch chart { bench with inbox := inbox } event)

/-- How many messages one `send` takes from the mailbox at most. -/
def sendLimit : Nat := 1000

/-- Dispatches an event and then what the mailbox holds. -/
def send (chart : Chart S M) (bench : Bench S M) (event : Event) : Bench S M :=
  pump chart sendLimit (dispatch chart bench event)

end Steps

def inject (bench : Bench S M) (message : Message) : Bench S M :=
  { bench with inbox := bench.inbox.put message }

/-- Lets timers fire until at most `keep` are pending. What fires is recorded, but does not reach
the machine. -/
def runTimers (bench : Bench S M) (keep : Nat) : Bench S M :=
  let (fired, service) := bench.service.run keep
  { bench with
    service := service
    posted := bench.posted ++ fired.map fun timer => (timer.topic, timer.event) }

/-- The warnings that come from looking up which of the states the machine is in: one for each
state if the chain of the current state is cut. -/
def lookWarnings (chart : Chart S M) (bench : Bench S M) : List Warning :=
  if chart.isCut bench.machine.leaf then chart.states.map fun _ => .hierarchyTooDeep else []

inductive Step where
  | start
  | dispatch (event : Event) (times : Nat)
  | send (event : Event) (times : Nat)
  | inject (event : Event) (times : Nat)
  | wake
  | pump (limit : Nat)
  | look
  | timers (keep : Nat)

def step [DecidableEq S] (chart : Chart S M) (bench : Bench S M) : Step → Bench S M
  | .start => start chart bench
  | .dispatch event times =>
      (List.range times).foldl (fun bench _ => dispatch chart bench event) bench
  | .send event times => (List.range times).foldl (fun bench _ => send chart bench event) bench
  | .inject event times =>
      (List.range times).foldl (fun bench _ => bench.inject (.event event)) bench
  | .wake => bench.inject .wake
  | .pump limit => pump chart limit bench
  | .look => bench
  | .timers keep => bench.runTimers keep

end Bench

end Tether
