import Tether.Statechart.Traffic

/-!
# Actors

An actor is one machine with a thread and a mailbox on a broker. It listens to its topics from the
moment it is made, so that events posted before its start wait in the mailbox. While it runs it
takes events until the mailbox is empty. It runs once; what arrives after its end stays in the
mailbox.
-/

namespace Tether

/-- A machine with its thread and its mailbox. -/
structure Actor (S M : Type) where
  machine : Machine S M
  lifecycle : Lifecycle
  traffic : Traffic Unit

namespace Actor

variable {S M : Type}

def new (chart : Chart S M) (memory : M) (topics : List Topic) : Actor S M :=
  ⟨chart.machine memory, .idle, .new [((), topics)]⟩

def isRunning (actor : Actor S M) : Bool :=
  actor.lifecycle == .running

def counts (actor : Actor S M) : List Nat :=
  actor.traffic.exchange.broker.counts

def absorb (actor : Actor S M) (turn : Turn S M) : Actor S M :=
  { actor with machine := turn.machine, traffic := actor.traffic.absorb () turn }

section Thread

variable [DecidableEq S]

def order (chart : Chart S M) (actor : Actor S M) (order : Order) : Actor S M :=
  actor.absorb
    (chart.obey actor.machine actor.traffic.service.timers actor.traffic.service.now order)

/-- Dispatches at most `limit` events of the mailbox. -/
def pump (chart : Chart S M) : Nat → Actor S M → Actor S M
  | 0, actor => actor
  | limit + 1, actor =>
      match actor.traffic.take? () with
      | none => actor
      | some (event, traffic) =>
          pump chart limit ({ actor with traffic := traffic }.order chart (.dispatch event))

/-- How many events a thread takes at most before it is at rest. -/
def patience : Nat := 1000000

/-- Lets a running thread empty the mailbox. -/
def settle (chart : Chart S M) (actor : Actor S M) : Actor S M :=
  if actor.isRunning then pump chart patience actor else actor

def start (chart : Chart S M) (actor : Actor S M) : Actor S M :=
  match actor.lifecycle with
  | .idle => settle chart ({ actor with lifecycle := actor.lifecycle.start }.order chart .start)
  | _ => actor

def post (chart : Chart S M) (actor : Actor S M) (event : Event) (topic : Topic) : Actor S M :=
  settle chart { actor with traffic := actor.traffic.post event topic }

/-- Puts an event into the mailbox without the broker. -/
def tell (chart : Chart S M) (actor : Actor S M) (event : Event) : Actor S M :=
  settle chart { actor with traffic := actor.traffic.deliver () event }

/-- Lets timers fire until none is pending, for at most `deadlines` deadlines. -/
def fireAll (chart : Chart S M) : Nat → Actor S M → Actor S M
  | 0, actor => actor
  | deadlines + 1, actor =>
      if actor.traffic.service.pendingCount = 0 then actor
      else fireAll chart deadlines (settle chart { actor with traffic := actor.traffic.fireNext })

/-- Runs the timer thread until no timer is pending, and stops it. -/
def runTimers (chart : Chart S M) (actor : Actor S M) : Actor S M :=
  let onService (change : TimerService → TimerService) (actor : Actor S M) : Actor S M :=
    { actor with traffic := actor.traffic.withService (change actor.traffic.service) }
  let actor := onService .start actor
  onService .stop
    (if actor.traffic.service.isRunning then fireAll chart patience actor else actor)

end Thread

/-- Registers the mailbox for one more topic. -/
def subscribe (actor : Actor S M) (topic : Topic) : Actor S M :=
  let exchange := actor.traffic.exchange
  { actor with
    traffic := { actor.traffic with
      exchange := exchange.withBroker (exchange.broker.subscribe () topic) } }

def stop (actor : Actor S M) : Actor S M :=
  { actor with lifecycle := actor.lifecycle.stop }

/-- Ends the thread and removes the mailbox from all topics. -/
def retire (actor : Actor S M) : Actor S M :=
  let exchange := actor.traffic.exchange
  { actor.stop with
    traffic := { actor.traffic with
      exchange := exchange.withBroker (exchange.broker.unsubscribeAll ()) } }

end Actor

end Tether
