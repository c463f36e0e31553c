import Tether.Broker
import Tether.Mailbox

/-!
# Mailboxes on a broker

An exchange is a broker whose subscribers are mailboxes of one capacity. Posting an event puts it
into the mailboxes of all subscribers of the topic, in the order of their registration.
-/

namespace Tether

/-- A broker and the mailboxes of its subscribers. -/
structure Exchange (σ : Type) (capacity : Nat) where
  broker : Broker σ
  boxes : List (σ × Mailbox Event capacity)

namespace Exchange

variable {σ : Type} [DecidableEq σ] {capacity : Nat}

/-- An exchange with empty mailboxes for some subscribers, registered for nothing. -/
def new (subscribers : List σ) : Exchange σ capacity :=
  ⟨.new, subscribers.map fun subscriber => (subscriber, .empty)⟩

/-- The mailbox of a subscriber; one that has never been seen is empty. -/
def box (exchange : Exchange σ capacity) (subscriber : σ) : Mailbox Event capacity :=
  (exchange.boxes.lookup subscriber).getD .empty

def setBox (exchange : Exchange σ capacity) (subscriber : σ) (box : Mailbox Event capacity) :
    Exchange σ capacity :=
  if exchange.boxes.any fun entry => entry.1 = subscriber then
    { exchange with
      boxes := exchange.boxes.map fun entry =>
        if entry.1 = subscriber then (subscriber, box) else entry }
  else { exchange with boxes := exchange.boxes ++ [(subscriber, box)] }

/-- Makes sure that a subscriber has a mailbox. -/
def mention (exchange : Exchange σ capacity) (subscriber : σ) : Exchange σ capacity :=
  exchange.setBox subscriber (exchange.box subscriber)

def deliver (exchange : Exchange σ capacity) (subscriber : σ) (event : Event) :
    Exchange σ capacity :=
  exchange.setBox subscriber ((exchange.box subscriber).put event)

/-- Posts an event to all subscribers of a topic. -/
def post (exchange : Exchange σ capacity) (event : Event) (topic : Topic) : Exchange σ capacity :=
  (exchange.broker.subscribers topic).foldl (fun exchange subscriber =>
    exchange.deliver subscriber event) exchange

def postFired (exchange : Exchange σ capacity) (fired : List Timer) : Exchange σ capacity :=
  fired.foldl (fun exchange timer => exchange.post timer.event timer.topic) exchange

def withBroker (exchange : Exchange σ capacity) (broker : Broker σ) : Exchange σ capacity :=
  { exchange with broker := broker }

def service (exchange : Exchange σ capacity) : TimerService :=
  exchange.broker.service

def withService (exchange : Exchange σ capacity) (service : TimerService) :
    Exchange σ capacity :=
  exchange.withBroker (exchange.broker.withService service)

/-- Runs the timer thread until at most `keep` timers are pending; the result tells what fired. -/
def runTimers (exchange : Exchange σ capacity) (keep : Nat) :
    List Timer × Exchange σ capacity :=
  let (fired, service) := exchange.service.run keep
  (fired, (exchange.withService service).postFired fired)

/-- Lets time pass, for at most `deadlines` deadlines, until a subscriber has `count` events.
Nothing fires unless the timer thread runs. -/
def waitFor (subscriber : σ) (count : Nat) :
    Nat → Exchange σ capacity → Exchange σ capacity
  | 0, exchange => exchange
  | deadlines + 1, exchange =>
      if count ≤ (exchange.box subscriber).length ∨ ¬ exchange.service.isRunning then exchange
      else
        let (due, service) := exchange.service.fireNext
        waitFor subscriber count deadlines ((exchange.withService service).postFired due)

/-- The events in the mailbox of a subscriber, which is emptied. -/
def drain (exchange : Exchange σ capacity) (subscriber : σ) :
    List Event × Exchange σ capacity :=
  ((exchange.box subscriber).items, exchange.setBox subscriber .empty)

def lengths (exchange : Exchange σ capacity) : List (σ × Nat) :=
  exchange.boxes.map fun entry => (entry.1, entry.2.length)

end Exchange

end Tether
