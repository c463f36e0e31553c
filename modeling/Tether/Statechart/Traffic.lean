import Tether.Broker.Exchange
import Tether.Statechart.Machine

/-!
# Machines on a broker

What machines on one broker share: their mailboxes, the timers, and a record of everything that is
posted. What a machine posts during a turn is delivered at the end of the turn, in its order.
-/

namespace Tether

/-- The mailboxes of machines on a broker, and what has been posted there, oldest first. -/
structure Traffic (σ : Type) where
  exchange : Exchange σ Limits.mailbox
  posted : List (Topic × Event)

namespace Traffic

variable {σ : Type} [DecidableEq σ]

/-- Empty mailboxes for machines with their topics. -/
def new (machines : List (σ × List Topic)) : Traffic σ where
  exchange :=
    machines.foldl
      (fun exchange (machine, topics) =>
        exchange.withBroker (exchange.broker.subscribeAll machine topics))
      (.new (machines.map (·.1)))
  posted := []

def service (traffic : Traffic σ) : TimerService :=
  traffic.exchange.service

def withService (traffic : Traffic σ) (service : TimerService) : Traffic σ :=
  { traffic with exchange := traffic.exchange.withService service }

def inbox (traffic : Traffic σ) (machine : σ) : Mailbox Event Limits.mailbox :=
  traffic.exchange.box machine

def deliver (traffic : Traffic σ) (machine : σ) (event : Event) : Traffic σ :=
  { traffic with exchange := traffic.exchange.deliver machine event }

def post (traffic : Traffic σ) (event : Event) (topic : Topic) : Traffic σ :=
  { exchange := traffic.exchange.post event topic
    posted := traffic.posted ++ [(topic, event)] }

def postFired (traffic : Traffic σ) (fired : List Timer) : Traffic σ :=
  fired.foldl (fun traffic timer => traffic.post timer.event timer.topic) traffic

/-- Lets time pass until the next deadline, and posts what fires then. -/
def fireNext (traffic : Traffic σ) : Traffic σ :=
  let (due, service) := traffic.service.fireNext
  (traffic.withService service).postFired due

/-- Takes over what one entry of the journal of a machine makes visible. -/
def follow {S : Type} (machine : σ) (traffic : Traffic σ) : Effect S → Traffic σ
  | .posted event topic => traffic.post event topic
  | .postedSelf event => traffic.deliver machine event
  | _ => traffic

/-- Takes over the timers and the journal of a turn of a machine. -/
def absorb {S M : Type} (traffic : Traffic σ) (machine : σ) (turn : Turn S M) : Traffic σ :=
  turn.journal.foldl (follow machine)
    (traffic.withService { traffic.service with timers := turn.timers })

/-- Takes the oldest event out of the mailbox of a machine. -/
def take? (traffic : Traffic σ) (machine : σ) : Option (Event × Traffic σ) :=
  (traffic.inbox machine).pop?.map fun (event, box) =>
    (event, { traffic with exchange := traffic.exchange.setBox machine box })

def clearPosted (traffic : Traffic σ) : Traffic σ :=
  { traffic with posted := [] }

end Traffic

end Tether
