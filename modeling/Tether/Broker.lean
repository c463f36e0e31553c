import Tether.Timers.Service

/-!
# The broker

Subscribers register for topics and receive everything that is posted there. A subscriber is named
by a value of a type `σ`; what it does with an event is its own business. Every topic keeps its
subscribers in the order in which they registered, each of them once.
-/

namespace Tether

/-- Who listens to which topic, and the timers of events that are posted later. -/
structure Broker (σ : Type) where
  subscriptions : List (Topic × σ)
  service : TimerService

namespace Broker

variable {σ : Type}

def new : Broker σ :=
  ⟨[], .new⟩

instance : Inhabited (Broker σ) := ⟨new⟩

/-- The subscribers of a topic in the order of their registration. -/
def subscribers (broker : Broker σ) (topic : Topic) : List σ :=
  (broker.subscriptions.filter fun entry => entry.1 == topic).map (·.2)

def subscriberCount (broker : Broker σ) (topic : Topic) : Nat :=
  (broker.subscribers topic).length

/-- The numbers of subscribers of all topics in the order of the topics. -/
def counts (broker : Broker σ) : List Nat :=
  Topic.all.map broker.subscriberCount

section Registration

variable [DecidableEq σ]

/-- Registers a subscriber for a topic. Registering twice has no effect. -/
def subscribe (broker : Broker σ) (subscriber : σ) (topic : Topic) : Broker σ :=
  if (topic, subscriber) ∈ broker.subscriptions then broker
  else { broker with subscriptions := broker.subscriptions ++ [(topic, subscriber)] }

def subscribeAll (broker : Broker σ) (subscriber : σ) (topics : List Topic) : Broker σ :=
  topics.foldl (fun broker topic => broker.subscribe subscriber topic) broker

def unsubscribe (broker : Broker σ) (subscriber : σ) (topic : Topic) : Broker σ :=
  { broker with
    subscriptions := broker.subscriptions.filter fun entry =>
      decide (entry ≠ (topic, subscriber)) }

def unsubscribeAll (broker : Broker σ) (subscriber : σ) : Broker σ :=
  { broker with
    subscriptions := broker.subscriptions.filter fun entry => decide (entry.2 ≠ subscriber) }

end Registration

def withService (broker : Broker σ) (service : TimerService) : Broker σ :=
  { broker with service := service }

end Broker

end Tether
