import Tether.Broker
import Tether.Event.Wire

/-!
# Taps

A tap listens to every topic and writes one line per event: the name of the event, the topic, and
the event in JSON.
-/

namespace Tether

def Event.tapLine (event : Event) (topic : Topic) : String :=
  event.name ++ " -> " ++ topic.name ++ "    " ++ event.toJson.render

/-- The taps on a broker, the last one first, and how many there have been. -/
structure Taps where
  broker : Broker Nat
  attached : List Nat
  made : Nat

namespace Taps

def none : Taps := ⟨.new, [], 0⟩

/-- Attaches a new tap to every topic. -/
def attach (taps : Taps) : Taps :=
  ⟨taps.broker.subscribeAll taps.made Topic.all, taps.made :: taps.attached, taps.made + 1⟩

/-- Detaches the tap that was attached last. -/
def detach (taps : Taps) : Taps :=
  match taps.attached with
  | [] => taps
  | tap :: rest => { taps with broker := taps.broker.unsubscribeAll tap, attached := rest }

/-- The lines that the taps write when an event is posted. -/
def lines (taps : Taps) (event : Event) (topic : Topic) : List String :=
  (taps.broker.subscribers topic).map fun _ => event.tapLine topic

end Taps

end Tether
