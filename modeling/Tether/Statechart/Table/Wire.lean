import Tether.Event.Wire
import Tether.Statechart.Table

/-!
# Tables in JSON

A table is an object with the list of its states and the initial one. A state has a name, a parent
and an object of rules by their keys; a rule is one response or the list of responses to its uses.
-/

namespace Tether

namespace Table

/-- The key of a text. The number of an event has no superfluous zero and no separators. -/
def Key.ofText? : String → Option Key
  | "entry" => some .entry
  | "exit" => some .exit
  | "init" => some .init
  | "*" => some .anyEvent
  | digits => do
      let id ← digits.toNat?
      if toString id = digits then some (.event id) else none

/-- The act of a name, or of an object with an event. -/
def Act.ofJson : Json → Except Json.Mismatch Act
  | .str "defer" => .ok .defer
  | .str "process_deferred" => .ok .replay
  | .str "cancel" => .ok .cancel
  | json => do
      match ← json.read? "post" Event.ofShort, ← json.read? "post_self" Event.ofShort with
      | some event, _ => return .post event (← json.read "topic" Topic.ofJson)
      | none, some event => return .postSelf event
      | none, none =>
          return .delay (← json.read "delay" Event.ofShort) (← json.read "topic" Topic.ofJson)
            (← json.read "ms" Json.toNat)

def Response.ofJson (json : Json) : Except Json.Mismatch Response := do
  return ⟨← (← json.readOr "do" Json.toItems []).mapM Act.ofJson,
    ← json.read? "to" Json.toText, ← json.readOr "delegate" Json.toBool false⟩

/-- The responses of one rule. -/
def responsesOfJson : Json → Except Json.Mismatch (List Response)
  | .arr items => items.mapM Response.ofJson
  | one => return [← Response.ofJson one]

/-- The row of an object. A rule whose key is that of no signal is never used. -/
def Row.ofJson (json : Json) : Except Json.Mismatch Row := do
  let rules ← (← json.readOr "on" Json.toMembers []).mapM fun (key, responses) => do
    return (Key.ofText? key, ← responsesOfJson responses)
  return ⟨← json.read "name" Json.toText, ← json.read? "parent" Json.toText,
    rules.filterMap fun (key, responses) => key.map fun key => (key, responses)⟩

def ofJson (json : Json) : Except Json.Mismatch (Chart String Memory) := do
  return chart (← (← json.read "states" Json.toItems).mapM Row.ofJson)
    (← json.read "initial" Json.toText)

end Table

end Tether
