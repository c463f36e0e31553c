import Tether.Proofs.Event.RoundTrip
import Tether.Proofs.Frame.Delivery
import Tether.Proofs.Link.Inbound

/-!
# What the served client receives

While a client is served, what is posted on the forwarded topics waits in its queue, and the oldest
value of the queue is sent to it (`Sends`), at any pace as long as the queue has room and the stream
does not fail. What has been sent and what waits are at any time what is due to the client
(`Sends.account`): the events of the forwarded topics, in their order, without those that do not fit
a frame. So a client that has received everything reads just these events back
(`reads_back`). The link posts and sends each event that it forwards at once (`Forwards`).
-/

namespace Tether

namespace Link

open Tether.Frame

/-- The events that are due to a client: those posted on a forwarded topic that fit a frame. -/
def due (max : Nat) (posted : List (Topic × Event)) : List Event :=
  (posted.filter fun post =>
    decide (post.1 ∈ forwardedTopics ∧ Fits max post.2.toJson)).map Prod.snd

/-- What has been posted since a client connected, what waits for it, and what has been sent. -/
inductive Sends (max : Nat) : List (Topic × Event) → Outbound → Sink → Prop where
  | connected {sink : Sink} (fresh : sink.taken = []) : Sends max [] .empty sink
  | pass {posted : List (Topic × Event)} {outbound : Outbound} {sink : Sink}
      (earlier : Sends max posted outbound sink) {topic : Topic} (event : Event)
      (other : topic ∉ forwardedTopics) :
      Sends max (posted ++ [(topic, event)]) outbound sink
  | post {posted : List (Topic × Event)} {outbound : Outbound} {sink : Sink}
      (earlier : Sends max posted outbound sink) {topic : Topic} (event : Event)
      (forwarded : topic ∈ forwardedTopics) (room : outbound.items.length < Limits.outbound) :
      Sends max (posted ++ [(topic, event)]) (enqueue outbound event) sink
  | send {posted : List (Topic × Event)} {outbound rest : Outbound} {value : Json}
      {sink later : Sink} (earlier : Sends max posted outbound sink)
      (popped : outbound.pop? = some (value, rest))
      (sent : transmit max [value] sink = (true, later)) : Sends max posted rest later

/-! ## Sending a value -/

variable {max : Nat} {value : Json} {sink later : Sink}

/-- The bodies of the values that fit a frame. -/
def bodiesOf (max : Nat) (values : List Json) : List (List UInt8) :=
  (values.filter fun value => decide (Fits max value)).map Json.toBytes

theorem bodiesOf_append (values more : List Json) :
    bodiesOf max (values ++ more) = bodiesOf max values ++ bodiesOf max more := by
  rw [bodiesOf, List.filter_append, List.map_append]
  rfl

theorem bodiesOf_singleton (value : Json) :
    bodiesOf max [value] = if Fits max value then [value.toBytes] else [] := by
  by_cases fits : Fits max value <;> simp [bodiesOf, fits]

/-- What a value that is sent adds to the bytes that the client receives splits into its body, if it
has one. -/
theorem transmit_splits (limit : max < maxHeader)
    (sent : transmit max [value] sink = (true, later)) :
    ∃ bytes, later.taken = sink.taken ++ bytes ∧
      Splits max bytes (bodiesOf max [value]) none := by
  rw [transmit] at sent
  rcases write_cases limit value sink with
    ⟨fits, after, written, taken⟩ | ⟨-, text, after, written⟩ | ⟨long, length, written⟩
  · rw [written] at sent
    cases sent
    refine ⟨_, taken, ?_⟩
    rw [bodiesOf_singleton, if_pos fits]
    exact splits_frame (Nat.le_of_lt limit) fits
  · rw [written] at sent
    cases sent
  · rw [written] at sent
    cases sent
    refine ⟨[], (List.append_nil _).symm, ?_⟩
    rw [bodiesOf_singleton, if_neg long]
    exact .done

/-- A stream without a limit does not fail. -/
theorem transmit_unlimited (limit : max < maxHeader) (unlimited : sink.IsUnlimited)
    (value : Json) :
    ∃ later, transmit max [value] sink = (true, later) ∧ later.IsUnlimited := by
  rw [transmit]
  rcases write_unlimited limit unlimited value with ⟨later, written, still⟩ |
    ⟨length, written⟩
  · rw [written]
    exact ⟨later, rfl, still⟩
  · rw [written]
    exact ⟨sink, rfl, unlimited⟩

/-! ## Sessions -/

variable {posted : List (Topic × Event)} {outbound : Outbound}

theorem due_concat (post : Topic × Event) :
    due max (posted ++ [post]) = due max posted ++ due max [post] := by
  rw [due, List.filter_append, List.map_append]
  rfl

theorem due_singleton (topic : Topic) (event : Event) :
    due max [(topic, event)] =
      if topic ∈ forwardedTopics ∧ Fits max event.toJson then [event] else [] := by
  by_cases heard : topic ∈ forwardedTopics ∧ Fits max event.toJson <;> simp [due, heard]

/-- What has been sent and what waits are what is due. -/
theorem Sends.account (sends : Sends max posted outbound sink) (limit : max < maxHeader) :
    ∃ bodies, Splits max sink.taken bodies none ∧
      bodies ++ bodiesOf max outbound.items =
        (due max posted).map fun event => event.toJson.toBytes := by
  induction sends with
  | connected fresh =>
    refine ⟨[], ?_, rfl⟩
    rw [fresh]
    exact .done
  | pass _ event other ih =>
    obtain ⟨bodies, splits, account⟩ := ih
    refine ⟨bodies, splits, ?_⟩
    rw [due_concat, due_singleton, if_neg fun heard => other heard.1, List.append_nil, account]
  | post _ event forwarded room ih =>
    obtain ⟨bodies, splits, account⟩ := ih
    refine ⟨bodies, splits, ?_⟩
    rw [enqueue, Mailbox.items_put_of_lt room, bodiesOf_append, ← List.append_assoc, account,
      due_concat, List.map_append, bodiesOf_singleton, due_singleton]
    by_cases fits : Fits max event.toJson
    · rw [if_pos fits, if_pos ⟨forwarded, fits⟩]
      rfl
    · rw [if_neg fits, if_neg fun heard => fits heard.2]
      rfl
  | send _ popped sent ih =>
    obtain ⟨bodies, splits, account⟩ := ih
    obtain ⟨bytes, taken, more⟩ := transmit_splits limit sent
    refine ⟨_, taken ▸ splits.append more, ?_⟩
    rw [Mailbox.items_of_pop? popped] at account
    rw [List.append_assoc, ← bodiesOf_append]
    exact account

/-- If the stream does not fail, all that waits can be sent. -/
theorem Sends.flush (sends : Sends max posted outbound sink) (limit : max < maxHeader)
    (unlimited : sink.IsUnlimited) :
    ∃ last later, Sends max posted last later ∧ last.items = [] := by
  generalize waiting : outbound.items = values
  induction values generalizing outbound sink with
  | nil => exact ⟨outbound, sink, sends, waiting⟩
  | cons value values ih =>
    cases popped : outbound.pop? with
    | none =>
      rw [Mailbox.pop?_eq_none_iff.mp popped] at waiting
      cases waiting
    | some oldest =>
      obtain ⟨later, sent, still⟩ := transmit_unlimited limit unlimited oldest.1
      have rest := Mailbox.items_of_pop? popped
      rw [waiting] at rest
      exact ih (sends.send popped sent) still (List.cons.inj rest).2.symm

/-- A link whose client has received all that was due to it. -/
structure Forwards (posted : List (Topic × Event)) (client : Client) (link : Link) : Prop where
  serves : link.Serves client
  live : client.ended = false
  unlimited : client.received.IsUnlimited
  sends : Sends link.max posted .empty client.received

variable {link : Link} {client : Client}

/-- Nothing is due to a client that has just connected. -/
theorem forwards_connect (running : link.worker.isRunning = true)
    (free : ∀ client ∈ link.clients, client.ended = true) (name : String) :
    ∃ after, link.connect name = ([], after) ∧ after.Forwards [] (.new name) := by
  obtain ⟨after, settled, serves, -⟩ :=
    @Serves.settle_eq (.new name) (.new name) _ (serves_new running free name) rfl [] rfl rfl
  exact ⟨after, settled, serves, rfl, ⟨rfl, rfl⟩, .connected rfl⟩

theorem forward_max (link : Link) (event : Event) (topic : Topic) :
    (link.forward event topic).max = link.max := by
  unfold Link.forward
  split
  · split <;> rfl
  · rfl

/-- When the link forwards an event, it is posted and, if the topic is a forwarded one, sent. -/
theorem Forwards.forward (forwards : link.Forwards posted client) (limit : link.max < maxHeader)
    (event : Event) (topic : Topic) :
    ∃ after, (link.forward event topic).Forwards (posted ++ [(topic, event)]) after := by
  obtain ⟨serves, live, unlimited, sends⟩ := forwards
  have same := forward_max link event topic
  by_cases forwarded : topic ∈ forwardedTopics
  · obtain ⟨later, sent, still⟩ := transmit_unlimited limit unlimited event.toJson
    have transmitted : transmit link.max (enqueue .empty event).items client.received =
        (true, later) := sent
    have received : (link.forward event topic).Serves { client with received := later } := by
      have served : link.served? = some client := by
        rw [serves.served?_eq, live]
        rfl
      rw [Link.forward, if_pos forwarded, served]
      have modified := serves.modify (fun client =>
        { client with
          received := (transmit link.max (enqueue .empty event).items client.received).2 }) rfl
      rwa [transmitted] at modified
    refine ⟨_, received, live, still, ?_⟩
    rw [same]
    exact (sends.post event forwarded (by decide)).send rfl sent
  · have unchanged : link.forward event topic = link := if_neg forwarded
    rw [unchanged]
    exact ⟨client, serves, live, unlimited, sends.pass event forwarded⟩

theorem Forwards.forwardAll (forwards : link.Forwards posted client)
    (limit : link.max < maxHeader) (entries : List (Topic × Event)) :
    ∃ after, (entries.foldl (fun link entry => link.forward entry.2 entry.1) link).Forwards
      (posted ++ entries) after := by
  induction entries generalizing link client posted with
  | nil => exact ⟨client, by rwa [List.append_nil]⟩
  | cons entry entries ih =>
    obtain ⟨after, one⟩ := forwards.forward limit entry.2 entry.1
    obtain ⟨last, all⟩ := ih one (by rwa [forward_max])
    rw [List.append_assoc] at all
    exact ⟨last, all⟩

/-! ## Reading back -/

theorem eventOfBody?_toBytes {event : Event} (floatless : event.isFloatless = true) :
    eventOfBody? event.toJson.toBytes = some event := by
  have plain : Json.Plain (125 + 2) event.toJson := event.plain_toJson floatless
  exact eventOfBody?_eq_some.mpr
    ⟨event.toJson, Json.ofBytes?_toBytes plain, Event.ofJson_toJson floatless⟩

/-- However the stream is cut, a client that has received everything reads back the events that were
due to it, in the order in which they were posted, and then meets the end of the stream. -/
theorem reads_back {source : List Chunk} (limit : max ≤ Limits.maxFrame)
    (sends : Sends max posted outbound sink) (sent : outbound.items = [])
    (floatless : ∀ event ∈ due max posted, event.isFloatless = true)
    (delivers : Delivers source sink.taken) :
    ∃ bodies, readAll max source = (bodies, none) ∧
      bodies.map eventOfBody? = (due max posted).map some := by
  have small : max < maxHeader := Nat.lt_of_le_of_lt limit (by decide)
  obtain ⟨bodies, splits, account⟩ := sends.account small
  rw [sent] at account
  have all : bodies = (due max posted).map fun event => event.toJson.toBytes :=
    (List.append_nil bodies).symm.trans account
  refine ⟨bodies, readAll_of_splits splits delivers, ?_⟩
  rw [all, List.map_map]
  exact List.map_congr_left fun event member => eventOfBody?_toBytes (floatless event member)

/-- Two short events and one between them that is too long, through a sink that takes the first
writes in parts. -/
theorem reads_back_oversized :
    ∃ outbound sink source, Sends 30
        [(.heartbeat, .heartbeat), (.cameraEvent, .captureDone true "capture0001.nef"),
          (.modeState, .modeStopped)] outbound sink ∧
      outbound.items = [] ∧ Delivers source sink.taken ∧
      ∃ bodies, readAll 30 source = (bodies, none) ∧
        bodies.map eventOfBody? = [some .heartbeat, some .modeStopped] := by
  have started : Sends 30 [] .empty ⟨none, none, [.upTo 0, .upTo 6], [], 0, "", ""⟩ :=
    .connected rfl
  have posted := ((started.post .heartbeat (show .heartbeat ∈ forwardedTopics by decide)
    (by decide)).post (.captureDone true "capture0001.nef")
      (show .cameraEvent ∈ forwardedTopics by decide) (by decide)).post .modeStopped
        (show .modeState ∈ forwardedTopics by decide) (by decide)
  obtain ⟨outbound, sink, sends, sent⟩ := posted.flush (by decide) ⟨rfl, rfl⟩
  have expected : due 30
      [(.heartbeat, .heartbeat), (.cameraEvent, .captureDone true "capture0001.nef"),
        (.modeState, .modeStopped)] = [.heartbeat, .modeStopped] := by
    decide +kernel
  have floatless : ∀ event ∈ [Event.heartbeat, .modeStopped], event.isFloatless = true := by
    decide
  have delivers := delivers_bytewise sink.taken
  obtain ⟨bodies, read, events⟩ := reads_back (by decide) sends sent
    (fun event member => floatless event (Eq.mp (congrArg (event ∈ ·) expected) member)) delivers
  exact ⟨outbound, sink, _, sends, sent, delivers, bodies, read,
    events.trans (congrArg (List.map some) expected)⟩

end Link

end Tether
