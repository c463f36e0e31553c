import Tether.Link
import Tether.Proofs.Frame.Stream

/-!
# What the served client says

The events of a byte string are those of its frames, in their order (`eventsIn`). They are what is
read from any stream that delivers the string (`inbound_eq`), and also what a link hears from a
client that sends the string piece by piece: while the client is served the link attends to it
(`Attends`), which says how much of what it has sent was read.

* `attends_connect`, `Attends.send`, `Attends.close`: what the link hears when the client connects,
  sends a piece, and closes its side;
* `Attends.forward`: what is sent to the client meanwhile does not matter.

A frame that is no event counts for nothing (`eventsIn_skip`).
-/

namespace Tether

namespace Link

open Tether.Frame

/-! ## The events of a byte string -/

/-- The events of the frames of a byte string. -/
def eventsIn (max : Nat) (bytes : List UInt8) : List Event :=
  (split max bytes).1.filterMap eventOfBody?

variable {max : Nat} {bytes : List UInt8} {bodies : List (List UInt8)} {ending : Option FrameError}

theorem eventsIn_of_splits (splits : Splits max bytes bodies ending) :
    eventsIn max bytes = bodies.filterMap eventOfBody? := by
  rw [eventsIn, splits_iff.mp splits]

theorem eventOfBody?_eq_some {body : List UInt8} {event : Event} :
    eventOfBody? body = some event ↔
      ∃ value, Json.ofBytes? body = some value ∧ Event.ofJson value = .ok event := by
  unfold eventOfBody? decodeBody
  cases Json.ofBytes? body with
  | none => simp
  | some value => cases decoded : Event.ofJson value <;> simp [decoded, Except.toOption]

/-- Whole frames do not matter for the events of what comes after them. -/
theorem eventsIn_append {front : List UInt8} (clean : Splits max front bodies none)
    (back : List UInt8) :
    eventsIn max (front ++ back) = eventsIn max front ++ eventsIn max back := by
  obtain ⟨others, ending, splits⟩ := exists_splits max back
  rw [eventsIn_of_splits (clean.append splits), eventsIn_of_splits clean,
    eventsIn_of_splits splits, List.filterMap_append]

theorem eventsIn_frame {head body : List UInt8} (whole : head.length = Limits.frameHeader)
    (length : headerValue head = body.length) (fits : body.length ≤ max) (back : List UInt8) :
    eventsIn max (head ++ (body ++ back)) = (eventOfBody? body).toList ++ eventsIn max back := by
  obtain ⟨others, ending, splits⟩ := exists_splits max back
  rw [eventsIn_of_splits (.frame whole length fits splits), eventsIn_of_splits splits,
    List.filterMap_cons]
  cases eventOfBody? body <;> rfl

/-- A frame that is no event might as well not be there. -/
theorem eventsIn_skip {front head body : List UInt8} (clean : Splits max front bodies none)
    (whole : head.length = Limits.frameHeader) (length : headerValue head = body.length)
    (fits : body.length ≤ max) (foreign : eventOfBody? body = none) (back : List UInt8) :
    eventsIn max (front ++ (head ++ (body ++ back))) = eventsIn max (front ++ back) := by
  rw [eventsIn_append clean, eventsIn_append clean, eventsIn_frame whole length fits, foreign]
  rfl

/-- However a stream is cut, what is heard are the events of what it delivers. -/
theorem inbound_eq (max : Nat) {source : List Chunk} (delivers : Delivers source bytes) :
    inbound max source = eventsIn max bytes := by
  rw [inbound, readAll_eq_split max delivers, eventsIn]

/-! ## The served client -/

/-- Whether a string that ends like this cannot go on: a header announces too much. -/
def isOverrun : Option FrameError → Bool
  | some (.oversized ..) => true
  | _ => false

namespace Client

variable {client : Client}

/-- Reading takes the whole frames of what a client has sent, and ends the session where it has
closed its side or nothing more can be read. -/
theorem readFrames_of_splits (splits : Splits max client.unread bodies ending) {limit : Nat}
    (enough : client.unread.length < limit) :
    ∃ whole left, client.unread = whole ++ left ∧ Splits max whole bodies none ∧
      Splits max left [] ending ∧
      client.readFrames max limit = (bodies.filterMap eventOfBody?,
        { client with
          unread := left
          ended := client.ended || client.finished || isOverrun ending }) := by
  obtain ⟨limit, rfl⟩ := Nat.exists_eq_add_one_of_ne_zero (Nat.ne_zero_of_lt enough)
  generalize unread : client.unread = bytes at splits enough
  induction splits generalizing client limit with
  | done =>
    refine ⟨[], [], rfl, .done, .done, ?_⟩
    rw [readFrames, unread, next_nil]
    simp [isOverrun, ← unread]
  | @frame head body rest bodies ending whole length fits later ih =>
    have header : 0 < Limits.frameHeader := by decide
    rw [List.length_append, List.length_append, whole] at enough
    obtain ⟨before, rfl⟩ := Nat.exists_eq_add_one_of_ne_zero (show limit ≠ 0 by omega)
    obtain ⟨front, left, rfl, clean, stuck, read⟩ :=
      @ih { client with unread := rest } before rfl (by omega)
    refine ⟨head ++ (body ++ front), left, ?_, .frame whole length fits clean, stuck, ?_⟩
    · simp only [List.append_assoc]
    · rw [readFrames, unread, next_frame whole length fits]
      dsimp only
      rw [read, List.filterMap_cons]
      cases eventOfBody? body <;> rfl
  | @cutHeader bytes nonempty short =>
    refine ⟨[], bytes, rfl, .done, .cutHeader nonempty short, ?_⟩
    rw [readFrames, unread, next_cutHeader nonempty short]
    simp [isOverrun, ← unread]
  | @oversized head rest whole exceeds =>
    refine ⟨[], head ++ rest, rfl, .done, .oversized whole exceeds, ?_⟩
    rw [readFrames, unread, next_oversized whole exceeds]
    simp [isOverrun, ← unread]
  | @cutBody head rest whole fits short =>
    refine ⟨[], head ++ rest, rfl, .done, .cutBody whole fits short, ?_⟩
    rw [readFrames, unread, next_cutBody whole fits short]
    simp [isOverrun, ← unread]

/-- A client has sent some bytes and not closed its side. The bodies of all whole frames were read,
and the session is over if nothing more can be. -/
structure Heard (max : Nat) (sent : List UInt8) (bodies : List (List UInt8)) (client : Client) :
    Prop where
  speaking : client.finished = false
  read : ∃ whole ending, sent = whole ++ client.unread ∧ Splits max whole bodies none ∧
    Splits max client.unread [] ending ∧ client.ended = isOverrun ending

theorem heard_new (max : Nat) (name : String) : (new name).Heard max [] [] where
  speaking := rfl
  read := ⟨[], none, rfl, .done, .done, rfl⟩

namespace Heard

variable {sent : List UInt8}

/-- What was read are all frames of what was sent. -/
theorem splits (heard : client.Heard max sent bodies) :
    ∃ ending, Splits max sent bodies ending := by
  obtain ⟨whole, ending, rfl, clean, stuck, -⟩ := heard.read
  refine ⟨ending, ?_⟩
  have both := clean.append stuck
  rwa [List.append_nil] at both

/-- A client that is served sends a piece. -/
theorem readFrames (heard : client.Heard max sent bodies) (served : client.ended = false)
    (piece : List UInt8) {limit : Nat} (enough : (client.unread ++ piece).length < limit) :
    ∃ more after, ({ client with unread := client.unread ++ piece }).readFrames max limit =
        (more.filterMap eventOfBody?, after) ∧
      after.name = client.name ∧ after.Heard max (sent ++ piece) (bodies ++ more) := by
  obtain ⟨whole, _, rfl, clean, -, -⟩ := heard.read
  obtain ⟨more, ending, splits⟩ := exists_splits max (client.unread ++ piece)
  obtain ⟨front, left, parted, cleanOn, stuck, read⟩ := @readFrames_of_splits max more ending
    { client with unread := client.unread ++ piece } splits limit enough
  refine ⟨more, _, read, rfl, heard.speaking, whole ++ front, ending, ?_, clean.append cleanOn,
    stuck, ?_⟩
  · rw [List.append_assoc, List.append_assoc]
    exact congrArg (whole ++ ·) parted
  · show (client.ended || client.finished || isOverrun ending) = isOverrun ending
    rw [served, heard.speaking]
    rfl

/-- What a client sends after its session counts for nothing. -/
theorem ignored (heard : client.Heard max sent bodies) (quits : client.ended = true)
    (piece : List UInt8) :
    { client with unread := client.unread ++ piece }.Heard max (sent ++ piece) bodies where
  speaking := heard.speaking
  read := by
    obtain ⟨whole, ending, rfl, clean, stuck, ended⟩ := heard.read
    rw [ended] at quits
    cases ending with
    | none => cases quits
    | some error =>
      cases error with
      | oversized length limit =>
        refine ⟨whole, _, List.append_assoc _ _ _, clean, stuck.append_of_oversized piece, ?_⟩
        exact ended
      | _ => cases quits

/-- A client that is served closes its side. -/
theorem readFrames_close (heard : client.Heard max sent bodies) {limit : Nat}
    (enough : client.unread.length < limit) :
    ∃ after, ({ client with finished := true }).readFrames max limit = ([], after) ∧
      after.name = client.name ∧ after.ended = true := by
  obtain ⟨_, ending, -, -, stuck, -⟩ := heard.read
  obtain ⟨_, left, -, -, -, read⟩ := @readFrames_of_splits max [] ending
    { client with finished := true } stuck limit enough
  refine ⟨_, read, rfl, ?_⟩
  show (client.ended || true || isOverrun ending) = true
  rw [Bool.or_true, Bool.true_or]

end Heard

end Client

/-! ## The link -/

/-- A link attends to one client: it runs, and all clients before this one are gone. -/
structure Serves (client : Client) (link : Link) : Prop where
  running : link.worker.isRunning = true
  clients : ∃ others, link.clients = others ++ [client] ∧
    ∀ other ∈ others, other.ended = true ∧ other.name ≠ client.name

namespace Serves

variable {client after : Client} {link : Link}

theorem served?_eq (serves : link.Serves client) :
    link.served? = if client.ended then none else some client := by
  obtain ⟨others, clients, gone⟩ := serves.clients
  have none : others.find? (fun other => !other.ended) = none := by
    rw [List.find?_eq_none]
    intro other member
    simp [(gone other member).1]
  rw [served?, if_pos serves.running, clients, List.find?_append, none, Option.none_or]
  cases ended : client.ended <;> simp [ended]

theorem modify (serves : link.Serves client) (change : Client → Client)
    (same : (change client).name = client.name) :
    (link.modify client.name change).Serves (change client) where
  running := serves.running
  clients := by
    obtain ⟨others, clients, gone⟩ := serves.clients
    refine ⟨others, ?_, ?_⟩
    · have kept : others.map (fun other =>
          if other.name = client.name then change other else other) = others := by
        refine (List.map_congr_left fun other member => ?_).trans (List.map_id others)
        exact if_neg (gone other member).2
      show link.clients.map _ = _
      rw [clients, List.map_append, kept, List.map_singleton, if_pos rfl]
    · rw [same]
      exact gone

/-- Where the client that is attended to is gone, nobody is heard. -/
theorem advance_ended (serves : link.Serves client) (quits : client.ended = true)
    (sessions : Nat) : link.advance sessions = ([], link) := by
  cases sessions with
  | zero => rfl
  | succ sessions =>
    rw [advance, serves.served?_eq, if_pos quits]

/-- The client that is attended to is read. -/
theorem settle_eq (serves : link.Serves client) (served : client.ended = false)
    {events : List Event}
    (read : client.readFrames link.max (client.unread.length + 1) = (events, after))
    (same : after.name = client.name) :
    ∃ later, link.settle = (events, later) ∧ later.Serves after ∧ later.max = link.max := by
  have servesOn : (link.modify client.name fun _ => after).Serves after :=
    serves.modify (fun _ => after) same
  refine ⟨link.modify client.name fun _ => after, ?_, servesOn, rfl⟩
  rw [settle, advance, serves.served?_eq, if_neg (by rw [served]; exact Bool.false_ne_true)]
  dsimp only
  rw [read]
  dsimp only
  split
  · next quits => rw [servesOn.advance_ended quits, List.append_nil]
  · rfl

theorem settle_ended (serves : link.Serves client) (quits : client.ended = true) :
    link.settle = ([], link) :=
  serves.advance_ended quits _

end Serves

/-- A link attends to a client of a name that has sent some bytes and not closed its side. -/
structure Attends (max : Nat) (name : String) (sent : List UInt8) (bodies : List (List UInt8))
    (link : Link) : Prop where
  limit : link.max = max
  client : ∃ client : Client, link.Serves client ∧ client.name = name ∧
    client.Heard max sent bodies

variable {link : Link} {name : String} {sent : List UInt8}

/-- A client that is attended to has sent a piece. -/
theorem Serves.hears {client : Client} {piece : List UInt8}
    (serves : link.Serves { client with unread := client.unread ++ piece })
    (heard : client.Heard link.max sent bodies) :
    ∃ more later, link.settle = (more.filterMap eventOfBody?, later) ∧
      later.Attends link.max client.name (sent ++ piece) (bodies ++ more) := by
  cases ended : client.ended with
  | true =>
    refine ⟨[], link, serves.settle_ended ended, rfl, _, serves, rfl, ?_⟩
    rw [List.append_nil]
    exact heard.ignored ended piece
  | false =>
    obtain ⟨more, after, read, same, heardOn⟩ :=
      heard.readFrames ended piece (Nat.lt_succ_self _)
    obtain ⟨later, settled, servesOn, limit⟩ := serves.settle_eq ended read same
    exact ⟨more, later, settled, limit, after, servesOn, same, heardOn⟩

/-- A link attends to a client that has just connected when all others are gone. -/
theorem serves_new (running : link.worker.isRunning = true)
    (free : ∀ client ∈ link.clients, client.ended = true) (name : String) :
    Serves (.new name) { link with
      clients := link.clients.filter (fun client => client.name != name) ++ [.new name] } := by
  refine ⟨running, _, rfl, fun other member => ?_⟩
  obtain ⟨present, different⟩ := List.mem_filter.mp member
  exact ⟨free other present, bne_iff_ne.mp different⟩

theorem attends_connect (running : link.worker.isRunning = true)
    (free : ∀ client ∈ link.clients, client.ended = true) (name : String) :
    ∃ bodies after, link.connect name = (bodies.filterMap eventOfBody?, after) ∧
      after.Attends link.max name [] bodies :=
  @Serves.hears [] _ [] (.new name) [] (serves_new running free name)
    (Client.heard_new link.max name)

namespace Attends

/-- What was heard so far are the events of what was sent. -/
theorem eventsIn_eq (attends : link.Attends max name sent bodies) :
    eventsIn max sent = bodies.filterMap eventOfBody? := by
  obtain ⟨client, -, -, heard⟩ := attends.client
  obtain ⟨ending, splits⟩ := heard.splits
  exact eventsIn_of_splits splits

theorem send (attends : link.Attends max name sent bodies) (piece : List UInt8) :
    ∃ more after, link.send name piece = (more.filterMap eventOfBody?, after) ∧
      after.Attends max name (sent ++ piece) (bodies ++ more) := by
  obtain ⟨rfl, client, serves, rfl, heard⟩ := attends
  exact (serves.modify (fun client => { client with unread := client.unread ++ piece }) rfl).hears
    heard

theorem close (attends : link.Attends max name sent bodies) :
    ∃ after, link.close name = ([], after) := by
  obtain ⟨rfl, client, serves, rfl, heard⟩ := attends
  have closed := serves.modify (fun client => { client with finished := true }) rfl
  cases ended : client.ended with
  | true => exact ⟨_, closed.settle_ended ended⟩
  | false =>
    obtain ⟨after, read, same, -⟩ := heard.readFrames_close (Nat.lt_succ_self _)
    obtain ⟨later, settled, -⟩ := closed.settle_eq ended read same
    exact ⟨later, settled⟩

/-- What is sent to the client does not matter for what it is heard to say. -/
theorem forward (attends : link.Attends max name sent bodies) (event : Event) (topic : Topic) :
    (link.forward event topic).Attends max name sent bodies := by
  obtain ⟨rfl, client, serves, rfl, heard⟩ := attends
  unfold Link.forward
  split
  · rw [serves.served?_eq]
    cases client.ended with
    | true => exact ⟨rfl, client, serves, rfl, heard⟩
    | false =>
      exact ⟨rfl, _, serves.modify (fun client => { client with received := _ }) rfl, rfl,
        heard.speaking, heard.read⟩
  · exact ⟨rfl, client, serves, rfl, heard⟩

/-- Nor is what the client fetches. -/
theorem drain (attends : link.Attends max name sent bodies) :
    (link.drain name).2.2.Attends max name sent bodies := by
  obtain ⟨rfl, client, serves, rfl, heard⟩ := attends
  exact ⟨rfl, _, serves.modify (fun client => client.takeReceived.2) rfl, rfl, heard.speaking,
    heard.read⟩

theorem forwardAll (attends : link.Attends max name sent bodies)
    (entries : List (Topic × Event)) :
    (entries.foldl (fun link entry => link.forward entry.2 entry.1) link).Attends max name sent
      bodies :=
  List.foldlRecOn entries _ attends fun _ attending entry _ => attending.forward entry.2 entry.1

end Attends

end Link

end Tether
