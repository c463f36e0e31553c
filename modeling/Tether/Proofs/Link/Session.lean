import Tether.Controller
import Tether.Proofs.Assembly.Silence
import Tether.Proofs.Link.Inbound

/-!
# The session of a remote client

From the moment a client connects until it closes its side, the controller posts the events of what
the client sends on the topic of remote clients, each of them once and in their order, and nothing
else is said there (`session_posts`). It does not matter into which pieces the bytes are cut, nor
what happens in between: events are posted on other topics, time passes, timers fire, and the
machines have their turns.

* `Speaks`: what is said as a remote client while the controller works. The machines say nothing
  (`settle_speaks`), nor do timers (`waitUntil_speaks`), and a link only forwards meanwhile;
* `Hears`: how far the controller is with what the client has sent. Everything that can happen
  during the session keeps it up (`Hears.pass`);
* `Reachable.quiet`: no controller that there can be has a timer that speaks as a remote client.
-/

namespace Tether

namespace Controller

variable {δ : Type}

/-! ## What is said as a remote client -/

/-- No pending timer will speak as a remote client. -/
def Quiet (controller : Controller δ) : Prop :=
  controller.assembly.traffic.Quiet Link.remoteTopic

/-- What has been said as a remote client. -/
def remoteEvents (controller : Controller δ) : List Event :=
  saidOn Link.remoteTopic controller.posted

/-- Some events are posted as those of a remote client, and the link only forwards others. -/
structure Speaks (events : List Event) (before after : Controller δ) : Prop where
  said : after.remoteEvents = before.remoteEvents ++ events
  quiet : before.Quiet → after.Quiet
  forwards : ∃ entries : List (Topic × Event), after.link? = before.link?.map fun link =>
    entries.foldl (fun link entry => link.forward entry.2 entry.1) link

namespace Speaks

theorem refl (controller : Controller δ) : Speaks [] controller controller :=
  ⟨(List.append_nil _).symm, id, [], Option.map_id'.symm⟩

theorem trans {events later : List Event} {before middle after : Controller δ}
    (first : Speaks events before middle) (second : Speaks later middle after) :
    Speaks (events ++ later) before after := by
  obtain ⟨entries, forwards⟩ := first.forwards
  obtain ⟨others, forwardsOn⟩ := second.forwards
  refine ⟨?_, fun quiet => second.quiet (first.quiet quiet), entries ++ others, ?_⟩
  · rw [second.said, first.said, List.append_assoc]
  · rw [forwardsOn, forwards, Option.map_map]
    simp only [List.foldl_append]
    rfl

/-- What says nothing before it. -/
theorem after_silence {events : List Event} {before middle after : Controller δ}
    (first : Speaks [] before middle) (second : Speaks events middle after) :
    Speaks events before after :=
  first.trans second

theorem of_silent {before after : Controller δ}
    (silent : Traffic.Silent Link.remoteTopic before.assembly.traffic after.assembly.traffic)
    (linked : after.link? = before.link?) : Speaks [] before after where
  said := silent.said.trans (List.append_nil _).symm
  quiet := silent.quiet
  forwards := ⟨[], linked.trans Option.map_id'.symm⟩

end Speaks

section Work

variable (driver : Driver δ) (controller : Controller δ)

theorem relay_speaks : Speaks [] controller controller.relay :=
  ⟨(List.append_nil _).symm, id, _, rfl⟩

/-- The machines never speak as remote clients. -/
theorem settle_speaks : Speaks [] controller (controller.settle driver) := by
  have rounds (limit : Nat) : Speaks [] controller
      { controller with assembly := (controller.assembly.rounds driver limit).1 } :=
    .of_silent (Assembly.rounds_silent driver limit controller.assembly) rfl
  unfold settle
  split
  · exact (rounds patience).after_silence (relay_speaks _)
  · exact relay_speaks controller

theorem post_speaks {topic : Topic} (other : topic ≠ Link.remoteTopic) (event : Event) :
    Speaks [] controller (controller.post driver event topic) := by
  have posted : Speaks [] controller
      { controller with assembly := controller.assembly.post event topic } :=
    .of_silent (Traffic.post_silent other controller.assembly.traffic event) rfl
  exact posted.after_silence (settle_speaks driver _)

theorem post_remote_speaks (event : Event) :
    Speaks [event] controller (controller.post driver event Link.remoteTopic) := by
  have posted : Speaks [event] controller
      { controller with assembly := controller.assembly.post event Link.remoteTopic } :=
    ⟨saidOn_concat _ _ event, fun quiet => Traffic.quiet_post quiet event Link.remoteTopic, [],
      Option.map_id'.symm⟩
  exact posted.trans (settle_speaks driver _)

theorem postAll_remote_speaks (events : List Event) :
    Speaks events controller (events.foldl
      (fun controller event => controller.post driver event Link.remoteTopic) controller) := by
  induction events generalizing controller with
  | nil => exact .refl controller
  | cons event rest ih => exact (post_remote_speaks driver controller event).trans (ih _)

theorem setTime_speaks (now : Nat) : Speaks [] controller (controller.setTime now) :=
  .of_silent ⟨rfl, id⟩ rfl

theorem fireNext_speaks (quiet : controller.Quiet) :
    Speaks [] controller (controller.fireNext driver) := by
  have fired : Speaks [] controller { controller with
      assembly := { controller.assembly with traffic := controller.assembly.traffic.fireNext } } :=
    .of_silent (Traffic.fireNext_silent quiet) rfl
  exact fired.after_silence (settle_speaks driver _)

theorem waitUntil_speaks (met : List (Topic × Event) → Bool) (limit deadlines : Nat)
    (quiet : controller.Quiet) :
    Speaks [] controller (controller.waitUntil driver met limit deadlines).2 := by
  induction deadlines generalizing controller with
  | zero => exact .refl controller
  | succ deadlines ih =>
    unfold waitUntil
    split
    · exact .refl controller
    · split
      · have fired := fireNext_speaks driver controller quiet
        exact fired.after_silence (ih _ (fired.quiet quiet))
      · exact setTime_speaks controller limit

end Work

/-! ## Hearing the client -/

/-- The controller has posted the events of what a client has sent, after what was said before. -/
structure Hears (max : Nat) (name : String) (earlier : List Event) (sent : List UInt8)
    (controller : Controller δ) : Prop where
  quiet : controller.Quiet
  attends : ∃ link bodies, controller.link? = some link ∧ link.Attends max name sent bodies ∧
    controller.remoteEvents = earlier ++ bodies.filterMap Link.eventOfBody?

variable {max : Nat} {name : String} {earlier : List Event} {sent : List UInt8}
  {controller after : Controller δ}

theorem Hears.said (hears : controller.Hears max name earlier sent) :
    controller.remoteEvents = earlier ++ Link.eventsIn max sent := by
  obtain ⟨link, bodies, -, attends, said⟩ := hears.attends
  rw [said, attends.eventsIn_eq]

/-- Meanwhile nothing is said. -/
theorem Hears.idle (hears : controller.Hears max name earlier sent)
    (silence : Speaks [] controller after) : after.Hears max name earlier sent := by
  obtain ⟨quiet, link, bodies, linked, attends, said⟩ := hears
  obtain ⟨entries, forwards⟩ := silence.forwards
  refine ⟨silence.quiet quiet, _, bodies, ?_, attends.forwardAll entries, ?_⟩
  · rw [forwards, linked]
    rfl
  · rw [silence.said, said, List.append_nil]

/-- What the link hears is posted. -/
theorem onLink_speaks (driver : Driver δ) {link later : Link}
    (linked : controller.link? = some link)
    (change : Link → List Event × Link) {events : List Event}
    (heard : change link = (events, later)) :
    Speaks events { controller with link? := some later } (controller.onLink driver change) := by
  unfold onLink
  rw [linked]
  dsimp only
  rw [heard]
  exact postAll_remote_speaks driver _ events

/-- What can happen while a client is served. -/
inductive Moment where
  /-- The client has sent a piece. -/
  | sends (piece : List UInt8)
  /-- The client fetches what it was sent. -/
  | fetches
  /-- Time passes. -/
  | waits (limit : Nat)
  /-- An event is posted, but not as that of a remote client. -/
  | posts (event : Event) (topic : Topic) (other : topic ≠ Link.remoteTopic)

/-- What the client sends in a moment. -/
def Moment.bytes : Moment → List UInt8
  | .sends piece => piece
  | _ => []

/-- A client fetches what it was sent. -/
def drainClient (controller : Controller δ) (name : String) : Controller δ :=
  { controller with link? := controller.link?.map fun link => (link.drain name).2.2 }

def pass (driver : Driver δ) (name : String) (controller : Controller δ) :
    Moment → Controller δ
  | .sends piece => controller.receive driver name piece
  | .fetches => controller.drainClient name
  | .waits limit => controller.advanceTo driver limit
  | .posts event topic _ => controller.post driver event topic

/-- A client connects, some moments pass, and it closes its side. -/
def session (driver : Driver δ) (name : String) (controller : Controller δ)
    (moments : List Moment) : Controller δ :=
  (moments.foldl (pass driver name) (controller.connectClient driver name)).closeClient driver name

namespace Hears

variable (driver : Driver δ)

theorem connect {link : Link} (quiet : controller.Quiet) (linked : controller.link? = some link)
    (running : link.worker.isRunning = true)
    (free : ∀ client ∈ link.clients, client.ended = true) (name : String) :
    (controller.connectClient driver name).Hears link.max name controller.remoteEvents [] := by
  obtain ⟨bodies, later, heard, attends⟩ := Link.attends_connect running free name
  obtain ⟨said, quietLater, entries, forwards⟩ :=
    onLink_speaks driver linked (·.connect name) heard
  exact ⟨quietLater quiet, _, bodies, forwards, attends.forwardAll entries, said⟩

theorem send (hears : controller.Hears max name earlier sent) (piece : List UInt8) :
    (controller.receive driver name piece).Hears max name earlier (sent ++ piece) := by
  obtain ⟨quiet, link, bodies, linked, attends, before⟩ := hears
  obtain ⟨more, later, heard, attendsLater⟩ := attends.send piece
  obtain ⟨said, quietLater, entries, forwards⟩ :=
    onLink_speaks driver linked (·.send name piece) heard
  refine ⟨quietLater quiet, _, bodies ++ more, forwards, attendsLater.forwardAll entries, ?_⟩
  have now : controller.remoteEvents ++ more.filterMap Link.eventOfBody? =
      earlier ++ (bodies ++ more).filterMap Link.eventOfBody? := by
    rw [before, List.filterMap_append, List.append_assoc]
  exact said.trans now

/-- When the client closes its side, nothing is left to be said. -/
theorem close (hears : controller.Hears max name earlier sent) :
    (controller.closeClient driver name).remoteEvents = earlier ++ Link.eventsIn max sent := by
  obtain ⟨link, bodies, linked, attends, -⟩ := hears.attends
  obtain ⟨later, heard⟩ := attends.close
  have said := (onLink_speaks driver linked (·.close name) heard).said
  rw [List.append_nil] at said
  exact said.trans hears.said

theorem drain (hears : controller.Hears max name earlier sent) :
    (controller.drainClient name).Hears max name earlier sent := by
  obtain ⟨quiet, link, bodies, linked, attends, said⟩ := hears
  exact ⟨quiet, _, bodies, congrArg (Option.map _) linked, attends.drain, said⟩

theorem pass (hears : controller.Hears max name earlier sent) (moment : Moment) :
    (controller.pass driver name moment).Hears max name earlier (sent ++ moment.bytes) := by
  have still : sent ++ [] = sent := List.append_nil sent
  cases moment with
  | sends piece => exact hears.send driver piece
  | fetches => exact still.symm ▸ hears.drain
  | waits limit =>
    exact still.symm ▸ hears.idle (waitUntil_speaks driver controller _ limit _ hears.quiet)
  | posts event topic other =>
    exact still.symm ▸ hears.idle (post_speaks driver controller other event)

theorem passAll (moments : List Moment) (hears : controller.Hears max name earlier sent) :
    (moments.foldl (Controller.pass driver name) controller).Hears max name earlier
      (sent ++ moments.flatMap Moment.bytes) := by
  induction moments generalizing controller sent with
  | nil => simpa using hears
  | cons moment rest ih =>
    have later := ih (hears.pass driver moment)
    rwa [List.append_assoc] at later

end Hears

/-! ## The controllers that there can be -/

/-- What a controller can become from the moment it is made. -/
inductive Reachable (driver : Driver δ) : Controller δ → Prop where
  | made {host : Host} {config : Config} {device : δ} {controller : Controller δ}
      (made : Controller.new host config driver device = .ok controller) :
      Reachable driver controller
  | start {controller : Controller δ} (reachable : Reachable driver controller) :
      Reachable driver (controller.start driver)
  | quit {controller : Controller δ} (reachable : Reachable driver controller) :
      Reachable driver controller.quit
  | shutdown {controller : Controller δ} (reachable : Reachable driver controller) :
      Reachable driver controller.shutdown
  | post {controller : Controller δ} (reachable : Reachable driver controller) (event : Event)
      (topic : Topic) : Reachable driver (controller.post driver event topic)
  | connect {controller : Controller δ} (reachable : Reachable driver controller)
      (name : String) : Reachable driver (controller.connectClient driver name)
  | receive {controller : Controller δ} (reachable : Reachable driver controller)
      (name : String) (bytes : List UInt8) : Reachable driver (controller.receive driver name bytes)
  | close {controller : Controller δ} (reachable : Reachable driver controller)
      (name : String) : Reachable driver (controller.closeClient driver name)
  | drain {controller : Controller δ} (reachable : Reachable driver controller)
      (name : String) : Reachable driver (controller.drainClient name)
  | fireNext {controller : Controller δ} (reachable : Reachable driver controller) :
      Reachable driver (controller.fireNext driver)
  | setTime {controller : Controller δ} (reachable : Reachable driver controller) (now : Nat) :
      Reachable driver (controller.setTime now)
  | forget {controller : Controller δ} (reachable : Reachable driver controller) :
      Reachable driver controller.forget

theorem onLink_quiet (driver : Driver δ) (quiet : controller.Quiet)
    (change : Link → List Event × Link) : (controller.onLink driver change).Quiet := by
  unfold onLink
  cases controller.link? with
  | none => exact quiet
  | some link => exact (postAll_remote_speaks driver _ _).quiet quiet

theorem start_quiet (driver : Driver δ) (quiet : controller.Quiet) :
    (controller.start driver).Quiet := by
  have served : (controller.assembly.withService controller.assembly.service.start).traffic.Quiet
      Link.remoteTopic := quiet
  unfold start
  apply (post_speaks driver _ (by decide) .connect).quiet
  unfold Quiet
  dsimp only
  split
  · exact (Assembly.start_silent driver _).quiet served
  · exact served

theorem shutdown_quiet (controller : Controller δ) : controller.shutdown.Quiet :=
  fun _ member => absurd member List.not_mem_nil

/-- No timer ever speaks as a remote client. -/
theorem Reachable.quiet {driver : Driver δ} (reachable : Reachable driver controller) :
    controller.Quiet := by
  induction reachable with
  | @made host config device controller made =>
    unfold Controller.new at made
    split at made
    · cases made
    · cases linked : makeLink host config with
      | error reason =>
        rw [linked] at made
        cases made
      | ok link? =>
        rw [linked] at made
        cases made
        exact Assembly.quiet_new driver _ _ _ _
  | start _ ih => exact start_quiet driver ih
  | quit _ ih => exact ih
  | shutdown _ _ => exact shutdown_quiet _
  | post _ event topic ih =>
    by_cases other : topic = Link.remoteTopic
    · subst other
      exact (post_remote_speaks driver _ event).quiet ih
    · exact (post_speaks driver _ other event).quiet ih
  | connect _ name ih => exact onLink_quiet driver ih _
  | receive _ name bytes ih => exact onLink_quiet driver ih _
  | close _ name ih => exact onLink_quiet driver ih _
  | drain _ name ih => exact ih
  | fireNext _ ih => exact (fireNext_speaks driver _ ih).quiet ih
  | setTime _ now ih => exact (setTime_speaks _ now).quiet ih
  | forget _ ih => exact ih

/-- A client connects to a running controller when no other one is served, sends some bytes in any
pieces, and closes its side. The bytes split into frames in one way only, and what is posted as the
events of a remote client are those of the frames before the first error of framing, as it is for
every other stream that delivers these bytes. A frame that is no event might as well not have been
sent. -/
theorem session_posts (driver : Driver δ) {link : Link} (reachable : Reachable driver controller)
    (linked : controller.link? = some link) (running : link.worker.isRunning = true)
    (free : ∀ client ∈ link.clients, client.ended = true) (name : String)
    (moments : List Moment) {source : List Chunk} {bytes : List UInt8}
    (sent : moments.flatMap Moment.bytes = bytes) (delivers : Frame.Delivers source bytes) :
    ∃ bodies ending,
      (∀ others last, Frame.Splits link.max bytes others last ↔
        others = bodies ∧ last = ending) ∧
      (∀ body event, Link.eventOfBody? body = some event ↔
        ∃ value, Json.ofBytes? body = some value ∧ Event.ofJson value = .ok event) ∧
      (controller.session driver name moments).remoteEvents =
        controller.remoteEvents ++ bodies.filterMap Link.eventOfBody? ∧
      Link.inbound link.max source = bodies.filterMap Link.eventOfBody? ∧
      ∀ front head body back earlier, bytes = front ++ (head ++ (body ++ back)) →
        Frame.Splits link.max front earlier none → head.length = Limits.frameHeader →
        Frame.headerValue head = body.length → body.length ≤ link.max →
        Link.eventOfBody? body = none →
        (controller.session driver name [.sends (front ++ back)]).remoteEvents =
          (controller.session driver name moments).remoteEvents := by
  have connected := Hears.connect driver reachable.quiet linked running free name
  have said (moments : List Moment) : (controller.session driver name moments).remoteEvents =
      controller.remoteEvents ++ Link.eventsIn link.max (moments.flatMap Moment.bytes) :=
    (connected.passAll driver moments).close driver
  obtain ⟨bodies, ending, splits⟩ := Frame.exists_splits link.max bytes
  have events := Link.eventsIn_of_splits splits
  refine ⟨bodies, ending, fun others last => ?_,
    fun _ _ => Link.eventOfBody?_eq_some, ?_, ?_, ?_⟩
  · rw [Frame.splits_iff, Frame.splits_iff.mp splits, Prod.mk.injEq]
    constructor
    · rintro ⟨rfl, rfl⟩
      exact ⟨rfl, rfl⟩
    · rintro ⟨rfl, rfl⟩
      exact ⟨rfl, rfl⟩
  · rw [said, sent, events]
  · rw [Link.inbound_eq link.max delivers, events]
  · rintro front head body back earlier rfl clean whole length fits foreign
    rw [said, said, sent, Link.eventsIn_skip clean whole length fits foreign]
    simp [Moment.bytes]

/-- No camera at all. -/
def absentCamera : Driver Unit where
  name _ := "absent"
  isConnected _ := false
  perform call _ :=
    match call with
    | .disconnect => (.ok (), ())
    | _ => (.error .notConnected, ())

/-- The JSON text of the event that asks for a picture. -/
def captureText : List UInt8 :=
  [123, 34, 101, 118, 101, 110, 116, 95, 105, 100, 34, 58, 49, 51, 125]

/-- The header of a frame comes in two pieces, time passes in between, and behind the frame the
stream ends inside a header. -/
theorem session_posts_cutHeader :
    ∃ controller, Reachable absentCamera controller ∧
      (controller.session absentCamera "phone"
        [.sends [0, 0], .waits 5, .posts .heartbeat .heartbeat (by decide), .fetches,
          .sends (0 :: 15 :: captureText ++ [0])]).remoteEvents = [.capture] := by
  let made := Controller.new ⟨.bare, fun _ _ => none⟩ .default absentCamera ()
  have linked : (made.toOption.bind fun controller =>
      (controller.start absentCamera).link?.map fun link =>
        decide (link.max = Limits.maxFrame) && link.worker.isRunning &&
          link.clients.all (·.ended)) = some true := by decide +kernel
  have silent : made.toOption.map (fun controller =>
      (controller.start absentCamera).remoteEvents) = some [] := by decide +kernel
  have decoded : Link.eventOfBody? captureText = some .capture := by decide +kernel
  cases found : made with
  | error reason =>
    rw [found] at linked
    cases linked
  | ok controller =>
    rw [found] at linked silent
    obtain ⟨link, serving, holds⟩ := Option.map_eq_some_iff.mp linked
    simp only [Bool.and_eq_true, decide_eq_true_eq, List.all_eq_true] at holds
    obtain ⟨⟨limit, running⟩, free⟩ := holds
    have reachable : Reachable absentCamera (controller.start absentCamera) := .start (.made found)
    have delivers : Frame.Delivers
        [.interrupted, .bytes [0, 0, 0], .interrupted, .bytes (15 :: (captureText ++ [0]))] _ :=
      .interrupted (.piece 0 [0, 0] (.interrupted (.piece 15 (captureText ++ [0]) .ended)))
    obtain ⟨bodies, ending, splits, -, said, -⟩ := session_posts absentCamera reachable serving
      running free "phone" [.sends [0, 0], .waits 5, .posts .heartbeat .heartbeat (by decide),
        .fetches, .sends (0 :: 15 :: captureText ++ [0])] rfl delivers
    have actual : Frame.Splits link.max ([0, 0, 0, 15] ++ (captureText ++ [0])) [captureText]
        (some (.truncated Limits.frameHeader 1)) := by
      rw [limit]
      exact .frame rfl (by decide) (by decide) (.cutHeader nofun (by decide))
    obtain ⟨rfl, -⟩ := (splits _ _).mp actual
    have before : (controller.start absentCamera).remoteEvents = [] := Option.some.inj silent
    refine ⟨_, reachable, ?_⟩
    rw [said, before]
    simp [decoded]

end Controller

end Tether
