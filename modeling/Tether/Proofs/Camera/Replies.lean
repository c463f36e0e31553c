import Tether.Proofs.Camera.Shots
import Tether.Proofs.Statechart.Journal

/-!
# Requests for settings are answered or fail

A request writes a setting, reads it, or does one after the other (`Event.written?`, `Event.read?`),
and each reading has its own event that carries the reply (`Call.news?`). This says what has to
become of a request (`Fulfils`): the one event that carries what the camera has returned in the end,
or the fault of the call that failed. A full refresh makes the same of one request after the other,
but passes over what the camera does not offer (`Refreshes`).

A controller that is ready does just that (`serve_fulfils`, `refreshAll_refreshes`). It stays ready,
or it goes to the error state, and on the way there it publishes nothing about settings
(`fail_publishes`). As nothing is held back while the controller is ready, no more happens in such a
turn (`requests_answered`).
-/

namespace Tether

/-! ## What requests ask for -/

namespace Event

/-- The call that a request writes a setting with. -/
def written? : Event → Option Call
  | .setShutterSpeed microseconds => some (.setShutterSpeed microseconds)
  | .setAperture aperture => some (.setAperture aperture)
  | .setIso iso => some (.setIso iso)
  | .setAutoIso enabled => some (.setAutoIso enabled)
  | .nextFocusMode => some .nextFocusMode
  | .setLongExposureNr enabled => some (.setLongExposureNr enabled)
  | .setVibrationReduction enabled => some (.setVibrationReduction enabled)
  | .setCaptureTarget target => some (.setCaptureTarget target)
  | _ => none

/-- The call that a request reads a setting with. What is written is read back. -/
def read? : Event → Option Call
  | .getShutterSpeed | .setShutterSpeed _ => some .shutterSpeed
  | .getShutterSpeedChoices => some .shutterSpeedChoices
  | .getAperture | .setAperture _ => some .aperture
  | .getApertureChoices => some .apertureChoices
  | .getIso | .setIso _ => some .iso
  | .getIsoChoices => some .isoChoices
  | .getAutoIso | .setAutoIso _ => some .autoIso
  | .getBattery => some .battery
  | .getFocalLength => some .focalLength
  | .getFocusMode | .nextFocusMode => some .focusMode
  | .getLongExposureNr | .setLongExposureNr _ => some .longExposureNr
  | .getVibrationReduction | .setVibrationReduction _ => some .vibrationReduction
  | .getCaptureTarget | .setCaptureTarget _ => some .captureTarget
  | .getExposureProgram => some .exposureProgram
  | .getLightMeter => some .lightMeter
  | _ => none

/-- The requests of a full refresh. -/
def refresh : List Event :=
  [.getShutterSpeed, .getShutterSpeedChoices, .getAperture, .getApertureChoices, .getIso,
    .getIsoChoices, .getAutoIso, .getBattery, .getFocalLength, .getFocusMode, .getLongExposureNr,
    .getVibrationReduction, .getCaptureTarget, .getExposureProgram, .getLightMeter]

end Event

/-- The event that carries the reply to a call that reads a setting. -/
def Call.news? : (call : Call) → call.Reply → Option Event
  | .shutterSpeed, reply => some (.shutterSpeedValue reply.microseconds reply.bulb)
  | .shutterSpeedChoices, reply => some (.shutterSpeedChoices reply)
  | .aperture, reply => some (.apertureValue reply)
  | .apertureChoices, reply => some (.apertureChoices reply)
  | .iso, reply => some (.isoValue reply)
  | .isoChoices, reply => some (.isoChoices reply)
  | .autoIso, reply => some (.autoIsoValue reply)
  | .battery, reply => some (.batteryValue reply)
  | .focalLength, reply => some (.focalLengthValue reply)
  | .focusMode, reply => some (.focusModeValue reply)
  | .longExposureNr, reply => some (.longExposureNrValue reply)
  | .vibrationReduction, reply => some (.vibrationReductionValue reply)
  | .captureTarget, reply => some (.captureTargetValue reply)
  | .exposureProgram, reply => some (.exposureProgramValue reply)
  | .lightMeter, reply => some (.lightMeterValue reply.value reply.min reply.max)
  | _, _ => none

/-- A fault that only says that the camera does not offer a setting or a value. -/
inductive Fault.Missing : Fault → Prop where
  | setting (setting : String) : Missing (.unsupported setting)
  | value (setting value : String) : Missing (.invalidValue setting value)

theorem Fault.missing_iff {fault : Fault} : fault.Missing ↔ fault.isTrouble = false := by
  constructor
  · rintro (_ | _) <;> rfl
  · intro harmless
    cases fault with
    | unsupported setting => exact .setting setting
    | invalidValue setting value => exact .value setting value
    | _ => cases harmless

namespace Camera

variable {δ : Type} {driver : Driver δ} {event : Event} {device middle after : δ}

/-! ## What has to become of them -/

/-- The setting of a request is read. -/
inductive Reads (driver : Driver δ) (event : Event) (device : δ) :
    Except Fault Event → δ → Prop where
  | told {call : Call} {reply : call.Reply} {after : δ} {news : Event}
      (asks : event.read? = some call) (read : driver.perform call device = (.ok reply, after))
      (carries : call.news? reply = some news) : Reads driver event device (.ok news) after
  | failed {call : Call} {fault : Fault} {after : δ} (asks : event.read? = some call)
      (fails : driver.perform call device = (.error fault, after)) :
      Reads driver event device (.error fault) after

/-- A request is served: its setting is written if it asks for that, and read. -/
inductive Fulfils (driver : Driver δ) (event : Event) (device : δ) :
    Except Fault Event → δ → Prop where
  | query {outcome : Except Fault Event} {after : δ} (only : event.written? = none)
      (reads : Reads driver event device outcome after) : Fulfils driver event device outcome after
  | change {call : Call} {done : call.Reply} {middle after : δ} {outcome : Except Fault Event}
      (asks : event.written? = some call)
      (written : driver.perform call device = (.ok done, middle))
      (reads : Reads driver event middle outcome after) : Fulfils driver event device outcome after
  | refused {call : Call} {fault : Fault} {after : δ} (asks : event.written? = some call)
      (fails : driver.perform call device = (.error fault, after)) :
      Fulfils driver event device (.error fault) after

/-- Settings are read one after the other: the events that carry the replies, and the fault that
ended the series, if one did. -/
inductive Refreshes (driver : Driver δ) :
    List Event → δ → List Event → Option Fault → δ → Prop where
  | done {device : δ} : Refreshes driver [] device [] none device
  | told {request news : Event} {rest replies : List Event} {ending : Option Fault}
      {device middle after : δ} (reads : Reads driver request device (.ok news) middle)
      (later : Refreshes driver rest middle replies ending after) :
      Refreshes driver (request :: rest) device (news :: replies) ending after
  | passed {request : Event} {fault : Fault} {rest replies : List Event} {ending : Option Fault}
      {device middle after : δ} (reads : Reads driver request device (.error fault) middle)
      (missing : fault.Missing) (later : Refreshes driver rest middle replies ending after) :
      Refreshes driver (request :: rest) device replies ending after
  | stopped {request : Event} {fault : Fault} {rest : List Event} {device after : δ}
      (reads : Reads driver request device (.error fault) after) (trouble : ¬fault.Missing) :
      Refreshes driver (request :: rest) device [] (some fault) after

/-- The events that have been published about settings. -/
def replies (journal : List (Effect State)) : List Event :=
  journal.filterMap (Effect.report? .cameraConfig fun _ => true)

/-- The events that the controller has sent to itself. -/
def ownNews (journal : List (Effect State)) : List Event :=
  journal.filterMap (Effect.heard? [] true)

/-- From one scope to another some events have been published about settings, and some have been
sent to the controller itself; a replay is asked for if it was before. -/
structure Publishes (news own : List Event) (device : δ) (before after : Scope State (Memory δ)) :
    Prop where
  replies : replies after.journal = replies before.journal ++ news
  own : ownNews after.journal = ownNews before.journal ++ own
  device : after.memory.device = device
  replay : after.replay = before.replay

namespace Publishes

variable {first second third : Scope State (Memory δ)} {news more own others : List Event}

theorem refl (scope : Scope State (Memory δ)) : Publishes [] [] scope.memory.device scope scope :=
  ⟨(List.append_nil _).symm, (List.append_nil _).symm, rfl, rfl⟩

theorem trans (early : Publishes news own device first second)
    (late : Publishes more others after second third) :
    Publishes (news ++ more) (own ++ others) after first third where
  replies := by rw [late.replies, early.replies, List.append_assoc]
  own := by rw [late.own, early.own, List.append_assoc]
  device := late.device
  replay := late.replay.trans early.replay

theorem record (publishes : Publishes news own device first second) (effect : Effect State) :
    Publishes (news ++ Camera.replies [effect]) (own ++ ownNews [effect]) device first
      (second.record effect) where
  replies := by
    rw [Scope.record, Camera.replies, List.filterMap_append, ← List.append_assoc,
      ← publishes.replies]
    rfl
  own := by
    rw [Scope.record, ownNews, List.filterMap_append, ← List.append_assoc, ← publishes.own]
    rfl
  device := publishes.device
  replay := publishes.replay

/-- What is recorded says nothing about settings, and not to the controller itself. -/
theorem record_quiet (publishes : Publishes news own device first second) (effect : Effect State)
    (quiet : Camera.replies [effect] = []) (silent : ownNews [effect] = []) :
    Publishes news own device first (second.record effect) := by
  have recorded := publishes.record effect
  rwa [quiet, silent, List.append_nil, List.append_nil] at recorded

theorem update (publishes : Publishes news own device first second)
    (change : Memory δ → Memory δ)
    (same : (change second.memory).device = second.memory.device) :
    Publishes news own device first (update second change) :=
  ⟨publishes.replies, publishes.own, same.trans publishes.device, publishes.replay⟩

theorem enterLeaf (publishes : Publishes news own device first second) (state : State) :
    Publishes news own device first (enterLeaf second state) :=
  (publishes.update (fun memory => { memory with status := state }) rfl).record_quiet _ rfl rfl

theorem armRecovery (publishes : Publishes news own device first second) :
    Publishes news own device first (armRecovery second) := by
  have journal : (Camera.armRecovery second).journal = second.journal ++ _ :=
    second.schedule_journal .recover .cameraCmd second.memory.settings.errorRetry
  have idle {α : Type} (read : Effect State → Option α)
      (silent : read (.warned .delayClamped) = none) :
      (Camera.armRecovery second).journal.filterMap read = second.journal.filterMap read := by
    rw [journal, List.filterMap_append]
    split
    · rw [List.filterMap_cons_none silent]
      exact List.append_nil _
    · exact List.append_nil _
  refine ⟨(idle _ rfl).trans publishes.replies, (idle _ rfl).trans publishes.own, ?_, ?_⟩
  · exact (congrArg Memory.device (second.schedule_memory .recover .cameraCmd _)).trans
      publishes.device
  · exact (second.schedule_replay .recover .cameraCmd _).trans publishes.replay

end Publishes

/-! ## Serving -/

section Serving

variable {query : Query} {scope : Scope State (Memory δ)}

/-- A call publishes nothing. -/
theorem perform_publishes (driver : Driver δ) (scope : Scope State (Memory δ)) (call : Call) :
    ∃ reply device after, driver.perform call scope.memory.device = (reply, device) ∧
      perform driver scope call = (reply, after) ∧ Publishes [] [] device scope after := by
  refine ⟨_, _, _, rfl, rfl, ?_⟩
  have changed : Publishes [] [] (driver.perform call scope.memory.device).2 scope
      (update scope fun memory =>
        { memory with device := (driver.perform call scope.memory.device).2 }) :=
    ⟨(List.append_nil _).symm, (List.append_nil _).symm, rfl, rfl⟩
  exact changed.record_quiet _ rfl rfl

/-- A query reads the setting of a request and knows the event that carries the reply. -/
structure Suits (event : Event) (query : Query) : Prop where
  asks : event.read? = some query.call
  carries : ∀ reply, query.call.news? reply = some (query.event reply)

/-- The event that tells an outcome, if it has one. -/
def told {ε α : Type} : Except ε α → List α
  | .ok news => [news]
  | .error _ => []

theorem serveQuery_reads (driver : Driver δ) (suits : Suits event query)
    (scope : Scope State (Memory δ)) :
    ∃ outcome device, Reads driver event scope.memory.device outcome device ∧
      (serveQuery driver scope query).1 = outcome.map (fun _ => ()) ∧
      Publishes (told outcome) [] device scope (serveQuery driver scope query).2 := by
  obtain ⟨reply, device, after, called, performed, publishes⟩ :=
    perform_publishes driver scope query.call
  rw [serveQuery, performed]
  cases reply with
  | ok reply =>
    refine ⟨.ok (query.event reply), device,
      .told suits.asks called (suits.carries reply), rfl, ?_⟩
    exact publishes.record (.posted (query.event reply) .cameraConfig)
  | error fault => exact ⟨.error fault, device, .failed suits.asks called, rfl, publishes⟩

theorem serveChange_fulfils (driver : Driver δ) {change : Change}
    (asks : event.written? = some change.call) (suits : Suits event change.query)
    (scope : Scope State (Memory δ)) :
    ∃ outcome device, Fulfils driver event scope.memory.device outcome device ∧
      (serveChange driver scope change).1 = outcome.map (fun _ => ()) ∧
      Publishes (told outcome) [] device scope (serveChange driver scope change).2 := by
  obtain ⟨reply, device, middle, called, performed, publishes⟩ :=
    perform_publishes driver scope change.call
  rw [serveChange, performed]
  cases reply with
  | ok done =>
    obtain ⟨outcome, after, reads, equal, more⟩ := serveQuery_reads driver suits middle
    rw [publishes.device] at reads
    exact ⟨outcome, after, .change asks called reads, equal, publishes.trans more⟩
  | error fault => exact ⟨.error fault, device, .refused asks called, rfl, publishes⟩

theorem serveQueries_refreshes {requests : List Event} {queries : List Query}
    (suit : List.Forall₂ Suits requests queries) (scope : Scope State (Memory δ)) :
    ∃ news ending device, Refreshes driver requests scope.memory.device news ending device ∧
      (serveQueries driver queries scope).1 = (match ending with
        | none => .ok ()
        | some fault => .error fault) ∧
      Publishes news [] device scope (serveQueries driver queries scope).2 := by
  induction suit generalizing scope with
  | nil => exact ⟨[], none, _, .done, rfl, .refl scope⟩
  | @cons request query requests queries suits _ ih =>
    obtain ⟨outcome, device, reads, equal, publishes⟩ :=
      serveQuery_reads driver suits scope
    unfold serveQueries
    rcases found : serveQuery driver scope query with ⟨result, middle⟩
    rw [found] at equal publishes
    obtain ⟨news, ending, after, later, same, more⟩ := ih middle
    rw [publishes.device] at later
    cases outcome with
    | ok first =>
      cases (equal : result = .ok ())
      exact ⟨first :: news, ending, after, .told reads later, same, publishes.trans more⟩
    | error fault =>
      cases (equal : result = .error fault)
      dsimp only
      by_cases missing : fault.Missing
      · rw [Fault.missing_iff.mp missing, if_neg Bool.false_ne_true]
        exact ⟨news, ending, after, .passed reads missing later, same, publishes.trans more⟩
      · rw [if_pos (by rwa [Fault.missing_iff, Bool.not_eq_false] at missing)]
        exact ⟨[], some fault, device, .stopped reads missing, rfl, publishes⟩

/-- Every request for a single setting is one that reads it, or that writes it and reads it back. -/
theorem request_of_isRequest (request : event.isRequest) (single : event ≠ .getAll) :
    (∃ query, Request.ofEvent? event = some (.query query) ∧ event.written? = none ∧
      Suits event query) ∨
    ∃ change, Request.ofEvent? event = some (.change change) ∧
      event.written? = some change.call ∧ Suits event change.query := by
  rw [← Request.isSome_ofEvent?] at request
  obtain ⟨found, asked⟩ := Option.isSome_iff_exists.mp request
  cases event <;> cases asked <;> first
    | exact .inl ⟨_, rfl, rfl, rfl, fun _ => rfl⟩
    | exact .inr ⟨_, rfl, rfl, rfl, fun _ => rfl⟩
    | exact absurd rfl single

theorem serve_fulfils (request : event.isRequest) (single : event ≠ .getAll)
    (driver : Driver δ) :
    ∃ found, Request.ofEvent? event = some found ∧ ∀ scope : Scope State (Memory δ),
      ∃ outcome device, Fulfils driver event scope.memory.device outcome device ∧
        (serve driver scope found).1 = outcome.map (fun _ => ()) ∧
        Publishes (told outcome) [] device scope (serve driver scope found).2 := by
  obtain ⟨query, found, only, suits⟩ | ⟨change, found, asks, suits⟩ :=
    request_of_isRequest request single
  · refine ⟨_, found, fun scope => ?_⟩
    obtain ⟨outcome, device, reads, rest⟩ := serveQuery_reads driver suits scope
    exact ⟨outcome, device, .query only reads, rest⟩
  · exact ⟨_, found, serveChange_fulfils driver asks suits⟩

theorem refresh_suits : List.Forall₂ Suits Event.refresh Query.refresh := by
  unfold Event.refresh Query.refresh
  repeat first | exact .nil | refine .cons ⟨rfl, fun _ => rfl⟩ ?_

theorem refreshAll_refreshes (driver : Driver δ) (scope : Scope State (Memory δ)) :
    ∃ news ending device,
      Refreshes driver Event.refresh scope.memory.device news ending device ∧
      (refreshAll driver scope).1 = (match ending with
        | none => .ok ()
        | some fault => .error fault) ∧
      Publishes news [] device scope (refreshAll driver scope).2 :=
  serveQueries_refreshes refresh_suits scope

end Serving

/-! ## Entering states -/

theorem refreshIfWanted_refreshes (driver : Driver δ) {scope : Scope State (Memory δ)}
    (wanted : scope.memory.lowLatency = false) :
    ∃ news ending device,
      Refreshes driver Event.refresh scope.memory.device news ending device ∧
      Publishes news (if ending.isSome then [.cameraError] else []) device scope
        (refreshIfWanted driver scope) := by
  obtain ⟨news, ending, device, refreshes, result, publishes⟩ :=
    refreshAll_refreshes driver scope
  refine ⟨news, ending, device, refreshes, ?_⟩
  rw [refreshIfWanted, wanted, if_neg Bool.false_ne_true]
  rcases found : refreshAll driver scope with ⟨answer, after⟩
  rw [found] at result publishes
  cases ending with
  | none =>
    cases (result : answer = .ok ())
    exact publishes
  | some fault =>
    cases (result : answer = .error fault)
    have reported := publishes.record (.postedSelf .cameraError)
    rwa [show replies [.postedSelf .cameraError] = [] from rfl, List.append_nil] at reported

/-- Before it refreshes the settings, a controller that has become ready says nothing about them. -/
theorem notify_ready (driver : Driver δ) (leaf : State) (scope : Scope State (Memory δ)) :
    ∃ entered, Publishes [] [] scope.memory.device scope entered ∧
      entered.memory.lowLatency = scope.memory.lowLatency ∧
      (chart driver).notify leaf .entry scope .ready =
        (refreshIfWanted driver entered).requestReplay := by
  refine ⟨(enterLeaf (scope.record (.asked leaf .ready .entry)) .ready).post .cameraReady
    .cameraEvent, ?_, rfl, rfl⟩
  have asked := (Publishes.refl scope).record_quiet (.asked leaf .ready .entry) rfl rfl
  exact (asked.enterLeaf .ready).record_quiet _ rfl rfl

/-- On the way from the ready state to the error state nothing is published about settings. -/
theorem fail_publishes (driver : Driver δ) (scope : Scope State (Memory δ)) :
    ∃ after, (chart driver).transition .ready .error scope = (.error, after) ∧
      Publishes [] [] scope.memory.device scope after := by
  have left := ((Publishes.refl scope).record_quiet (.asked .ready .ready .exit) rfl
    rfl).record_quiet (.asked .ready .connected .exit) rfl rfl
  have asked := left.record_quiet (.asked .ready .error .entry) rfl rfl
  have entered :=
    (asked.enterLeaf .error).record_quiet (.posted .cameraError .cameraEvent) rfl rfl
  have settled := entered.armRecovery.record_quiet (.asked .error .error .init) rfl rfl
  refine ⟨_, ?_, settled⟩
  rfl

/-! ## Turns -/

/-- How a turn of the controller ends: the events that it has published about settings, the camera
after it, and the current state. -/
structure Ends (turn : Turn State (Memory δ)) (news : List Event) (device : δ) (leaf : State) :
    Prop where
  replies : replies turn.journal = news
  device : turn.machine.memory.device = device
  leaf : turn.machine.leaf = leaf

/-- A controller that is ready serves a request itself. -/
theorem process_ready {request : Request} (found : Request.ofEvent? event = some request)
    (driver : Driver δ) (scope : Scope State (Memory δ)) :
    (chart driver).process (.ready, scope) event =
      match serve driver (scope.record (.asked .ready .ready (.event event))) request with
      | (.ok _, after) => (.ready, after)
      | (.error _, after) => (chart driver).transition .ready .error after := by
  have asked : (chart driver).ask .ready .ready (.event event) scope =
      answer driver (scope.record (.asked .ready .ready (.event event))) request := by
    show ready driver _ (.event event) = _
    unfold ready
    split
    · next equal => cases equal
    · next equal => cases equal
    · next equal => cases equal
    · next equal => cases equal; cases found
    · next equal =>
      cases equal
      rw [found]
  rw [Chart.process, Limits.maxStateDepth, Chart.bubble, asked, answer]
  rcases serve driver (scope.record (.asked .ready .ready (.event event))) request with
    ⟨_ | _, after⟩ <;> rfl

/-- Where a controller that is ready goes with a request. -/
def leafAfter {ε α : Type} : Except ε α → State
  | .ok _ => .ready
  | .error _ => .error

theorem process_publishes {request : Request} (found : Request.ofEvent? event = some request)
    {scope : Scope State (Memory δ)} {news : List Event} (publishes : Publishes news [] device
      (scope.record (.asked .ready .ready (.event event)))
      (serve driver (scope.record (.asked .ready .ready (.event event))) request).2) :
    ((chart driver).process (.ready, scope) event).1 =
        leafAfter (serve driver (scope.record (.asked .ready .ready (.event event))) request).1 ∧
      Publishes news [] device scope ((chart driver).process (.ready, scope) event).2 := by
  have asked := (Publishes.refl scope).record_quiet
    (.asked .ready .ready (.event event)) rfl rfl
  have both := asked.trans publishes
  rw [process_ready found]
  generalize serve driver (scope.record (.asked .ready .ready (.event event))) request = served
    at both ⊢
  obtain ⟨fault | done, after⟩ := served
  · obtain ⟨failed, leads, more⟩ := fail_publishes driver after
    have all := both.trans more
    rw [List.append_nil, both.device] at all
    dsimp only
    rw [leads]
    exact ⟨rfl, all⟩
  · exact ⟨rfl, both⟩

/-- A turn of a controller that is ready is no more than the processing of the event. -/
theorem dispatch_ready {machine : Machine State (Memory δ)} (kept : Kept machine)
    (ready : machine.leaf = .ready) {timers : Timers} {now : Nat} {news : List Event} {leaf : State}
    (processed : ((chart driver).process (.ready, machine.scope timers now) event).1 = leaf)
    (publishes : Publishes news [] device (machine.scope timers now)
      ((chart driver).process (.ready, machine.scope timers now) event).2) :
    Ends ((chart driver).dispatch machine event timers now) news device leaf := by
  have started : machine.started = true := by
    cases fresh : machine.started with
    | true => rfl
    | false => cases ready.symm.trans (kept.fresh fresh).1
  have idle : ((chart driver).process (.ready, machine.scope timers now) event).2.replay = false :=
    publishes.replay.trans (kept.settled started timers now).replay
  have turn : (chart driver).dispatch machine event timers now =
      Machine.turn ((chart driver).process (.ready, machine.scope timers now) event) := by
    rw [Chart.dispatch, Chart.startRun, if_pos started, ready, Chart.replayHeld_eq_self idle]
  rw [turn]
  exact ⟨publishes.replies, publishes.device, processed⟩

theorem request_answered {machine : Machine State (Memory δ)} (kept : Kept machine)
    (ready : machine.leaf = .ready) (request : event.isRequest) (single : event ≠ .getAll)
    (driver : Driver δ) (timers : Timers) (now : Nat) :
    ∃ outcome device, Fulfils driver event machine.memory.device outcome device ∧
      Ends ((chart driver).dispatch machine event timers now) (told outcome) device
        (leafAfter outcome) := by
  obtain ⟨found, asked, serves⟩ := serve_fulfils request single driver
  obtain ⟨outcome, device, fulfils, result, publishes⟩ :=
    serves ((machine.scope timers now).record (.asked .ready .ready (.event event)))
  obtain ⟨leads, published⟩ := process_publishes asked publishes
  refine ⟨outcome, device, fulfils, dispatch_ready kept ready ?_ published⟩
  rw [leads, result]
  cases outcome <;> rfl

theorem getAll_refreshes {machine : Machine State (Memory δ)} (kept : Kept machine)
    (ready : machine.leaf = .ready) (driver : Driver δ) (timers : Timers) (now : Nat) :
    ∃ news ending device,
      Refreshes driver Event.refresh machine.memory.device news ending device ∧
        Ends ((chart driver).dispatch machine .getAll timers now) news device
          (if ending.isSome then .error else .ready) := by
  obtain ⟨news, ending, device, refreshes, result, publishes⟩ := refreshAll_refreshes driver
    ((machine.scope timers now).record (.asked .ready .ready (.event .getAll)))
  have asked : Request.ofEvent? .getAll = some .all := rfl
  obtain ⟨leads, published⟩ := process_publishes asked publishes
  refine ⟨news, ending, device, refreshes, dispatch_ready kept ready ?_ published⟩
  rw [leads, serve, result]
  cases ending <;> rfl

theorem entry_refreshes (driver : Driver δ) (leaf : State) {scope : Scope State (Memory δ)}
    (wanted : scope.memory.lowLatency = false) :
    ∃ news ending device refreshed,
      Refreshes driver Event.refresh scope.memory.device news ending device ∧
        Publishes news (if ending.isSome then [.cameraError] else []) device scope refreshed ∧
        (chart driver).notify leaf .entry scope .ready = refreshed.requestReplay := by
  obtain ⟨entered, told, quick, same⟩ := notify_ready driver leaf scope
  obtain ⟨news, ending, device, refreshes, publishes⟩ :=
    refreshIfWanted_refreshes driver (quick.trans wanted)
  rw [told.device] at refreshes
  exact ⟨news, ending, device, _, refreshes, told.trans publishes, same⟩

/-- Whatever the camera answers: a request that finds the controller ready is answered with the one
event that carries what the camera has returned for its setting, or a call has failed and the
controller goes to the error state without a word about settings. A full refresh publishes what the
camera offers, up to the first other fault, in a turn of its own as well as on becoming ready; the
latter reports that fault to the controller itself. -/
theorem requests_answered (driver : Driver δ) (memory : Memory δ) (occasions : List Occasion)
    (ready : (History.obeyAll (chart driver) (.new (chart driver) memory)
      occasions).machine.leaf = .ready) (timers : Timers) (now : Nat) :
    let machine := (History.obeyAll (chart driver) (.new (chart driver) memory) occasions).machine
    let turn (event : Event) := (chart driver).dispatch machine event timers now
    (∀ event : Event, event.isRequest → event ≠ .getAll → ∃ outcome device,
      Fulfils driver event machine.memory.device outcome device ∧
        Ends (turn event) (told outcome) device (leafAfter outcome)) ∧
    (∃ news ending device,
      Refreshes driver Event.refresh machine.memory.device news ending device ∧
        Ends (turn .getAll) news device (if ending.isSome then .error else .ready)) ∧
    ∀ (leaf : State) (scope : Scope State (Memory δ)), scope.memory.lowLatency = false →
      let after := (chart driver).notify leaf .entry scope .ready
      ∃ news ending device,
        Refreshes driver Event.refresh scope.memory.device news ending device ∧
          replies after.journal = replies scope.journal ++ news ∧
          ownNews after.journal =
            ownNews scope.journal ++ (if ending.isSome then [.cameraError] else []) ∧
          after.memory.device = device := by
  intro machine turn
  have kept : Kept machine := kept_obeyAll (kept_new driver memory) driver occasions
  refine ⟨fun event request single => ?_, ?_, fun leaf scope wanted => ?_⟩
  · exact request_answered kept ready request single driver timers now
  · exact getAll_refreshes kept ready driver timers now
  · obtain ⟨news, ending, device, refreshed, refreshes, publishes, same⟩ :=
      entry_refreshes driver leaf wanted
    refine ⟨news, ending, device, refreshes, ?_⟩
    rw [same]
    exact ⟨publishes.replies, publishes.own, publishes.device⟩

/-- A camera that remembers its sensitivity and has no other settings. Its light meter cannot be
reached. -/
def isoCamera : Driver Int32 where
  name _ := "iso"
  isConnected _ := true
  perform call iso :=
    match call with
    | .iso => (.ok iso, iso)
    | .setIso wanted => (.ok (), wanted)
    | .lightMeter => (.error (.timeout "no answer"), iso)
    | .connect => (.ok "iso", iso)
    | .disconnect | .download .. => (.ok (), iso)
    | .capture => (.error (.unsupported "capture"), iso)
    | call => (.error (.unsupported call.name), iso)

/-- The sensitivity is changed, the aperture is asked for in vain, and the full refresh tells the
sensitivity and stops at the light meter, as it does on becoming ready. -/
theorem requests_answered_iso :
    let start : Memory Int32 := .new 100 ⟨"", false, 0, 0, 0⟩
    let machine := (History.obeyAll (chart isoCamera) (.new (chart isoCamera) start)
      [⟨.dispatch .connect, .empty, 0⟩]).machine
    let turn (event : Event) := (chart isoCamera).dispatch machine event .empty 0
    let entered := (chart isoCamera).notify .connected .entry (machine.scope .empty 0) .ready
    machine.leaf = .ready ∧ Ends (turn (.setIso 200)) [.isoValue 200] 200 .ready ∧
      Ends (turn .getAperture) [] 100 .error ∧ Ends (turn .getAll) [.isoValue 100] 100 .error ∧
      replies entered.journal = [.isoValue 100] ∧ ownNews entered.journal = [.cameraError] ∧
      (∃ outcome device, Fulfils isoCamera (.setIso 200) 100 outcome device ∧
        Ends (turn (.setIso 200)) (told outcome) device (leafAfter outcome)) ∧
      ∃ news ending device, Refreshes isoCamera Event.refresh 100 news ending device ∧
        replies entered.journal = news ∧
        ownNews entered.journal = (if ending.isSome then [.cameraError] else []) ∧
        entered.memory.device = device := by
  intro start machine turn entered
  have ready : machine.leaf = .ready := by decide +kernel
  obtain ⟨answers, -, enters⟩ :=
    requests_answered isoCamera start [⟨.dispatch .connect, .empty, 0⟩] ready .empty 0
  refine ⟨ready, ⟨?_, ?_, ?_⟩, ⟨?_, ?_, ?_⟩, ⟨?_, ?_, ?_⟩, ?_, ?_,
    answers (.setIso 200) rfl nofun, enters .connected (machine.scope .empty 0) rfl⟩
  all_goals decide +kernel

end Camera

end Tether
