import Tether.Proofs.Camera.Outcome
import Tether.Proofs.Statechart.Journal

/-!
# Sessions

The journal of the camera controller tells whether a session is open: the last call that opened or
closed one decides (`sessionOpen`). Most of what the handlers do is a run of calls and posts that
tells observers nothing of the status and leaves the status alone, and what such a run does to the
session is also what it does to the flag in the memory (`Runs`).

A state that is entered tells observers of it first, and the rest of its entry is such a run
(`entry_runs`). What a state answers to an event is one of five things (`Steps`, `handle_steps`),
and of all transitions only the one that ignores an error does not look at the session.
-/

namespace Tether

/-- Whether a call opens or closes a session. -/
def Call.isSession : Call → Bool
  | .connect | .disconnect => true
  | _ => false

theorem Call.isSession_of_isSetter {call : Call} (setter : call.isSetter = true) :
    call.isSession = false := by
  cases call <;> first | rfl | cases setter

/-- Whether an event is news of the status or of an open session. -/
def Event.isNews : Event → Bool
  | .cameraState .. | .cameraConnected | .cameraReady => true
  | _ => false

/-! ## Requests leave the session alone -/

/-- A query that leaves the session alone, and whose reply is no news. -/
structure Query.Plain (query : Query) : Prop where
  call : query.call.isSession = false
  reply : ∀ reply, (query.event reply).isNews = false

theorem Query.plain_of_mem_refresh {query : Query} (member : query ∈ Query.refresh) :
    query.Plain := by
  simp only [refresh, List.mem_cons, List.not_mem_nil, or_false] at member
  rcases member with rfl | rfl | rfl | rfl | rfl | rfl | rfl | rfl | rfl | rfl | rfl | rfl | rfl |
    rfl | rfl <;> exact ⟨rfl, fun _ => rfl⟩

namespace Camera

variable {δ : Type}

/-! ## The session in the journal -/

/-- What an entry of a journal does to the session: a call that opens one may fail, a call that
closes one always counts. -/
def session? : Effect State → Option Bool
  | .called .connect (.ok _) => some true
  | .called .disconnect _ => some false
  | _ => none

/-- Whether a session is open after all that a journal tells. -/
def sessionOpen (journal : List (Effect State)) : Bool :=
  (latest session? journal).getD false

theorem session?_called {call : Call} (other : call.isSession = false)
    (reply : Except Fault call.Reply) : session? (.called call reply) = none := by
  cases call with
  | connect => cases other
  | disconnect => cases other
  | _ => rfl

/-- Entries that are no news, and do not ask the controller to ignore an error. -/
def Plain : Effect State → Prop
  | .asked _ state signal => ¬ (state = .error ∧ signal = .event .ignoreError)
  | .posted event _ => event.isNews = false
  | _ => True

/-! ## Runs -/

/-- A run of plain entries that leaves the status alone. It may open or close the session, and the
flag in the memory follows. -/
structure Runs (session : Option Bool) (before after : Scope State (Memory δ)) : Prop where
  status : after.memory.status = before.memory.status
  download : after.memory.download = before.memory.download
  connected : after.memory.connected = session.getD before.memory.connected
  session : ∀ past, latest session? (past ++ after.journal) =
    session.or (latest session? (past ++ before.journal))
  adds : Scope.Adds Plain before after

namespace Runs

variable {session : Option Bool} {before middle after : Scope State (Memory δ)}

theorem refl (scope : Scope State (Memory δ)) : Runs none scope scope :=
  ⟨rfl, rfl, rfl, fun _ => rfl, .refl scope⟩

theorem trans {later : Option Bool} (first : Runs session before middle)
    (second : Runs later middle after) : Runs (later.or session) before after where
  status := second.status.trans first.status
  download := second.download.trans first.download
  connected := by
    rw [second.connected, first.connected]
    cases later <;> rfl
  session past := by rw [second.session, first.session, Option.or_assoc]
  adds := first.adds.trans second.adds

/-- A run that leaves the session alone may follow any other one. -/
theorem then_idle (first : Runs session before middle) (second : Runs none middle after) :
    Runs session before after :=
  first.trans second

theorem record {effect : Effect State} (plain : Plain effect) (quiet : session? effect = none)
    (runs : Runs session before after) : Runs session before (after.record effect) where
  status := runs.status
  download := runs.download
  connected := runs.connected
  session past := by
    rw [← runs.session]
    show latest session? (past ++ (after.journal ++ [effect])) = _
    rw [← List.append_assoc]
    exact latest_append_of_silent (by simpa using quiet) _
  adds := runs.adds.record plain

theorem post {event : Event} (plain : event.isNews = false) (topic : Topic)
    (runs : Runs session before after) : Runs session before (after.post event topic) :=
  runs.record plain rfl

theorem postSelf (event : Event) (runs : Runs session before after) :
    Runs session before (after.postSelf event) :=
  runs.record trivial rfl

/-- Changes of the memory that concern neither the status nor the session. -/
theorem update (change : Memory δ → Memory δ) (runs : Runs session before after)
    (status : (change after.memory).status = after.memory.status)
    (download : (change after.memory).download = after.memory.download)
    (connected : (change after.memory).connected = after.memory.connected) :
    Runs session before (Camera.update after change) where
  status := status.trans runs.status
  download := download.trans runs.download
  connected := connected.trans runs.connected
  session := runs.session
  adds := runs.adds

/-- What changes only the held events, the timers, or the wish for a replay. -/
theorem of_same {scope : Scope State (Memory δ)} (runs : Runs session before after)
    (memory : scope.memory = after.memory) (journal : scope.journal = after.journal) :
    Runs session before scope where
  status := by rw [memory, runs.status]
  download := by rw [memory, runs.download]
  connected := by rw [memory, runs.connected]
  session past := by rw [journal, runs.session]
  adds := runs.adds.trans (.of_journal_eq journal)

theorem schedule (scope : Scope State (Memory δ)) (event : Event) (topic : Topic) (delay : Nat) :
    Runs none scope (scope.schedule event topic delay).1 where
  status := by simp
  download := by simp
  connected := by simp
  session past := by
    have adds : Scope.Adds (session? · = none) scope (scope.schedule event topic delay).1 :=
      .schedule (session? · = none) rfl scope event topic delay
    exact adds.latest_eq (fun _ quiet => quiet) past
  adds := .schedule Plain trivial scope event topic delay

theorem defer (scope : Scope State (Memory δ)) (event : Event) :
    Runs none scope (scope.defer event) where
  status := by simp
  download := by simp
  connected := by simp
  session past := by
    have adds : Scope.Adds (session? · = none) scope (scope.defer event) :=
      .defer (session? · = none) rfl scope event
    exact adds.latest_eq (fun _ quiet => quiet) past
  adds := .defer Plain trivial scope event

/-- A state is asked about anything but an error to ignore. -/
theorem asked (scope : Scope State (Memory δ)) (leaf state : State) (signal : Signal)
    (other : ¬ (state = .error ∧ signal = .event .ignoreError)) :
    Runs none scope (scope.record (.asked leaf state signal)) :=
  (refl scope).record other rfl

end Runs

/-! ## Calls and requests -/

section Handlers

variable (driver : Driver δ) (scope : Scope State (Memory δ))

theorem perform_runs (call : Call) (other : call.isSession = false) :
    Runs none scope (perform driver scope call).2 := by
  unfold perform
  cases driver.perform call scope.memory.device with
  | mk reply device =>
    exact ((Runs.refl scope).update (fun memory => { memory with device := device })
      rfl rfl rfl).record trivial (session?_called other reply)

theorem disconnect_runs : Runs (some false) scope (disconnect driver scope) where
  status := rfl
  download := rfl
  connected := rfl
  session past := by
    show latest session? (past ++ (scope.journal ++ [_])) = _
    rw [← List.append_assoc]
    exact latest_concat session? rfl _
  adds := ((Scope.Adds.refl scope).trans (.of_journal_eq rfl)).record trivial

/-- Opening a session leads to `connected`, or fails and changes nothing. -/
theorem connect_runs (onFailure : State) :
    (∃ after, connect driver scope onFailure = (after, .transition .connected) ∧
      Runs (some true) scope after) ∨
    ∃ after, connect driver scope onFailure = (after, .transition onFailure) ∧
      Runs none scope after := by
  unfold connect perform
  cases driver.perform .connect scope.memory.device with
  | mk reply device =>
    cases reply with
    | ok name =>
      refine Or.inl ⟨_, rfl, rfl, rfl, rfl, fun past => ?_, ?_⟩
      · show latest session? (past ++ (scope.journal ++ [_])) = _
        rw [← List.append_assoc]
        exact latest_concat session? rfl _
      · exact ((Scope.Adds.refl scope).trans (.of_journal_eq rfl)).record trivial
    | error fault =>
      refine Or.inr ⟨_, rfl, ?_⟩
      exact ((Runs.refl scope).update (fun memory => { memory with device := device })
        rfl rfl rfl).record trivial rfl

theorem Runs.endures : Endures driver Query.Plain (Runs none scope) where
  call plain runs := runs.then_idle (perform_runs driver _ _ plain.call)
  publish reply plain runs := runs.post (plain.reply reply) _
  report runs := runs.postSelf _

theorem serve_runs {request : Request} (plain : ∀ query ∈ request.queries, query.Plain) :
    Runs none scope (serve driver scope request).2 :=
  (Runs.endures driver scope).serve plain
    (fun change _ => perform_runs driver scope _ (Call.isSession_of_isSetter change.writes))
    (.refl scope)

theorem refreshIfWanted_runs : Runs none scope (refreshIfWanted driver scope) :=
  (Runs.endures driver scope).refreshIfWanted (fun _ => Query.plain_of_mem_refresh) (.refl scope)

theorem chooseTarget_runs : Runs none scope (chooseTarget driver scope) :=
  (Runs.endures driver scope).chooseTarget
    (perform_runs driver scope (.setCaptureTarget memoryCard) rfl)

/-! ## Entering and leaving states -/

/-- What a state tells observers on entry, before anything else. -/
def State.announced (state : State) (scope : Scope State (Memory δ)) : Scope State (Memory δ) :=
  match state with
  | .super => scope
  | .connected => scope.post .cameraConnected .cameraEvent
  | .ready => (enterLeaf scope .ready).post .cameraReady .cameraEvent
  | state => enterLeaf scope state

theorem entry_runs (state : State) :
    Runs none (state.announced scope) ((chart driver).handle state .entry scope).1 := by
  have told := Runs.refl (state.announced scope)
  cases state with
  | super => exact told
  | disconnected => exact told.post rfl _
  | connected => exact chooseTarget_runs driver _
  | ready =>
    have refreshed := refreshIfWanted_runs driver (State.ready.announced scope)
    exact refreshed.of_same rfl rfl
  | capturing => exact told.postSelf _
  | downloading => exact told.postSelf _
  | connectionError =>
    exact ((told.post rfl _).then_idle (.schedule _ _ _ _)).update
      (fun memory => { memory with retryTimer := some _ }) rfl rfl rfl
  | error =>
    exact ((told.post rfl _).then_idle (.schedule _ _ _ _)).update
      (fun memory => { memory with recoveryTimer := some _ }) rfl rfl rfl

theorem exit_runs (state : State) :
    Runs none scope ((chart driver).handle state .exit scope).1 := by
  rw [handle_exit]
  have left := Runs.refl scope
  cases state with
  | connectionError =>
    exact (left.update (fun memory => { memory with retryTimer := none }) rfl rfl rfl).of_same
      (Scope.cancel?_memory _ _) (Scope.cancel?_journal _ _)
  | error =>
    exact (left.update (fun memory => { memory with recoveryTimer := none }) rfl rfl rfl).of_same
      (Scope.cancel?_memory _ _) (Scope.cancel?_journal _ _)
  | _ => exact left

end Handlers

/-! ## Events -/

/-- The flag that suits a state that is entered or current. -/
def State.Suits : State → Bool → Prop
  | .super, flag | .disconnected, flag | .connectionError, flag => flag = false
  | .connected, flag | .ready, flag | .capturing, flag | .downloading, flag => flag = true
  | .error, _ => True

/-- What a state may answer to an event. -/
inductive Steps (state : State) (event : Event) (before : Scope State (Memory δ)) :
    Scope State (Memory δ) × Reaction State → Prop where
  | handles {after : Scope State (Memory δ)} (runs : Runs none before after) :
      Steps state event before (after, .handled)
  | passes : Steps state event before (before, .delegate)
  | tells (download : Bool) : Steps state event before
      (announceStatus (update before fun memory => { memory with download := download }), .handled)
  | leads {session : Option Bool} {after : Scope State (Memory δ)} {target : State}
      (inner : state ≠ .super) (runs : Runs session before after)
      (suits : state.Suits before.memory.connected → target.Suits after.memory.connected) :
      Steps state event before (after, .transition target)
  | ignores (here : state = .error) (ignored : event = .ignoreError) :
      Steps state event before (before, .transition .connected)

section States

variable (driver : Driver δ) (scope : Scope State (Memory δ)) (event : Event)

/-- A transition that leaves the session alone. -/
theorem Runs.leads {state target : State} {before after : Scope State (Memory δ)}
    (runs : Runs none before after) (inner : state ≠ .super)
    (suits : ∀ flag, state.Suits flag → target.Suits flag) :
    Steps state event before (after, .transition target) := by
  refine .leads inner runs fun suited => ?_
  rw [runs.connected]
  exact suits _ suited

/-- An attempt to open a session, possibly after another one was closed. -/
theorem connect_steps {session : Option Bool} {state onFailure : State}
    {before : Scope State (Memory δ)} (inner : state ≠ .super) (runs : Runs session before scope)
    (suits : state.Suits before.memory.connected → onFailure.Suits scope.memory.connected) :
    Steps state event before (connect driver scope onFailure) := by
  rcases connect_runs driver scope onFailure with ⟨after, opened, runsOn⟩ |
    ⟨after, failed, runsOn⟩
  · rw [opened]
    exact .leads inner (runs.trans runsOn) fun _ => runsOn.connected
  · rw [failed]
    refine .leads inner (runs.then_idle runsOn) fun suited => ?_
    rw [runsOn.connected]
    exact suits suited

theorem super_steps : Steps .super event scope (super scope (.event event)) := by
  unfold super
  split
  · next equal => cases equal
  · next equal => cases equal
  · next equal => cases equal
  · exact .tells _
  · exact .handles ((Runs.refl scope).update (fun memory => { memory with lowLatency := _ })
      rfl rfl rfl)
  · exact .tells scope.memory.download
  · exact .passes

theorem disconnected_steps :
    Steps .disconnected event scope (disconnected driver scope (.event event)) := by
  unfold disconnected
  split
  · next equal => cases equal
  · exact connect_steps driver scope event nofun (.refl scope) fun suited => suited
  · exact .passes

theorem connectionError_steps :
    Steps .connectionError event scope (connectionError driver scope (.event event)) := by
  unfold connectionError
  split
  · next equal => cases equal
  · next equal => cases equal
  · next equal => cases equal
  · exact connect_steps driver scope event nofun (.refl scope) fun suited => suited
  · exact (Runs.refl scope).leads event nofun fun _ suited => suited
  · split
    · exact .handles (.defer scope _)
    · exact .passes

theorem connected_steps :
    Steps .connected event scope (connected driver scope (.event event)) := by
  unfold connected
  split
  · next equal => cases equal
  · next equal => cases equal
  · next equal => cases equal
  · exact .leads nofun (disconnect_runs driver scope) fun _ => rfl
  · exact (Runs.refl scope).leads event nofun fun _ _ => trivial
  · exact .passes

theorem ready_steps : Steps .ready event scope (ready driver scope (.event event)) := by
  unfold ready
  split
  · next equal => cases equal
  · next equal => cases equal
  · next equal => cases equal
  · exact (Runs.refl scope).leads event nofun fun _ suited => suited
  · split
    · next request found =>
      have served := serve_runs driver scope fun query member =>
        Query.plain_of_mem_refresh (Request.queries_subset found member)
      unfold answer
      split
      · next equal => rw [equal] at served; exact .handles served
      · next equal => rw [equal] at served; exact served.leads event nofun fun _ _ => trivial
    · exact .passes

theorem deferWhileBusy_steps (state : State) :
    Steps state event scope (deferWhileBusy scope event) := by
  unfold deferWhileBusy
  split
  · exact .handles (.defer scope event)
  · exact .passes

theorem takePicture_steps : Steps .capturing event scope (takePicture driver scope) := by
  have performed := perform_runs driver scope .capture rfl
  unfold takePicture
  split
  · next found =>
    rw [found] at performed
    split
    · exact (performed.update (fun memory => { memory with lastCapture := some _ })
        rfl rfl rfl).leads event nofun fun _ suited => suited
    · exact (performed.post rfl _).leads event nofun fun _ suited => suited
  · next found =>
    rw [found] at performed
    exact performed.leads event nofun fun _ _ => trivial

theorem capturing_steps :
    Steps .capturing event scope (capturing driver scope (.event event)) := by
  unfold capturing
  split
  · next equal => cases equal
  · next equal => cases equal
  · next equal => cases equal
  · exact takePicture_steps driver scope event
  · next equal => cases equal; exact deferWhileBusy_steps scope event .capturing

theorem fetchPicture_steps (source : CameraPath) {before : Scope State (Memory δ)}
    (runs : Runs none before scope) :
    Steps .downloading event before (fetchPicture driver scope source) := by
  have performed := runs.then_idle (perform_runs driver scope (.download source
    (Storage.join scope.memory.settings.downloadDir source.name)) rfl)
  unfold fetchPicture
  dsimp only
  split
  · next found =>
    rw [found] at performed
    exact (performed.post rfl _).leads event nofun fun _ suited => suited
  · next found =>
    rw [found] at performed
    exact performed.leads event nofun fun _ _ => trivial

theorem downloading_steps :
    Steps .downloading event scope (downloading driver scope (.event event)) := by
  unfold downloading
  split
  · next equal => cases equal
  · next equal => cases equal
  · next equal => cases equal
  · split
    · exact (Runs.refl scope).leads event nofun fun _ suited => suited
    · next source _ =>
      exact fetchPicture_steps driver _ event source
        ((Runs.refl scope).update (fun memory => { memory with lastCapture := none }) rfl rfl rfl)
  · next equal => cases equal; exact deferWhileBusy_steps scope event .downloading

theorem error_steps : Steps .error event scope (error driver scope (.event event)) := by
  have closed := disconnect_runs driver scope
  unfold error
  split
  · next equal => cases equal
  · next equal => cases equal
  · next equal => cases equal
  · exact connect_steps driver _ event nofun closed fun _ => trivial
  · exact connect_steps driver _ event nofun closed fun _ => trivial
  · next equal => cases equal; exact .ignores rfl rfl
  · exact .leads nofun closed fun _ => rfl
  · exact .handles (.refl scope)
  · split
    · exact .handles (.defer scope _)
    · exact .passes

theorem handle_steps (state : State) :
    Steps state event scope ((chart driver).handle state (.event event) scope) := by
  cases state with
  | super => exact super_steps scope event
  | disconnected => exact disconnected_steps driver scope event
  | connected => exact connected_steps driver scope event
  | ready => exact ready_steps driver scope event
  | capturing => exact capturing_steps driver scope event
  | downloading => exact downloading_steps driver scope event
  | connectionError => exact connectionError_steps driver scope event
  | error => exact error_steps driver scope event

end States

end Camera

end Tether
