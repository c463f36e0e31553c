import Tether.Proofs.Camera.Deeds

/-!
# The work of the camera controller

While a handler of the camera controller works, it leaves the held events and the timers alone, and
the only settings that it changes are those that it was asked to change (`Works`). Holding an event
back, setting and cancelling timers, and asking for a replay are no work in this sense: they happen
when states are entered and left (`handle_entry`, `handle_exit`).
-/

namespace Tether

/-- The calls that change settings for a request. -/
def Request.setters : Request → List Call
  | .query _ => []
  | .change wanted => [wanted.call]
  | .all => []

namespace Event

/-- The call that changes the setting that an event asks to change, if it does. -/
def setters (event : Event) : List Call :=
  ((Change.ofEvent? event).map Change.call).toList

/-- Whether an event has to wait while the camera is busy. -/
def Waits (event : Event) : Prop :=
  event = .capture ∨ event.isRequest

instance (event : Event) : Decidable event.Waits :=
  inferInstanceAs (Decidable (event = .capture ∨ event.isRequest))

theorem isSome_change (event : Event) : (Change.ofEvent? event).isSome = event.isSetter := by
  cases event <;> rfl

theorem setters_eq_nil {event : Event} (other : event.isSetter = false) : event.setters = [] := by
  rw [← isSome_change, Option.isSome_eq_false_iff, Option.isNone_iff_eq_none] at other
  rw [setters, other]
  rfl

theorem waits_of_isSetter {event : Event} (setter : event.isSetter) : event.Waits :=
  Or.inr (by rw [isRequest, setter, Bool.or_true])

end Event

theorem Request.setters_of_ofEvent? {event : Event} {request : Request}
    (found : Request.ofEvent? event = some request) : request.setters = event.setters := by
  cases event <;> cases found <;> rfl

theorem Request.isSome_ofEvent? (event : Event) :
    (Request.ofEvent? event).isSome = event.isRequest := by
  cases event <;> rfl

namespace Camera

variable {δ : Type}

/-- Neither the held events nor the timers have changed. -/
structure Keeps (before after : Scope State (Memory δ)) : Prop where
  held : after.held = before.held
  replay : after.replay = before.replay
  timers : after.timers = before.timers
  retryTimer : after.memory.retryTimer = before.memory.retryTimer
  recoveryTimer : after.memory.recoveryTimer = before.memory.recoveryTimer

theorem Keeps.refl (scope : Scope State (Memory δ)) : Keeps scope scope :=
  ⟨rfl, rfl, rfl, rfl, rfl⟩

theorem Keeps.trans {before middle after : Scope State (Memory δ)} (first : Keeps before middle)
    (second : Keeps middle after) : Keeps before after where
  held := second.held.trans first.held
  replay := second.replay.trans first.replay
  timers := second.timers.trans first.timers
  retryTimer := second.retryTimer.trans first.retryTimer
  recoveryTimer := second.recoveryTimer.trans first.recoveryTimer

/-- Work of a handler: the settings that it changes are those of `calls`. -/
structure Works (calls : List Call) (before after : Scope State (Memory δ)) : Prop where
  keeps : Keeps before after
  setters : setterCalls after.journal = setterCalls before.journal ++ calls

namespace Works

variable {calls : List Call} {before after : Scope State (Memory δ)}

theorem refl (scope : Scope State (Memory δ)) : Works [] scope scope :=
  ⟨.refl scope, (List.append_nil _).symm⟩

theorem trans {others : List Call} {middle : Scope State (Memory δ)}
    (first : Works calls before middle) (second : Works others middle after) :
    Works (calls ++ others) before after where
  keeps := first.keeps.trans second.keeps
  setters := by rw [second.setters, first.setters, List.append_assoc]

/-- Work before or after which no setting is changed. -/
theorem after_idle {middle : Scope State (Memory δ)} (first : Works [] before middle)
    (second : Works calls middle after) : Works calls before after :=
  first.trans second

theorem then_idle {middle : Scope State (Memory δ)} (first : Works calls before middle)
    (second : Works [] middle after) : Works calls before after := by
  have both := first.trans second
  rwa [List.append_nil] at both

/-- An entry of the journal that is no change of a setting. -/
theorem record (effect : Effect State) (quiet : setter? effect = none)
    (work : Works calls before after) : Works calls before (after.record effect) where
  keeps :=
    ⟨work.keeps.held, work.keeps.replay, work.keeps.timers, work.keeps.retryTimer,
      work.keeps.recoveryTimer⟩
  setters := by
    have none : setterCalls [effect] = [] := List.filterMap_cons_none quiet
    rw [Scope.record, setterCalls, List.filterMap_append]
    exact (congrArg (_ ++ ·) none).trans ((List.append_nil _).trans work.setters)

theorem post (event : Event) (topic : Topic) (work : Works calls before after) :
    Works calls before (after.post event topic) :=
  work.record (.posted event topic) rfl

theorem postSelf (event : Event) (work : Works calls before after) :
    Works calls before (after.postSelf event) :=
  work.record (.postedSelf event) rfl

/-- Changes of the memory that leave the timers alone. -/
theorem update (change : Memory δ → Memory δ) (work : Works calls before after)
    (retry : (change after.memory).retryTimer = after.memory.retryTimer)
    (recovery : (change after.memory).recoveryTimer = after.memory.recoveryTimer) :
    Works calls before (update after change) where
  keeps :=
    { work.keeps with
      retryTimer := retry.trans work.keeps.retryTimer
      recoveryTimer := recovery.trans work.keeps.recoveryTimer }
  setters := work.setters

end Works

section Handlers

variable (driver : Driver δ) (scope : Scope State (Memory δ))

theorem enterLeaf_works (state : State) : Works [] scope (enterLeaf scope state) :=
  ((Works.refl scope).update _ rfl rfl).post _ _

theorem perform_works (call : Call) :
    Works ([call].filter Call.isSetter) scope (perform driver scope call).2 where
  keeps := ⟨rfl, rfl, rfl, rfl, rfl⟩
  setters := by
    unfold perform Scope.noteCall Scope.record setterCalls
    rw [List.filterMap_append]
    congr 1
    rw [List.filterMap_cons, setter?, List.filter_cons]
    cases call.isSetter <;> rfl

theorem perform_idle (call : Call) (reads : call.isSetter = false) :
    Works [] scope (perform driver scope call).2 := by
  have performed := perform_works driver scope call
  rwa [List.filter_cons, reads] at performed

theorem connect_works (onFailure : State) : Works [] scope (connect driver scope onFailure).1 :=
  connect_keeps driver (perform_idle driver scope .connect rfl)
    (fun _ works => works.update (fun memory => { memory with connected := true }) rfl rfl)
    onFailure

theorem disconnect_works : Works [] scope (disconnect driver scope) :=
  (perform_idle driver scope .disconnect rfl).update _ rfl rfl

theorem Works.endures (calls : List Call) :
    Endures driver (fun _ => True) (Works calls scope) where
  call {_ query} _ works := works.then_idle (perform_idle driver _ query.call query.reads)
  publish _ _ works := works.post _ _
  report works := works.postSelf _

/-- A setting is written whether or not it can be read back. -/
theorem serve_works (request : Request) :
    Works request.setters scope (serve driver scope request).2 := by
  cases request with
  | query query => exact (Works.endures driver scope []).serveQuery trivial (.refl scope)
  | change change =>
    have performed := perform_works driver scope change.call
    rw [List.filter_cons, change.writes] at performed
    exact (Works.endures driver scope [change.call]).serveChange trivial performed
  | all => exact (Works.endures driver scope []).serveQueries (fun _ _ => trivial) (.refl scope)

theorem chooseTarget_works :
    Works [.setCaptureTarget memoryCard] scope (chooseTarget driver scope) :=
  (Works.endures driver scope _).chooseTarget
    (perform_works driver scope (.setCaptureTarget memoryCard))

theorem takePicture_works : Works [] scope (takePicture driver scope).1 :=
  takePicture_keeps driver (perform_idle driver scope .capture rfl)
    (fun _ path works =>
      works.update (fun memory => { memory with lastCapture := some path }) rfl rfl)
    fun _ works => works.post _ _

theorem fetchPicture_works (source : CameraPath) :
    Works [] scope (fetchPicture driver scope source).1 :=
  fetchPicture_keeps driver (fun _ => perform_idle driver scope _ rfl)
    fun _ _ works => works.post _ _

theorem refreshIfWanted_works : Works [] scope (refreshIfWanted driver scope) :=
  (Works.endures driver scope []).refreshIfWanted (fun _ _ => trivial) (.refl scope)

end Handlers

/-! ## Entering and leaving states -/

/-- The settings that are changed when a state is entered. -/
def State.entrySetters : State → List Call
  | .connected => [.setCaptureTarget memoryCard]
  | _ => []

/-- What a state does on entry when its work is done. -/
def State.onEntry (state : State) (scope : Scope State (Memory δ)) : Scope State (Memory δ) :=
  match state with
  | .ready => scope.requestReplay
  | .connectionError => armRetry scope
  | .error => armRecovery scope
  | _ => scope

/-- What a state does on exit. -/
def State.onExit (state : State) (scope : Scope State (Memory δ)) : Scope State (Memory δ) :=
  match state with
  | .connectionError => dropRetry scope
  | .error => dropRecovery scope
  | _ => scope

/-- The initial transition of a state. -/
def State.initial? : State → Option State
  | .super => some .disconnected
  | .connected => some .ready
  | _ => none

theorem handle_entry (driver : Driver δ) (state : State) (scope : Scope State (Memory δ)) :
    ∃ middle, Works state.entrySetters scope middle ∧
      ((chart driver).handle state .entry scope).1 = state.onEntry middle := by
  have entered := enterLeaf_works scope state
  cases state with
  | super => exact ⟨scope, .refl scope, rfl⟩
  | disconnected => exact ⟨_, entered.post _ _, rfl⟩
  | connected =>
    exact ⟨_, ((Works.refl scope).post _ _).after_idle (chooseTarget_works driver _), rfl⟩
  | ready => exact ⟨_, (entered.post _ _).trans (refreshIfWanted_works driver _), rfl⟩
  | capturing => exact ⟨_, entered.postSelf _, rfl⟩
  | downloading => exact ⟨_, entered.postSelf _, rfl⟩
  | connectionError => exact ⟨_, entered.post _ _, rfl⟩
  | error => exact ⟨_, entered.post _ _, rfl⟩

/-! Neither an entry nor an exit touches the held events, and only the entry of the ready state asks
for a replay. -/

section Queue

variable (state : State) (scope : Scope State (Memory δ))

theorem onExit_held : (state.onExit scope).held = scope.held := by
  cases state with
  | connectionError => exact Scope.cancel?_held _ _
  | error => exact Scope.cancel?_held _ _
  | _ => rfl

theorem onExit_replay : (state.onExit scope).replay = scope.replay := by
  cases state with
  | connectionError => exact Scope.cancel?_replay _ _
  | error => exact Scope.cancel?_replay _ _
  | _ => rfl

theorem onExit_journal : (state.onExit scope).journal = scope.journal := by
  cases state with
  | connectionError => exact Scope.cancel?_journal _ _
  | error => exact Scope.cancel?_journal _ _
  | _ => rfl

theorem onEntry_held : (state.onEntry scope).held = scope.held := by
  cases state with
  | connectionError => exact scope.schedule_held .connect .cameraCmd _
  | error => exact scope.schedule_held .recover .cameraCmd _
  | _ => rfl

theorem onEntry_replay : (state.onEntry scope).replay =
    if state = .ready then scope.replay || !scope.held.isEmpty else scope.replay := by
  cases state with
  | connectionError => exact scope.schedule_replay .connect .cameraCmd _
  | error => exact scope.schedule_replay .recover .cameraCmd _
  | _ => rfl

theorem onEntry_setters :
    setterCalls (state.onEntry scope).journal = setterCalls scope.journal := by
  have unchanged (event : Event) (delay : Nat) :
      setterCalls (scope.schedule event .cameraCmd delay).1.journal =
        setterCalls scope.journal := by
    rw [Scope.schedule_journal, setterCalls, List.filterMap_append]
    split <;> exact List.append_nil _
  cases state with
  | connectionError => exact unchanged .connect _
  | error => exact unchanged .recover _
  | _ => rfl

end Queue

theorem handle_exit (driver : Driver δ) (state : State) (scope : Scope State (Memory δ)) :
    ((chart driver).handle state .exit scope).1 = state.onExit scope := by
  cases state <;> rfl

theorem handle_init (driver : Driver δ) (state : State) (scope : Scope State (Memory δ)) :
    ((chart driver).handle state .init scope).1 = scope ∧
      ∀ target, ((chart driver).handle state .init scope).2 = .transition target →
        state.initial? = some target := by
  cases state <;> exact ⟨rfl, by rintro target ⟨⟩ <;> rfl⟩

end Camera

end Tether
