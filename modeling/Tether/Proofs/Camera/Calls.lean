import Tether.Proofs.Camera.Faults

/-!
# Which calls a state makes

A state calls the camera only for some signals, and then it makes only some calls
(`State.mayCall`, `handle_calls`). A session is opened from three states, on demand or by a timer;
it is closed from `connected` on demand and from the error state; pictures are taken and fetched by
a step of their own; and settings are read and changed only while the camera is connected or ready.
-/

namespace Tether

/-- The call of an entry of a journal, if it is one. -/
def Effect.call? {S : Type} : Effect S → Option Call
  | .called call _ => some call
  | _ => none

/-- Whether a call stores a picture. -/
def Call.isDownload : Call → Bool
  | .download .. => true
  | _ => false

namespace Camera

variable {δ : Type}

/-- The calls that a state may make when it is asked about a signal. -/
def State.mayCall (state : State) (signal : Signal) (call : Call) : Bool :=
  match state, signal with
  | .disconnected, .event .connect | .connectionError, .event .connect => call = .connect
  | .error, .event .recover | .error, .event .connect => call = .disconnect || call = .connect
  | .connected, .event .disconnect | .error, .event .disconnect => call = .disconnect
  | .connected, .entry => call = .setCaptureTarget memoryCard
  | .ready, .entry => call.isAccessor
  | .ready, .event event => event.isRequest && call.isAccessor
  | .capturing, .event .captureStep => call = .capture
  | .downloading, .event .downloadStep => call.isDownload
  | _, _ => false

/-- From one scope to another only some calls have been made. -/
def Calls (allowed : Call → Bool) (before after : Scope State (Memory δ)) : Prop :=
  Scope.Adds (fun effect => effect.call?.all allowed) before after

namespace Calls

variable {allowed : Call → Bool} {before middle after : Scope State (Memory δ)}

theorem refl (scope : Scope State (Memory δ)) : Calls allowed scope scope :=
  Scope.Adds.refl scope

theorem trans (first : Calls allowed before middle) (second : Calls allowed middle after) :
    Calls allowed before after :=
  Scope.Adds.trans first second

/-- An entry of the journal that is no call. -/
theorem record {effect : Effect State} (quiet : effect.call? = none)
    (first : Calls allowed before after) : Calls allowed before (after.record effect) :=
  Scope.Adds.record (by rw [quiet]; rfl) first

theorem post (event : Event) (topic : Topic) (first : Calls allowed before after) :
    Calls allowed before (after.post event topic) :=
  first.record rfl

theorem postSelf (event : Event) (first : Calls allowed before after) :
    Calls allowed before (after.postSelf event) :=
  first.record rfl

theorem update (change : Memory δ → Memory δ) (first : Calls allowed before after) :
    Calls allowed before (Camera.update after change) :=
  first

/-- What leaves the journal alone. -/
theorem of_journal_eq (first : Calls allowed before middle)
    (same : after.journal = middle.journal) : Calls allowed before after :=
  first.trans (Scope.Adds.of_journal_eq same)

theorem schedule (first : Calls allowed before after) (event : Event) (topic : Topic)
    (delay : Nat) : Calls allowed before (after.schedule event topic delay).1 :=
  first.trans (Scope.Adds.schedule (·.call?.all allowed) rfl after event topic delay)

theorem defer (first : Calls allowed before after) (event : Event) :
    Calls allowed before (after.defer event) :=
  first.trans (Scope.Adds.defer (·.call?.all allowed) rfl after event)

theorem enterLeaf (first : Calls allowed before after) (state : State) :
    Calls allowed before (enterLeaf after state) :=
  (first.update _).post _ _

end Calls

/-! ## What requests and steps call -/

section Handlers

variable (driver : Driver δ) {allowed : Call → Bool} {before scope : Scope State (Memory δ)}

theorem perform_calls (first : Calls allowed before scope) {call : Call} (may : allowed call) :
    Calls allowed before (perform driver scope call).2 :=
  Scope.Adds.record (Option.all_some.trans may) (first.update _)

theorem connect_calls (first : Calls allowed before scope) (may : allowed .connect)
    (onFailure : State) : Calls allowed before (connect driver scope onFailure).1 :=
  connect_keeps driver (perform_calls driver first may) (fun _ calls => calls.update _) onFailure

theorem disconnect_calls (first : Calls allowed before scope) (may : allowed .disconnect) :
    Calls allowed before (disconnect driver scope) :=
  (perform_calls driver first may).update _

theorem Calls.endures : Endures driver (allowed ·.call) (Calls allowed before) where
  call may calls := perform_calls driver calls may
  publish _ _ calls := calls.post _ _
  report calls := calls.postSelf _

theorem isAccessor_of_mem_refresh : ∀ query ∈ Query.refresh, query.call.isAccessor := by
  decide

theorem serve_calls (first : Calls Call.isAccessor before scope) {event : Event}
    {request : Request} (found : Request.ofEvent? event = some request) :
    Calls Call.isAccessor before (serve driver scope request).2 := by
  refine (Calls.endures driver).serve (fun query member => ?_)
    (fun change _ => perform_calls driver first (Call.isAccessor_of_isSetter change.writes)) first
  exact isAccessor_of_mem_refresh query (Request.queries_subset found member)

theorem refreshIfWanted_calls (first : Calls Call.isAccessor before scope) :
    Calls Call.isAccessor before (refreshIfWanted driver scope) :=
  (Calls.endures driver).refreshIfWanted isAccessor_of_mem_refresh first

theorem chooseTarget_calls (first : Calls allowed before scope)
    (may : allowed (.setCaptureTarget memoryCard)) :
    Calls allowed before (chooseTarget driver scope) :=
  (Calls.endures driver).chooseTarget (perform_calls driver first may)

theorem takePicture_calls (first : Calls allowed before scope) (may : allowed .capture) :
    Calls allowed before (takePicture driver scope).1 :=
  takePicture_keeps driver (perform_calls driver first may) (fun _ _ calls => calls.update _)
    fun _ calls => calls.post _ _

theorem fetchPicture_calls (first : Calls allowed before scope) (source : CameraPath)
    (may : ∀ destination, allowed (.download source destination)) :
    Calls allowed before (fetchPicture driver scope source).1 :=
  fetchPicture_keeps driver (fun destination => perform_calls driver first (may destination))
    fun _ _ calls => calls.post _ _

theorem deferWhileBusy_calls (first : Calls allowed before scope) (event : Event) :
    Calls allowed before (deferWhileBusy scope event).1 := by
  unfold deferWhileBusy
  split
  · exact first.defer event
  · exact first

end Handlers

/-! ## States -/

section States

variable (driver : Driver δ) (scope : Scope State (Memory δ)) (signal : Signal)

theorem super_calls : Calls (State.super.mayCall signal) scope (super scope signal).1 := by
  unfold super
  split
  · exact .refl scope
  · exact .refl scope
  · exact .refl scope
  · exact ((Calls.refl scope).update _).post _ _
  · exact (Calls.refl scope).update _
  · exact (Calls.refl scope).post _ _
  · exact .refl scope

theorem disconnected_calls :
    Calls (State.disconnected.mayCall signal) scope (disconnected driver scope signal).1 := by
  unfold disconnected
  split
  · exact ((Calls.refl scope).enterLeaf _).post _ _
  · exact connect_calls driver (.refl scope) rfl _
  · exact .refl scope

theorem connectionError_calls :
    Calls (State.connectionError.mayCall signal) scope
      (connectionError driver scope signal).1 := by
  unfold connectionError
  split
  · exact ((((Calls.refl scope).enterLeaf _).post _ _).schedule _ _ _).update _
  · exact ((Calls.refl scope).update _).of_journal_eq (Scope.cancel?_journal _ _)
  · exact .refl scope
  · exact connect_calls driver (.refl scope) rfl _
  · exact .refl scope
  · split
    · exact (Calls.refl scope).defer _
    · exact .refl scope

theorem connected_calls :
    Calls (State.connected.mayCall signal) scope (connected driver scope signal).1 := by
  unfold connected
  split
  · exact chooseTarget_calls driver ((Calls.refl scope).post _ _) (by simp [State.mayCall])
  · exact .refl scope
  · exact .refl scope
  · exact disconnect_calls driver (.refl scope) rfl
  · exact .refl scope
  · exact .refl scope

theorem ready_calls : Calls (State.ready.mayCall signal) scope (ready driver scope signal).1 := by
  unfold ready
  split
  · have told : Calls Call.isAccessor scope _ :=
      ((Calls.refl scope).enterLeaf .ready).post .cameraReady .cameraEvent
    exact (refreshIfWanted_calls driver told).of_journal_eq rfl
  · exact .refl scope
  · exact .refl scope
  · exact .refl scope
  · split
    · next event _ _ request found =>
      have asks : event.isRequest = true := by
        rw [← Request.isSome_ofEvent?, found]
        rfl
      have served := serve_calls driver (.refl scope) found
      have may : State.ready.mayCall (.event event) = Call.isAccessor := by
        funext call
        rw [State.mayCall, asks, Bool.true_and]
      rw [answer_fst, may]
      exact served
    · exact .refl scope

theorem capturing_calls :
    Calls (State.capturing.mayCall signal) scope (capturing driver scope signal).1 := by
  unfold capturing
  split
  · exact ((Calls.refl scope).enterLeaf _).postSelf _
  · exact .refl scope
  · exact .refl scope
  · exact takePicture_calls driver (.refl scope) rfl
  · exact deferWhileBusy_calls (.refl scope) _

theorem downloading_calls :
    Calls (State.downloading.mayCall signal) scope (downloading driver scope signal).1 := by
  unfold downloading
  split
  · exact ((Calls.refl scope).enterLeaf _).postSelf _
  · exact .refl scope
  · exact .refl scope
  · split
    · exact .refl scope
    · exact fetchPicture_calls driver ((Calls.refl scope).update _) _ fun _ => rfl
  · exact deferWhileBusy_calls (.refl scope) _

theorem error_calls : Calls (State.error.mayCall signal) scope (error driver scope signal).1 := by
  unfold error
  split
  · exact ((((Calls.refl scope).enterLeaf _).post _ _).schedule _ _ _).update _
  · exact ((Calls.refl scope).update _).of_journal_eq (Scope.cancel?_journal _ _)
  · exact .refl scope
  · exact connect_calls driver (disconnect_calls driver (.refl scope) rfl) rfl _
  · exact connect_calls driver (disconnect_calls driver (.refl scope) rfl) rfl _
  · exact .refl scope
  · exact disconnect_calls driver (.refl scope) rfl
  · exact .refl scope
  · split
    · exact (Calls.refl scope).defer _
    · exact .refl scope

/-- A state that is asked about a signal makes only the calls that it may make. -/
theorem handle_calls (state : State) :
    Calls (state.mayCall signal) scope ((chart driver).handle state signal scope).1 := by
  cases state with
  | super => exact super_calls scope signal
  | disconnected => exact disconnected_calls driver scope signal
  | connected => exact connected_calls driver scope signal
  | ready => exact ready_calls driver scope signal
  | capturing => exact capturing_calls driver scope signal
  | downloading => exact downloading_calls driver scope signal
  | connectionError => exact connectionError_calls driver scope signal
  | error => exact error_calls driver scope signal

end States

end Camera

end Tether
