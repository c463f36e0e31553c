import Tether.Camera.Request
import Tether.Statechart.Basic
import Tether.Storage

/-!
# The camera controller

The only machine that calls the camera. A call that fails is never passed on: it turns into a
transition to an error state, or into an error event that the controller sends to itself.

While the camera is busy, commands and requests for settings are held back; in the error states
only changes of settings are. They are dispatched again as soon as the controller is ready. A timer
tries to connect again after a failed connection, and another one to recover from an error; each
ends with the state that set it.
-/

namespace Tether

namespace Camera

inductive State where
  | super
  | disconnected
  | connected
  | ready
  | capturing
  | downloading
  | connectionError
  | error
deriving DecidableEq, Repr

def State.name : State → String
  | .super => "Super"
  | .disconnected => "Disconnected"
  | .connected => "Connected"
  | .ready => "Ready"
  | .capturing => "Capturing"
  | .downloading => "Downloading"
  | .connectionError => "ConnectionError"
  | .error => "Error"

/-- The status that observers see of a state. -/
def State.label : State → String
  | .super => "super"
  | .disconnected => "disconnected"
  | .connected => "connected"
  | .ready => "ready"
  | .capturing => "capturing"
  | .downloading => "downloading"
  | .connectionError => "connection_error"
  | .error => "error"

def topics : List Topic := [.cameraCmd]

/-- The topics that the machine speaks on. -/
def spokenTopics : List Topic := [.cameraConfig, .cameraEvent, .cameraCmd]

/-- Where the camera is told to store pictures. -/
def memoryCard : String := "Memory card"

/-- The settings of the controller; delays are in milliseconds. -/
structure Settings where
  /-- The directory that pictures are downloaded to. -/
  downloadDir : String
  /-- Whether pictures are downloaded at first. -/
  download : Bool
  /-- The delay before connecting again. -/
  connectionRetry : Nat
  /-- The delay before recovering from an error. -/
  errorRetry : Nat
  /-- The pause between closing and opening a session while recovering. -/
  recoveryGrace : Nat
deriving DecidableEq

/-- The memory of the controller of a camera whose own memory is `δ`. -/
structure Memory (δ : Type) where
  device : δ
  settings : Settings
  /-- Whether pictures are downloaded. -/
  download : Bool
  /-- Whether the refresh of all settings on becoming ready is left out. -/
  lowLatency : Bool
  /-- Whether a session is open. -/
  connected : Bool
  /-- The state that observers have been told about. -/
  status : State
  /-- The picture that waits for its download. -/
  lastCapture : Option CameraPath
  /-- The timer that connects again. -/
  retryTimer : Option Nat
  /-- The timer that recovers from an error. -/
  recoveryTimer : Option Nat

def Memory.new {δ : Type} (device : δ) (settings : Settings) : Memory δ :=
  ⟨device, settings, settings.download, false, false, .disconnected, none, none, none⟩

def Memory.statusEvent {δ : Type} (memory : Memory δ) : Event :=
  .cameraState memory.status.label memory.connected memory.download

section Handlers

variable {δ : Type}

def update (scope : Scope State (Memory δ)) (change : Memory δ → Memory δ) :
    Scope State (Memory δ) :=
  scope.setMemory (change scope.memory)

def announceStatus (scope : Scope State (Memory δ)) : Scope State (Memory δ) :=
  scope.post scope.memory.statusEvent .cameraEvent

/-- Notes a new state, sends the status event, and then the news of the state. -/
def enterLeaf (scope : Scope State (Memory δ)) (state : State) : Scope State (Memory δ) :=
  announceStatus (update scope fun memory => { memory with status := state })

/-! ## Calls -/

def perform (driver : Driver δ) (scope : Scope State (Memory δ)) (call : Call) :
    Except Fault call.Reply × Scope State (Memory δ) :=
  let (reply, device) := driver.perform call scope.memory.device
  (reply, (update scope fun memory => { memory with device := device }).noteCall call reply)

/-- Opens a session; the result is the state that follows, given the one that follows a failure. -/
def connect (driver : Driver δ) (scope : Scope State (Memory δ)) (onFailure : State) :
    Scope State (Memory δ) × Reaction State :=
  match perform driver scope .connect with
  | (.ok _, scope) =>
      (update scope fun memory => { memory with connected := true }, .transition .connected)
  | (.error _, scope) => (scope, .transition onFailure)

def disconnect (driver : Driver δ) (scope : Scope State (Memory δ)) : Scope State (Memory δ) :=
  update (perform driver scope .disconnect).2 fun memory => { memory with connected := false }

/-! ## Requests for settings -/

/-- Reads a setting and publishes the reply. -/
def serveQuery (driver : Driver δ) (scope : Scope State (Memory δ)) (query : Query) :
    Except Fault Unit × Scope State (Memory δ) :=
  match perform driver scope query.call with
  | (.ok reply, scope) => (.ok (), scope.post (query.event reply) .cameraConfig)
  | (.error fault, scope) => (.error fault, scope)

/-- Writes a setting, reads it back and publishes the reply. -/
def serveChange (driver : Driver δ) (scope : Scope State (Memory δ)) (change : Change) :
    Except Fault Unit × Scope State (Memory δ) :=
  match perform driver scope change.call with
  | (.ok _, scope) => serveQuery driver scope change.query
  | (.error fault, scope) => (.error fault, scope)

/-- Serves queries one after the other. Those that the camera does not offer are skipped, and a
camera in trouble ends the series. -/
def serveQueries (driver : Driver δ) :
    List Query → Scope State (Memory δ) → Except Fault Unit × Scope State (Memory δ)
  | [], scope => (.ok (), scope)
  | query :: rest, scope =>
      match serveQuery driver scope query with
      | (.ok _, scope) => serveQueries driver rest scope
      | (.error fault, scope) =>
          if fault.isTrouble then (.error fault, scope) else serveQueries driver rest scope

/-- Publishes every setting that the camera offers. -/
def refreshAll (driver : Driver δ) (scope : Scope State (Memory δ)) :
    Except Fault Unit × Scope State (Memory δ) :=
  serveQueries driver Query.refresh scope

/-- Serves a request for settings. -/
def serve (driver : Driver δ) (scope : Scope State (Memory δ)) :
    Request → Except Fault Unit × Scope State (Memory δ)
  | .query query => serveQuery driver scope query
  | .change change => serveChange driver scope change
  | .all => refreshAll driver scope

/-- Sends an error event to the controller itself if a call has failed. -/
def reportFailure (outcome : Except Fault Unit × Scope State (Memory δ)) :
    Scope State (Memory δ) :=
  match outcome with
  | (.ok _, scope) => scope
  | (.error _, scope) => scope.postSelf .cameraError

/-- Tells the camera to store pictures on its card. A camera that cannot choose is left alone. -/
def chooseTarget (driver : Driver δ) (scope : Scope State (Memory δ)) : Scope State (Memory δ) :=
  match perform driver scope (.setCaptureTarget memoryCard) with
  | (.ok _, scope) => scope
  | (.error fault, scope) => if fault.isTrouble then scope.postSelf .cameraError else scope

/-! ## Timers -/

/-- Sets the timer that connects again. -/
def armRetry (scope : Scope State (Memory δ)) : Scope State (Memory δ) :=
  let (scope, id) := scope.schedule .connect .cameraCmd scope.memory.settings.connectionRetry
  update scope fun memory => { memory with retryTimer := some id }

/-- Cancels and forgets the timer that connects again. -/
def dropRetry (scope : Scope State (Memory δ)) : Scope State (Memory δ) :=
  (update scope fun memory => { memory with retryTimer := none }).cancel? scope.memory.retryTimer

/-- Sets the timer that recovers from an error. -/
def armRecovery (scope : Scope State (Memory δ)) : Scope State (Memory δ) :=
  let (scope, id) := scope.schedule .recover .cameraCmd scope.memory.settings.errorRetry
  update scope fun memory => { memory with recoveryTimer := some id }

/-- Cancels and forgets the timer that recovers from an error. -/
def dropRecovery (scope : Scope State (Memory δ)) : Scope State (Memory δ) :=
  (update scope fun memory => { memory with recoveryTimer := none }).cancel?
    scope.memory.recoveryTimer

/-! ## Pictures -/

/-- Takes a picture, and leads on to its download if that is wanted. -/
def takePicture (driver : Driver δ) (scope : Scope State (Memory δ)) :
    Scope State (Memory δ) × Reaction State :=
  match perform driver scope .capture with
  | (.ok path, scope) =>
      if scope.memory.download then
        (update scope fun memory => { memory with lastCapture := some path },
          .transition .downloading)
      else (scope.post (.captureDone false "") .cameraEvent, .transition .ready)
  | (.error _, scope) => (scope, .transition .error)

def fetchPicture (driver : Driver δ) (scope : Scope State (Memory δ)) (source : CameraPath) :
    Scope State (Memory δ) × Reaction State :=
  let destination := Storage.join scope.memory.settings.downloadDir source.name
  match perform driver scope (.download source destination) with
  | (.ok _, scope) =>
      (scope.post (.captureDone true destination) .cameraEvent, .transition .ready)
  | (.error _, scope) => (scope, .transition .error)

/-! ## States -/

/-- The state around all others. -/
def super (scope : Scope State (Memory δ)) : Signal → Scope State (Memory δ) × Reaction State
  | .entry => (scope, .handled)
  | .exit => (scope, .handled)
  | .init => (scope, .transition .disconnected)
  | .event (.setDownload download) =>
      (announceStatus (update scope fun memory => { memory with download := download }), .handled)
  | .event (.setLowLatency lowLatency) =>
      (update scope fun memory => { memory with lowLatency := lowLatency }, .handled)
  | .event .getCameraState => (announceStatus scope, .handled)
  | .event _ => (scope, .delegate)

def disconnected (driver : Driver δ) (scope : Scope State (Memory δ)) :
    Signal → Scope State (Memory δ) × Reaction State
  | .entry => ((enterLeaf scope .disconnected).post .cameraDisconnected .cameraEvent, .handled)
  | .event .connect => connect driver scope .connectionError
  | _ => (scope, .delegate)

/-- The last attempt to connect failed; a timer starts the next one. -/
def connectionError (driver : Driver δ) (scope : Scope State (Memory δ)) :
    Signal → Scope State (Memory δ) × Reaction State
  | .entry =>
      (armRetry ((enterLeaf scope .connectionError).post .cameraConnectionError .cameraEvent),
        .handled)
  | .exit => (dropRetry scope, .handled)
  | .init => (scope, .handled)
  | .event .connect => connect driver scope .connectionError
  | .event .disconnect => (scope, .transition .disconnected)
  | .event event => if event.isSetter then (scope.defer event, .handled) else (scope, .delegate)

def connected (driver : Driver δ) (scope : Scope State (Memory δ)) :
    Signal → Scope State (Memory δ) × Reaction State
  | .entry => (chooseTarget driver (scope.post .cameraConnected .cameraEvent), .handled)
  | .exit => (scope, .handled)
  | .init => (scope, .transition .ready)
  | .event .disconnect => (disconnect driver scope, .transition .disconnected)
  | .event .cameraError => (scope, .transition .error)
  | .event _ => (scope, .delegate)

/-- Publishes every setting on becoming ready, unless that is turned off. -/
def refreshIfWanted (driver : Driver δ) (scope : Scope State (Memory δ)) :
    Scope State (Memory δ) :=
  if scope.memory.lowLatency then scope else reportFailure (refreshAll driver scope)

/-- Serves a request for settings; one that fails leads to the error state. -/
def answer (driver : Driver δ) (scope : Scope State (Memory δ)) (request : Request) :
    Scope State (Memory δ) × Reaction State :=
  match serve driver scope request with
  | (.ok _, scope) => (scope, .handled)
  | (.error _, scope) => (scope, .transition .error)

/-- The camera waits for commands. -/
def ready (driver : Driver δ) (scope : Scope State (Memory δ)) :
    Signal → Scope State (Memory δ) × Reaction State
  | .entry =>
      ((refreshIfWanted driver
        ((enterLeaf scope .ready).post .cameraReady .cameraEvent)).requestReplay, .handled)
  | .exit => (scope, .handled)
  | .init => (scope, .handled)
  | .event .capture => (scope, .transition .capturing)
  | .event event =>
      match Request.ofEvent? event with
      | some request => answer driver scope request
      | none => (scope, .delegate)

/-- Holds back what must not run while the camera is busy. -/
def deferWhileBusy (scope : Scope State (Memory δ)) (event : Event) :
    Scope State (Memory δ) × Reaction State :=
  if event = .capture ∨ event.isRequest then (scope.defer event, .handled)
  else (scope, .delegate)

def capturing (driver : Driver δ) (scope : Scope State (Memory δ)) :
    Signal → Scope State (Memory δ) × Reaction State
  -- The picture is taken by a step of its own, behind whatever is in the mailbox already.
  | .entry => ((enterLeaf scope .capturing).postSelf .captureStep, .handled)
  | .exit => (scope, .handled)
  | .init => (scope, .handled)
  | .event .captureStep => takePicture driver scope
  | .event event => deferWhileBusy scope event

def downloading (driver : Driver δ) (scope : Scope State (Memory δ)) :
    Signal → Scope State (Memory δ) × Reaction State
  | .entry => ((enterLeaf scope .downloading).postSelf .downloadStep, .handled)
  | .exit => (scope, .handled)
  | .init => (scope, .handled)
  | .event .downloadStep =>
      match scope.memory.lastCapture with
      | none => (scope, .transition .ready)
      | some source =>
          fetchPicture driver (update scope fun memory => { memory with lastCapture := none })
            source
  | .event event => deferWhileBusy scope event

/-- The camera is in trouble; a timer starts the recovery. -/
def error (driver : Driver δ) (scope : Scope State (Memory δ)) :
    Signal → Scope State (Memory δ) × Reaction State
  | .entry =>
      (armRecovery ((enterLeaf scope .error).post .cameraError .cameraEvent), .handled)
  | .exit => (dropRecovery scope, .handled)
  | .init => (scope, .handled)
  | .event .recover => connect driver (disconnect driver scope) .error
  | .event .connect => connect driver (disconnect driver scope) .error
  -- Whether a session is open is not looked at.
  | .event .ignoreError => (scope, .transition .connected)
  | .event .disconnect => (disconnect driver scope, .transition .disconnected)
  -- The trouble that the news is about is being dealt with already.
  | .event .cameraError => (scope, .handled)
  | .event event => if event.isSetter then (scope.defer event, .handled) else (scope, .delegate)

end Handlers

/-! ## What the parts of the handlers keep

The parts of the handlers are made of calls, of news and of changes of the memory. What these keep,
the parts keep, whatever it is. -/

/-- What serving requests for settings keeps: it survives the call of every fair query, the
publication of its reply, and the news of an error. -/
structure Endures {δ : Type} (driver : Driver δ) (fair : Query → Prop)
    (kept : Scope State (Memory δ) → Prop) : Prop where
  call {scope : Scope State (Memory δ)} {query : Query} (fair : fair query) (begins : kept scope) :
    kept (perform driver scope query.call).2
  publish {scope : Scope State (Memory δ)} {query : Query} (reply : query.call.Reply)
    (fair : fair query) (begins : kept scope) : kept (scope.post (query.event reply) .cameraConfig)
  report {scope : Scope State (Memory δ)} (begins : kept scope) :
    kept (scope.postSelf .cameraError)

section Keeping

variable {δ : Type} (driver : Driver δ) {fair : Query → Prop}
  {kept : Scope State (Memory δ) → Prop} {troubled : Fault → Scope State (Memory δ) → Prop}
  {scope : Scope State (Memory δ)}

/-- A series of queries goes on as long as none of them finds the camera in trouble. -/
theorem serveQueries_ends {queries : List Query}
    (next : ∀ query ∈ queries, ∀ scope, kept scope →
      match serveQuery driver scope query with
      | (.ok _, after) => kept after
      | (.error fault, after) => if fault.isTrouble then troubled fault after else kept after)
    (begins : kept scope) :
    match serveQueries driver queries scope with
    | (.ok _, after) => kept after
    | (.error fault, after) => troubled fault after := by
  induction queries generalizing scope with
  | nil => exact begins
  | cons query rest ih =>
    have first := next query List.mem_cons_self scope begins
    have others : ∀ other ∈ rest, _ := fun other member =>
      next other (List.mem_cons_of_mem query member)
    unfold serveQueries
    cases found : serveQuery driver scope query with
    | mk reply after =>
      rw [found] at first
      cases reply with
      | ok reply => exact ih others first
      | error fault =>
        dsimp only at first ⊢
        by_cases trouble : fault.isTrouble
        · rw [if_pos trouble] at first ⊢
          exact first
        · rw [if_neg trouble] at first ⊢
          exact ih others first

theorem connect_keeps (performed : kept (perform driver scope .connect).2)
    (opens : ∀ scope, kept scope →
      kept (update scope fun memory => { memory with connected := true }))
    (onFailure : State) : kept (connect driver scope onFailure).1 := by
  unfold connect
  split
  · next found => rw [found] at performed; exact opens _ performed
  · next found => rw [found] at performed; exact performed

theorem takePicture_keeps (performed : kept (perform driver scope .capture).2)
    (notes : ∀ scope path, kept scope →
      kept (update scope fun memory => { memory with lastCapture := some path }))
    (tells : ∀ scope, kept scope → kept (scope.post (.captureDone false "") .cameraEvent)) :
    kept (takePicture driver scope).1 := by
  unfold takePicture
  split
  · next found =>
    rw [found] at performed
    split
    · exact notes _ _ performed
    · exact tells _ performed
  · next found => rw [found] at performed; exact performed

theorem fetchPicture_keeps {source : CameraPath}
    (performed : ∀ destination, kept (perform driver scope (.download source destination)).2)
    (tells : ∀ scope destination, kept scope →
      kept (scope.post (.captureDone true destination) .cameraEvent)) :
    kept (fetchPicture driver scope source).1 := by
  have performed := performed (Storage.join scope.memory.settings.downloadDir source.name)
  unfold fetchPicture
  dsimp only
  split
  · next found => rw [found] at performed; exact tells _ _ performed
  · next found => rw [found] at performed; exact performed

theorem answer_fst (scope : Scope State (Memory δ)) (request : Request) :
    (answer driver scope request).1 = (serve driver scope request).2 := by
  unfold answer
  split
  · next found => rw [found]
  · next found => rw [found]

namespace Endures

variable {driver} (endures : Endures driver fair kept)

include endures

theorem serveQuery {query : Query} (may : fair query) (begins : kept scope) :
    kept (serveQuery driver scope query).2 := by
  have performed := endures.call may begins
  unfold Camera.serveQuery
  split
  · next found => rw [found] at performed; exact endures.publish _ may performed
  · next found => rw [found] at performed; exact performed

/-- The setting is read back only if it could be written. -/
theorem serveChange {change : Change} (may : fair change.query)
    (written : kept (perform driver scope change.call).2) :
    kept (serveChange driver scope change).2 := by
  unfold Camera.serveChange
  split
  · next found => rw [found] at written; exact endures.serveQuery may written
  · next found => rw [found] at written; exact written

theorem serveQueries {queries : List Query} (may : ∀ query ∈ queries, fair query)
    (begins : kept scope) : kept (serveQueries driver queries scope).2 := by
  have ends := @serveQueries_ends δ driver kept (fun _ => kept) scope queries ?_ begins
  · split at ends
    · next found => rw [found]; exact ends
    · next found => rw [found]; exact ends
  · intro query member scope begins
    have served := endures.serveQuery (may query member) begins
    split
    · next found => rw [found] at served; exact served
    · next found => rw [found] at served; rw [ite_self]; exact served

theorem serve {request : Request} (may : ∀ query ∈ request.queries, fair query)
    (written : ∀ change, request = .change change → kept (perform driver scope change.call).2)
    (begins : kept scope) : kept (serve driver scope request).2 := by
  cases request with
  | query query => exact endures.serveQuery (may query List.mem_cons_self) begins
  | change change => exact endures.serveChange (may _ List.mem_cons_self) (written change rfl)
  | all => exact endures.serveQueries may begins

theorem refreshIfWanted (may : ∀ query ∈ Query.refresh, fair query) (begins : kept scope) :
    kept (refreshIfWanted driver scope) := by
  have served := endures.serveQueries may begins
  unfold Camera.refreshIfWanted reportFailure refreshAll
  split
  · exact begins
  · split
    · next found => rw [found] at served; exact served
    · next found => rw [found] at served; exact endures.report served

theorem chooseTarget (performed : kept (perform driver scope (.setCaptureTarget memoryCard)).2) :
    kept (chooseTarget driver scope) := by
  unfold Camera.chooseTarget
  split
  · next found => rw [found] at performed; exact performed
  · next found =>
    rw [found] at performed
    split
    · exact endures.report performed
    · exact performed

end Endures

end Keeping

section Becomes

variable {δ : Type} (driver : Driver δ) (scope : Scope State (Memory δ))

theorem update_becomes (change : Memory δ → Memory δ) :
    scope.BecomesOn spokenTopics (update scope change) :=
  (Scope.BecomesOn.refl scope).setMemory _

theorem announceStatus_becomes : scope.BecomesOn spokenTopics (announceStatus scope) :=
  (Scope.BecomesOn.refl scope).post _ (by decide)

theorem enterLeaf_becomes (state : State) : scope.BecomesOn spokenTopics (enterLeaf scope state) :=
  (update_becomes scope _).trans (announceStatus_becomes _)

theorem perform_becomes (call : Call) :
    scope.BecomesOn spokenTopics (perform driver scope call).2 :=
  (update_becomes scope _).noteCall call _

theorem connect_becomes (onFailure : State) :
    scope.BecomesOn spokenTopics (connect driver scope onFailure).1 :=
  connect_keeps driver (perform_becomes driver scope .connect)
    (fun _ performed => performed.setMemory _) onFailure

theorem disconnect_becomes : scope.BecomesOn spokenTopics (disconnect driver scope) :=
  (perform_becomes driver scope .disconnect).trans (update_becomes _ _)

theorem becomes_endures : Endures driver (fun _ => True) (scope.BecomesOn spokenTopics) where
  call _ begins := begins.trans (perform_becomes driver _ _)
  publish _ _ begins := begins.post _ (by decide)
  report begins := begins.postSelf _

theorem armRetry_becomes : scope.BecomesOn spokenTopics (armRetry scope) :=
  ((Scope.BecomesOn.refl scope).schedule _ (by decide) _).setMemory _

theorem dropRetry_becomes : scope.BecomesOn spokenTopics (dropRetry scope) :=
  (update_becomes scope _).cancel? _

theorem armRecovery_becomes : scope.BecomesOn spokenTopics (armRecovery scope) :=
  ((Scope.BecomesOn.refl scope).schedule _ (by decide) _).setMemory _

theorem dropRecovery_becomes : scope.BecomesOn spokenTopics (dropRecovery scope) :=
  (update_becomes scope _).cancel? _

theorem takePicture_becomes : scope.BecomesOn spokenTopics (takePicture driver scope).1 :=
  takePicture_keeps driver (perform_becomes driver scope .capture)
    (fun _ _ performed => performed.setMemory _) fun _ performed => performed.post _ (by decide)

theorem fetchPicture_becomes (source : CameraPath) :
    scope.BecomesOn spokenTopics (fetchPicture driver scope source).1 :=
  fetchPicture_keeps driver (fun _ => perform_becomes driver scope _)
    fun _ _ performed => performed.post _ (by decide)

theorem answer_becomes (request : Request) :
    scope.BecomesOn spokenTopics (answer driver scope request).1 := by
  rw [answer_fst]
  exact (becomes_endures driver scope).serve (fun _ _ => trivial)
    (fun change _ => perform_becomes driver scope change.call) (.refl scope)

theorem super_becomes (signal : Signal) : scope.BecomesOn spokenTopics (super scope signal).1 := by
  unfold super
  split
  · exact .refl scope
  · exact .refl scope
  · exact .refl scope
  · exact (update_becomes scope _).trans (announceStatus_becomes _)
  · exact (Scope.BecomesOn.refl scope).setMemory _
  · exact announceStatus_becomes scope
  · exact .refl scope

theorem disconnected_becomes (signal : Signal) :
    scope.BecomesOn spokenTopics (disconnected driver scope signal).1 := by
  unfold disconnected
  split
  · exact (enterLeaf_becomes scope .disconnected).post _ (by decide)
  · exact connect_becomes driver scope .connectionError
  · exact .refl scope

theorem connectionError_becomes (signal : Signal) :
    scope.BecomesOn spokenTopics (connectionError driver scope signal).1 := by
  unfold connectionError
  split
  · exact ((enterLeaf_becomes scope .connectionError).post _ (by decide)).trans
      (armRetry_becomes _)
  · exact dropRetry_becomes scope
  · exact .refl scope
  · exact connect_becomes driver scope .connectionError
  · exact .refl scope
  · split
    · exact (Scope.BecomesOn.refl scope).defer _
    · exact .refl scope

theorem connected_becomes (signal : Signal) :
    scope.BecomesOn spokenTopics (connected driver scope signal).1 := by
  unfold connected
  split
  · have told : scope.BecomesOn spokenTopics (scope.post .cameraConnected .cameraEvent) :=
      (Scope.BecomesOn.refl scope).post _ (by decide)
    exact (becomes_endures driver scope).chooseTarget (told.trans (perform_becomes driver _ _))
  · exact .refl scope
  · exact .refl scope
  · exact disconnect_becomes driver scope
  · exact .refl scope
  · exact .refl scope

theorem ready_becomes (signal : Signal) :
    scope.BecomesOn spokenTopics (ready driver scope signal).1 := by
  unfold ready
  split
  · have told : scope.BecomesOn spokenTopics
        ((enterLeaf scope .ready).post .cameraReady .cameraEvent) :=
      (enterLeaf_becomes scope .ready).post _ (by decide)
    exact ((becomes_endures driver scope).refreshIfWanted (fun _ _ => trivial) told).requestReplay
  · exact .refl scope
  · exact .refl scope
  · exact .refl scope
  · split
    · exact answer_becomes driver scope _
    · exact .refl scope

theorem deferWhileBusy_becomes (event : Event) :
    scope.BecomesOn spokenTopics (deferWhileBusy scope event).1 := by
  unfold deferWhileBusy
  split
  · exact (Scope.BecomesOn.refl scope).defer _
  · exact .refl scope

theorem capturing_becomes (signal : Signal) :
    scope.BecomesOn spokenTopics (capturing driver scope signal).1 := by
  unfold capturing
  split
  · exact (enterLeaf_becomes scope .capturing).postSelf _
  · exact .refl scope
  · exact .refl scope
  · exact takePicture_becomes driver scope
  · exact deferWhileBusy_becomes scope _

theorem downloading_becomes (signal : Signal) :
    scope.BecomesOn spokenTopics (downloading driver scope signal).1 := by
  unfold downloading
  split
  · exact (enterLeaf_becomes scope .downloading).postSelf _
  · exact .refl scope
  · exact .refl scope
  · split
    · exact .refl scope
    · exact (update_becomes scope _).trans (fetchPicture_becomes driver _ _)
  · exact deferWhileBusy_becomes scope _

theorem error_becomes (signal : Signal) :
    scope.BecomesOn spokenTopics (error driver scope signal).1 := by
  unfold error
  split
  · exact ((enterLeaf_becomes scope .error).post _ (by decide)).trans (armRecovery_becomes _)
  · exact dropRecovery_becomes scope
  · exact .refl scope
  · exact (disconnect_becomes driver scope).trans (connect_becomes driver _ .error)
  · exact (disconnect_becomes driver scope).trans (connect_becomes driver _ .error)
  · exact .refl scope
  · exact disconnect_becomes driver scope
  · exact .refl scope
  · split
    · exact (Scope.BecomesOn.refl scope).defer _
    · exact .refl scope

end Becomes

def chart {δ : Type} (driver : Driver δ) : Chart State (Memory δ) where
  name := "camera"
  states :=
    [.super, .disconnected, .connected, .ready, .capturing, .downloading, .connectionError, .error]
  initial := .super
  parent
    | .super => none
    | .disconnected | .connected | .connectionError | .error => some .super
    | .ready => some .connected
    | .capturing | .downloading => some .ready
  handle state signal scope :=
    match state with
    | .super => super scope signal
    | .disconnected => disconnected driver scope signal
    | .connected => connected driver scope signal
    | .ready => ready driver scope signal
    | .capturing => capturing driver scope signal
    | .downloading => downloading driver scope signal
    | .connectionError => connectionError driver scope signal
    | .error => error driver scope signal
  handle_becomes
    | .super, signal, scope => (super_becomes scope signal).becomes
    | .disconnected, signal, scope => (disconnected_becomes driver scope signal).becomes
    | .connected, signal, scope => (connected_becomes driver scope signal).becomes
    | .ready, signal, scope => (ready_becomes driver scope signal).becomes
    | .capturing, signal, scope => (capturing_becomes driver scope signal).becomes
    | .downloading, signal, scope => (downloading_becomes driver scope signal).becomes
    | .connectionError, signal, scope => (connectionError_becomes driver scope signal).becomes
    | .error, signal, scope => (error_becomes driver scope signal).becomes

end Camera

end Tether
