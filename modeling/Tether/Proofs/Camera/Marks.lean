import Tether.Proofs.Camera.Outcome

/-!
# What a journal says of pictures

The marks of a journal are what it says of pictures: which events were heard, which busy states were
entered and left, which steps the controller told itself to take, what the camera was told to take
and to store, and what observers were told of it (`Mark`). A change is given by the marks that it
adds, and by what becomes of the picture that waits for its download (`Changes`).

Most of what the controller does adds no marks at all (`Apart`): sessions, settings and timers are
no matter here. A transition adds those of the state that is left and of the one that is entered
(`transition_adds`).
-/

namespace Tether

namespace Event

/-- Whether an event is a step that the controller tells itself to take. -/
def isStep : Event → Bool
  | .captureStep | .downloadStep => true
  | _ => false

/-- Whether an event tells how a capture has ended. -/
def isOutcome : Event → Bool
  | .captureDone .. | .cameraError => true
  | _ => false

theorem isOutcome_cases {event : Event} (outcome : event.isOutcome = true) :
    event = .cameraError ∨ ∃ downloaded file, event = .captureDone downloaded file := by
  unfold isOutcome at outcome
  split at outcome
  · exact Or.inr ⟨_, _, rfl⟩
  · exact Or.inl rfl
  · cases outcome

end Event

namespace Camera

variable {δ : Type}

/-! ## Marks -/

/-- What a journal says of pictures. -/
inductive Mark where
  /-- The current state was asked about an event. -/
  | heard (event : Event)
  /-- A busy state was entered. -/
  | entered (state : State)
  /-- A busy state was left. -/
  | left (state : State)
  /-- The controller told itself to take a step. -/
  | due (event : Event)
  /-- The camera was told to take a picture. -/
  | captured (reply : Except Fault CameraPath)
  /-- The camera was told to store a picture. -/
  | fetched (source : CameraPath) (destination : String) (reply : Except Fault Unit)
  /-- Observers were told how a capture has ended. -/
  | told (event : Event) (topic : Topic)

/-- The mark of an entry of a journal. -/
def mark? : Effect State → Option Mark
  | .asked leaf state (.event event) => if state = leaf then some (.heard event) else none
  | .asked _ state .entry => if state.isBusy then some (.entered state) else none
  | .asked _ state .exit => if state.isBusy then some (.left state) else none
  | .called .capture reply => some (.captured reply)
  | .called (.download source destination) reply => some (.fetched source destination reply)
  | .posted event topic => if event.isOutcome then some (.told event topic) else none
  | .postedSelf event => if event.isStep then some (.due event) else none
  | _ => none

def marks (journal : List (Effect State)) : List Mark :=
  journal.filterMap mark?

@[simp] theorem marks_append (journal added : List (Effect State)) :
    marks (journal ++ added) = marks journal ++ marks added :=
  List.filterMap_append

theorem marks_singleton (effect : Effect State) : marks [effect] = (mark? effect).toList := by
  cases marked : mark? effect <;> simp [marks, marked]

theorem mark?_eq_due {effect : Effect State} {event : Event}
    (marked : mark? effect = some (.due event)) : effect = .postedSelf event := by
  unfold mark? at marked
  split at marked <;> simp_all

theorem mark?_eq_told {effect : Effect State} {event : Event} {topic : Topic}
    (marked : mark? effect = some (.told event topic)) : effect = .posted event topic := by
  unfold mark? at marked
  split at marked <;> simp_all

/-- Whether a call takes or stores a picture. -/
def handlesPicture : Call → Bool
  | .capture | .download .. => true
  | _ => false

theorem mark?_called {call : Call} (other : handlesPicture call = false)
    (reply : Except Fault call.Reply) : mark? (.called call reply) = none := by
  cases call with
  | capture => cases other
  | download => cases other
  | _ => rfl

/-! ## Changes -/

/-- From one scope to another the picture that waits and the wish for downloads have become as
given, some marks have been added, and the held events are the same. -/
structure Changes (before : Scope State (Memory δ)) (picture : Option CameraPath) (download : Bool)
    (added : List Mark) (after : Scope State (Memory δ)) : Prop where
  held : after.held = before.held
  settings : after.memory.settings = before.memory.settings
  picture : after.memory.lastCapture = picture
  download : after.memory.download = download
  marks : marks after.journal = marks before.journal ++ added

/-- What concerns pictures is the same but for some marks. -/
def Adds (added : List Mark) (before after : Scope State (Memory δ)) : Prop :=
  Changes before before.memory.lastCapture before.memory.download added after

/-- Nothing that concerns pictures has changed. -/
def Apart (before after : Scope State (Memory δ)) : Prop :=
  Adds [] before after

namespace Changes

variable {before middle after : Scope State (Memory δ)} {picture later : Option CameraPath}
  {download wanted : Bool} {added more : List Mark}

theorem trans (first : Changes before picture download added middle)
    (second : Changes middle later wanted more after) :
    Changes before later wanted (added ++ more) after where
  held := second.held.trans first.held
  settings := second.settings.trans first.settings
  picture := second.picture
  download := second.download
  marks := by rw [second.marks, first.marks, List.append_assoc]

theorem then_apart (first : Changes before picture download added middle)
    (second : Apart middle after) : Changes before picture download added after := by
  have both := first.trans second
  rwa [first.picture, first.download, List.append_nil] at both

theorem record (changes : Changes before picture download added after)
    (effect : Effect State) :
    Changes before picture download (added ++ (mark? effect).toList) (after.record effect) where
  held := changes.held
  settings := changes.settings
  picture := changes.picture
  download := changes.download
  marks := by
    show Camera.marks (after.journal ++ [effect]) = _
    rw [marks_append, changes.marks, marks_singleton, List.append_assoc]

theorem then_adds (first : Changes before picture download added middle)
    (second : Adds more middle after) :
    Changes before picture download (added ++ more) after := by
  have both := first.trans second
  rwa [first.picture, first.download] at both

end Changes

namespace Apart

variable {before middle after : Scope State (Memory δ)}

theorem refl (scope : Scope State (Memory δ)) : Apart scope scope :=
  ⟨rfl, rfl, rfl, rfl, (List.append_nil _).symm⟩

theorem trans (first : Apart before middle) (second : Apart middle after) : Apart before after :=
  Changes.then_apart first second

theorem record (apart : Apart before after) (effect : Effect State) (quiet : mark? effect = none) :
    Apart before (after.record effect) := by
  have recorded := Changes.record apart effect
  rw [quiet] at recorded
  exact recorded

theorem update (apart : Apart before after) (change : Memory δ → Memory δ)
    (settings : (change after.memory).settings = after.memory.settings)
    (picture : (change after.memory).lastCapture = after.memory.lastCapture)
    (download : (change after.memory).download = after.memory.download) :
    Apart before (update after change) where
  held := apart.held
  settings := settings.trans apart.settings
  picture := picture.trans apart.picture
  download := download.trans apart.download
  marks := apart.marks

/-- What only concerns the timers, or asks for a replay. -/
theorem of_same {scope : Scope State (Memory δ)} (apart : Apart before after)
    (held : scope.held = after.held) (memory : scope.memory = after.memory)
    (journal : scope.journal = after.journal) : Apart before scope where
  held := held.trans apart.held
  settings := by rw [memory, apart.settings]
  picture := by rw [memory, apart.picture]
  download := by rw [memory, apart.download]
  marks := by rw [journal, apart.marks]

theorem schedule (scope : Scope State (Memory δ)) (event : Event) (delay : Nat) :
    Apart scope (scope.schedule event .cameraCmd delay).1 where
  held := scope.schedule_held _ _ _
  settings := by rw [scope.schedule_memory]
  picture := by rw [scope.schedule_memory]
  download := by rw [scope.schedule_memory]
  marks := by
    rw [scope.schedule_journal]
    split <;> simp [Camera.marks, mark?]

end Apart

theorem marks_defer (scope : Scope State (Memory δ)) (event : Event) :
    marks (scope.defer event).journal = marks scope.journal := by
  unfold Scope.defer
  split
  · exact (marks_append _ _).trans (List.append_nil _)
  · rfl

/-! ## What leaves no marks -/

section Handlers

variable (driver : Driver δ) (scope : Scope State (Memory δ))

theorem announceStatus_apart : Apart scope (announceStatus scope) :=
  (Apart.refl scope).record _ rfl

theorem enterLeaf_apart (state : State) : Apart scope (enterLeaf scope state) :=
  ((Apart.refl scope).update _ rfl rfl rfl).record _ rfl

/-- A call changes the device and is noted with its reply. -/
theorem perform_eq (call : Call) :
    ∃ (reply : Except Fault call.Reply) (device : δ), perform driver scope call =
      (reply, (update scope fun memory => { memory with device := device }).noteCall call reply) :=
  ⟨_, _, rfl⟩

theorem perform_aside (call : Call) (other : handlesPicture call = false) :
    Apart scope (perform driver scope call).2 := by
  obtain ⟨reply, device, performed⟩ := perform_eq driver scope call
  rw [performed]
  exact ((Apart.refl scope).update (fun memory => { memory with device := device })
    rfl rfl rfl).record _ (mark?_called other reply)

/-- Opening a session, or failing to. -/
theorem connect_apart (onFailure : State) :
    ∃ after, Apart scope after ∧
      (connect driver scope onFailure = (after, .transition .connected) ∨
        connect driver scope onFailure = (after, .transition onFailure)) := by
  have performed := perform_aside driver scope .connect rfl
  unfold connect
  cases found : perform driver scope .connect with
  | mk reply after =>
    rw [found] at performed
    cases reply with
    | ok name =>
      exact ⟨_, performed.update (fun memory => { memory with connected := true }) rfl rfl rfl,
        Or.inl rfl⟩
    | error fault => exact ⟨after, performed, Or.inr rfl⟩

theorem disconnect_apart : Apart scope (disconnect driver scope) :=
  (perform_aside driver scope .disconnect rfl).update
    (fun memory => { memory with connected := false }) rfl rfl rfl

/-- A query that neither has to do with pictures nor tells how a capture has ended. -/
structure Aside (query : Query) : Prop where
  call : handlesPicture query.call = false
  reply : ∀ reply, (query.event reply).isOutcome = false

theorem aside_of_mem_refresh {query : Query} (member : query ∈ Query.refresh) : Aside query := by
  simp only [Query.refresh, List.mem_cons, List.not_mem_nil, or_false] at member
  rcases member with rfl | rfl | rfl | rfl | rfl | rfl | rfl | rfl | rfl | rfl | rfl | rfl | rfl |
    rfl | rfl <;> exact ⟨rfl, fun _ => rfl⟩

theorem Apart.endures : Endures driver Aside (Apart scope) where
  call aside apart := apart.trans (perform_aside driver _ _ aside.call)
  publish reply aside apart := apart.record _ (by rw [mark?, aside.reply reply]; rfl)
  report apart := apart.record _ rfl

/-- A change of a setting has nothing to do with pictures. -/
theorem handlesPicture_of_isSetter {call : Call} (writes : call.isSetter = true) :
    handlesPicture call = false := by
  cases call <;> first | rfl | cases writes

/-- What an event asks of the settings has nothing to do with pictures. -/
theorem serve_apart {event : Event} {request : Request}
    (found : Request.ofEvent? event = some request) :
    Apart scope (serve driver scope request).2 := by
  refine (Apart.endures driver scope).serve (fun query member => ?_)
    (fun change _ => perform_aside driver scope _ (handlesPicture_of_isSetter change.writes))
    (.refl scope)
  exact aside_of_mem_refresh (Request.queries_subset found member)

theorem chooseTarget_apart : Apart scope (chooseTarget driver scope) :=
  (Apart.endures driver scope).chooseTarget
    (perform_aside driver scope (.setCaptureTarget memoryCard) rfl)

theorem refreshIfWanted_apart : Apart scope (refreshIfWanted driver scope) :=
  (Apart.endures driver scope).refreshIfWanted (fun _ => aside_of_mem_refresh) (.refl scope)

end Handlers

/-! ## Transitions -/

/-- The marks of a state that is left. -/
def State.leaveMarks (state : State) : List Mark :=
  if state.isBusy then [.left state] else []

/-- The marks of a state that is entered. -/
def State.enterMarks : State → List Mark
  | .capturing => [.entered .capturing, .due .captureStep]
  | .downloading => [.entered .downloading, .due .downloadStep]
  | .error => [.told .cameraError .cameraEvent]
  | _ => []

/-- The marks of a transition. -/
def crossing (leaf target : State) : List Mark :=
  leaf.leaveMarks ++ target.enterMarks

section Transitions

variable (driver : Driver δ)

theorem adds_asked (scope : Scope State (Memory δ)) (leaf state : State) (signal : Signal) :
    Adds (mark? (.asked leaf state signal)).toList scope
      (scope.record (.asked leaf state signal)) :=
  Changes.record (Apart.refl scope) _

theorem exit_adds (leaf state : State) (scope : Scope State (Memory δ)) :
    Adds state.leaveMarks scope ((chart driver).ask leaf state .exit scope).1 := by
  have asked := adds_asked scope leaf state .exit
  have marked : (mark? (.asked leaf state .exit)).toList = state.leaveMarks := by
    cases state <;> rfl
  rw [marked] at asked
  refine asked.then_apart ?_
  rw [Chart.ask, handle_exit]
  cases state with
  | connectionError =>
    exact (Apart.refl _).update (fun memory => { memory with retryTimer := none }) rfl rfl rfl
      |>.of_same (Scope.cancel?_held _ _) (Scope.cancel?_memory _ _) (Scope.cancel?_journal _ _)
  | error =>
    exact (Apart.refl _).update (fun memory => { memory with recoveryTimer := none }) rfl rfl rfl
      |>.of_same (Scope.cancel?_held _ _) (Scope.cancel?_memory _ _) (Scope.cancel?_journal _ _)
  | _ => exact .refl _

theorem entry_adds (leaf state : State) (scope : Scope State (Memory δ)) :
    Adds state.enterMarks scope ((chart driver).ask leaf state .entry scope).1 := by
  have asked := adds_asked scope leaf state .entry
  let entered := scope.record (.asked leaf state .entry)
  cases state with
  | super => exact asked
  | disconnected =>
    exact asked.then_apart ((enterLeaf_apart entered .disconnected).record _ rfl)
  | connected =>
    have told := (Apart.refl entered).record (.posted .cameraConnected .cameraEvent) rfl
    exact asked.then_apart (told.trans (chooseTarget_apart driver _))
  | ready =>
    have told := (enterLeaf_apart entered .ready).record (.posted .cameraReady .cameraEvent) rfl
    have refreshed := told.trans (refreshIfWanted_apart driver _)
    exact asked.then_apart (refreshed.of_same rfl rfl rfl)
  | capturing =>
    exact (asked.then_apart (enterLeaf_apart entered .capturing)).record (.postedSelf .captureStep)
  | downloading =>
    exact (asked.then_apart (enterLeaf_apart entered .downloading)).record
      (.postedSelf .downloadStep)
  | connectionError =>
    have told := (enterLeaf_apart entered .connectionError).record
      (.posted .cameraConnectionError .cameraEvent) rfl
    exact asked.then_apart ((told.trans (.schedule _ _ _)).update
      (fun memory => { memory with retryTimer := some _ }) rfl rfl rfl)
  | error =>
    have told := (asked.then_apart (enterLeaf_apart entered .error)).record
      (.posted .cameraError .cameraEvent)
    exact told.then_apart ((Apart.schedule _ _ _).update
      (fun memory => { memory with recoveryTimer := some _ }) rfl rfl rfl)

/-- States that are left or entered one after the other. -/
theorem notify_adds (leaf : State) (signal : Signal) (marksOf : State → List Mark)
    (asks : ∀ state scope, Adds (marksOf state) scope
      ((chart driver).ask leaf state signal scope).1) (states : List State)
    (scope : Scope State (Memory δ)) :
    Adds (states.flatMap marksOf) scope
      (states.foldl ((chart driver).notify leaf signal) scope) := by
  induction states generalizing scope with
  | nil => exact Apart.refl scope
  | cons state rest ih =>
    rw [List.foldl_cons, List.flatMap_cons]
    have notified : Adds (marksOf state) scope ((chart driver).notify leaf signal scope state) := by
      rcases Chart.notify_eq (chart driver) leaf signal scope state with equal | equal
      · rw [equal]; exact asks state scope
      · rw [equal]; exact (asks state scope).then_apart ((Apart.refl _).record _ rfl)
    exact notified.then_adds (ih _)

theorem flatMap_exits (leaf target : State) :
    ((chart driver).exits leaf target).flatMap State.leaveMarks = leaf.leaveMarks := by
  cases leaf <;> cases target <;> rfl

theorem flatMap_entries (leaf target : State) :
    ((chart driver).entries leaf target).flatMap State.enterMarks = target.enterMarks := by
  cases leaf <;> cases target <;> rfl

theorem move_adds (leaf target : State) (scope : Scope State (Memory δ)) :
    Adds (crossing leaf target) scope ((chart driver).move leaf target scope) := by
  rw [Chart.move_eq (shallow driver), crossing, ← flatMap_exits driver leaf target,
    ← flatMap_entries driver leaf target]
  exact (notify_adds driver leaf .exit _ (exit_adds driver leaf) _ scope).then_adds
    (notify_adds driver leaf .entry _ (entry_adds driver leaf) _ _)

/-- No initial transition leads to or from a busy state. -/
theorem settle_apart (limit : Nat) (state : State) (scope : Scope State (Memory δ)) :
    Apart scope ((chart driver).settle limit state scope).2 := by
  induction limit generalizing state scope with
  | zero => exact (Apart.refl scope).record _ rfl
  | succ limit ih =>
    obtain ⟨unchanged, leads⟩ :=
      handle_init driver state (scope.record (.asked state state .init))
    have asked : Apart scope ((chart driver).ask state state .init scope).1 := by
      rw [Chart.ask, unchanged]
      exact (Apart.refl scope).record _ rfl
    unfold Chart.settle
    cases found : (chart driver).ask state state .init scope with
    | mk after reaction =>
      rw [found] at asked
      cases reaction with
      | handled => exact asked
      | delegate => exact asked
      | transition target =>
        have initial := leads target (congrArg Prod.snd found)
        have moved := move_adds driver state target after
        have none : crossing state target = [] := by
          cases state with
          | super => cases initial; rfl
          | connected => cases initial; rfl
          | _ => cases initial
        rw [none] at moved
        exact (asked.trans moved).trans (ih target _)

/-- Where a transition ends, and what it adds. -/
theorem transition_adds (leaf target : State) (scope : Scope State (Memory δ)) :
    ∃ after, (chart driver).transition leaf target scope = (target.settled, after) ∧
      Adds (crossing leaf target) scope after :=
  ⟨_, Prod.ext (transition_leaf driver leaf target scope) rfl,
    (move_adds driver leaf target scope).then_apart (settle_apart driver _ _ _)⟩

/-- The start of a controller adds no marks. -/
theorem enter_apart (scope : Scope State (Memory δ)) :
    Apart scope ((chart driver).enter scope).2 := by
  have entered := notify_adds driver .super .entry _ (entry_adds driver .super)
    ((chart driver).chain .super).reverse scope
  unfold Chart.enter
  rw [Chart.warnCut_eq (shallow driver)]
  exact Changes.then_apart entered (settle_apart driver _ _ _)

end Transitions

end Camera

end Tether
