import Tether.Proofs.Camera.Marks

/-!
# What a turn has to do with pictures

Seen from the pictures, every event that the controller takes does one of four things (`Takes`,
`takes_process`): it leaves the controller where it is, it is held back, it leads to another state
without any picture being taken or fetched, or it is the step in which a picture is taken or
fetched (`Shoots`). Each is given by the marks that it leaves in the journal, and by what becomes of
the picture that waits for its download.
-/

namespace Tether

namespace Event

/-- Whether pictures are downloaded after an event. -/
def wantsDownload : Event → Bool → Bool
  | .setDownload download, _ => download
  | _, before => before

theorem wantsDownload_of_waits {event : Event} (waits : event.Waits) (before : Bool) :
    event.wantsDownload before = before := by
  cases event with
  | setDownload download =>
    rcases waits with capture | asked
    · cases capture
    · exact absurd asked Bool.false_ne_true
  | _ => rfl

end Event

namespace Camera

variable {δ : Type}

/-! ## Answers -/

/-- Where an event may be passed on by the current state. -/
structure Lets (leaf : State) (event : Event) : Prop where
  waits : event.Waits → leaf ≠ .ready ∧ leaf.isBusy = false
  capturing : leaf = .capturing → event ≠ .captureStep
  downloading : leaf = .downloading → event ≠ .downloadStep

/-- Where an event may leave the controller where it is. -/
structure Stays (leaf : State) (event : Event) : Prop where
  capture : event = .capture → leaf ≠ .ready ∧ leaf.isBusy = false
  capturing : leaf = .capturing → event ≠ .captureStep
  downloading : leaf = .downloading → event ≠ .downloadStep

/-- Where an event may lead to another state without any picture. -/
structure Goes (leaf : State) (event : Event) (target : State) : Prop where
  /-- A busy state is broken off by the end of the session and by trouble only. -/
  broken : leaf.isBusy → event = .disconnect ∧ target = .disconnected ∨
    event = .cameraError ∧ target = .error
  capture : event = .capture ∨ target.isBusy →
    leaf = .ready ∧ event = .capture ∧ target = .capturing
  waits : event.Waits → leaf = .ready ∧ (target = .capturing ∨ target = .error)
  keeps : ∀ download, event.wantsDownload download = download

/-- The steps in which pictures are taken and fetched: where they lead to, the picture that waits
afterwards, and their marks. -/
inductive Shoots (memory : Memory δ) :
    State → Event → State → Option CameraPath → List Mark → Prop where
  /-- A picture is taken and stays where it is. -/
  | take (path : CameraPath) (unwanted : memory.download = false) :
      Shoots memory .capturing .captureStep .ready memory.lastCapture
        [.captured (.ok path), .told (.captureDone false "") .cameraEvent]
  /-- A picture is taken and waits for its download. -/
  | lead (path : CameraPath) (wanted : memory.download = true) :
      Shoots memory .capturing .captureStep .downloading (some path) [.captured (.ok path)]
  /-- No picture is taken. -/
  | miss (fault : Fault) :
      Shoots memory .capturing .captureStep .error memory.lastCapture [.captured (.error fault)]
  /-- The picture that waits is stored. -/
  | fetch (source : CameraPath) (waits : memory.lastCapture = some source) :
      Shoots memory .downloading .downloadStep .ready none
        [.fetched source (Storage.join memory.settings.downloadDir source.name) (.ok ()),
          .told (.captureDone true (Storage.join memory.settings.downloadDir source.name))
            .cameraEvent]
  /-- The picture that waits cannot be stored. -/
  | lose (source : CameraPath) (waits : memory.lastCapture = some source) (fault : Fault) :
      Shoots memory .downloading .downloadStep .error none
        [.fetched source (Storage.join memory.settings.downloadDir source.name) (.error fault)]
  /-- No picture waits. -/
  | skip (none : memory.lastCapture = none) :
      Shoots memory .downloading .downloadStep .ready memory.lastCapture []

/-- What a state may answer to an event while `leaf` is the current state. -/
inductive Gives (leaf state : State) (event : Event) (before : Scope State (Memory δ)) :
    Scope State (Memory δ) × Reaction State → Prop where
  | handles {after : Scope State (Memory δ)} (stays : Stays leaf event)
      (changes : Changes before before.memory.lastCapture
        (event.wantsDownload before.memory.download) [] after) :
      Gives leaf state event before (after, .handled)
  | holds (holds : Holds leaf event) (setter : leaf.isBusy ∨ event.isSetter) :
      Gives leaf state event before (before.defer event, .handled)
  | goes {after : Scope State (Memory δ)} {target : State} (goes : Goes leaf event target)
      (apart : Apart before after) : Gives leaf state event before (after, .transition target)
  | shoots {after : Scope State (Memory δ)} {target : State} {picture : Option CameraPath}
      {added : List Mark} (shoots : Shoots before.memory leaf event target picture added)
      (changes : Changes before picture before.memory.download added after) :
      Gives leaf state event before (after, .transition target)
  | passes (lets : Lets leaf event)
      (keeps : state = .super → ∀ download, event.wantsDownload download = download) :
      Gives leaf state event before (before, .delegate)

section States

variable (driver : Driver δ) (scope : Scope State (Memory δ)) {leaf state : State} {event : Event}

theorem Lets.stays (lets : Lets leaf event) : Stays leaf event :=
  ⟨fun capture => lets.waits (Or.inl capture), lets.capturing, lets.downloading⟩

/-- An event that is no matter of pictures. -/
theorem gives_handled {after : Scope State (Memory δ)} (stays : Stays leaf event)
    (keeps : ∀ download, event.wantsDownload download = download) (apart : Apart scope after) :
    Gives leaf state event scope (after, .handled) := by
  refine .handles stays ?_
  rw [keeps]
  exact apart

/-- A command that never waits leads from a state that is not busy to another one. -/
theorem goes_of_command {target : State} (free : leaf.isBusy = false) (command : ¬ event.Waits)
    (rests : target.isBusy = false)
    (keeps : ∀ download, event.wantsDownload download = download) : Goes leaf event target where
  broken busy := absurd (free.symm.trans busy) Bool.false_ne_true
  capture := by
    rintro (capture | busy)
    · exact absurd (Or.inl capture) command
    · exact absurd (rests.symm.trans busy) Bool.false_ne_true
  waits waits := absurd waits command
  keeps := keeps

/-- Wherever a session is open, its end and trouble lead out of it. -/
theorem goes_of_broken {target : State} (broken : event = .disconnect ∧ target = .disconnected ∨
    event = .cameraError ∧ target = .error) : Goes leaf event target where
  broken _ := broken
  capture := by
    rcases broken with ⟨rfl, rfl⟩ | ⟨rfl, rfl⟩ <;> exact nofun
  waits := by
    rcases broken with ⟨rfl, -⟩ | ⟨rfl, -⟩ <;> exact fun waits => absurd waits (by decide)
  keeps := by
    rcases broken with ⟨rfl, -⟩ | ⟨rfl, -⟩ <;> exact fun _ => rfl

theorem connect_gives {before : Scope State (Memory δ)} (apart : Apart before scope)
    {onFailure : State} (free : leaf.isBusy = false) (fails : onFailure.isBusy = false)
    (command : ¬ event.Waits) (keeps : ∀ download, event.wantsDownload download = download) :
    Gives leaf state event before (connect driver scope onFailure) := by
  obtain ⟨after, connects, opened | failed⟩ := connect_apart driver scope onFailure
  · rw [opened]
    exact .goes (goes_of_command free command rfl keeps) (apart.trans connects)
  · rw [failed]
    exact .goes (goes_of_command free command fails keeps) (apart.trans connects)

theorem super_gives (lets : Lets leaf event) :
    Gives leaf .super event scope (super scope (.event event)) := by
  unfold super
  split
  · next equal => cases equal
  · next equal => cases equal
  · next equal => cases equal
  · next download equal =>
    cases equal
    have noted : Changes scope scope.memory.lastCapture download []
        (update scope fun memory => { memory with download := download }) :=
      ⟨rfl, rfl, rfl, rfl, (List.append_nil _).symm⟩
    exact .handles lets.stays (noted.then_apart (announceStatus_apart _))
  · next equal =>
    cases equal
    exact .handles lets.stays
      ((Apart.refl scope).update (fun memory => { memory with lowLatency := _ }) rfl rfl rfl)
  · next equal => cases equal; exact .handles lets.stays (announceStatus_apart scope)
  · next notDownload _ _ equal =>
    cases equal
    refine .passes lets fun _ download => ?_
    cases event with
    | setDownload wanted => exact absurd rfl (notDownload wanted)
    | _ => rfl

theorem disconnected_gives (here : leaf = .disconnected) :
    Gives leaf .disconnected event scope (disconnected driver scope (.event event)) := by
  subst here
  unfold disconnected
  split
  · next equal => cases equal
  · next equal =>
    cases equal
    exact connect_gives driver scope (.refl scope) rfl rfl (by decide) fun _ => rfl
  · exact .passes ⟨fun _ => ⟨nofun, rfl⟩, nofun, nofun⟩ nofun

theorem connected_gives (lets : Lets leaf event) :
    Gives leaf .connected event scope (connected driver scope (.event event)) := by
  unfold connected
  split
  · next equal => cases equal
  · next equal => cases equal
  · next equal => cases equal
  · next equal =>
    cases equal
    exact .goes (goes_of_broken (Or.inl ⟨rfl, rfl⟩)) (disconnect_apart driver scope)
  · next equal => cases equal; exact .goes (goes_of_broken (Or.inr ⟨rfl, rfl⟩)) (.refl scope)
  · exact .passes lets nofun

/-- In the error states only changes of settings are held back. -/
theorem deferSetter_gives (free : leaf.isBusy = false) (connected : leaf ≠ .disconnected)
    (notReady : leaf ≠ .ready) (other : state ≠ .super) :
    Gives leaf state event scope
      (if event.isSetter then (scope.defer event, .handled) else (scope, .delegate)) := by
  split
  · next setter =>
    exact .holds ⟨Event.waits_of_isSetter setter, connected, notReady⟩ (Or.inr setter)
  · refine .passes ⟨fun _ => ⟨notReady, free⟩, ?_, ?_⟩ (fun equal => absurd equal other)
    · rintro rfl; cases free
    · rintro rfl; cases free

theorem connectionError_gives (here : leaf = .connectionError) :
    Gives leaf .connectionError event scope (connectionError driver scope (.event event)) := by
  subst here
  unfold connectionError
  split
  · next equal => cases equal
  · next equal => cases equal
  · next equal => cases equal
  · next equal =>
    cases equal
    exact connect_gives driver scope (.refl scope) rfl rfl (by decide) fun _ => rfl
  · next equal =>
    cases equal
    exact .goes (goes_of_command rfl (by decide) rfl fun _ => rfl) (.refl scope)
  · next equal => cases equal; exact deferSetter_gives scope rfl nofun nofun nofun

theorem error_gives (here : leaf = .error) :
    Gives leaf .error event scope (error driver scope (.event event)) := by
  subst here
  have closed := disconnect_apart driver scope
  unfold error
  split
  · next equal => cases equal
  · next equal => cases equal
  · next equal => cases equal
  · next equal => cases equal; exact connect_gives driver _ closed rfl rfl (by decide) fun _ => rfl
  · next equal => cases equal; exact connect_gives driver _ closed rfl rfl (by decide) fun _ => rfl
  · next equal =>
    cases equal
    exact .goes (goes_of_command rfl (by decide) rfl fun _ => rfl) (.refl scope)
  · next equal =>
    cases equal
    exact .goes (goes_of_command rfl (by decide) rfl fun _ => rfl) closed
  · next equal =>
    cases equal
    exact gives_handled scope ⟨nofun, nofun, nofun⟩ (fun _ => rfl) (.refl scope)
  · next equal => cases equal; exact deferSetter_gives scope rfl nofun nofun nofun

/-- While the camera is busy an event that waits is held back. -/
theorem deferWhileBusy_gives (busy : leaf.isBusy) (other : state ≠ .super)
    (capturing : leaf = .capturing → event ≠ .captureStep)
    (downloading : leaf = .downloading → event ≠ .downloadStep) :
    Gives leaf state event scope (deferWhileBusy scope event) := by
  unfold deferWhileBusy
  split
  · next waits =>
    exact .holds ⟨waits, (by rintro rfl; cases busy), (by rintro rfl; cases busy)⟩ (Or.inl busy)
  · next command =>
    exact .passes ⟨fun waits => absurd waits command, capturing, downloading⟩
      (fun equal => absurd equal other)

theorem takePicture_gives :
    Gives .capturing .capturing .captureStep scope (takePicture driver scope) := by
  obtain ⟨reply, device, performed⟩ := perform_eq driver scope .capture
  have taken := Changes.record ((Apart.refl scope).update
    (fun memory => { memory with device := device }) rfl rfl rfl) (.called .capture reply)
  unfold takePicture
  rw [performed]
  cases reply with
  | ok path =>
    dsimp only
    split
    · next wanted =>
      exact .shoots (.lead path wanted)
        ⟨taken.held, taken.settings, rfl, taken.download, taken.marks⟩
    · next unwanted =>
      exact .shoots (.take path (eq_false_of_ne_true unwanted))
        (taken.record (.posted (.captureDone false "") .cameraEvent))
  | error fault => exact .shoots (.miss fault) taken

theorem capturing_gives (here : leaf = .capturing) :
    Gives leaf .capturing event scope (capturing driver scope (.event event)) := by
  subst here
  unfold capturing
  split
  · next equal => cases equal
  · next equal => cases equal
  · next equal => cases equal
  · next equal => cases equal; exact takePicture_gives driver scope
  · next other notStep equal =>
    cases equal
    exact deferWhileBusy_gives scope rfl nofun (fun _ step => notStep step) nofun

/-- A picture is stored, or it cannot be. -/
theorem fetchPicture_adds (source : CameraPath) :
    let destination := Storage.join scope.memory.settings.downloadDir source.name
    ∃ after, fetchPicture driver scope source = (after, .transition .ready) ∧
        Adds [.fetched source destination (.ok ()),
          .told (.captureDone true destination) .cameraEvent] scope after ∨
      fetchPicture driver scope source = (after, .transition .error) ∧
        ∃ fault, Adds [.fetched source destination (.error fault)] scope after := by
  intro destination
  obtain ⟨reply, device, performed⟩ := perform_eq driver scope (.download source destination)
  have stored := Changes.record ((Apart.refl scope).update
    (fun memory => { memory with device := device }) rfl rfl rfl)
    (.called (.download source destination) reply)
  unfold fetchPicture
  dsimp only
  rw [performed]
  cases reply with
  | ok _ =>
    exact ⟨_, Or.inl ⟨rfl,
      stored.record (.posted (.captureDone true destination) .cameraEvent)⟩⟩
  | error fault => exact ⟨_, Or.inr ⟨rfl, fault, stored⟩⟩

theorem downloading_gives (here : leaf = .downloading) :
    Gives leaf .downloading event scope (downloading driver scope (.event event)) := by
  subst here
  unfold downloading
  split
  · next equal => cases equal
  · next equal => cases equal
  · next equal => cases equal
  · next equal =>
    cases equal
    split
    · next none => exact .shoots (.skip none) (Apart.refl scope)
    · next source waits =>
      have taken : Changes scope none scope.memory.download []
          (update scope fun memory => { memory with lastCapture := none }) :=
        ⟨rfl, rfl, rfl, rfl, (List.append_nil _).symm⟩
      obtain ⟨after, ⟨stored, adds⟩ | ⟨failed, fault, adds⟩⟩ :=
        fetchPicture_adds driver (update scope fun memory => { memory with lastCapture := none })
          source
      · rw [stored]
        exact .shoots (.fetch source waits) (taken.then_adds adds)
      · rw [failed]
        exact .shoots (.lose source waits fault) (taken.then_adds adds)
  · next other notStep equal =>
    cases equal
    exact deferWhileBusy_gives scope rfl nofun nofun fun _ step => notStep step

theorem ready_gives (here : leaf = .ready ∨ leaf.isBusy ∧ Lets leaf event) :
    Gives leaf .ready event scope (ready driver scope (.event event)) := by
  have commands : leaf ≠ .ready → ¬ event.Waits := by
    intro other waits
    obtain equal | ⟨busy, lets⟩ := here
    · exact other equal
    · rw [(lets.waits waits).2] at busy; cases busy
  unfold ready
  split
  · next equal => cases equal
  · next equal => cases equal
  · next equal => cases equal
  · next equal =>
    cases equal
    have here : leaf = .ready :=
      Decidable.byContradiction fun other => commands other (Or.inl rfl)
    subst here
    have goes : Goes .ready .capture .capturing :=
      ⟨nofun, fun _ => ⟨rfl, rfl, rfl⟩, fun _ => ⟨rfl, Or.inl rfl⟩, fun _ => rfl⟩
    exact .goes goes (.refl scope)
  · next other _ notCapture equal =>
    cases equal
    have request := Request.isSome_ofEvent? event
    split
    · next found =>
      rw [found] at request
      have waits : event.Waits := Or.inr request.symm
      have here : leaf = .ready :=
        Decidable.byContradiction fun other => commands other waits
      subst here
      have served := serve_apart driver scope found
      have keeps := Event.wantsDownload_of_waits waits
      unfold answer
      split
      · next equal =>
        rw [equal] at served
        exact gives_handled scope ⟨fun capture => absurd capture notCapture, nofun, nofun⟩ keeps
          served
      · next equal =>
        rw [equal] at served
        refine .goes ⟨nofun, ?_, fun _ => ⟨rfl, Or.inr rfl⟩, keeps⟩ served
        rintro (capture | busy)
        · exact absurd capture notCapture
        · cases busy
    · next found =>
      rw [found] at request
      rcases here with ready | ⟨_, lets⟩
      · have command : ¬ event.Waits := by
          rintro (capture | asked)
          · exact notCapture capture
          · rw [← request] at asked; cases asked
        subst ready
        exact .passes ⟨fun waits => absurd waits command, nofun, nofun⟩ nofun
      · exact .passes lets nofun

/-- What the current state and the states around it may answer to an event. -/
theorem handle_gives (rests : leaf.rests) (member : state ∈ (chart driver).chain leaf)
    (here : state = leaf ∨ Lets leaf event) :
    Gives leaf state event scope ((chart driver).handle state (.event event) scope) := by
  rw [chain_eq] at member
  have lets : state ≠ leaf → Lets leaf event := fun other => here.resolve_left other
  have around := mem_path member
  cases state with
  | super => exact super_gives scope (lets (by rintro rfl; cases rests))
  | connected => exact connected_gives driver scope (lets (by rintro rfl; cases rests))
  | ready =>
    apply ready_gives
    by_cases equal : leaf = .ready
    · exact Or.inl equal
    · have busy : leaf.isBusy := by simpa [equal] using around
      exact Or.inr ⟨busy, lets (Ne.symm equal)⟩
  | disconnected => exact disconnected_gives driver scope (by simpa using around)
  | connectionError => exact connectionError_gives driver scope (by simpa using around)
  | error => exact error_gives driver scope (by simpa using around)
  | capturing => exact capturing_gives driver scope (by simpa using around)
  | downloading => exact downloading_gives driver scope (by simpa using around)

end States

/-! ## Events -/

/-- What an event can do while `leaf` is the current state of a controller at rest. -/
inductive Takes (driver : Driver δ) (leaf : State) (event : Event)
    (before : Scope State (Memory δ)) : State × Scope State (Memory δ) → Prop where
  | stays {after : Scope State (Memory δ)} (stays : Stays leaf event)
      (changes : Changes before before.memory.lastCapture
        (event.wantsDownload before.memory.download) [.heard event] after) :
      Takes driver leaf event before (leaf, after)
  | holds {after : Scope State (Memory δ)} (holds : Holds leaf event)
      (setter : leaf.isBusy ∨ event.isSetter) (adds : Adds [.heard event] before after) :
      Takes driver leaf event before (leaf, after.defer event)
  | goes {after : Scope State (Memory δ)} {target : State} (goes : Goes leaf event target)
      (adds : Adds (.heard event :: crossing leaf target) before after) :
      Takes driver leaf event before (target.settled, after)
  | shoots {after : Scope State (Memory δ)} {target : State} {picture : Option CameraPath}
      {added : List Mark} (shoots : Shoots before.memory leaf event target picture added)
      (changes : Changes before picture before.memory.download
        (.heard event :: (added ++ crossing leaf target)) after) :
      Takes driver leaf event before (target, after)

/-- The current state is asked first, which is all that is marked of the asking. -/
def asking (leaf : State) (event : Event) (cursor : Option State) : List Mark :=
  if cursor = some leaf then [] else [.heard event]

theorem asked_asking (scope : Scope State (Memory δ)) {leaf state : State} (event : Event)
    {before : Scope State (Memory δ)} (adds : Adds (asking leaf event (some state)) before scope) :
    Adds [.heard event] before (scope.record (.asked leaf state (.event event))) := by
  have asked := adds.record (.asked leaf state (.event event))
  have marked : asking leaf event (some state) ++
      (mark? (.asked leaf state (.event event))).toList = [.heard event] := by
    by_cases equal : state = leaf
    · simp [asking, mark?, equal]
    · simp [asking, mark?, equal]
  rwa [marked] at asked

theorem Shoots.of_same {memory other : Memory δ} {leaf target : State} {event : Event}
    {picture : Option CameraPath} {added : List Mark}
    (shoots : Shoots memory leaf event target picture added)
    (settings : memory.settings = other.settings) (waiting : memory.lastCapture = other.lastCapture)
    (download : memory.download = other.download) :
    Shoots other leaf event target picture added := by
  cases shoots with
  | take path unwanted => rw [waiting]; exact .take path (download ▸ unwanted)
  | lead path wanted => exact .lead path (download ▸ wanted)
  | miss fault => rw [waiting]; exact .miss fault
  | fetch source waits => rw [settings]; exact .fetch source (waiting ▸ waits)
  | lose source waits fault => rw [settings]; exact .lose source (waiting ▸ waits) fault
  | skip none => rw [waiting]; exact .skip (waiting ▸ none)

/-- Everything that an event can do at all. -/
theorem takes_process (driver : Driver δ) {leaf : State} (rests : leaf.rests) (event : Event)
    (scope : Scope State (Memory δ)) :
    Takes driver leaf event scope ((chart driver).process (leaf, scope) event) := by
  refine Chart.process_induction (shallow driver)
    (fun cursor asked => Adds (asking leaf event cursor) scope asked ∧
      (cursor = some leaf ∨ Lets leaf event) ∧
      (cursor = none → ∀ download, event.wantsDownload download = download))
    (Takes driver leaf event scope) ?_ ?_ ⟨?_, Or.inl rfl, nofun⟩
  · rintro state asked member ⟨adds, here, -⟩
    have here : state = leaf ∨ Lets leaf event := here.imp_left Option.some.inj
    have noted := asked_asking asked event adds
    have gives := handle_gives driver (asked.record (.asked leaf state (.event event))) rests
      member here
    have above : (chart driver).parent state ≠ some leaf := by
      rw [chain_eq] at member
      rw [parent_eq]
      revert member
      cases leaf <;> cases state <;> decide
    cases found : (chart driver).ask leaf state (.event event) asked with
    | mk after reaction =>
      rw [Chart.ask] at found
      rw [found] at gives
      cases gives with
      | handles stays changes =>
        refine .stays stays ?_
        have both := noted.trans changes
        rwa [noted.picture, noted.download] at both
      | holds holds setter => exact .holds holds setter noted
      | @goes _ target goes apart =>
        obtain ⟨landed, moves, adds⟩ := transition_adds driver leaf target after
        show Takes _ _ _ _ ((chart driver).transition leaf target after)
        rw [moves]
        exact .goes goes ((noted.then_apart apart).then_adds adds)
      | @shoots _ target _ _ shoots changes =>
        obtain ⟨landed, moves, adds⟩ := transition_adds driver leaf target after
        have settled : target.settled = target := by cases shoots <;> rfl
        have moved := (noted.trans changes).then_adds adds
        show Takes _ _ _ _ ((chart driver).transition leaf target after)
        rw [moves, settled]
        rw [noted.download] at moved
        exact .shoots (shoots.of_same noted.settings noted.picture noted.download)
          (by simpa using moved)
      | passes lets keeps =>
        refine ⟨?_, Or.inr lets, fun top => keeps ?_⟩
        · rw [asking, if_neg above]
          exact noted
        · rw [parent_eq] at top
          revert top
          cases state <;> decide
  · rintro asked ⟨adds, here, keeps⟩
    have lets : Lets leaf event := here.resolve_left (Option.some_ne_none leaf).symm
    have warned : Adds [.heard event] scope (asked.warn .unhandled) :=
      Changes.then_apart (adds : Changes _ _ _ _ _) ((Apart.refl asked).record _ rfl)
    refine .stays lets.stays ?_
    rw [keeps rfl]
    exact warned
  · rw [asking, if_pos rfl]
    exact Apart.refl scope

end Camera

end Tether
