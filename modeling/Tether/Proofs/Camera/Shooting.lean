import Tether.Proofs.Camera.Visits
import Tether.Proofs.Statechart.Site

/-!
# Taking and storing pictures

The step in which a picture is taken or stored is an event that the controller sends to itself, and
steps of earlier visits or of forgers may be in the mailbox as well. Nevertheless a visit takes no
more than one picture, and exactly one unless it is broken off; a visit of `Downloading` stores the
picture whose capture led to it; what observers are told of captures is what has been earned; and
the step of a busy state is always in the mailbox (`serves_of_record`).

Every event that the controller takes is one that a monitor of its marks can follow, whatever the
mailbox holds (`Takes.follows`); so the monitor follows every run (`watched_of_record`).
-/

namespace Tether

namespace Camera

variable {δ : Type}

/-! ## What the controller does -/

/-- The step of a busy state. -/
def State.step? : State → Option Event
  | .capturing => some .captureStep
  | .downloading => some .downloadStep
  | _ => none

theorem step_eq_none {leaf : State} (free : leaf.isBusy = false) : leaf.step? = none := by
  cases leaf <;> first | rfl | cases free

/-- Whether a phase is that of a controller at rest, of which a picture may wait. -/
def Phase.Fits (leaf : State) (waiting : Option CameraPath) : Phase → Prop
  | .away _ => leaf.isBusy = false
  | .capturing _ => leaf = .capturing
  | .downloading picture _ => leaf = .downloading ∧ waiting = some picture
  | .taken _ | .stored _ => False

namespace Phase.Fits

variable {phase : Phase} {waiting : Option CameraPath}

theorem capturing (fits : phase.Fits .capturing waiting) : ∃ last, phase = .capturing last := by
  cases phase with
  | capturing last => exact ⟨last, rfl⟩
  | away => cases fits
  | downloading => cases fits.1
  | taken => exact fits.elim
  | stored => exact fits.elim

theorem downloading (fits : phase.Fits .downloading waiting) :
    ∃ picture last, phase = .downloading picture last ∧ waiting = some picture := by
  cases phase with
  | downloading picture last => exact ⟨picture, last, rfl, fits.2⟩
  | away => cases fits
  | capturing => cases fits
  | taken => exact fits.elim
  | stored => exact fits.elim

theorem away {leaf : State} (fits : phase.Fits leaf waiting) (free : leaf.isBusy = false) :
    ∃ picture, phase = .away picture := by
  cases phase with
  | away picture => exact ⟨picture, rfl⟩
  | capturing => cases fits; cases free
  | downloading => cases fits.1; cases free
  | taken => exact fits.elim
  | stored => exact fits.elim

end Phase.Fits

/-- What the marks of an event tell a monitor that has watched a controller up to its current state
`leaf`. -/
structure Follows (leaf : State) (event : Event) (phase : Phase)
    (before : Scope State (Memory δ)) (run : State × Scope State (Memory δ))
    (added : List Mark) : Prop where
  rests : run.1.rests
  marks : marks run.2.journal = marks before.journal ++ added
  phase : ∃ later, phase.follow added = some later ∧ later.Fits run.1 run.2.memory.lastCapture
  flag : run.2.memory.download = wished before.memory.download added
  told : announced added = earned before.memory.download added
  /-- A busy state is entered with its step, and stays busy until its step is taken. -/
  due : ∀ step, run.1.step? = some step →
    step ∈ dues added ∨ leaf.step? = some step ∧ event ≠ step

section Takes

variable {driver : Driver δ} {leaf : State} {event : Event} {phase : Phase}
  {before : Scope State (Memory δ)} {run : State × Scope State (Memory δ)}

/-- An event that leaves the controller where it is. -/
theorem follow_heard {waiting : Option CameraPath} (fits : phase.Fits leaf waiting)
    (event : Event) :
    ∃ later, phase.follow [.heard event] = some later ∧ later.Fits leaf waiting := by
  cases phase with
  | away picture => exact ⟨_, rfl, fits⟩
  | capturing last => exact ⟨_, rfl, fits⟩
  | downloading picture last => exact ⟨_, rfl, fits⟩
  | taken picture => exact fits.elim
  | stored picture => exact fits.elim

theorem step_of_ne (capturing : leaf = .capturing → event ≠ .captureStep)
    (downloading : leaf = .downloading → event ≠ .downloadStep) {step : Event}
    (own : leaf.step? = some step) : event ≠ step := by
  cases leaf with
  | capturing => cases own; exact capturing rfl
  | downloading => cases own; exact downloading rfl
  | _ => cases own

/-- An event that leads to a state that is not busy. -/
theorem follows_free {added : List Mark} (rests : run.1.rests) (free : run.1.isBusy = false)
    (marks : Camera.marks run.2.journal = Camera.marks before.journal ++ added)
    (followed : phase.follow added = some (.away none))
    (flag : run.2.memory.download = wished before.memory.download added)
    (told : announced added = earned before.memory.download added) :
    Follows leaf event phase before run added where
  rests := rests
  marks := marks
  phase := ⟨_, followed, free⟩
  flag := flag
  told := told
  due step own := by
    rw [step_eq_none free] at own
    cases own

theorem Shoots.follows {target : State} {picture : Option CameraPath} {added : List Mark}
    (shoots : Shoots before.memory leaf event target picture added)
    (changes : Changes before picture before.memory.download
      (.heard event :: (added ++ crossing leaf target)) run.2) (arrives : run.1 = target)
    (fits : phase.Fits leaf before.memory.lastCapture) :
    Follows leaf event phase before run (.heard event :: (added ++ crossing leaf target)) := by
  cases shoots with
  | take path unwanted =>
    obtain ⟨last, rfl⟩ := fits.capturing
    refine follows_free (by rw [arrives]; rfl) (by rw [arrives]; rfl) changes.marks rfl
      changes.download ?_
    rw [unwanted]
    rfl
  | lead path wanted =>
    obtain ⟨last, rfl⟩ := fits.capturing
    refine ⟨by rw [arrives]; rfl, changes.marks, ⟨.downloading path none, rfl, arrives, ?_⟩,
      changes.download, ?_, fun step own => Or.inl ?_⟩
    · exact changes.picture
    · rw [wanted]
      rfl
    · rw [arrives] at own
      cases own
      exact List.mem_cons_self
  | miss fault =>
    obtain ⟨last, rfl⟩ := fits.capturing
    exact follows_free (by rw [arrives]; rfl) (by rw [arrives]; rfl) changes.marks rfl
      changes.download rfl
  | fetch source waits =>
    obtain ⟨path, last, rfl, waiting⟩ := fits.downloading
    obtain rfl : source = path := Option.some.inj (waits.symm.trans waiting)
    refine follows_free (by rw [arrives]; rfl) (by rw [arrives]; rfl) changes.marks ?_
      changes.download rfl
    simp [Phase.follow, Phase.step, crossing, State.leaveMarks, State.enterMarks, State.isBusy]
  | lose source waits fault =>
    obtain ⟨path, last, rfl, waiting⟩ := fits.downloading
    obtain rfl : source = path := Option.some.inj (waits.symm.trans waiting)
    refine follows_free (by rw [arrives]; rfl) (by rw [arrives]; rfl) changes.marks ?_
      changes.download rfl
    simp [Phase.follow, Phase.step, crossing, State.leaveMarks, State.enterMarks, State.isBusy]
  | skip none =>
    -- A picture waits in every visit of `Downloading`.
    obtain ⟨path, last, rfl, waiting⟩ := fits.downloading
    rw [none] at waiting
    cases waiting

theorem Goes.follows {target : State} (goes : Goes leaf event target)
    (adds : Adds (.heard event :: crossing leaf target) before run.2)
    (arrives : run.1 = target.settled) (fits : phase.Fits leaf before.memory.lastCapture) :
    Follows leaf event phase before run (.heard event :: crossing leaf target) := by
  have settles : run.1.rests := arrives ▸ settled_rests target
  have flag : run.2.memory.download =
      wished before.memory.download (.heard event :: crossing leaf target) := by
    rw [adds.download]
    refine (goes.keeps _).symm.trans ?_
    unfold crossing
    cases leaf <;> cases target <;> rfl
  have told : announced (.heard event :: crossing leaf target) =
      earned before.memory.download (.heard event :: crossing leaf target) := by
    cases leaf <;> cases target <;> rfl
  cases busy : leaf.isBusy with
  | true =>
    have free : target.settled.isBusy = false := by
      rcases goes.broken busy with ⟨-, rfl⟩ | ⟨-, rfl⟩ <;> rfl
    refine follows_free settles (arrives ▸ free) adds.marks ?_ flag told
    cases leaf with
    | capturing =>
      obtain ⟨last, rfl⟩ := fits.capturing
      rcases goes.broken rfl with ⟨rfl, rfl⟩ | ⟨rfl, rfl⟩ <;> rfl
    | downloading =>
      obtain ⟨picture, last, rfl, -⟩ := fits.downloading
      rcases goes.broken rfl with ⟨rfl, rfl⟩ | ⟨rfl, rfl⟩ <;> rfl
    | _ => cases busy
  | false =>
    obtain ⟨picture, rfl⟩ := fits.away busy
    have leaves : crossing leaf target = target.enterMarks := by
      rw [crossing, State.leaveMarks, busy]
      rfl
    rw [leaves] at flag told adds ⊢
    cases target with
    | capturing =>
      refine ⟨settles, adds.marks, ⟨.capturing none, rfl, arrives⟩, flag, told, ?_⟩
      intro step own
      rw [arrives] at own
      cases own
      exact Or.inl List.mem_cons_self
    | downloading =>
      obtain ⟨-, -, other⟩ := goes.capture (Or.inr rfl)
      cases other
    | _ => exact follows_free settles (arrives ▸ rfl) adds.marks rfl flag told

/-- Whatever an event does, the monitor can follow. -/
theorem Takes.follows (takes : Takes driver leaf event before run) (rests : leaf.rests)
    (fits : phase.Fits leaf before.memory.lastCapture) :
    ∃ added, Follows leaf event phase before run added := by
  cases takes with
  | stays stays changes =>
    refine ⟨[.heard event], rests, changes.marks, ?_, changes.download, rfl, ?_⟩
    · rw [changes.picture]
      exact follow_heard fits event
    · exact fun step own => Or.inr ⟨own, step_of_ne stays.capturing stays.downloading own⟩
  | holds holds _ adds =>
    refine ⟨[.heard event], rests, (marks_defer _ event).trans adds.marks, ?_, ?_, rfl, ?_⟩
    · rw [Scope.defer_memory, adds.picture]
      exact follow_heard fits event
    · rw [Scope.defer_memory, adds.download]
      exact (Event.wantsDownload_of_waits holds.waits _).symm
    · refine fun step own => Or.inr ⟨own, step_of_ne ?_ ?_ own⟩
      · rintro - rfl; exact absurd holds.waits (by decide)
      · rintro - rfl; exact absurd holds.waits (by decide)
  | goes goes adds => exact ⟨_, goes.follows adds rfl fits⟩
  | shoots shoots changes => exact ⟨_, shoots.follows changes rfl fits⟩

end Takes

/-! ## Turns -/

/-- What a monitor knows of a controller when it has seen all its marks, where some events are
queued. -/
structure Watched (download : Bool) (seen : List Mark) (queued : List Event) (leaf : State)
    (memory : Memory δ) : Prop where
  phase : ∃ phase, (Phase.away none).follow seen = some phase ∧
    phase.Fits leaf memory.lastCapture
  flag : memory.download = wished download seen
  told : announced seen = earned download seen
  /-- The step of a busy state is queued. -/
  due : ∀ step, leaf.step? = some step → step ∈ queued

/-- A controller at rest within a turn; `past` are the marks of earlier turns. -/
structure AtRest (download : Bool) (past : List Mark) (queued : List Event)
    (run : State × Scope State (Memory δ)) : Prop where
  rests : run.1.rests
  watched : Watched download (past ++ marks run.2.journal) (queued ++ dues (marks run.2.journal))
    run.1 run.2.memory

section Turns

variable {download : Bool} {seen past : List Mark} {queued others : List Event} {leaf : State}
  {memory : Memory δ} {run : State × Scope State (Memory δ)} {event : Event}

theorem Watched.mono (watched : Watched download seen queued leaf memory)
    (more : ∀ event ∈ queued, event ∈ others) : Watched download seen others leaf memory :=
  { watched with due := fun step own => more step (watched.due step own) }

/-- The event may be the step that is due; then it is taken, and the state is left. -/
theorem AtRest.process (driver : Driver δ) (atRest : AtRest download past (event :: queued) run) :
    AtRest download past queued ((chart driver).process run event) := by
  obtain ⟨rests, watched⟩ := atRest
  obtain ⟨phase, followed, fits⟩ := watched.phase
  obtain ⟨added, follows⟩ := (takes_process driver rests event run.2).follows rests fits
  obtain ⟨later, onward, fits⟩ := follows.phase
  refine ⟨follows.rests, ?_⟩
  rw [follows.marks, dues_append, ← List.append_assoc past]
  refine ⟨⟨later, ?_, fits⟩, ?_, ?_, fun step own => ?_⟩
  · rw [Phase.follow_append, followed]
    exact onward
  · rw [follows.flag, watched.flag, wished_append download _ added]
  · rw [announced_append, earned_append, watched.told, follows.told, watched.flag]
  · rcases follows.due step own with fresh | ⟨same, other⟩
    · exact List.mem_append_right _ (List.mem_append_right _ fresh)
    · rw [← List.append_assoc]
      refine List.mem_append_left _ ?_
      exact (List.mem_cons.mp (watched.due step same)).resolve_left (Ne.symm other)

theorem sustains (driver : Driver δ) (download : Bool) (past : List Mark) (queued : List Event) :
    (chart driver).Sustains (AtRest download past queued) where
  process _ _ atRest :=
    AtRest.process driver
      ⟨atRest.rests, atRest.watched.mono fun _ member => List.mem_cons_of_mem _ member⟩
  take atRest := ⟨atRest.rests, atRest.watched⟩

/-- A controller that has just been entered. -/
theorem atRest_enter (driver : Driver δ) (scope : Scope State (Memory δ))
    (fresh : scope.journal = []) :
    AtRest scope.memory.download [] queued ((chart driver).enter scope) := by
  have entered := enter_apart driver scope
  have none : marks ((chart driver).enter scope).2.journal = [] := by
    rw [entered.marks, fresh]
    rfl
  refine ⟨rfl, ?_⟩
  rw [none]
  exact ⟨⟨_, rfl, rfl⟩, entered.download, rfl, nofun⟩

end Turns

/-! ## Sites -/

/-- The events in the mailbox of a site. -/
def queue (site : Site State (Memory δ)) : List Event :=
  site.inbox.items.map Letter.event

/-- What a monitor knows that has watched a site from the beginning. -/
structure Known (driver : Driver δ) (memory : Memory δ) (site : Site State (Memory δ))
    (journal : List (Effect State)) : Prop where
  watched : Watched memory.download (marks journal) (queue site) site.machine.leaf
    site.machine.memory
  rests : site.machine.started = true → site.machine.leaf.rests
  fresh : site.machine.started = false →
    site.machine = (chart driver).machine memory ∧ journal = []

section Sites

variable {driver : Driver δ} {memory : Memory δ} {site : Site State (Memory δ)}
  {journal : List (Effect State)}

theorem Known.startRun (known : Known driver memory site journal) (now : Nat) :
    AtRest memory.download (marks journal) (queue site)
      ((chart driver).startRun site.machine site.timers now) := by
  apply (sustains driver _ _ _).startRun
  · intro started
    have silent : marks (site.machine.scope site.timers now).journal = [] := rfl
    refine ⟨known.rests started, ?_⟩
    rw [silent, List.append_nil]
    exact known.watched.mono fun _ member => List.mem_append_left _ member
  · intro unstarted
    obtain ⟨new, rfl⟩ := known.fresh unstarted
    rw [new]
    exact atRest_enter driver (((chart driver).machine memory).scope site.timers now) rfl

/-- What the controller tells itself to do gets into its mailbox. -/
theorem mem_letters_of_due {turn : Turn State (Memory δ)} {event : Event}
    (due : event ∈ dues (marks turn.journal)) :
    event ∈ (Site.letters topics turn).map Letter.event := by
  obtain ⟨mark, member, found⟩ := List.mem_filterMap.mp due
  obtain ⟨effect, posted, marked⟩ := List.mem_filterMap.mp member
  obtain rfl : mark = .due event := by
    cases mark <;> cases found
    rfl
  obtain rfl := mark?_eq_due marked
  rw [Site.letters, List.map_map]
  exact List.mem_map.mpr ⟨event, List.mem_filterMap.mpr ⟨_, posted, rfl⟩, rfl⟩

theorem known_absorb {run : State × Scope State (Memory δ)}
    (atRest : AtRest memory.download (marks journal) (queue site) run)
    (room : site.HasRoom (Site.letters topics (Machine.turn run)).length) :
    Known driver memory (site.absorb topics (Machine.turn run)) (journal ++ run.2.journal) := by
  refine ⟨?_, fun _ => atRest.rests, nofun⟩
  rw [marks_append]
  refine atRest.watched.mono fun event member => ?_
  rw [queue, Site.items_absorb room, List.map_append]
  rw [List.mem_append] at member ⊢
  exact member.imp_right mem_letters_of_due

theorem Known.pause {after : Site State (Memory δ)} (known : Known driver memory site journal)
    (meanwhile : Site.Meanwhile topics site after) : Known driver memory after journal := by
  obtain ⟨watched, rests, fresh⟩ := known
  rw [← meanwhile.machine] at watched rests fresh
  refine ⟨watched.mono fun event member => ?_, rests, fresh⟩
  obtain ⟨letter, kept, same⟩ := List.mem_map.mp member
  exact List.mem_map.mpr ⟨letter, meanwhile.keeps letter kept, same⟩

theorem known_of_record (record : Site.Record (chart driver) topics memory site journal) :
    Known driver memory site journal := by
  induction record with
  | initial => exact ⟨⟨⟨_, rfl, rfl⟩, rfl, rfl, nofun⟩, nofun, fun _ => ⟨rfl, rfl⟩⟩
  | start record now room ih => exact known_absorb (ih.startRun now) room
  | @turn site journal letter rest record now popped room ih =>
    have begun := ih.startRun now
    rw [queue, Mailbox.items_of_pop? popped] at begun
    have taken : AtRest _ _ (queue { site with inbox := rest }) _ := AtRest.process driver begun
    exact known_absorb ((sustains driver _ _ _).replayHeld _ taken) room
  | pause record meanwhile ih => exact ih.pause meanwhile

/-- What can be relied upon about pictures, whatever has happened at the site of a controller. -/
structure Serves (download : Bool) (site : Site State (Memory δ)) (seen : List Mark) : Prop where
  /-- A visit of `Capturing` takes one picture. -/
  capturing : ∀ {past stay rest : List Mark},
    seen = past ++ .entered .capturing :: (stay ++ rest) → .left .capturing ∉ stay →
    TakesOne stay rest
  /-- A visit of `Downloading` stores the picture that led to it; one always waits. -/
  downloading : ∀ {past stay rest : List Mark},
    seen = past ++ .entered .downloading :: (stay ++ rest) → .left .downloading ∉ stay →
    ∃ picture, StoresOne past stay rest picture
  taken : ∀ {past rest : List Mark} {reply : Except Fault CameraPath},
    seen = past ++ .captured reply :: rest → Inside .capturing past
  stored : ∀ {past rest : List Mark} {source : CameraPath} {destination : String}
    {reply : Except Fault Unit},
    seen = past ++ .fetched source destination reply :: rest → Inside .downloading past
  told : announced seen = earned download seen
  flag : site.machine.memory.download = wished download seen
  /-- A busy state is never stuck: its step is in the mailbox. -/
  due : ∀ step, site.machine.leaf.step? = some step → step ∈ queue site
  waiting : site.machine.leaf = .downloading →
    ∃ picture, site.machine.memory.lastCapture = some picture

/-- Whatever events arrive, also forged steps, and whatever the camera does: each visit of a busy
state takes or stores the one picture that it is there for, observers are told of that exactly when
it has succeeded, and no busy state is ever stuck. -/
theorem serves_of_record (record : Site.Record (chart driver) topics memory site journal) :
    Serves memory.download site (marks journal) := by
  have watched := (known_of_record record).watched
  obtain ⟨phase, followed, fits⟩ := watched.phase
  exact {
    capturing := fun parts inside => capturing_visit (parts ▸ followed) inside
    downloading := fun parts inside => downloading_visit (parts ▸ followed) inside
    taken := fun parts => captured_inside (parts ▸ followed)
    stored := fun parts => fetched_inside (parts ▸ followed)
    told := watched.told
    flag := watched.flag
    due := watched.due
    waiting := fun here => by
      rw [here] at fits
      obtain ⟨picture, -, -, waits⟩ := fits.downloading
      exact ⟨picture, waits⟩ }

end Sites

/-- A camera that takes and stores pictures and has no settings. -/
def steadyCamera : Driver Unit where
  name _ := "steady"
  isConnected _ := true
  perform call memory :=
    match call with
    | .connect => (.ok "steady", memory)
    | .capture => (.ok ⟨"/card", "1.jpg"⟩, memory)
    | .download .. => (.ok (), memory)
    | _ => (.error (.unsupported "setting"), memory)

/-- A forged step comes before the one of the controller itself, which is left over when the picture
has been taken. -/
theorem serves_of_record_forged :
    ∃ site journal,
      Site.Record (chart steadyCamera) topics
        (.new () ⟨"/pictures", true, 0, 0, 0⟩) site journal ∧
        site.machine.leaf = .downloading ∧ queue site = [.captureStep, .downloadStep] ∧
        Serves true site (marks journal) := by
  have begun : Site.Record (chart steadyCamera) topics
      (.new () ⟨"/pictures", true, 0, 0, 0⟩) _ _ :=
    Site.Record.initial.start 0 (by decide +kernel)
  have ready : Site.Record _ _ _ _ _ :=
    (begun.pause (.receive .connect (by decide +kernel))).turn 0 rfl (by decide +kernel)
  have asked : Site.Record _ _ _ _ _ :=
    (ready.pause (.receive .capture (by decide +kernel))).pause
      (.receive .captureStep (by decide +kernel))
  have busy : Site.Record _ _ _ _ _ := asked.turn 0 rfl (by decide +kernel)
  have taken : Site.Record _ _ _ _ _ := busy.turn 0 rfl (by decide +kernel)
  exact ⟨_, _, taken, rfl, by decide +kernel, serves_of_record taken⟩

end Camera

end Tether
