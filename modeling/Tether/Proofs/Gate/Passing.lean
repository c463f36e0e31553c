import Tether.Gate
import Tether.Proofs.Statechart.History

/-!
# What passes the gate

The commands to the gate cut the events that it receives into periods, in which it is open or closed
(`Course`). In an open period every event is forwarded at once. In a closed one the events are held
back, and only the latest ones find room (`Period.kept`); they are forwarded when the next period
begins. So at any moment what has been forwarded, followed by what is held back, is what the periods
have kept, in the order of its arrival (`passes_obeyAll`).

What carries this through the replay of the held events is that none of them is a command: so the
gate stays open while they pass (`forwards_all`).
-/

namespace Tether

namespace Gate

/-! ## Periods -/

/-- Whether an event is a command to the gate. -/
def isCommand : Event → Bool
  | .enableGate | .disableGate => true
  | _ => false

/-- A time in which the gate is open or closed, and the other events that arrive in it. -/
structure Period where
  closed : Bool
  events : List Event

/-- The events of a period that get through, of a closed one as many as can be held back. -/
def Period.kept (period : Period) : List Event :=
  if period.closed then period.events.drop (period.events.length - Limits.deferred)
  else period.events

theorem Period.kept_of_open {period : Period} (isOpen : period.closed = false) :
    period.kept = period.events := by
  rw [kept, isOpen]
  rfl

theorem Period.kept_of_le {period : Period}
    (room : period.closed = true → period.events.length ≤ Limits.deferred) :
    period.kept = period.events := by
  unfold kept
  split
  · next closed =>
    rw [Nat.sub_eq_zero_of_le (room closed)]
    rfl
  · rfl

/-- The periods that are over, and the one that is not. -/
structure Course where
  past : List Period
  now : Period

namespace Course

/-- A gate is open at first. -/
def new : Course :=
  ⟨[], ⟨false, []⟩⟩

/-- Ends a period if the gate is open or closed as it should not be. -/
def turn (course : Course) (closed : Bool) : Course :=
  if course.now.closed = closed then course
  else ⟨course.past ++ [course.now], ⟨closed, []⟩⟩

def add (course : Course) (event : Event) : Course :=
  { course with now := { course.now with events := course.now.events ++ [event] } }

/-- The course after one more event. -/
def take (course : Course) : Event → Course
  | .enableGate => course.turn false
  | .disableGate => course.turn true
  | event => course.add event

def periods (course : Course) : List Period :=
  course.past ++ [course.now]

/-- The course of some events from the beginning. -/
def of (events : List Event) : Course :=
  events.foldl take new

theorem take_plain (course : Course) {event : Event} (plain : isCommand event = false) :
    course.take event = course.add event := by
  cases event with
  | enableGate | disableGate => cases plain
  | _ => rfl

/-- The periods hold all that has arrived but the commands. -/
theorem flatMap_events (events : List Event) :
    (of events).periods.flatMap Period.events = events.filter (!isCommand ·) := by
  suffices all : ∀ course : Course, (events.foldl take course).periods.flatMap Period.events =
      course.periods.flatMap Period.events ++ events.filter (!isCommand ·) from all new
  induction events with
  | nil => exact fun course => (List.append_nil _).symm
  | cons event rest ih =>
    intro course
    have turned (closed : Bool) :
        (course.turn closed).periods.flatMap Period.events =
          course.periods.flatMap Period.events := by
      unfold turn
      split
      · rfl
      · simp [periods]
    rw [List.foldl_cons, ih, List.filter_cons]
    cases command : isCommand event with
    | true =>
      cases event with
      | enableGate => exact congrArg (· ++ _) (turned false)
      | disableGate => exact congrArg (· ++ _) (turned true)
      | _ => cases command
    | false =>
      rw [take_plain course command]
      simp [periods, add]

end Course

/-! ## Events -/

/-- What a journal says of the events that the gate has forwarded. -/
def forwarded (journal : List (Effect State)) : List Event :=
  journal.filterMap (Effect.heard? [.cameraCmd] false)

@[simp] theorem forwarded_append (journal added : List (Effect State)) :
    forwarded (journal ++ added) = forwarded journal ++ forwarded added :=
  List.filterMap_append

section Process

variable (scope : Scope State Memory) {event : Event}

theorem forwarded_asked (state : State) (signal : Signal) :
    forwarded (scope.record (.asked state state signal)).journal = forwarded scope.journal := by
  simp [Scope.record, forwarded, Effect.heard?]

theorem forwarded_post (leaf : State) (event : Event) :
    forwarded ((scope.record (.asked leaf leaf (.event event))).post event .cameraCmd).journal =
      forwarded scope.journal ++ [event] := by
  show forwarded ((_ ++ [_]) ++ [_]) = _
  rw [forwarded_append, forwarded_append, List.append_assoc]
  rfl

theorem forwarded_defer (event : Event) :
    forwarded (scope.defer event).journal = forwarded scope.journal := by
  unfold Scope.defer
  split
  · exact (forwarded_append _ _).trans (List.append_nil _)
  · rfl

theorem process_open (plain : isCommand event = false) :
    chart.process (.enabled, scope) event =
      (.enabled, (scope.record (.asked .enabled .enabled (.event event))).post event
        .cameraCmd) := by
  cases event with
  | enableGate | disableGate => cases plain
  | _ => rfl

theorem process_closed (plain : isCommand event = false) :
    chart.process (.disabled, scope) event =
      (.disabled, (scope.record (.asked .disabled .disabled (.event event))).defer event) := by
  cases event with
  | enableGate | disableGate => cases plain
  | _ => rfl

/-- What the gate does when it turns to another state, before that state is entered. -/
def leave (source target : State) (event : Event) : Scope State Memory :=
  ((scope.record (.asked source source (.event event))).record
    (.asked source source .exit)).record (.asked source target .entry)

theorem process_disableGate :
    chart.process (.enabled, scope) .disableGate =
      (.disabled, (leave scope .enabled .disabled .disableGate).record
        (.asked .disabled .disabled .init)) :=
  rfl

theorem process_enableGate :
    chart.process (.disabled, scope) .enableGate =
      (.enabled, (leave scope .disabled .enabled .enableGate).requestReplay.record
        (.asked .enabled .enabled .init)) :=
  rfl

/-- A command that tells the gate to be as it is changes nothing. -/
theorem process_repeated (state : State) :
    chart.process (state, scope) (if state = .enabled then .enableGate else .disableGate) =
      (state, scope.record (.asked state state
        (.event (if state = .enabled then .enableGate else .disableGate)))) := by
  cases state with
  | enabled => rfl
  | disabled => rfl

theorem forwarded_leave (source target : State) (event : Event) :
    forwarded (leave scope source target event).journal = forwarded scope.journal := by
  simp [leave, Scope.record, forwarded, Effect.heard?]

/-- Whatever is dispatched while the gate is open is forwarded, and the gate stays open. -/
theorem forwards_all {events : List Event} (plain : ∀ event ∈ events, isCommand event = false)
    (scope : Scope State Memory) :
    ∃ after, events.foldl chart.process (.enabled, scope) = (.enabled, after) ∧
      after.held = scope.held ∧ after.replay = scope.replay ∧
      forwarded after.journal = forwarded scope.journal ++ events := by
  induction events generalizing scope with
  | nil => exact ⟨scope, rfl, rfl, rfl, (List.append_nil _).symm⟩
  | cons event rest ih =>
    rw [List.foldl_cons, process_open scope (plain event List.mem_cons_self)]
    obtain ⟨after, run, held, replay, passed⟩ :=
      ih (fun other member => plain other (List.mem_cons_of_mem event member))
        ((scope.record (.asked .enabled .enabled (.event event))).post event .cameraCmd)
    refine ⟨after, run, held, replay, ?_⟩
    rw [passed, forwarded_post, List.append_assoc]
    rfl

end Process

/-- An event that is held back takes the place of the oldest one if there is no room. -/
theorem items_put_kept {held : HeldEvents} {period : Period} (closed : period.closed = true)
    (items : held.items = period.kept) (event : Event) :
    (held.put event).items =
      Period.kept { period with events := period.events ++ [event] } := by
  obtain ⟨closedNow, events⟩ := period
  cases closed
  have kept : held.items = events.drop (events.length - Limits.deferred) := items
  have length : held.items.length = events.length - (events.length - Limits.deferred) := by
    rw [kept, List.length_drop]
  show _ = (events ++ [event]).drop ((events ++ [event]).length - Limits.deferred)
  rw [List.length_append, List.length_singleton]
  rcases Nat.lt_or_ge events.length Limits.deferred with room | full
  · have all : events.length - Limits.deferred = 0 := by omega
    have none : events.length + 1 - Limits.deferred = 0 := by omega
    rw [Mailbox.items_put_of_lt (by omega), kept, all, none, List.drop_zero, List.drop_zero]
  · have oldest : events.length + 1 - Limits.deferred = events.length - Limits.deferred + 1 := by
      omega
    rw [Mailbox.items_put_of_full (by omega), kept, oldest,
      ← List.drop_append_of_le_length (Nat.sub_le _ _), List.drop_drop]

/-! ## Turns -/

/-- After a past, a run agrees with the course of the events. -/
inductive Tracks (course : Course) (past : List (Effect State)) :
    State × Scope State Memory → Prop where
  | opened {scope : Scope State Memory} (now : course.now.closed = false)
      (replay : scope.replay = false)
      (passed : forwarded past ++ forwarded scope.journal =
        course.past.flatMap Period.kept ++ course.now.events)
      (held : scope.held.items = []) : Tracks course past (.enabled, scope)
  | closed {scope : Scope State Memory} (now : course.now.closed = true)
      (replay : scope.replay = false)
      (passed : forwarded past ++ forwarded scope.journal = course.past.flatMap Period.kept)
      (held : scope.held.items = course.now.kept)
      (plain : ∀ event ∈ course.now.events, isCommand event = false) :
      Tracks course past (.disabled, scope)

namespace Tracks

variable {course : Course} {past : List (Effect State)} {run : State × Scope State Memory}

theorem replay (tracks : Tracks course past run) : run.2.replay = false := by
  cases tracks with
  | opened _ replay => exact replay
  | closed _ replay => exact replay

theorem ask {leaf : State} {scope : Scope State Memory} (tracks : Tracks course past (leaf, scope))
    (signal : Signal) : Tracks course past (leaf, scope.record (.asked leaf leaf signal)) := by
  cases tracks with
  | opened now replay passed held =>
    exact .opened now replay ((congrArg _ (forwarded_asked scope _ signal)).trans passed) held
  | closed now replay passed held plain =>
    exact .closed now replay ((congrArg _ (forwarded_asked scope _ signal)).trans passed) held plain

/-- What is dispatched while the gate is open, and is no command, is forwarded. What is dispatched
while it is closed is held back. -/
theorem process (tracks : Tracks course past run) {event : Event}
    (other : isCommand event = false) :
    Tracks (course.add event) past (chart.process run event) := by
  cases tracks with
  | @opened scope now replay passed held =>
    rw [process_open scope other]
    refine .opened now replay ?_ held
    rw [forwarded_post, ← List.append_assoc, passed, List.append_assoc]
    rfl
  | @closed scope now replay passed held plain =>
    rw [process_closed scope other]
    refine .closed now ((scope.record _).defer_replay event ▸ replay) ?_ ?_ ?_
    · rw [forwarded_defer, forwarded_asked]
      exact passed
    · rw [Scope.defer_held]
      exact items_put_kept now held event
    · intro event' member
      rcases List.mem_append.mp member with earlier | latest
      · exact plain event' earlier
      · rw [List.mem_singleton.mp latest]
        exact other

theorem disableGate (tracks : Tracks course past run) :
    Tracks (course.turn true) past (chart.process run .disableGate) := by
  cases tracks with
  | @opened scope now replay passed held =>
    rw [process_disableGate, Course.turn, if_neg (by rw [now]; decide)]
    refine .closed rfl replay ?_ held fun _ => nofun
    rw [forwarded_asked, forwarded_leave, passed]
    simp [Period.kept_of_open now]
  | closed now replay passed held plain =>
    rw [Course.turn, if_pos now]
    exact (Tracks.closed now replay passed held plain).ask (.event .disableGate)

/-- The replay of an opened gate forwards what has been held back. -/
theorem enableGate (tracks : Tracks course past run) :
    Tracks (course.turn false) past
      (chart.replayHeld Limits.replayRounds (chart.process run .enableGate)) := by
  cases tracks with
  | @opened scope now replay passed held =>
    have still := (Tracks.opened now replay passed held).ask (.event .enableGate)
    have repeated : chart.process (.enabled, scope) .enableGate =
        (.enabled, scope.record (.asked .enabled .enabled (.event .enableGate))) :=
      process_repeated scope .enabled
    rw [repeated, Course.turn, if_pos now, Chart.replayHeld_eq_self still.replay]
    exact still
  | @closed scope now replay passed held plain =>
    rw [process_enableGate, Course.turn, if_neg (by rw [now]; decide)]
    let opened := (leave scope .disabled .enabled .enableGate).requestReplay.record
      (.asked .enabled .enabled .init)
    show Tracks _ past (chart.replayHeld Limits.replayRounds (.enabled, opened))
    have journal : forwarded past ++ forwarded opened.journal =
        course.past.flatMap Period.kept := by
      rw [forwarded_asked]
      exact (congrArg _ (forwarded_leave scope _ _ _)).trans passed
    have asked : opened.replay = !scope.held.isEmpty := by
      show (scope.replay || !scope.held.isEmpty) = _
      rw [replay]
      rfl
    have begun : course.past.flatMap Period.kept ++ course.now.kept =
        (course.past ++ [course.now]).flatMap Period.kept ++ [] := by
      simp
    cases empty : scope.held.isEmpty with
    | true =>
      have nothing : scope.held.items = [] := List.isEmpty_iff.mp empty
      have idle : opened.replay = false := by
        rw [asked, empty]
        rfl
      rw [Chart.replayHeld_eq_self idle]
      refine .opened rfl idle ?_ nothing
      rw [journal, ← begun, ← held, nothing, List.append_nil]
    | false =>
      have free : ∀ event ∈ opened.held.items, isCommand event = false := by
        intro event member
        have kept : event ∈ course.now.kept := held ▸ member
        rw [Period.kept, if_pos now] at kept
        exact plain event (List.mem_of_mem_drop kept)
      obtain ⟨after, batch, emptied, idle, forwards⟩ :=
        forwards_all free { opened with replay := false, held := .empty }
      rw [Chart.replayHeld_eq_batch (by rw [asked, empty]; rfl) (by rw [batch]; exact idle), batch]
      refine .opened rfl idle ?_ (congrArg Mailbox.items emptied)
      rw [forwards, ← List.append_assoc, journal]
      exact (congrArg _ held).trans begun

/-- A turn takes one event, and then, if the gate is opened, those that are held back. -/
theorem dispatch (tracks : Tracks course past run) (event : Event) :
    Tracks (course.take event) past
      (chart.replayHeld Limits.replayRounds (chart.process run event)) := by
  have still {course : Course} {run : State × Scope State Memory}
      (tracks : Tracks course past run) :
      Tracks course past (chart.replayHeld Limits.replayRounds run) := by
    rw [Chart.replayHeld_eq_self tracks.replay]
    exact tracks
  cases command : isCommand event with
  | false =>
    rw [Course.take_plain course command]
    exact still (tracks.process command)
  | true =>
    cases event with
    | enableGate => exact tracks.enableGate
    | disableGate => exact still tracks.disableGate
    | _ => cases command

end Tracks

/-! ## Histories -/

/-- The events that are dispatched on some occasions. -/
def received (occasions : List Occasion) : List Event :=
  occasions.filterMap fun occasion =>
    match occasion.order with
    | .start => none
    | .dispatch event => some event

/-- A gate between two orders agrees with the course of the events. -/
structure Agrees (course : Course) (history : History State Memory) : Prop where
  begun : history.machine.started = true ∨ history.machine = chart.machine ()
  tracks : ∀ timers now,
    Tracks course history.journal (history.machine.leaf, history.machine.scope timers now)

theorem agrees_new : Agrees .new (.new chart ()) where
  begun := Or.inr rfl
  tracks _ _ := .opened rfl rfl rfl rfl

/-- What a journal adds without anything being heard of it. -/
def Silent (before after : Scope State Memory) : Prop :=
  ∃ added, after = { before with journal := before.journal ++ added } ∧
    ∀ effect ∈ added, effect.isAsked = true

theorem Silent.ask {before after : Scope State Memory} (silent : Silent before after)
    (leaf state : State) (signal : Signal) :
    Silent before (after.record (.asked leaf state signal)) := by
  obtain ⟨added, rfl, asked⟩ := silent
  refine ⟨added ++ [.asked leaf state signal], ?_, fun effect member => ?_⟩
  · rw [Scope.record, List.append_assoc]
  · rcases List.mem_append.mp member with earlier | latest
    · exact asked effect earlier
    · rw [List.mem_singleton.mp latest]
      rfl

/-- A gate is entered without anything being heard of it. -/
theorem startRun_silent {course : Course} {history : History State Memory}
    (agrees : Agrees course history) (timers : Timers) (now : Nat) :
    (chart.startRun history.machine timers now).1 = history.machine.leaf ∧
      Silent (history.machine.scope timers now) (chart.startRun history.machine timers now).2 := by
  have still : Silent (history.machine.scope timers now) (history.machine.scope timers now) :=
    ⟨[], by rw [List.append_nil], fun _ => nofun⟩
  rcases agrees.begun with started | fresh
  · rw [Chart.startRun, if_pos started]
    exact ⟨rfl, still⟩
  · rw [fresh] at still ⊢
    exact ⟨rfl, (still.ask .enabled .enabled .entry).ask .enabled .enabled .init⟩

theorem Tracks.silent {course : Course} {past : List (Effect State)} {leaf : State}
    {before after : Scope State Memory} (tracks : Tracks course past (leaf, before))
    (silent : Silent before after) : Tracks course past (leaf, after) := by
  obtain ⟨added, rfl, asked⟩ := silent
  have unheard : forwarded added = [] := by
    refine List.filterMap_eq_nil_iff.mpr fun effect member => ?_
    have quiet := asked effect member
    cases effect with
    | asked => rfl
    | _ => cases quiet
  have journal : forwarded (before.journal ++ added) = forwarded before.journal := by
    rw [forwarded_append, unheard, List.append_nil]
  cases tracks with
  | opened now replay passed held =>
    exact .opened now replay ((congrArg _ journal).trans passed) held
  | closed now replay passed held plain =>
    exact .closed now replay ((congrArg _ journal).trans passed) held plain

theorem Agrees.started {course : Course} {history : History State Memory}
    (agrees : Agrees course history) (timers : Timers) (now : Nat) :
    Tracks course history.journal (chart.startRun history.machine timers now) := by
  obtain ⟨leaf, silent⟩ := startRun_silent agrees timers now
  have tracks := (agrees.tracks timers now).silent silent
  rw [← leaf] at tracks
  exact tracks

/-- A run that has come to rest is the next state of the history. -/
theorem Tracks.agrees {course : Course} {past : List (Effect State)}
    {run : State × Scope State Memory} (tracks : Tracks course past run) :
    Agrees course ⟨(Machine.turn run).machine, past ++ (Machine.turn run).journal⟩ := by
  refine ⟨Or.inl rfl, fun timers now => ?_⟩
  have journal : forwarded (past ++ run.2.journal) ++ [] =
      forwarded past ++ forwarded run.2.journal := by
    rw [List.append_nil, forwarded_append]
  cases tracks with
  | opened now replay passed held => exact .opened now replay (journal.trans passed) held
  | closed now replay passed held plain =>
    exact .closed now replay (journal.trans passed) held plain

theorem Agrees.obey {course : Course} {history : History State Memory}
    (agrees : Agrees course history) (occasion : Occasion) :
    Agrees ((received [occasion]).foldl Course.take course) (history.obey chart occasion) := by
  obtain ⟨order, timers, now⟩ := occasion
  have started := agrees.started timers now
  cases order with
  | start => exact started.agrees
  | dispatch event => exact (started.dispatch event).agrees

theorem agrees_obeyAll (occasions : List Occasion) {course : Course}
    {history : History State Memory} (agrees : Agrees course history) :
    Agrees ((received occasions).foldl Course.take course) (history.obeyAll chart occasions) := by
  induction occasions generalizing course history with
  | nil => exact agrees
  | cons occasion rest ih =>
    have later := ih (agrees.obey occasion)
    rw [← List.foldl_append] at later
    have split : received (occasion :: rest) = received [occasion] ++ received rest :=
      List.filterMap_append (l := [occasion])
    rw [split]
    exact later

/-- A turn changes nothing, and nothing of it is heard. -/
def Unmoved (machine : Machine State Memory) (timers : Timers) (turn : Turn State Memory) : Prop :=
  turn.machine = { machine with started := true } ∧ turn.timers = timers ∧
    ∀ effect ∈ turn.journal, effect.isAsked = true

/-- A command that tells the gate to be as it is changes nothing. -/
theorem Agrees.unmoved {course : Course} {history : History State Memory}
    (agrees : Agrees course history) {leaf : State} (here : history.machine.leaf = leaf)
    (timers : Timers) (now : Nat) :
    Unmoved history.machine timers (chart.obey history.machine timers now
      (.dispatch (if leaf = .enabled then .enableGate else .disableGate))) := by
  subst here
  obtain ⟨leaf, silent⟩ := startRun_silent agrees timers now
  have replay := (agrees.tracks timers now).replay
  have run := process_repeated (chart.startRun history.machine timers now).2
    history.machine.leaf
  obtain ⟨added, equal, asked⟩ := silent.ask history.machine.leaf history.machine.leaf
    (.event (if history.machine.leaf = .enabled then .enableGate else .disableGate))
  have started : chart.startRun history.machine timers now =
      (history.machine.leaf, (chart.startRun history.machine timers now).2) := Prod.ext leaf rfl
  rw [← started, equal] at run
  rw [Chart.obey, Chart.dispatch, run, Chart.replayHeld_eq_self (by exact replay)]
  exact ⟨rfl, rfl, asked⟩

/-- What a gate has made of the events that it has received. -/
structure Passes (events : List Event) (history : History State Memory) : Prop where
  /-- What has been forwarded, followed by what is held back, is what the periods have kept. -/
  account : forwarded history.journal ++ history.machine.held.items =
    (Course.of events).periods.flatMap Period.kept
  /-- As long as there is room, that is all that has arrived but the commands. -/
  complete : (∀ period ∈ (Course.of events).periods,
      period.closed = true → period.events.length ≤ Limits.deferred) →
    forwarded history.journal ++ history.machine.held.items = events.filter (!isCommand ·)
  /-- Nothing is held back while the gate is open. -/
  isOpen : history.machine.leaf = .enabled →
    (Course.of events).now.closed = false ∧ history.machine.held.items = []
  /-- Nothing is forwarded while the gate is closed. -/
  isClosed : history.machine.leaf = .disabled →
    (Course.of events).now.closed = true ∧
      history.machine.held.items = (Course.of events).now.kept
  /-- Commands that repeat each other change nothing. -/
  repeated : ∀ timers now,
    (history.machine.leaf = .enabled →
      Unmoved history.machine timers
        (chart.obey history.machine timers now (.dispatch .enableGate))) ∧
    (history.machine.leaf = .disabled →
      Unmoved history.machine timers
        (chart.obey history.machine timers now (.dispatch .disableGate)))

theorem Agrees.account {course : Course} {history : History State Memory}
    (agrees : Agrees course history) :
    forwarded history.journal ++ history.machine.held.items =
      course.periods.flatMap Period.kept := by
  have tracks := agrees.tracks .empty 0
  generalize history.machine.leaf = leaf at tracks
  rw [Course.periods, List.flatMap_append]
  cases tracks with
  | opened now replay passed held =>
    have passed : forwarded history.journal ++ [] = _ := passed
    have held : history.machine.held.items = [] := held
    rw [held, passed]
    simp [Period.kept_of_open now]
  | closed now replay passed held plain =>
    have passed : forwarded history.journal ++ [] = _ := passed
    have held : history.machine.held.items = course.now.kept := held
    rw [List.append_nil] at passed
    rw [held, passed]
    simp

/-- Whatever events a gate receives: those that it has forwarded, followed by those that it holds
back, are those that it has received besides its commands, in the order of their arrival, but for
the oldest ones of a closed period in which too many have arrived. -/
theorem passes_obeyAll (occasions : List Occasion) :
    Passes (received occasions) (.obeyAll chart (.new chart ()) occasions) := by
  have agrees := agrees_obeyAll occasions agrees_new
  have tracks := agrees.tracks .empty 0
  refine ⟨agrees.account, fun room => ?_, fun leaf => ?_, fun leaf => ?_, fun timers now => ?_⟩
  · rw [agrees.account, ← Course.flatMap_events, List.flatMap_def, List.flatMap_def]
    refine congrArg List.flatten (List.map_congr_left fun period member => ?_)
    exact Period.kept_of_le (room period member)
  · rw [leaf] at tracks
    cases tracks with
    | opened now replay passed held => exact ⟨now, held⟩
  · rw [leaf] at tracks
    cases tracks with
    | closed now replay passed held plain => exact ⟨now, held⟩
  · exact ⟨fun leaf => agrees.unmoved leaf timers now,
    fun leaf => agrees.unmoved leaf timers now⟩

end Gate

end Tether
