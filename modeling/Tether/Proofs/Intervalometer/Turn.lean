import Tether.Proofs.Handshake.Intervalometer

/-!
# What a turn of the intervalometer changes

Every event that the intervalometer takes leads to one of ten turns (`Turned`). Each of them is
given by the state that it ends in, the memory, the timers, and the marks that it leaves in the
journal: what was asked of the camera, what was counted, what began and ended. So a property of all
runs only has to be looked at turn by turn, without the handlers.
-/

namespace Tether

namespace Timers

/-- The timers without one that may not have been set. -/
def without (timers : Timers) : Option Nat → Timers
  | some id => timers.remove id
  | none => timers

@[simp] theorem without_nextId (timers : Timers) (id? : Option Nat) :
    (timers.without id?).nextId = timers.nextId := by
  cases id? <;> rfl

theorem mem_without {timers : Timers} {id? : Option Nat} {timer : Timer} :
    timer ∈ (timers.without id?).pending ↔
      timer ∈ timers.pending ∧ id? ≠ some timer.id := by
  cases id? with
  | none => simp [without]
  | some id =>
    rw [without, remove_pending, List.mem_filter, bne_iff_ne]
    exact and_congr_right fun _ => ⟨fun other same => other (Option.some.inj same).symm,
      fun other same => other (congrArg some same.symm)⟩

end Timers

@[simp] theorem Scope.cancel?_timers {S M : Type} (scope : Scope S M) (id? : Option Nat) :
    (scope.cancel? id?).timers = scope.timers.without id? := by
  cases id? <;> rfl

@[simp] theorem Scope.cancel?_now {S M : Type} (scope : Scope S M) (id? : Option Nat) :
    (scope.cancel? id?).now = scope.now := by
  cases id? <;> rfl

namespace Intervalometer

/-! ## Marks -/

/-- What a journal says of a sequence of captures. -/
inductive Mark where
  /-- A request to begin a sequence was taken. -/
  | begun (interval total : Int32)
  /-- The camera was asked for a capture. -/
  | shot
  /-- A capture was counted. -/
  | counted
  /-- The end of an interval was dispatched. -/
  | expired
  /-- A request to stop was taken. -/
  | stopped
  /-- The end of the sequence was reported. -/
  | ended
deriving DecidableEq

/-- The mark of a state that is asked about an event. The end of an interval counts as dispatched
where the current state is asked about it, which comes first. -/
def markOf (leaf state : State) : Event → Option Mark
  | .intervalometerStart interval total =>
      if state = .ready then some (.begun interval total) else none
  | .captureDone .. => if state = .capturing then some .counted else none
  | .intervalometerDeadline => if state = leaf then some .expired else none
  | .stopMode => if state = .running then some .stopped else none
  | _ => none

/-- The mark of an entry of a journal. -/
def mark? : Effect State → Option Mark
  | .asked leaf state (.event event) => markOf leaf state event
  | .posted .capture _ => some .shot
  | .posted .modeStopped _ => some .ended
  | _ => none

def marks (journal : List (Effect State)) : List Mark :=
  journal.filterMap mark?

@[simp] theorem marks_append (journal added : List (Effect State)) :
    marks (journal ++ added) = marks journal ++ marks added :=
  List.filterMap_append

theorem marks_singleton (effect : Effect State) : marks [effect] = (mark? effect).toList := by
  cases marked : mark? effect <;> simp [marks, marked]

/-! ## Changes -/

/-- From one scope to another the memory and the timers have become as given, and some marks have
been added. -/
structure Changes (before : Scope State Memory) (memory : Memory) (timers : Timers)
    (added : List Mark) (after : Scope State Memory) : Prop where
  memory : after.memory = memory
  timers : after.timers = timers
  journal : marks after.journal = marks before.journal ++ added

namespace Changes

variable {before after : Scope State Memory} {memory : Memory} {timers : Timers}
  {added : List Mark}

theorem update (scope : Scope State Memory) (change : Memory → Memory) :
    Changes scope (change scope.memory) scope.timers [] (Intervalometer.update scope change) :=
  ⟨rfl, rfl, (List.append_nil _).symm⟩

theorem trans {middle : Scope State Memory} {later : Memory} {timersLater : Timers}
    {more : List Mark} (first : Changes before memory timers added middle)
    (second : Changes middle later timersLater more after) :
    Changes before later timersLater (added ++ more) after where
  memory := second.memory
  timers := second.timers
  journal := by rw [second.journal, first.journal, List.append_assoc]

/-- One more entry of the journal behind the others. -/
theorem record (changes : Changes before memory timers added after) (effect : Effect State) :
    Changes before memory timers (added ++ (mark? effect).toList) (after.record effect) where
  memory := changes.memory
  timers := changes.timers
  journal := by
    show marks (after.journal ++ [effect]) = _
    rw [marks_append, changes.journal, marks_singleton, List.append_assoc]

/-- One more entry of the journal before the others. -/
theorem of_record (before : Scope State Memory) (effect : Effect State)
    (changes : Changes (before.record effect) memory timers added after) :
    Changes before memory timers ((mark? effect).toList ++ added) after where
  memory := changes.memory
  timers := changes.timers
  journal := by
    rw [changes.journal]
    show marks (before.journal ++ [effect]) ++ added = _
    rw [marks_append, marks_singleton, List.append_assoc]

end Changes

/-! ## Handlers -/

/-- The memory once a capture has begun, whose deadline gets a number. -/
def Memory.shooting (memory : Memory) (id : Nat) : Memory :=
  { memory with
    status := .capturing
    expired := false
    deadline := if 0 < memory.interval then some id else none }

/-- The memory once a sequence is over. -/
def Memory.finished (memory : Memory) : Memory :=
  { memory with status := .ready, deadline := none }

/-- The timers once a capture has begun. -/
def renewed (memory : Memory) (timers : Timers) (now : Nat) : Timers :=
  if 0 < memory.interval then
    ((timers.without memory.deadline).insert
      (now + Timers.clampDelay memory.interval.toInt.toNat) .intervalometerDeadline .modeFsm).1
  else timers.without memory.deadline

theorem mem_renewed {memory : Memory} {timers : Timers} {now : Nat} {timer : Timer}
    (pending : timer ∈ (renewed memory timers now).pending) :
    timer ∈ (timers.without memory.deadline).pending ∨
      0 < memory.interval ∧ timer.id = timers.nextId := by
  unfold renewed at pending
  split at pending
  · next interval =>
    rcases Timers.mem_place.mp pending with rfl | older
    · exact Or.inr ⟨interval, timers.without_nextId memory.deadline⟩
    · exact Or.inl older
  · exact Or.inl pending

section Handlers

variable (scope : Scope State Memory)

theorem report_changes : Changes scope scope.memory scope.timers [] (report scope) := by
  refine ⟨rfl, rfl, ?_⟩
  show marks (scope.journal ++ [.posted scope.memory.report .modeState]) = _
  simp [marks, mark?, Memory.report]

theorem enterLeaf_changes (state : State) :
    Changes scope { scope.memory with status := state } scope.timers [] (enterLeaf scope state) :=
  (Changes.update scope fun memory => { memory with status := state }).trans (report_changes _)

theorem cancelDeadline_changes :
    Changes scope { scope.memory with deadline := none }
      (scope.timers.without scope.memory.deadline) [] (cancelDeadline scope) where
  memory := by simp [cancelDeadline, update, Scope.setMemory]
  timers := by simp [cancelDeadline, update, Scope.setMemory]
  journal := by simp [cancelDeadline, update, Scope.setMemory]

theorem setDeadline_changes :
    Changes scope
      { scope.memory with
        deadline := if 0 < scope.memory.interval then some scope.timers.nextId
          else scope.memory.deadline }
      (if 0 < scope.memory.interval then
        (scope.timers.insert
          (scope.now + Timers.clampDelay scope.memory.interval.toInt.toNat)
          .intervalometerDeadline .modeFsm).1
      else scope.timers) [] (setDeadline scope) := by
  unfold setDeadline
  split
  · refine ⟨by simp [update, Scope.setMemory], by simp [update, Scope.setMemory], ?_⟩
    simp only [update, Scope.setMemory, Scope.schedule_journal]
    split <;> simp [marks, mark?]
  · exact ⟨rfl, rfl, (List.append_nil _).symm⟩

theorem beginCapture_changes :
    Changes scope (scope.memory.shooting scope.timers.nextId)
      (renewed scope.memory scope.timers scope.now) [.shot] (beginCapture scope) := by
  -- The deadline is set in a scope in which the old one is gone.
  let noted := update (enterLeaf scope .capturing) fun memory => { memory with expired := false }
  let asked := (cancelDeadline noted).post .capture .cameraCmd
  have before : Changes scope
      { scope.memory with status := .capturing, expired := false, deadline := none }
      (scope.timers.without scope.memory.deadline) [.shot] asked :=
    (((enterLeaf_changes scope .capturing).trans (.update _ _)).trans
      (cancelDeadline_changes noted)).record (.posted .capture .cameraCmd)
  have now : asked.now = scope.now := Scope.cancel?_now _ _
  have set := before.trans (setDeadline_changes asked)
  rw [before.memory, before.timers, now, Timers.without_nextId] at set
  exact set

end Handlers

/-! ## Transitions -/

section Transitions

variable (scope : Scope State Memory) {source : State}

theorem into_capturing (rests : source.Rests) :
    Changes scope (scope.memory.shooting scope.timers.nextId)
      (renewed scope.memory scope.timers scope.now) [.shot]
      (chart.transition source .capturing scope).2 := by
  have entered (left : Scope State Memory) :=
    (Changes.of_record left (.asked source .capturing .entry) (beginCapture_changes _)).record
      (.asked .capturing .capturing .init)
  cases source with
  | super => exact absurd rfl rests.1
  | running => exact absurd rfl rests.2
  | ready =>
    exact .of_record scope (.asked .ready .ready .exit)
      (.of_record _ (.asked .ready .running .entry) (entered _))
  | capturing => exact .of_record scope (.asked .capturing .capturing .exit) (entered _)
  | waiting => exact .of_record scope (.asked .waiting .waiting .exit) (entered _)
  | error => exact .of_record scope (.asked .error .error .exit) (entered _)

/-- Whatever leads to `Ready` from within `Running` ends the sequence. -/
theorem into_ready (inside : source.isInside = true) (rests : source.Rests) :
    Changes scope scope.memory.finished (scope.timers.without scope.memory.deadline) [.ended]
      (chart.transition source .ready scope).2 := by
  have closed (left : Scope State Memory) :=
    ((Changes.of_record left (.asked source .running .exit) (cancelDeadline_changes _)).record
      (.posted .modeStopped .modeController)).record (.asked source .ready .entry)
  have entered (left : Scope State Memory) : Changes left left.memory.finished
      (left.timers.without left.memory.deadline) [.ended]
      ((enterLeaf (((cancelDeadline (left.record (.asked source .running .exit))).record
        (.posted .modeStopped .modeController)).record (.asked source .ready .entry))
          .ready).record (.asked .ready .ready .init)) := by
    have status := (closed left).trans (enterLeaf_changes _ .ready)
    rw [(closed left).memory, (closed left).timers] at status
    exact status.record (.asked .ready .ready .init)
  cases source with
  | super => exact absurd rfl rests.1
  | running => exact absurd rfl rests.2
  | ready => cases inside
  | capturing => exact .of_record scope (.asked .capturing .capturing .exit) (entered _)
  | waiting => exact .of_record scope (.asked .waiting .waiting .exit) (entered _)
  | error => exact .of_record scope (.asked .error .error .exit) (entered _)

theorem into_idle {target : State} (inside : source.isInside = true) (rests : source.Rests)
    (idle : target = .waiting ∨ target = .error) :
    Changes scope { scope.memory with status := target } scope.timers []
      (chart.transition source target scope).2 := by
  have entered (left : Scope State Memory) :=
    (Changes.of_record left (.asked source target .entry) (enterLeaf_changes _ target)).record
      (.asked target target .init)
  have passed := Changes.of_record scope (.asked source source .exit) (entered _)
  cases source with
  | super => exact absurd rfl rests.1
  | running => exact absurd rfl rests.2
  | ready => cases inside
  | _ => rcases idle with rfl | rfl <;> exact passed

end Transitions

/-! ## Turns -/

/-- Whether a state does something about an event, rather than passing it on or reporting. -/
def State.minds : State → Event → Bool
  | .ready, .intervalometerStart .. => true
  | .running, .stopMode => true
  | .capturing, .intervalometerDeadline => true
  | .capturing, .captureDone .. => true
  | .capturing, .cameraError => true
  | .waiting, .intervalometerDeadline => true
  | .waiting, .cameraError => true
  | .error, .intervalometerDeadline => true
  | .error, .cameraConnected => true
  | _, _ => false

/-- Whether an event makes no difference while a state is the current one. -/
def State.ignores (leaf : State) (event : Event) : Bool :=
  (chart.chain leaf).all fun state => !state.minds event

theorem State.minds_of_ignores {leaf state : State} {event : Event}
    (ignored : leaf.ignores event = true) (member : state ∈ chart.chain leaf) :
    state.minds event = false := by
  simpa using List.all_eq_true.mp ignored state member

/-- The memory once a sequence has been asked for. -/
def Memory.asked (memory : Memory) (interval total : Int32) : Memory :=
  { memory with interval := interval, total := total, captures := 0 }

/-- The memory once the interval is over. -/
def Memory.lapsed (memory : Memory) : Memory :=
  { memory with deadline := none, expired := true }

/-- The memory once a capture was counted. -/
def Memory.counted (memory : Memory) : Memory :=
  { memory with captures := memory.captures + 1 }

/-- The marks of an event that makes no difference. -/
def noted (event : Event) : List Mark :=
  if event = .intervalometerDeadline then [.expired] else []

/-- What an event can lead to in a state that a machine rests in. -/
inductive Turned (before : Scope State Memory) :
    State → Event → State × Scope State Memory → Prop where
  | stay {leaf : State} {event : Event} {after : Scope State Memory}
      (ignored : leaf.ignores event = true)
      (changes : Changes before before.memory before.timers (noted event) after) :
      Turned before leaf event (leaf, after)
  | begin {interval total : Int32} {after : Scope State Memory}
      (changes : Changes before
        ((before.memory.asked interval total).shooting before.timers.nextId)
        (renewed (before.memory.asked interval total) before.timers before.now)
        [.begun interval total, .shot] after) :
      Turned before .ready (.intervalometerStart interval total) (.capturing, after)
  | stop {leaf : State} {after : Scope State Memory} (inside : leaf.isInside = true)
      (changes : Changes before before.memory.finished
        (before.timers.without before.memory.deadline) [.stopped, .ended] after) :
      Turned before leaf .stopMode (.ready, after)
  /-- The interval is over before the capture is, or while the camera is in trouble. -/
  | note {leaf : State} {after : Scope State Memory} (busy : leaf = .capturing ∨ leaf = .error)
      (changes : Changes before before.memory.lapsed before.timers [.expired] after) :
      Turned before leaf .intervalometerDeadline (leaf, after)
  | finish {downloaded : Bool} {file : String} {after : Scope State Memory}
      (complete : before.memory.counted.isComplete = true)
      (changes : Changes before before.memory.counted.finished
        (before.timers.without before.memory.deadline) [.counted, .ended] after) :
      Turned before .capturing (.captureDone downloaded file) (.ready, after)
  | again {downloaded : Bool} {file : String} {after : Scope State Memory}
      (incomplete : before.memory.counted.isComplete = false)
      (due : before.memory.counted.isDue = true)
      (changes : Changes before (before.memory.counted.shooting before.timers.nextId)
        (renewed before.memory.counted before.timers before.now) [.counted, .shot] after) :
      Turned before .capturing (.captureDone downloaded file) (.capturing, after)
  | pause {downloaded : Bool} {file : String} {after : Scope State Memory}
      (incomplete : before.memory.counted.isComplete = false)
      (early : before.memory.counted.isDue = false)
      (changes : Changes before { before.memory.counted with status := .waiting } before.timers
        [.counted] after) :
      Turned before .capturing (.captureDone downloaded file) (.waiting, after)
  | next {after : Scope State Memory}
      (changes : Changes before
        ({ before.memory with deadline := none }.shooting before.timers.nextId)
        (renewed { before.memory with deadline := none } before.timers before.now)
        [.expired, .shot] after) :
      Turned before .waiting .intervalometerDeadline (.capturing, after)
  | park {leaf : State} {after : Scope State Memory} (busy : leaf = .capturing ∨ leaf = .waiting)
      (changes : Changes before { before.memory with resume := leaf, status := .error }
        before.timers [] after) :
      Turned before leaf .cameraError (.error, after)
  /-- The camera is back, and a capture that was broken off or is overdue begins. -/
  | retry {after : Scope State Memory}
      (due : before.memory.expired = true ∨ before.memory.resume = .capturing)
      (changes : Changes before (before.memory.shooting before.timers.nextId)
        (renewed before.memory before.timers before.now) [.shot] after) :
      Turned before .error .cameraConnected (.capturing, after)
  | rejoin {after : Scope State Memory} (early : before.memory.expired = false)
      (waiting : before.memory.resume = .waiting)
      (changes : Changes before { before.memory with status := .waiting } before.timers []
        after) :
      Turned before .error .cameraConnected (.waiting, after)

section Ignored

variable {leaf state : State} {event : Event}

/-- A state that does not mind an event passes it on, or answers it with a report. -/
theorem handle_ignored (ignored : state.minds event = false) (scope : Scope State Memory) :
    chart.handle state (.event event) scope = (scope, .delegate) ∨
      chart.handle state (.event event) scope = (report scope, .handled) := by
  cases state with
  | super =>
    cases event with
    | getMode => exact Or.inr rfl
    | _ => exact Or.inl rfl
  | ready =>
    cases event with
    | intervalometerStart => cases ignored
    | _ => exact Or.inl rfl
  | running =>
    cases event with
    | stopMode => cases ignored
    | _ => exact Or.inl rfl
  | capturing =>
    cases event with
    | intervalometerDeadline | captureDone | cameraError => cases ignored
    | _ => exact Or.inl rfl
  | waiting =>
    cases event with
    | intervalometerDeadline | cameraError => cases ignored
    | _ => exact Or.inl rfl
  | error =>
    cases event with
    | intervalometerDeadline | cameraConnected => cases ignored
    | _ => exact Or.inl rfl

theorem markOf_ignored (ignored : state.minds event = false) :
    (markOf leaf state event).toList = if state = leaf then noted event else [] := by
  cases event with
  | intervalometerStart =>
    have other : state ≠ .ready := by
      rintro rfl
      exact Bool.false_ne_true ignored.symm
    exact (congrArg Option.toList (if_neg other)).trans (ite_self _).symm
  | captureDone =>
    have other : state ≠ .capturing := by
      rintro rfl
      exact Bool.false_ne_true ignored.symm
    exact (congrArg Option.toList (if_neg other)).trans (ite_self _).symm
  | stopMode =>
    have other : state ≠ .running := by
      rintro rfl
      exact Bool.false_ne_true ignored.symm
    exact (congrArg Option.toList (if_neg other)).trans (ite_self _).symm
  | intervalometerDeadline =>
    show (if state = leaf then some Mark.expired else none).toList =
      if state = leaf then [.expired] else []
    split <;> rfl
  | _ => exact (ite_self _).symm

/-- An event that nobody minds leaves the machine where it is. -/
theorem process_ignored (ignored : leaf.ignores event = true) (scope : Scope State Memory) :
    (chart.process (leaf, scope) event).1 = leaf ∧
      Changes scope scope.memory scope.timers (noted event)
        (chart.process (leaf, scope) event).2 := by
  -- The current state is asked first, and its being asked is what is noted.
  refine Chart.process_induction shallow
    (fun cursor asked => Changes scope scope.memory scope.timers
      (if cursor = some leaf then [] else noted event) asked)
    (fun run => run.1 = leaf ∧
      Changes scope scope.memory scope.timers (noted event) run.2) ?_ ?_ ?_
  · intro state asked member before
    have minds := State.minds_of_ignores ignored member
    have told : Changes scope scope.memory scope.timers (noted event)
        (asked.record (.asked leaf state (.event event))) := by
      have recorded := before.record (.asked leaf state (.event event))
      rw [show mark? _ = markOf leaf state event from rfl, markOf_ignored minds] at recorded
      by_cases same : state = leaf <;> simpa [same] using recorded
    have above : chart.parent state ≠ some leaf := by
      revert member
      cases leaf <;> cases state <;> decide
    unfold Chart.ask
    rcases handle_ignored minds (asked.record (.asked leaf state (.event event))) with
      passed | answered
    · rw [passed]
      show Changes _ _ _ (if chart.parent state = some leaf then [] else noted event) _
      rw [if_neg above]
      exact told
    · rw [answered]
      have reported := report_changes (asked.record (.asked leaf state (.event event)))
      rw [told.memory, told.timers] at reported
      exact ⟨rfl, by simpa using told.trans reported⟩
  · intro asked before
    have warned : Changes scope scope.memory scope.timers (noted event ++ [])
        (asked.warn .unhandled) := before.record (.warned .unhandled)
    rw [List.append_nil] at warned
    exact ⟨rfl, warned⟩
  · rw [if_pos rfl]
    exact .update scope id

end Ignored

section Heeded

variable (scope : Scope State Memory) {event : Event}

theorem noteExpiry_changes :
    Changes scope scope.memory.lapsed scope.timers [] (noteExpiry scope) :=
  ⟨rfl, rfl, (List.append_nil _).symm⟩

/-- A request to stop passes the current state and ends the sequence. -/
theorem turned_stop {leaf : State} (inside : leaf.isInside = true) (rests : leaf.Rests) :
    Turned scope leaf .stopMode (chart.process (leaf, scope) .stopMode) := by
  have stopped := Changes.of_record scope (.asked leaf leaf (.event .stopMode))
    (Changes.of_record _ (.asked leaf .running (.event .stopMode)) (into_ready _ inside rests))
  cases leaf with
  | super => exact absurd rfl rests.1
  | running => exact absurd rfl rests.2
  | ready => cases inside
  | _ => exact .stop inside stopped

/-- A capture that is done is counted, and what comes next depends on the count and the clock. -/
theorem turned_captureDone (downloaded : Bool) (file : String) :
    Turned scope .capturing (.captureDone downloaded file)
      (chart.process (.capturing, scope) (.captureDone downloaded file)) := by
  have rests : State.Rests .capturing := by decide
  let asked := scope.record (.asked .capturing .capturing (.event (.captureDone downloaded file)))
  have counted := Changes.of_record scope _ (.update asked Memory.counted)
  show Turned scope .capturing _
    (chart.transition .capturing (afterCapture scope.memory.counted) (update asked Memory.counted))
  cases complete : scope.memory.counted.isComplete with
  | true =>
    rw [show afterCapture scope.memory.counted = .ready by simp [afterCapture, complete]]
    exact .finish complete (counted.trans (into_ready _ rfl rests))
  | false =>
    cases due : scope.memory.counted.isDue with
    | true =>
      rw [show afterCapture scope.memory.counted = .capturing by
        simp [afterCapture, complete, due]]
      exact .again complete due (counted.trans (into_capturing _ rests))
    | false =>
      rw [show afterCapture scope.memory.counted = .waiting by
        simp [afterCapture, complete, due]]
      exact .pause complete due (counted.trans (into_idle _ rfl rests (Or.inl rfl)))

theorem turned_ready (heeded : State.ignores .ready event = false) :
    Turned scope .ready event (chart.process (.ready, scope) event) := by
  have rests : State.Rests .ready := by decide
  cases event with
  | intervalometerStart interval total =>
    have told := Changes.update
      (scope.record (.asked .ready .ready (.event (.intervalometerStart interval total))))
      fun memory => memory.asked interval total
    exact .begin (.of_record scope _ (told.trans (into_capturing _ rests)))
  | _ => cases heeded

theorem turned_capturing (heeded : State.ignores .capturing event = false) :
    Turned scope .capturing event (chart.process (.capturing, scope) event) := by
  have rests : State.Rests .capturing := by decide
  cases event with
  | stopMode => exact turned_stop scope rfl rests
  | captureDone downloaded file => exact turned_captureDone scope downloaded file
  | intervalometerDeadline =>
    exact .note (Or.inl rfl)
      (.of_record scope (.asked .capturing .capturing (.event .intervalometerDeadline))
        (noteExpiry_changes _))
  | cameraError =>
    have parked := Changes.update
      (scope.record (.asked .capturing .capturing (.event .cameraError)))
      fun memory => { memory with resume := .capturing }
    exact .park (Or.inl rfl)
      (.of_record scope _ (parked.trans (into_idle _ rfl rests (Or.inr rfl))))
  | _ => cases heeded

theorem turned_waiting (heeded : State.ignores .waiting event = false) :
    Turned scope .waiting event (chart.process (.waiting, scope) event) := by
  have rests : State.Rests .waiting := by decide
  cases event with
  | stopMode => exact turned_stop scope rfl rests
  | intervalometerDeadline =>
    have forgotten := Changes.update
      (scope.record (.asked .waiting .waiting (.event .intervalometerDeadline)))
      fun memory => { memory with deadline := none }
    exact .next (.of_record scope _ (forgotten.trans (into_capturing _ rests)))
  | cameraError =>
    have parked := Changes.update
      (scope.record (.asked .waiting .waiting (.event .cameraError)))
      fun memory => { memory with resume := .waiting }
    exact .park (Or.inr rfl)
      (.of_record scope _ (parked.trans (into_idle _ rfl rests (Or.inr rfl))))
  | _ => cases heeded

theorem turned_error (resumable : scope.memory.Resumable)
    (heeded : State.ignores .error event = false) :
    Turned scope .error event (chart.process (.error, scope) event) := by
  have rests : State.Rests .error := by decide
  cases event with
  | stopMode => exact turned_stop scope rfl rests
  | intervalometerDeadline =>
    exact .note (Or.inr rfl)
      (.of_record scope (.asked .error .error (.event .intervalometerDeadline))
        (noteExpiry_changes _))
  | cameraConnected =>
    let asked := scope.record (.asked .error .error (.event .cameraConnected))
    show Turned scope .error _ (chart.transition .error
      (if scope.memory.expired then .capturing else scope.memory.resume) asked)
    have retried := Changes.of_record scope _ (into_capturing asked rests)
    cases expired : scope.memory.expired with
    | true => exact .retry (Or.inl expired) retried
    | false =>
      rcases resumable with capturing | waiting
      · rw [capturing]
        exact .retry (Or.inr capturing) retried
      · rw [waiting]
        exact .rejoin expired waiting
          (.of_record scope _ (into_idle asked rfl rests (Or.inl rfl)))
  | _ => cases heeded

end Heeded

/-- Every event leads to one of the turns. -/
theorem turned_process {leaf : State} (rests : leaf.Rests) (event : Event)
    {scope : Scope State Memory} (resumable : scope.memory.Resumable) :
    Turned scope leaf event (chart.process (leaf, scope) event) := by
  cases ignored : leaf.ignores event with
  | true =>
    obtain ⟨same, changes⟩ := process_ignored ignored scope
    cases found : chart.process (leaf, scope) event with
    | mk later after =>
      rw [found] at same changes
      subst same
      exact .stay ignored changes
  | false =>
    cases leaf with
    | super => exact absurd rfl rests.1
    | running => exact absurd rfl rests.2
    | ready => exact turned_ready scope ignored
    | capturing => exact turned_capturing scope ignored
    | waiting => exact turned_waiting scope ignored
    | error => exact turned_error scope resumable ignored

/-- The memory of a machine in which it processes events. -/
def readied (machine : Machine State Memory) : Memory :=
  if machine.started then machine.memory else { machine.memory with status := .ready }

/-- A machine that is started enters `Ready`, and reports it. -/
theorem startRun_changes {machine : Machine State Memory} (placed : Placed machine)
    (timers : Timers) (now : Nat) :
    (chart.startRun machine timers now).1 = base machine ∧
      (chart.startRun machine timers now).2.now = now ∧
      Changes (machine.scope timers now) (readied machine) timers []
        (chart.startRun machine timers now).2 := by
  refine ⟨(startRun_eq placed timers now).2, ?_⟩
  unfold Chart.startRun readied
  split
  · exact ⟨rfl, .update (machine.scope timers now) id⟩
  · have entered (asked : Scope State Memory) :=
      ((Changes.of_record asked (.asked .super .ready .entry)
        (enterLeaf_changes _ .ready)).record (.asked .ready .ready .init))
    rw [Chart.replayHeld_eq_self (by exact placed.replay)]
    exact ⟨rfl, .of_record _ (.asked .super .super .entry)
      (.of_record _ (.asked .super .super .init) (entered _))⟩

/-- What the turn of an order comes down to: the start, if it is due, and one of the turns. -/
theorem turned_obey {machine : Machine State Memory} (placed : Placed machine) (timers : Timers)
    (now : Nat) (order : Order) :
    ∃ (scope : Scope State Memory) (run : State × Scope State Memory),
      scope.now = now ∧ Changes (machine.scope timers now) (readied machine) timers [] scope ∧
        chart.obey machine timers now order = Machine.turn run ∧
        match order with
        | .start => run = (base machine, scope)
        | .dispatch event => Turned scope (base machine) event run := by
  obtain ⟨based, clock, begun⟩ := startRun_changes placed timers now
  cases order with
  | start => exact ⟨_, _, clock, begun, rfl, Prod.ext based rfl⟩
  | dispatch event =>
    have resumable : (chart.startRun machine timers now).2.memory.Resumable :=
      (startRun_eq placed timers now).1.resumable placed.resumable
    have rests := base_rests placed
    have outcome := process_outcome rests event resumable
    have run : (base machine, (chart.startRun machine timers now).2) =
        chart.startRun machine timers now := Prod.ext based.symm rfl
    have idle : (chart.process (chart.startRun machine timers now) event).2.replay = false := by
      rw [← run]
      exact (outcome.speaks.tells.replay.trans
        (startRun_eq placed timers now).1.tells.replay).trans placed.replay
    refine ⟨_, _, clock, begun, congrArg Machine.turn (Chart.replayHeld_eq_self idle _), ?_⟩
    rw [← run]
    exact turned_process rests event resumable

end Intervalometer

end Tether
