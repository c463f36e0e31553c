import Mathlib.Algebra.Ring.Nat
import Mathlib.Data.List.Induction
import Tether.Proofs.Intervalometer.Turn
import Tether.Proofs.Statechart.History

/-!
# The pace of a sequence

A sequence that is not disturbed by a camera error asks for one capture after the other: the next
one only once the last one was counted, and with an interval only once that is over. It ends when
the captures are complete, or when it is stopped, and its end is reported once.

All of this is read off the marks that a sequence leaves in the journal. They are those behind the
last request that was taken (`Tracks`); what is known of them depends on the state (`Phase`), and
every turn adds a few of them (`Tracks.turned`).
-/

namespace Tether

namespace Intervalometer

/-! ## Gaps -/

/-- Between two commands to the camera one capture was counted, and the interval, if there is one,
came to its end. -/
def Spaced (interval : Int32) (between : List Mark) : Prop :=
  between.count .counted = 1 ∧ (0 < interval → .expired ∈ between)

/-- Whether all commands to the camera are spaced. -/
def Paced (interval : Int32) (course : List Mark) : Prop :=
  ∀ before between rest, course = before ++ .shot :: (between ++ .shot :: rest) →
    .shot ∉ between → Spaced interval between

section Gaps

variable {α : Type} {mark : α} {front since before between : List α}

/-- What is behind the last occurrence of a mark. -/
theorem since_eq (same : front ++ mark :: since = before ++ mark :: between)
    (last : mark ∉ since) (lastToo : mark ∉ between) : since = between := by
  rcases List.append_eq_append_iff.mp same with ⟨more, -, rest⟩ | ⟨more, -, rest⟩
  · cases more with
    | nil => exact (List.cons.inj rest).2
    | cons first others =>
      have within : since = others ++ mark :: between := (List.cons.inj rest).2
      exact absurd (by simp [within]) last
  · cases more with
    | nil => exact (List.cons.inj rest).2.symm
    | cons first others =>
      have within : between = others ++ mark :: since := (List.cons.inj rest).2
      exact absurd (by simp [within]) lastToo

end Gaps

section Paced

variable {interval : Int32} {course added : List Mark}

theorem paced_single : Paced interval [.shot] := by
  intro before between rest split
  have length := congrArg List.length split
  simp at length
  omega

/-- Marks without a command do not change the gaps. -/
theorem Paced.append (paced : Paced interval course) (quiet : .shot ∉ added) :
    Paced interval (course ++ added) := by
  intro before between rest split
  have joined : course ++ added = (before ++ .shot :: between) ++ .shot :: rest := by
    simpa using split
  rcases List.append_eq_append_iff.mp joined with ⟨more, -, inAdded⟩ |
    ⟨more, inCourse, atEnd⟩
  · exact absurd (by simp [inAdded]) quiet
  · cases more with
    | nil => exact absurd (by simp [show added = _ from atEnd.symm]) quiet
    | cons first others =>
      obtain ⟨rfl, -⟩ := List.cons.inj atEnd
      exact paced before between others (by simpa using inCourse)

/-- The next command closes a gap. -/
theorem Paced.shot {front since : List Mark} (paced : Paced interval course)
    (split : course = front ++ .shot :: since) (last : .shot ∉ since)
    (spaced : Spaced interval since) : Paced interval (course ++ [.shot]) := by
  intro before between rest closed first
  rcases List.eq_nil_or_concat rest with rfl | ⟨others, mark, rfl⟩
  · have joined : course ++ [.shot] = (before ++ .shot :: between) ++ [.shot] := by
      simpa using closed
    have same := split.symm.trans (List.append_cancel_right joined)
    rw [← since_eq same last first]
    exact spaced
  · have joined : course ++ [.shot] =
        (before ++ .shot :: (between ++ .shot :: others)) ++ [mark] := by
      simpa using closed
    exact paced before between others (List.append_inj' joined rfl).1 first

end Paced

/-! ## Phases -/

/-- What the marks of a sequence have come to in the state that a machine is in. While a capture
goes on, the marks behind the last command hold nothing that was counted; while the interval passes,
they hold one. -/
inductive Phase (total : Int32) (memory : Memory) (course : List Mark) : State → Prop where
  | capturing (front since : List Mark) (going : course.count .ended = 0)
      (shots : course.count .shot = course.count .counted + 1)
      (unfinished : 0 < total → memory.captures < total)
      (split : course = front ++ .shot :: since) (last : .shot ∉ since)
      (uncounted : since.count .counted = 0)
      (lapsed : memory.expired = true → .expired ∈ since) :
      Phase total memory course .capturing
  | waiting (front since : List Mark) (going : course.count .ended = 0)
      (shots : course.count .shot = course.count .counted)
      (unfinished : 0 < total → memory.captures < total)
      (split : course = front ++ .shot :: since) (last : .shot ∉ since)
      (counted : since.count .counted = 1) : Phase total memory course .waiting
  | ready (closed : course.count .ended = 1) (bounded : 0 < total → memory.captures ≤ total)
      (cause : .stopped ∈ course ∨ 0 < total ∧ (course.count .shot : Int) = total.toInt) :
      Phase total memory course .ready

/-- The marks of a sequence with an interval and a total, and the memory. -/
structure Course (interval total : Int32) (leaf : State) (memory : Memory) (course : List Mark) :
    Prop where
  paced : Paced interval course
  phase : Phase total memory course leaf
  counted : memory.captures.toInt = course.count .counted
  interval : memory.interval = interval
  total : memory.total = total

theorem counted_toInt {memory : Memory} {count : Nat} (counted : memory.captures.toInt = count)
    (few : count + 1 < 2 ^ 31) : memory.counted.captures.toInt = (count + 1 : Nat) := by
  have one : (1 : Int32).toInt = 1 := by decide
  show (memory.captures + 1).toInt = _
  rw [Int32.toInt_add, counted, one, Int.bmod_eq_of_le (by omega) (by omega)]
  rfl

theorem isComplete_iff (memory : Memory) :
    memory.isComplete = true ↔ 0 < memory.total ∧ memory.total ≤ memory.captures := by
  simp [Memory.isComplete]

theorem lt_of_incomplete {memory : Memory} (incomplete : memory.isComplete = false)
    (positive : 0 < memory.total) : memory.captures < memory.total := by
  rw [← Int32.not_le]
  intro reached
  rw [(isComplete_iff memory).mpr ⟨positive, reached⟩] at incomplete
  cases incomplete

/-- Before the next capture may follow at once the interval is over, if there is one. -/
theorem expired_of_isDue {memory : Memory} (due : memory.isDue = true)
    (interval : 0 < memory.interval) : memory.expired = true := by
  have late : ¬memory.interval ≤ 0 := by
    rw [Int32.le_iff_toInt_le]
    rw [Int32.lt_iff_toInt_lt] at interval
    omega
  simpa [Memory.isDue, late] using due

namespace Course

variable {interval total : Int32} {memory : Memory} {course : List Mark}

theorem begin (memory : Memory) (interval total : Int32) (id : Nat) :
    Course interval total .capturing ((memory.asked interval total).shooting id) [.shot] where
  paced := paced_single
  phase := .capturing [] [] rfl rfl (fun positive => positive) rfl (by decide) rfl nofun
  counted := Int32.toInt_zero
  interval := rfl
  total := rfl

/-- An interval that ends after the sequence does not matter. -/
theorem late (under : Course interval total .ready memory course) :
    Course interval total .ready memory (course ++ [.expired]) := by
  obtain ⟨paced, phase, counted, rfl, rfl⟩ := under
  cases phase with
  | ready closed bounded cause =>
    refine ⟨paced.append (by decide), .ready (by simp [closed]) bounded ?_, by simp [counted],
      rfl, rfl⟩
    simpa using cause

theorem note (under : Course interval total .capturing memory course) :
    Course interval total .capturing memory.lapsed (course ++ [.expired]) := by
  obtain ⟨paced, phase, counted, rfl, rfl⟩ := under
  cases phase with
  | capturing front since going shots unfinished split last uncounted lapsed =>
    refine ⟨paced.append (by decide), ?_, by simpa [Memory.lapsed] using counted, rfl, rfl⟩
    exact .capturing front (since ++ [.expired]) (by simp [going])
      (by simp [shots]) unfinished (by simp [split]) (by simp [last]) (by simp [uncounted])
      fun _ => by simp

theorem stop {leaf : State} (inside : leaf.isInside = true)
    (under : Course interval total leaf memory course) :
    Course interval total .ready memory.finished (course ++ [.stopped, .ended]) := by
  obtain ⟨paced, phase, counted, rfl, rfl⟩ := under
  have unfinished : course.count .ended = 0 ∧
      (0 < memory.total → memory.captures < memory.total) := by
    cases phase with
    | capturing _ _ going _ unfinished => exact ⟨going, unfinished⟩
    | waiting _ _ going _ unfinished => exact ⟨going, unfinished⟩
    | ready => cases inside
  refine ⟨paced.append (by decide), ?_, by simpa [Memory.finished] using counted, rfl, rfl⟩
  refine .ready (by simp [unfinished.1]) (fun positive => ?_) (Or.inl (by simp))
  exact Int32.le_of_lt (unfinished.2 positive)

section Counted

variable (under : Course interval total .capturing memory course)
  (few : course.count .counted + 1 < 2 ^ 31)

include under few

theorem finish (complete : memory.counted.isComplete = true) :
    Course interval total .ready memory.counted.finished (course ++ [.counted, .ended]) := by
  obtain ⟨paced, phase, counted, rfl, rfl⟩ := under
  have count := counted_toInt counted few
  obtain ⟨positive, reached⟩ := (isComplete_iff memory.counted).mp complete
  cases phase with
  | capturing front since going shots unfinished split last uncounted lapsed =>
    have before := unfinished positive
    rw [Int32.lt_iff_toInt_lt, counted] at before
    rw [Int32.le_iff_toInt_le, count] at reached
    have all : ((course.count .counted + 1 : Nat) : Int) = memory.total.toInt := by
      simp only [Memory.counted] at reached
      omega
    refine ⟨paced.append (by decide), ?_, by simpa [Memory.finished] using count, rfl, rfl⟩
    refine .ready (by simp [going]) (fun _ => ?_) (Or.inr ⟨positive, ?_⟩)
    · rw [Int32.le_iff_toInt_le]
      show memory.counted.captures.toInt ≤ memory.total.toInt
      exact Int.le_of_eq (count.trans all)
    · rw [← all, ← shots]
      simp

theorem again (incomplete : memory.counted.isComplete = false)
    (due : memory.counted.isDue = true) (id : Nat) :
    Course interval total .capturing (memory.counted.shooting id)
      (course ++ [.counted, .shot]) := by
  obtain ⟨paced, phase, counted, rfl, rfl⟩ := under
  have count := counted_toInt counted few
  cases phase with
  | capturing front since going shots unfinished split last uncounted lapsed =>
    have spaced : Spaced memory.interval (since ++ [.counted]) := by
      refine ⟨by simp [uncounted], fun positive => ?_⟩
      simpa using lapsed (expired_of_isDue due positive)
    have quiet : .shot ∉ since ++ [.counted] := by simpa using last
    have grown : course ++ [.counted] = front ++ .shot :: (since ++ [.counted]) := by simp [split]
    have shot := (paced.append (by decide : Mark.shot ∉ [.counted])).shot grown quiet spaced
    refine ⟨by simpa using shot, ?_, by simpa [Memory.shooting] using count, rfl, rfl⟩
    exact .capturing (course ++ [.counted]) [] (by simp [going]) (by simp [shots])
      (lt_of_incomplete incomplete) (by simp) (by decide) rfl nofun

theorem pause (incomplete : memory.counted.isComplete = false) :
    Course interval total .waiting { memory.counted with status := .waiting }
      (course ++ [.counted]) := by
  obtain ⟨paced, phase, counted, rfl, rfl⟩ := under
  have count := counted_toInt counted few
  cases phase with
  | capturing front since going shots unfinished split last uncounted lapsed =>
    refine ⟨paced.append (by decide), ?_, by simpa using count, rfl, rfl⟩
    exact .waiting front (since ++ [.counted]) (by simp [going]) (by simp [shots])
      (lt_of_incomplete incomplete) (by simp [split]) (by simp [last]) (by simp [uncounted])

end Counted

theorem next (under : Course interval total .waiting memory course) (id : Nat) :
    Course interval total .capturing ({ memory with deadline := none }.shooting id)
      (course ++ [.expired, .shot]) := by
  obtain ⟨paced, phase, counted, rfl, rfl⟩ := under
  cases phase with
  | waiting front since going shots unfinished split last one =>
    have spaced : Spaced memory.interval (since ++ [.expired]) :=
      ⟨by simp [one], fun _ => by simp⟩
    have quiet : .shot ∉ since ++ [.expired] := by simpa using last
    have grown : course ++ [.expired] = front ++ .shot :: (since ++ [.expired]) := by simp [split]
    have shot := (paced.append (by decide : Mark.shot ∉ [.expired])).shot grown quiet spaced
    refine ⟨by simpa using shot, ?_, by simpa [Memory.shooting] using counted, rfl, rfl⟩
    exact .capturing (course ++ [.expired]) [] (by simp [going]) (by simp [shots]) unfinished
      (by simp) (by decide) rfl nofun

end Course

/-! ## Runs -/

/-- What is known of the marks behind the last request that was taken. -/
def Tracks (leaf : State) (memory : Memory) (all : List Mark) : Prop :=
  ∀ past interval total course, all = past ++ .begun interval total :: course →
    (∀ interval total, .begun interval total ∉ course) →
      Course interval total leaf memory course

/-- Whether an order reports that a capture is done. -/
def reportsCapture : Order → Bool
  | .dispatch (.captureDone ..) => true
  | _ => false

section Tracks

variable {leaf later : State} {memory after : Memory} {all added : List Mark}

/-- Marks that begin no sequence belong to the last one that was begun. -/
theorem Tracks.append (tracks : Tracks leaf memory all)
    (same : ∀ interval total, .begun interval total ∉ added)
    (step : ∀ interval total course, course.count .counted ≤ all.count .counted →
      Course interval total leaf memory course →
      Course interval total later after (course ++ added)) : Tracks later after (all ++ added) := by
  intro past interval total course split none
  rcases List.append_eq_append_iff.mp split with ⟨more, -, inAdded⟩ | ⟨more, inAll, rest⟩
  · exact absurd (by simp [inAdded]) (same interval total)
  · cases more with
    | nil => exact absurd (by simp [show added = _ from rest.symm]) (same interval total)
    | cons first others =>
      obtain ⟨rfl, rfl⟩ := List.cons.inj rest
      refine step interval total others ?_ ?_
      · simp [inAll]
      · refine tracks past interval total others inAll fun i n member => ?_
        exact none i n (List.mem_append_left _ member)

/-- A request that is taken begins a new sequence. -/
theorem tracks_begin (all : List Mark) (memory : Memory) (interval total : Int32) (id : Nat) :
    Tracks .capturing ((memory.asked interval total).shooting id)
      (all ++ [.begun interval total, .shot]) := by
  intro past i n course split none
  rcases List.append_eq_append_iff.mp split with ⟨more, -, rest⟩ | ⟨more, -, rest⟩
  · cases more with
    | nil =>
      obtain ⟨begun, rfl⟩ := List.cons.inj rest
      cases begun
      exact .begin memory interval total id
    | cons first others =>
      have impossible := (List.cons.inj rest).2
      cases others <;> simp at impossible
  · cases more with
    | nil =>
      obtain ⟨begun, rfl⟩ := List.cons.inj rest
      cases begun
      exact .begin memory interval total id
    | cons first others =>
      exact absurd (by simp [(List.cons.inj rest).2]) (none interval total)

/-- What is known of the marks of a sequence stays known from turn to turn, as long as the camera is
well and the captures can be counted. -/
theorem Tracks.turned {scope : Scope State Memory} {event : Event}
    {run : State × Scope State Memory}
    (tracks : Tracks leaf scope.memory all) (fresh : marks scope.journal = [])
    (well : leaf ≠ .error) (calm : event ≠ .cameraError)
    (few : reportsCapture (.dispatch event) = true → all.count .counted + 1 < 2 ^ 31)
    (turned : Turned scope leaf event run) :
    run.1 ≠ .error ∧ Tracks run.1 run.2.memory (all ++ marks run.2.journal) ∧
      (all ++ marks run.2.journal).count .counted ≤
        all.count .counted + (reportsCapture (.dispatch event)).toNat := by
  cases turned with
  | stay ignored changes =>
    rw [changes.journal, changes.memory, fresh, List.nil_append]
    by_cases expiry : event = .intervalometerDeadline
    · -- Nobody minds the end of an interval in `Ready` alone.
      subst expiry
      refine ⟨well, tracks.append (by simp [noted]) fun i n course _ under => ?_,
        by simp [noted]⟩
      cases under.phase with
      | ready => exact under.late
      | _ => cases ignored
    · simpa [noted, expiry] using ⟨well, tracks⟩
  | begin changes =>
    rw [changes.journal, changes.memory, fresh]
    exact ⟨nofun, tracks_begin all scope.memory _ _ _, by simp⟩
  | stop inside changes =>
    rw [changes.journal, changes.memory, fresh]
    exact ⟨nofun, tracks.append (by simp) fun _ _ _ _ under => under.stop inside, by simp⟩
  | note busy changes =>
    rw [changes.journal, changes.memory, fresh]
    obtain rfl := busy.resolve_right well
    exact ⟨well, tracks.append (by simp) fun _ _ _ _ under => under.note, by simp⟩
  | finish complete changes =>
    rw [changes.journal, changes.memory, fresh]
    have room := few rfl
    refine ⟨nofun, tracks.append (by simp) fun _ _ _ fewer under => ?_,
      by simp [reportsCapture]⟩
    exact under.finish (by omega) complete
  | again incomplete due changes =>
    rw [changes.journal, changes.memory, fresh]
    have room := few rfl
    refine ⟨nofun, tracks.append (by simp) fun _ _ _ fewer under => ?_,
      by simp [reportsCapture]⟩
    exact under.again (by omega) incomplete due _
  | pause incomplete early changes =>
    rw [changes.journal, changes.memory, fresh]
    have room := few rfl
    refine ⟨nofun, tracks.append (by simp) fun _ _ _ fewer under => ?_,
      by simp [reportsCapture]⟩
    exact under.pause (by omega) incomplete
  | next changes =>
    rw [changes.journal, changes.memory, fresh]
    exact ⟨nofun, tracks.append (by simp) fun _ _ _ _ under => under.next _, by simp⟩
  | park => exact absurd rfl calm
  | retry => exact absurd rfl well
  | rejoin => exact absurd rfl well

end Tracks

/-- What holds of a history with at most some reports of captures. -/
structure Observed (history : History State Memory) (reports : Nat) : Prop where
  placed : Placed history.machine
  well : base history.machine ≠ .error
  tracks : Tracks (base history.machine) (readied history.machine) (marks history.journal)
  counted : (marks history.journal).count .counted ≤ reports

theorem observed_new : Observed (.new chart .new) 0 where
  placed := ⟨rfl, fun _ => rfl, nofun, Or.inl rfl⟩
  well := nofun
  tracks := by
    intro past interval total course split
    simp [History.new, marks] at split
  counted := Nat.le_refl 0

theorem Observed.obey {history : History State Memory} {reports : Nat}
    (observed : Observed history reports) (occasion : Occasion)
    (calm : occasion.order ≠ .dispatch .cameraError)
    (few : reports + (reportsCapture occasion.order).toNat < 2 ^ 31) :
    Observed (history.obey chart occasion)
      (reports + (reportsCapture occasion.order).toNat) := by
  obtain ⟨order, timers, now⟩ := occasion
  obtain ⟨scope, run, -, begun, turn, turned⟩ := turned_obey observed.placed timers now order
  have fresh : marks scope.journal = [] := begun.journal
  have placed := (turn_told observed.placed timers now order).1
  rw [turn] at placed
  show Observed ⟨(chart.obey history.machine timers now order).machine,
    history.journal ++ (chart.obey history.machine timers now order).journal⟩ _
  rw [turn]
  -- The turn leaves a machine that has been started.
  suffices ended : run.1 ≠ .error ∧
      Tracks run.1 run.2.memory (marks history.journal ++ marks run.2.journal) ∧
        (marks history.journal ++ marks run.2.journal).count .counted ≤
          reports + (reportsCapture order).toNat by
    obtain ⟨well, tracks, counted⟩ := ended
    rw [← marks_append] at tracks counted
    exact ⟨placed, well, tracks, counted⟩
  have tracks := observed.tracks
  rw [← begun.memory] at tracks
  have counted := observed.counted
  cases order with
  | start =>
    subst turned
    simp only [fresh, List.append_nil]
    exact ⟨observed.well, tracks, Nat.le_add_right_of_le counted⟩
  | dispatch event =>
    have room : reportsCapture (.dispatch event) = true →
        (marks history.journal).count .counted + 1 < 2 ^ 31 := by
      intro captured
      simp only [captured, Bool.toNat_true] at few
      omega
    obtain ⟨well, later, fewer⟩ :=
      tracks.turned fresh observed.well (fun error => calm (error ▸ rfl)) room turned
    exact ⟨well, later, by omega⟩

theorem observed_obeyAll (occasions : List Occasion)
    (calm : ∀ occasion ∈ occasions, occasion.order ≠ .dispatch .cameraError)
    (few : occasions.countP (fun occasion => reportsCapture occasion.order) < 2 ^ 31) :
    Observed (History.obeyAll chart (.new chart .new) occasions)
      (occasions.countP fun occasion => reportsCapture occasion.order) := by
  induction occasions using List.reverseRecOn with
  | nil => exact observed_new
  | append_singleton past occasion ih =>
    have count : (past ++ [occasion]).countP (fun occasion => reportsCapture occasion.order) =
        past.countP (fun occasion => reportsCapture occasion.order) +
          (reportsCapture occasion.order).toNat := by
      cases captured : reportsCapture occasion.order <;> simp [captured]
    rw [count] at few ⊢
    have before := ih (fun earlier member => calm earlier (List.mem_append_left _ member))
      (by omega)
    have after := before.obey occasion (calm occasion (by simp)) few
    simpa [History.obeyAll] using after

/-- What a sequence with an interval and a total has come to: how many commands the camera was given
and how they are spaced, how many captures were counted, and how the sequence ended. -/
structure Accounted (interval total : Int32) (machine : Machine State Memory)
    (course : List Mark) : Prop where
  capturing : machine.leaf = .capturing →
    (course.count .shot : Int) = machine.memory.captures.toInt + 1
  waiting : machine.leaf = .waiting →
    (course.count .shot : Int) = machine.memory.captures.toInt
  counted : (course.count .counted : Int) = machine.memory.captures.toInt
  paced : Paced interval course
  bounded : 0 < total → machine.memory.captures ≤ total
  complete : 0 < total → machine.leaf = .ready → .stopped ∉ course →
    (course.count .shot : Int) = total.toInt
  endless : total ≤ 0 → machine.leaf = .ready → .stopped ∈ course
  ended : course.count .ended = if machine.leaf = .ready then 1 else 0

theorem Course.accounted {interval total : Int32} {machine : Machine State Memory}
    {course : List Mark} (under : Course interval total machine.leaf machine.memory course) :
    Accounted interval total machine course := by
  obtain ⟨paced, phase, counted, -, -⟩ := under
  generalize leaf : machine.leaf = state at phase
  cases phase with
  | capturing front since going shots unfinished split last uncounted lapsed =>
    refine ⟨fun _ => ?_, ?_, counted.symm, paced, fun positive => ?_, ?_, ?_, ?_⟩
    · rw [shots, counted]; rfl
    · simp [leaf]
    · exact Int32.le_of_lt (unfinished positive)
    · simp [leaf]
    · simp [leaf]
    · simp [leaf, going]
  | waiting front since going shots unfinished split last one =>
    refine ⟨?_, fun _ => ?_, counted.symm, paced, fun positive => ?_, ?_, ?_, ?_⟩
    · simp [leaf]
    · rw [shots, counted]
    · exact Int32.le_of_lt (unfinished positive)
    · simp [leaf]
    · simp [leaf]
    · simp [leaf, going]
  | ready closed bounded cause =>
    refine ⟨by simp [leaf], by simp [leaf], counted.symm, paced, bounded, ?_, ?_,
      by simp [leaf, closed]⟩
    · intro _ _ unstopped
      exact (cause.resolve_left unstopped).2
    · intro endless _
      rcases cause with stopped | ⟨positive, -⟩
      · exact stopped
      · exact absurd endless (Int32.not_le.mpr positive)

/-- Whatever events are dispatched, as long as the camera reports no error and fewer captures than
can be counted, the last sequence that was begun is paced and accounted for. Each earlier one was
the last one in a run that ended earlier. -/
theorem accounted_obeyAll (first : Occasion) (occasions : List Occasion)
    (calm : ∀ occasion ∈ first :: occasions, occasion.order ≠ .dispatch .cameraError)
    (few : (first :: occasions).countP (fun occasion => reportsCapture occasion.order) < 2 ^ 31) :
    let history := History.obeyAll chart (.new chart .new) (first :: occasions)
    ∀ past interval total course,
      marks history.journal = past ++ .begun interval total :: course →
      (∀ interval total, .begun interval total ∉ course) →
      Accounted interval total history.machine course := by
  intro history past interval total course split last
  have observed := observed_obeyAll (first :: occasions) calm few
  have started : history.machine.started = true := Chart.started_obeyAll _ first occasions
  have under := observed.tracks past interval total course split last
  have leaf : base history.machine = history.machine.leaf := if_pos started
  have memory : readied history.machine = history.machine.memory := if_pos started
  refine Course.accounted ?_
  rw [← leaf, ← memory]
  exact under

/-- Two captures a minute apart. -/
def twoCaptures : List Occasion :=
  [.intervalometerStart 60000 2, .captureDone false "", .intervalometerDeadline,
    .captureDone false ""].map fun event => ⟨.dispatch event, .empty, 0⟩

theorem accounted_twoCaptures :
    let history := History.obeyAll chart (.new chart .new) (⟨.start, .empty, 0⟩ :: twoCaptures)
    let course : List Mark := [.shot, .counted, .expired, .shot, .counted, .ended]
    marks history.journal = .begun 60000 2 :: course ∧
      Accounted 60000 2 history.machine course := by
  intro history course
  have split : marks history.journal = .begun 60000 2 :: course := by decide +kernel
  refine ⟨split, accounted_obeyAll ⟨.start, .empty, 0⟩ twoCaptures ?_ (by decide) [] 60000 2
    course split ?_⟩
  · decide
  · intro interval total member
    simp [course] at member

end Intervalometer

end Tether
