import Mathlib.Data.List.Induction
import Tether.Gate
import Tether.Proofs.Statechart.Steps

/-!
# No deferral is lost without notice, and none is repeated

An event may be held back more than once, so a deferral is an event together with its number among
all deferrals of a run. At any moment each deferral is in one place (`Deferrals`): it waits in the
queue, or in the batch of the replay under way, or it has been dispatched again, or it has been
dropped as the oldest of a full queue (`Conserved`). Deferrals are dispatched again in their order.

A replay begins only if a handler has asked for it while events were held back, and only when the
engine is done with everything else; it takes all that waits. The events that it dispatches again
are those of its batch, one after the other, each when the engine is done with the one before
(`Permits`). What is held back meanwhile waits for another replay. An event that is dispatched, for
the first time or again, is put to the states before the engine takes up anything else, and the
states are asked about no other event (`Phase.Allows`).

None of this depends on what handlers do, or on the states of the chart (`deferrals_conserved`).
-/

namespace Tether

variable {S M : Type}

/-! ## Where deferrals are -/

/-- Where the deferrals of a run are, in the order in which they came there. -/
structure Deferrals where
  /-- In the queue of held events. -/
  waiting : List (Event × Nat)
  /-- In the batch of the replay under way, which has still to dispatch them again. -/
  batch : List (Event × Nat)
  /-- Dispatched again. -/
  again : List (Event × Nat)
  /-- Dropped from the full queue. -/
  dropped : List (Event × Nat)
  /-- How many there have been. -/
  count : Nat
deriving DecidableEq

namespace Deferrals

def empty : Deferrals :=
  ⟨[], [], [], [], 0⟩

/-- The deferrals in all places. -/
def all (deferrals : Deferrals) : List (Event × Nat) :=
  deferrals.waiting ++ (deferrals.batch ++ (deferrals.again ++ deferrals.dropped))

/-- The deferrals that have not been dropped, in the order in which they are dispatched again. -/
def sequence (deferrals : Deferrals) : List (Event × Nat) :=
  deferrals.again ++ (deferrals.batch ++ deferrals.waiting)

/-- One more event is held back; the oldest one is dropped if the queue is full. -/
def defer (deferrals : Deferrals) (event : Event) : Deferrals :=
  let waiting := deferrals.waiting ++ [(event, deferrals.count)]
  let surplus := if deferrals.waiting.length < Limits.deferred then 0 else 1
  { deferrals with
    waiting := waiting.drop surplus
    dropped := deferrals.dropped ++ waiting.take surplus
    count := deferrals.count + 1 }

/-- A replay takes what waits as its batch, and dispatches the oldest of the batch first. -/
def step (deferrals : Deferrals) : Step S M → Deferrals
  | .acts (.defer event) => deferrals.defer event
  | .begins => { deferrals with waiting := [], batch := deferrals.waiting }
  | .repeats _ =>
      { deferrals with
        batch := deferrals.batch.drop 1
        again := deferrals.again ++ deferrals.batch.take 1 }
  | _ => deferrals

end Deferrals

/-- The event of a step that holds one back. -/
def Step.deferred? : Step S M → Option Event
  | .acts (.defer event) => some event
  | _ => none

/-- The event of a step that dispatches one again. -/
def Step.repeated? : Step S M → Option Event
  | .repeats event => some event
  | _ => none

/-- Where the deferrals are after some steps. -/
def deferralsOf (steps : List (Step S M)) : Deferrals :=
  steps.foldl Deferrals.step .empty

def phaseOf (steps : List (Step S M)) : Phase :=
  steps.foldl Phase.step .idle

def scopeOf (start : Scope S M) (steps : List (Step S M)) : Scope S M :=
  steps.foldl Step.apply start

/-- Whether a deferral was the oldest of a full queue when another event was held back. -/
def PushedOut (past : List (Step S M)) (deferral : Event × Nat) : Prop :=
  ∃ before event, before ++ [.acts (.defer event)] <+: past ∧
    (deferralsOf before).waiting.head? = some deferral ∧
    (deferralsOf before).waiting.length = Limits.deferred

/-- After some steps, each deferral is in one place. -/
structure Conserved (start : Scope S M) (past : List (Step S M)) : Prop where
  /-- The deferrals that wait are the held events of the machine. -/
  waiting : (deferralsOf past).waiting.map Prod.fst = (scopeOf start past).held.items
  count : (deferralsOf past).count = (past.filterMap Step.deferred?).length
  /-- Each deferral is in one place, and once. -/
  places : (deferralsOf past).all.Perm (past.filterMap Step.deferred?).zipIdx
  /-- The queue, the batch and what has been dispatched again are in the order of deferral. -/
  order : (deferralsOf past).sequence.Pairwise fun earlier later => earlier.2 < later.2
  bounded : (deferralsOf past).waiting.length ≤ Limits.deferred
  /-- The deferrals that have been dispatched again are the events that were. -/
  again : (deferralsOf past).again.map Prod.fst = past.filterMap Step.repeated?
  dropped : ∀ deferral ∈ (deferralsOf past).dropped, PushedOut past deferral

/-- Whether a replay has been asked for since the last one began, while events were held back. -/
def Asked (start : Scope S M) (past : List (Step S M)) : Prop :=
  ∃ before after, past = before ++ .acts .requestReplay :: after ∧
    (scopeOf start before).held.items ≠ [] ∧ .begins ∉ after

/-- Whether a step may come after some others: the engine has to be done with everything else before
a replay begins, and with the whole batch before it takes up anything from outside. -/
structure Permits (start : Scope S M) (past : List (Step S M)) (step : Step S M) : Prop where
  phase : (phaseOf past).Allows step
  batch : match step with
    | .begins => (deferralsOf past).batch = [] ∧ Asked start past
    | .repeats event => ∃ number rest, (deferralsOf past).batch = (event, number) :: rest
    | .wakes .. | .enters | .dispatches _ => (deferralsOf past).batch = []
    | _ => True

/-! ## One more step -/

section Concat

variable {start : Scope S M} {past : List (Step S M)} {step : Step S M}

theorem deferralsOf_concat : deferralsOf (past ++ [step]) = (deferralsOf past).step step :=
  List.foldl_append

theorem phaseOf_concat : phaseOf (past ++ [step]) = (phaseOf past).step step :=
  List.foldl_append

theorem scopeOf_concat : scopeOf start (past ++ [step]) = Step.apply (scopeOf start past) step :=
  List.foldl_append

/-- Only the queue itself knows which events it holds, and it holds those that wait. -/
theorem waiting_step {deferrals : Deferrals} {scope : Scope S M}
    (waits : deferrals.waiting.map Prod.fst = scope.held.items) (step : Step S M) :
    (deferrals.step step).waiting.map Prod.fst = (Step.apply scope step).held.items := by
  cases step with
  | begins => rfl
  | acts action =>
    cases action with
    | defer event =>
      have length : deferrals.waiting.length = scope.held.items.length := by
        rw [← waits, List.length_map]
      have put : (deferrals.waiting ++ [(event, deferrals.count)]).map Prod.fst =
          scope.held.items ++ [event] := by
        rw [List.map_append, waits]
        rfl
      show ((deferrals.defer event).waiting).map Prod.fst = (scope.defer event).held.items
      rw [Scope.defer_held, Deferrals.defer, length]
      split
      · next room => rw [List.drop_zero, put, Mailbox.items_put_of_lt room]
      · next full =>
        have filled : scope.held.items.length = Limits.deferred :=
          Nat.le_antisymm scope.held.length_le (Nat.not_lt.mp full)
        rw [List.map_drop, put, Mailbox.items_put_of_full filled]
    | schedule event topic delay =>
      exact waits.trans (congrArg Mailbox.items (scope.schedule_held event topic delay).symm)
    | _ => exact waits
  | _ => exact waits

/-- A replay that is to come has been asked for. -/
theorem asked_of_replay (idle : start.replay = false) (past : List (Step S M))
    (replay : (scopeOf start past).replay = true) : Asked start past := by
  induction past using List.reverseRecOn with
  | nil => cases idle.symm.trans replay
  | append_singleton past step ih =>
    -- What was asked for before is asked for still unless the replay has begun.
    have lasting (same : (scopeOf start past).replay = true) (other : step ≠ .begins) :
        Asked start (past ++ [step]) := by
      obtain ⟨before, after, rfl, held, none⟩ := ih same
      refine ⟨before, after ++ [step], by simp, held, fun member => ?_⟩
      rcases List.mem_append.mp member with earlier | last
      · exact none earlier
      · exact other (List.mem_singleton.mp last).symm
    rw [scopeOf_concat] at replay
    cases step with
    | begins => cases replay
    | acts action =>
      cases action with
      | requestReplay =>
        cases before : (scopeOf start past).replay with
        | true => exact lasting before nofun
        | false =>
          refine ⟨past, [], rfl, fun none => ?_, nofun⟩
          have holding : (false || !(scopeOf start past).held.items.isEmpty) = true :=
            before ▸ replay
          rw [none] at holding
          cases holding
      | defer event =>
        exact lasting ((Scope.defer_replay (scopeOf start past) event).symm.trans replay) nofun
      | schedule event topic delay =>
        exact lasting
          (((scopeOf start past).schedule_replay event topic delay).symm.trans replay) nofun
      | _ => exact lasting replay nofun
    | _ => exact lasting replay nofun

end Concat

/-! ## Every deferral in one place -/

namespace Deferrals

variable {deferrals : Deferrals}

/-- A deferral is put behind the others, and the oldest one is dropped at most. -/
theorem all_defer (event : Event) :
    (deferrals.defer event).all.Perm (deferrals.all ++ [(event, deferrals.count)]) := by
  refine List.perm_iff_count.mpr fun deferral => ?_
  have parts (surplus : Nat) := congrArg (List.count deferral)
    (List.take_append_drop surplus (deferrals.waiting ++ [(event, deferrals.count)]))
  simp only [all, defer, List.count_append] at parts ⊢
  have split := parts (if deferrals.waiting.length < Limits.deferred then 0 else 1)
  omega

theorem sequence_defer (event : Event) :
    (deferrals.defer event).sequence.Sublist
      (deferrals.sequence ++ [(event, deferrals.count)]) := by
  simp only [sequence, defer, List.append_assoc]
  refine (List.Sublist.refl _).append ((List.Sublist.refl _).append ?_)
  exact List.drop_sublist _ _

theorem dropped_defer {event : Event} {deferral : Event × Nat}
    (member : deferral ∈ (deferrals.defer event).dropped) :
    deferral ∈ deferrals.dropped ∨
      deferrals.waiting.head? = some deferral ∧ Limits.deferred ≤ deferrals.waiting.length := by
  refine (List.mem_append.mp member).imp_right fun surplus => ?_
  split at surplus
  · cases surplus
  · next full =>
    have full := Nat.not_lt.mp full
    cases waiting : deferrals.waiting with
    | nil =>
      rw [waiting] at full
      exact absurd full (by decide)
    | cons oldest rest =>
      rw [waiting] at surplus full
      exact ⟨congrArg some (List.mem_singleton.mp surplus).symm, full⟩

end Deferrals

namespace Conserved

variable {start : Scope S M} {past : List (Step S M)} {step : Step S M}

theorem bounded_of_waiting {deferrals : Deferrals} {scope : Scope S M}
    (waits : deferrals.waiting.map Prod.fst = scope.held.items) :
    deferrals.waiting.length ≤ Limits.deferred := by
  rw [← List.length_map Prod.fst, waits]
  exact scope.held.length_le

/-- What has been pushed out was so for good. -/
theorem dropped_concat (conserved : Conserved start past) (step : Step S M) :
    ∀ deferral ∈ (deferralsOf past).dropped, PushedOut (past ++ [step]) deferral := by
  intro deferral member
  obtain ⟨before, event, inside, oldest, full⟩ := conserved.dropped deferral member
  exact ⟨before, event, inside.trans (List.prefix_append _ _), oldest, full⟩

/-- A step that holds no event back moves deferrals from one place to another, if at all. -/
theorem moves (conserved : Conserved start past) (none : step.deferred? = none)
    (count : ((deferralsOf past).step step).count = (deferralsOf past).count)
    (all : ((deferralsOf past).step step).all.Perm (deferralsOf past).all)
    (sequence : ((deferralsOf past).step step).sequence = (deferralsOf past).sequence)
    (dropped : ((deferralsOf past).step step).dropped = (deferralsOf past).dropped)
    (again : ((deferralsOf past).step step).again.map Prod.fst =
      (deferralsOf past).again.map Prod.fst ++ [step].filterMap Step.repeated?) :
    Conserved start (past ++ [step]) := by
  have waits := waiting_step conserved.waiting step
  have events : (past ++ [step]).filterMap Step.deferred? = past.filterMap Step.deferred? := by
    rw [List.filterMap_append, List.filterMap_cons_none none]
    exact List.append_nil _
  constructor <;> rw [deferralsOf_concat]
  · rw [waits, scopeOf_concat]
  · rw [events, count, conserved.count]
  · rw [events]
    exact all.trans conserved.places
  · rw [sequence]
    exact conserved.order
  · exact bounded_of_waiting waits
  · rw [again, conserved.again, List.filterMap_append]
  · rw [dropped]
    exact conserved.dropped_concat step

/-- The number of a deferral tells how many there were before. -/
theorem number_lt (conserved : Conserved start past) {deferral : Event × Nat}
    (member : deferral ∈ (deferralsOf past).sequence) :
    deferral.2 < (deferralsOf past).count := by
  have placed : deferral ∈ (past.filterMap Step.deferred?).zipIdx := by
    refine conserved.places.mem_iff.mp ?_
    simp only [Deferrals.sequence, Deferrals.all, List.mem_append] at member ⊢
    tauto
  rw [conserved.count]
  exact List.snd_lt_of_mem_zipIdx placed

theorem defer (conserved : Conserved start past) (event : Event) :
    Conserved start (past ++ [.acts (.defer event)]) := by
  have waits := waiting_step conserved.waiting (.acts (.defer event))
  have deferrals : (deferralsOf past).step (.acts (.defer event) : Step S M) =
      (deferralsOf past).defer event := rfl
  have events : (past ++ [Step.acts (Action.defer event)]).filterMap Step.deferred? =
      past.filterMap Step.deferred? ++ [event] := List.filterMap_append
  constructor <;> rw [deferralsOf_concat]
  · rw [waits, scopeOf_concat]
  · rw [deferrals, events, List.length_append, ← conserved.count]
    rfl
  · rw [deferrals, events, List.zipIdx_append, Nat.zero_add, ← conserved.count]
    exact ((deferralsOf past).all_defer event).trans (conserved.places.append_right _)
  · rw [deferrals]
    refine (List.pairwise_append.mpr ⟨conserved.order, List.pairwise_singleton _ _, ?_⟩).sublist
      ((deferralsOf past).sequence_defer event)
    intro earlier member later last
    rw [List.mem_singleton.mp last]
    exact conserved.number_lt member
  · exact bounded_of_waiting waits
  · rw [List.filterMap_append]
    exact conserved.again.trans (List.append_nil _).symm
  · intro deferral member
    rcases Deferrals.dropped_defer member with earlier | ⟨oldest, full⟩
    · exact conserved.dropped_concat _ deferral earlier
    · exact ⟨past, event, List.prefix_rfl, oldest, Nat.le_antisymm conserved.bounded full⟩

/-- Whatever comes next, if it is permitted. -/
theorem concat (conserved : Conserved start past) (permits : Permits start past step) :
    Conserved start (past ++ [step]) := by
  cases step with
  | begins =>
    obtain ⟨-, empty, -⟩ := permits
    refine conserved.moves rfl rfl ?_ ?_ rfl (List.append_nil _).symm
    · simp only [Deferrals.step, Deferrals.all, empty, List.nil_append]
      exact List.Perm.refl _
    · simp only [Deferrals.step, Deferrals.sequence, empty, List.nil_append, List.append_nil]
  | repeats event =>
    obtain ⟨-, number, rest, batch⟩ := permits
    refine conserved.moves rfl rfl ?_ ?_ rfl ?_
    · refine List.perm_iff_count.mpr fun deferral => ?_
      simp only [Deferrals.step, Deferrals.all, batch, List.count_append, List.drop_succ_cons,
        List.drop_zero, List.take_succ_cons, List.take_zero, List.count_cons, List.count_nil]
      omega
    · simp only [Deferrals.step, Deferrals.sequence, batch, List.append_assoc]
      rfl
    · simp only [Deferrals.step, batch, List.map_append]
      rfl
  | acts action =>
    cases action with
    | defer event => exact conserved.defer event
    | _ => exact conserved.moves rfl rfl (.refl _) rfl rfl (List.append_nil _).symm
  | _ => exact conserved.moves rfl rfl (.refl _) rfl rfl (List.append_nil _).symm

end Conserved

/-! ## Runs -/

/-- Some steps are permitted, one after the other, after those of the past. -/
def Lawful (start : Scope S M) : List (Step S M) → List (Step S M) → Prop
  | _, [] => True
  | past, step :: rest => Permits start past step ∧ Lawful start (past ++ [step]) rest

/-- After some steps the engine is about nothing but to dispatch some events again. -/
structure Rests (start : Scope S M) (past : List (Step S M)) (scope : Scope S M)
    (events : List Event) : Prop where
  scope : scopeOf start past = scope
  phase : phaseOf past = .idle
  batch : (deferralsOf past).batch.map Prod.fst = events

/-- Some steps are permitted after those of the past and belong to the same order, and then the
engine rests. -/
structure Runs (start : Scope S M) (past steps : List (Step S M)) (scope : Scope S M)
    (events : List Event) : Prop extends Rests start (past ++ steps) scope events where
  lawful : Lawful start past steps
  same : ∀ step ∈ steps, step.isWaking = false

/-- The engine rests after some steps, and a machine is as they have left it. -/
structure Leaves (start : Scope S M) (past : List (Step S M)) (machine : Machine S M) : Prop
    extends Rests start past (scopeOf start past) [] where
  memory : (scopeOf start past).memory = machine.memory
  held : (scopeOf start past).held = machine.held
  replay : (scopeOf start past).replay = machine.replay

section Lawful

variable {start : Scope S M} {past steps more : List (Step S M)} {step : Step S M}

theorem Lawful.append (lawful : Lawful start past steps)
    (later : Lawful start (past ++ steps) more) : Lawful start past (steps ++ more) := by
  induction steps generalizing past with
  | nil => rwa [List.append_nil] at later
  | cons step rest ih =>
    refine ⟨lawful.1, ih lawful.2 ?_⟩
    rwa [List.append_assoc]

theorem Lawful.permits (lawful : Lawful start past steps) {earlier : List (Step S M)}
    (inside : earlier ++ [step] <+: steps) : Permits start (past ++ earlier) step := by
  obtain ⟨rest, rfl⟩ := inside
  induction earlier generalizing past with
  | nil =>
    rw [List.append_nil]
    exact lawful.1
  | cons first earlier ih =>
    have permitted := ih lawful.2
    rwa [List.append_assoc] at permitted

/-- At any moment of a lawful run each deferral is in one place. -/
theorem Lawful.conserved (lawful : Lawful start [] steps) (empty : start.held = .empty)
    (inside : past <+: steps) : Conserved start past := by
  induction past using List.reverseRecOn with
  | nil =>
    refine ⟨?_, rfl, .refl _, .nil, Nat.zero_le _, rfl, fun _ => nofun⟩
    exact (congrArg Mailbox.items empty).symm
  | append_singleton past step ih =>
    exact (ih ((List.prefix_append _ _).trans inside)).concat (lawful.permits inside)

/-- The deferrals that wait are the events that the queue holds. -/
theorem waiting_eq (empty : start.held = .empty) (past : List (Step S M)) :
    (deferralsOf past).waiting.map Prod.fst = (scopeOf start past).held.items := by
  induction past using List.reverseRecOn with
  | nil => exact (congrArg Mailbox.items empty).symm
  | append_singleton past step ih =>
    rw [deferralsOf_concat, scopeOf_concat]
    exact waiting_step ih step

/-- What an event brings about may go on during a replay, and moves no deferral out of the batch. -/
theorem lawful_of_inner (inner : ∀ step ∈ steps, step.isInner)
    (allowed : (phaseOf past).AllowsAll steps) :
    Lawful start past steps ∧
      (deferralsOf (past ++ steps)).batch = (deferralsOf past).batch := by
  induction steps generalizing past with
  | nil => exact ⟨trivial, by rw [List.append_nil]⟩
  | cons step rest ih =>
    obtain ⟨now, later⟩ := List.forall_mem_cons.mp inner
    obtain ⟨first, others⟩ := allowed
    rw [← phaseOf_concat] at others
    obtain ⟨lawful, same⟩ := ih later others
    have permits : Permits start past step ∧
        ((deferralsOf past).step step).batch = (deferralsOf past).batch := by
      cases step with
      | acts action => cases action <;> exact ⟨⟨first, trivial⟩, rfl⟩
      | asks | answers | warns => exact ⟨⟨first, trivial⟩, rfl⟩
      | wakes | enters | dispatches | begins | repeats => cases now
    rw [deferralsOf_concat, permits.2, List.append_assoc] at same
    exact ⟨⟨permits.1, lawful⟩, same⟩

variable {before middle after : Scope S M} {phase : Phase} {events others : List Event}

theorem Runs.nil (rests : Rests start past before events) : Runs start past [] before events :=
  ⟨by rwa [List.append_nil], trivial, List.forall_mem_nil _⟩

theorem Runs.append (early : Runs start past steps middle events)
    (late : Runs start (past ++ steps) more after others) :
    Runs start past (steps ++ more) after others :=
  ⟨by rw [← List.append_assoc]; exact late.toRests, early.lawful.append late.lawful,
    List.forall_mem_append.mpr ⟨early.same, late.same⟩⟩

theorem Runs.cons (permits : Permits start past step) (same : step.isWaking = false)
    (later : Runs start (past ++ [step]) steps after events) :
    Runs start past (step :: steps) after events := by
  have rests := later.toRests
  rw [List.append_assoc] at rests
  exact ⟨rests, ⟨permits, later.lawful⟩, List.forall_mem_cons.mpr ⟨same, later.same⟩⟩

/-- A step that is permitted is followed by all that it brings about. -/
theorem runs_of_leads (step : Step S M) (permits : Permits start past step)
    (same : step.isWaking = false) (scope : Step.apply (scopeOf start past) step = before)
    (started : (phaseOf past).step step = phase)
    (leads : Leads steps before phase after .idle) :
    Runs start past (step :: steps) after
      (((deferralsOf past).step step).batch.map Prod.fst) := by
  have begun : phaseOf (past ++ [step]) = phase := phaseOf_concat.trans started
  obtain ⟨lawful, batch⟩ := @lawful_of_inner _ _ start (past ++ [step]) steps leads.inner
    (begun ▸ leads.allowed)
  rw [deferralsOf_concat] at batch
  have parts : past ++ step :: steps = (past ++ [step]) ++ steps := by
    rw [List.append_assoc, List.singleton_append]
  have quiet := fun next member => Step.isWaking_of_isInner (leads.inner next member)
  refine ⟨⟨?_, ?_, ?_⟩, ⟨permits, lawful⟩, List.forall_mem_cons.mpr ⟨same, quiet⟩⟩
  · have reached : scopeOf start (past ++ [step] ++ steps) =
        steps.foldl Step.apply (scopeOf start (past ++ [step])) := List.foldl_append
    rw [parts, reached, scopeOf_concat, scope, leads.scope]
  · have reached : phaseOf (past ++ [step] ++ steps) =
        steps.foldl Phase.step (phaseOf (past ++ [step])) := List.foldl_append
    rw [parts, reached, begun, leads.phase]
  · rw [parts, batch]

theorem Leaves.of_rests {run : S × Scope S M} (rests : Rests start past run.2 []) :
    Leaves start past (Machine.turn run).machine := by
  obtain ⟨scope, phase, batch⟩ := rests
  exact ⟨⟨rfl, phase, batch⟩, by rw [scope]; rfl, by rw [scope]; rfl, by rw [scope]; rfl⟩

/-- An order is given and obeyed. -/
theorem Runs.turn {timers : Timers} {now : Nat} {run : S × Scope S M}
    (permits : Permits start past (.wakes timers now))
    (runs : Runs start (past ++ [.wakes timers now]) steps run.2 []) :
    Lawful start past (.wakes timers now :: steps) ∧
      Leaves start (past ++ .wakes timers now :: steps) (Machine.turn run).machine ∧
      (Machine.turn run).journal.filter Effect.isAsked =
        (.wakes timers now :: steps).filterMap Step.asked? := by
  have rests := runs.toRests
  have reached : run.2 = steps.foldl Step.apply (scopeOf start (past ++ [.wakes timers now])) :=
    rests.scope.symm.trans List.foldl_append
  rw [List.append_assoc] at rests
  refine ⟨⟨permits, runs.lawful⟩, .of_rests rests, ?_⟩
  have askings := Step.askings_foldl (scopeOf start (past ++ [.wakes timers now])) runs.same
  rw [← reached, scopeOf_concat] at askings
  exact askings

end Lawful

/-! ## The runs of the engine -/

namespace Chart.Account

variable [DecidableEq S] {chart : Chart S M} (account : chart.Account) {start : Scope S M}
  {past : List (Step S M)}

/-- The events of a batch are dispatched again one after the other. -/
theorem runs_repeating (events : List Event) (run : S × Scope S M)
    (rests : Rests start past run.2 events) :
    Runs start past (account.repeating events run) (events.foldl chart.process run).2 [] := by
  induction events generalizing past run with
  | nil => exact .nil rests
  | cons event rest ih =>
    obtain ⟨scope, phase, batch⟩ := rests
    obtain ⟨⟨next, number⟩, others, found, rfl, same⟩ := List.map_eq_cons_iff.mp batch
    have permits : Permits start past (.repeats next) := ⟨phase, number, others, found⟩
    have first := runs_of_leads (.repeats next) permits rfl scope rfl
      (account.leads_processing run next)
    have left : ((deferralsOf past).step (.repeats next : Step S M)).batch.map Prod.fst = rest := by
      rw [← same, Deferrals.step, found]
      rfl
    rw [left] at first
    exact first.append (ih _ first.toRests)

/-- A replay takes all that waits, and the next one what has been held back meanwhile. -/
theorem runs_replaying (empty : start.held = .empty) (idle : start.replay = false) (rounds : Nat)
    (run : S × Scope S M) (rests : Rests start past run.2 []) :
    Runs start past (account.replaying rounds run) (chart.replayHeld rounds run).2 [] := by
  induction rounds generalizing past run with
  | zero => exact .nil rests
  | succ rounds ih =>
    obtain ⟨leaf, scope⟩ := run
    unfold replaying replayHeld
    split
    · next replay =>
      obtain ⟨reached, phase, batch⟩ := rests
      have permits : Permits start past .begins :=
        ⟨phase, List.map_eq_nil_iff.mp batch, asked_of_replay idle past (reached ▸ replay)⟩
      have begun : Rests start (past ++ [.begins])
          { scope with replay := false, held := .empty } scope.held.items := by
        refine ⟨?_, ?_, ?_⟩
        · rw [scopeOf_concat, reached]
          rfl
        · rw [phaseOf_concat]
          exact phase
        · rw [deferralsOf_concat]
          exact (waiting_eq empty past).trans (congrArg (·.held.items) reached)
      have first := account.runs_repeating scope.held.items
        (leaf, { scope with replay := false, held := .empty }) begun
      exact .cons permits rfl (first.append (ih _ first.toRests))
    · exact .nil rests

/-- What a dispatch or the start of a machine brings about, with all replays that follow. -/
theorem runs_then_replaying (empty : start.held = .empty) (idle : start.replay = false)
    {steps : List (Step S M)} {run : S × Scope S M} (runs : Runs start past steps run.2 [])
    (rounds : Nat) :
    Runs start past (steps ++ account.replaying rounds run) (chart.replayHeld rounds run).2 [] :=
  runs.append (account.runs_replaying empty idle rounds run runs.toRests)

theorem runs_starting (empty : start.held = .empty) (idle : start.replay = false)
    {machine : Machine S M} {timers : Timers} {now : Nat}
    (rests : Rests start past (machine.scope timers now) []) (rounds : Nat) :
    Runs start past (account.starting machine timers now rounds)
      (chart.startRun machine timers now rounds).2 [] := by
  unfold starting startRun
  split
  · exact .nil rests
  · have entered := runs_of_leads .enters ⟨rests.phase, List.map_eq_nil_iff.mp rests.batch⟩
      rfl rests.scope rfl (account.leads_entering (machine.scope timers now))
    rw [show ((deferralsOf past).step (.enters : Step S M)).batch.map Prod.fst = [] from
      rests.batch] at entered
    exact account.runs_then_replaying empty idle entered rounds

theorem runs_dispatching (empty : start.held = .empty) (idle : start.replay = false)
    {run : S × Scope S M} (rests : Rests start past run.2 []) (event : Event) (rounds : Nat) :
    Runs start past (.dispatches event :: (account.processing run event ++
      account.replaying rounds (chart.process run event)))
      (chart.replayHeld rounds (chart.process run event)).2 [] := by
  have processed := runs_of_leads (.dispatches event)
    ⟨rests.phase, List.map_eq_nil_iff.mp rests.batch⟩ rfl rests.scope rfl
    (account.leads_processing run event)
  rw [show ((deferralsOf past).step (.dispatches event : Step S M)).batch.map Prod.fst = [] from
    rests.batch] at processed
  exact account.runs_then_replaying empty idle processed rounds

/-- All that a machine does for an order is permitted, and leaves the machine as the engine does. -/
theorem runs_obeying (empty : start.held = .empty) (idle : start.replay = false)
    {machine : Machine S M} (leaves : Leaves start past machine) (occasion : Occasion)
    (rounds : Nat) :
    Lawful start past (account.obeying machine occasion rounds) ∧
      Leaves start (past ++ account.obeying machine occasion rounds)
        (chart.obey machine occasion.timers occasion.now occasion.order rounds).machine ∧
      (chart.obey machine occasion.timers occasion.now occasion.order rounds).journal.filter
          Effect.isAsked =
        (account.obeying machine occasion rounds).filterMap Step.asked? := by
  obtain ⟨order, timers, now⟩ := occasion
  obtain ⟨⟨-, phase, batch⟩, memory, held, replay⟩ := leaves
  have permits : Permits start past (.wakes timers now) := ⟨phase, List.map_eq_nil_iff.mp batch⟩
  have woken : Rests start (past ++ [.wakes timers now]) (machine.scope timers now) [] := by
    refine ⟨?_, ?_, ?_⟩
    · rw [scopeOf_concat, Step.apply, Machine.scope, ← memory, ← held, ← replay]
    · rw [phaseOf_concat]
      exact phase
    · rw [deferralsOf_concat]
      exact batch
  have begun := account.runs_starting empty idle woken rounds
  cases order with
  | start => exact Runs.turn permits (begun.append (.nil begun.toRests))
  | dispatch event =>
    exact Runs.turn permits
      (begun.append (account.runs_dispatching empty idle begun.toRests event rounds))

theorem runs_obeyingAll (empty : start.held = .empty) (idle : start.replay = false)
    {history : History S M} (leaves : Leaves start past history.machine)
    (occasions : List Occasion) (rounds : Nat) :
    Lawful start past (account.obeyingAll history occasions rounds) ∧
      Leaves start (past ++ account.obeyingAll history occasions rounds)
        (history.obeyAll chart occasions rounds).machine ∧
      (history.obeyAll chart occasions rounds).journal.filter Effect.isAsked =
        history.journal.filter Effect.isAsked ++
          (account.obeyingAll history occasions rounds).filterMap Step.asked? := by
  induction occasions generalizing past history with
  | nil =>
    rw [obeyingAll, List.append_nil]
    exact ⟨trivial, leaves, (List.append_nil _).symm⟩
  | cons occasion rest ih =>
    obtain ⟨lawful, leavesNow, told⟩ := account.runs_obeying empty idle leaves occasion rounds
    have now : Leaves start (past ++ account.obeying history.machine occasion rounds)
      (history.obey chart occasion rounds).machine := leavesNow
    have tells : (history.obey chart occasion rounds).journal.filter Effect.isAsked =
        history.journal.filter Effect.isAsked ++
          (account.obeying history.machine occasion rounds).filterMap Step.asked? := by
      rw [← told]
      exact List.filter_append _ _
    obtain ⟨more, later, others⟩ := ih now
    rw [List.append_assoc] at later
    refine ⟨lawful.append more, later, ?_⟩
    rw [tells, List.append_assoc, ← List.filterMap_append] at others
    exact others

end Chart.Account

/-! ## Whole histories -/

/-- Whatever the handlers of a chart do: at any moment of any history each deferral is in one place,
and every step of the engine is permitted at its moment. Between two orders no replay is under way.
The account of what the handlers do may be any one: the steps ask the states in the order that the
journal tells of, and leave the machine with its queue and its memory. Replays may be of any length,
and may be broken off after any batch. -/
theorem Chart.deferrals_conserved [DecidableEq S] {chart : Chart S M} (account : chart.Account)
    (memory : M) (occasions : List Occasion) (rounds : Nat) :
    let start := (chart.machine memory).scope .empty 0
    let steps := account.obeyingAll (.new chart memory) occasions rounds
    let history := (History.new chart memory).obeyAll chart occasions rounds
    (∀ past, past <+: steps → Conserved start past) ∧
      (∀ past step, past ++ [step] <+: steps → Permits start past step) ∧
      phaseOf steps = .idle ∧ (deferralsOf steps).batch = [] ∧
      (scopeOf start steps).held = history.machine.held ∧
      (scopeOf start steps).replay = history.machine.replay ∧
      (scopeOf start steps).memory = history.machine.memory ∧
      steps.filterMap Step.asked? = history.journal.filter Effect.isAsked := by
  intro start steps history
  have fresh : Leaves start [] (History.new chart memory).machine :=
    ⟨⟨rfl, rfl, rfl⟩, rfl, rfl, rfl⟩
  obtain ⟨lawful, leaves, told⟩ := account.runs_obeyingAll (show start.held = .empty from rfl)
    (show start.replay = false from rfl) fresh occasions rounds
  exact ⟨fun past inside => lawful.conserved rfl inside,
    fun past step inside => lawful.permits inside, leaves.phase,
    List.map_eq_nil_iff.mp leaves.batch, leaves.held, leaves.replay, leaves.memory, told.symm⟩

/-- The gate asks for a replay when it is opened, and holds back what it cannot forward yet. -/
def Gate.account : Gate.chart.Account where
  actions state signal _ :=
    match state, signal with
    | .enabled, .entry => [.requestReplay]
    | _, .event .enableGate | _, .event .disableGate => []
    | .enabled, .event event => [.post event .cameraCmd]
    | .disabled, .event event => [.defer event]
    | _, _ => []
  explains state signal scope := by
    cases state <;> cases signal with
    | event event => cases event <;> rfl
    | _ => rfl

/-- A gate is closed, receives two events and is opened again. When it has dispatched the first of
them again, the second one is still in the batch. -/
theorem Chart.deferrals_conserved_gate :
    let start := (Gate.chart.machine ()).scope .empty 0
    let steps := Gate.account.obeyingAll (.new Gate.chart ())
      ([.disableGate, .capture, .connect, .enableGate].map fun event =>
        ⟨.dispatch event, .empty, 0⟩) 1
    deferralsOf (steps.take 39) = ⟨[], [(.connect, 1)], [(.capture, 0)], [], 2⟩ ∧
      Conserved start (steps.take 39) ∧
      steps.take 38 = steps.take 37 ++ [.begins] ∧ Permits start (steps.take 37) .begins := by
  intro start steps
  have conserved := deferrals_conserved Gate.account ()
    ([.disableGate, .capture, .connect, .enableGate].map fun event =>
      ⟨.dispatch event, .empty, 0⟩)
    1
  have begins : steps.take 38 = steps.take 37 ++ [.begins] := rfl
  exact ⟨by decide +kernel, conserved.1 _ (List.take_prefix 39 _), begins,
    conserved.2.1 _ _ (begins ▸ List.take_prefix 38 _)⟩

end Tether
