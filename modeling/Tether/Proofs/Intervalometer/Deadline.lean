import Mathlib.Data.List.Induction
import Tether.Proofs.Intervalometer.Turn
import Tether.Proofs.Statechart.Site

/-!
# The deadline of the intervalometer

The intervalometer notes the timer of its deadline, and cancels the noted timer before it sets
another one and when the sequence ends. The end of an interval carries no number, and makes the
machine forget the note. As long as that happens only after the noted timer has fired, every pending
timer of the machine is the noted one (`Kept`). But anyone may post the end of an interval, and one
that was posted for an earlier sequence may still be on its way. One that is dispatched while the
noted timer is still pending (`Premature`) makes the machine forget a timer that nobody can cancel
any more: the next capture sets a second one, and a stop leaves it behind (`stray_deadlines`).
Nothing else does (`tidy_iff`).
-/

namespace Tether

namespace Intervalometer

/-! ## What becomes of the note -/

/-- What a turn that begins with a note makes of it: it keeps the note, it cancels the noted timer
and sets another one, or it cancels the noted timer. -/
inductive Handles (before : Scope State Memory) (leaf : State) (note : Option Nat) :
    State × Scope State Memory → Prop where
  | keep {later : State} {memory : Memory} {after : Scope State Memory}
      (noted : after.memory = memory) (held : memory.deadline = note)
      (timers : after.timers = before.timers)
      (inside : later = leaf ∨ later.isInside = true) : Handles before leaf note (later, after)
  | renew {memory : Memory} {after : Scope State Memory}
      (noted : after.memory = memory.shooting before.timers.nextId) (held : memory.deadline = note)
      (timers : after.timers = renewed memory before.timers before.now) :
      Handles before leaf note (.capturing, after)
  | drop {memory : Memory} {after : Scope State Memory} (noted : after.memory = memory)
      (none : memory.deadline = none) (timers : after.timers = before.timers.without note) :
      Handles before leaf note (.ready, after)

/-- Whether an event makes a machine forget its note. -/
def forgets (leaf : State) (event : Event) : Bool :=
  leaf.isInside && decide (event = .intervalometerDeadline)

/-- The note that is left where a machine has begun to process an event. -/
def left (leaf : State) (event : Event) (note : Option Nat) : Option Nat :=
  if forgets leaf event then none else note

theorem forgets_of_ignores {leaf : State} {event : Event} (rests : leaf.Rests)
    (ignored : leaf.ignores event = true) : forgets leaf event = false := by
  by_cases expiry : event = .intervalometerDeadline
  · subst expiry
    revert rests ignored
    cases leaf <;> decide
  · simp [forgets, expiry]

theorem Turned.handles {before : Scope State Memory} {leaf : State} {event : Event}
    {run : State × Scope State Memory} (rests : leaf.Rests)
    (turned : Turned before leaf event run) :
    Handles before leaf (left leaf event before.memory.deadline) run := by
  cases turned with
  | stay ignored changes =>
    have remembered : left leaf event before.memory.deadline = before.memory.deadline := by
      rw [left, forgets_of_ignores rests ignored]
      rfl
    exact .keep changes.memory remembered.symm changes.timers (Or.inl rfl)
  | begin changes => exact .renew changes.memory rfl changes.timers
  | stop inside changes =>
    have remembered : left leaf .stopMode before.memory.deadline = before.memory.deadline := by
      simp [left, forgets]
    refine .drop changes.memory rfl ?_
    rw [remembered, changes.timers]
  | note busy changes =>
    rcases busy with rfl | rfl
    · exact .keep changes.memory rfl changes.timers (Or.inl rfl)
    · exact .keep changes.memory rfl changes.timers (Or.inl rfl)
  | finish complete changes => exact .drop changes.memory rfl changes.timers
  | again incomplete due changes => exact .renew changes.memory rfl changes.timers
  | pause incomplete early changes => exact .keep changes.memory rfl changes.timers (Or.inr rfl)
  | next changes => exact .renew changes.memory rfl changes.timers
  | park busy changes =>
    rcases busy with rfl | rfl
    · exact .keep changes.memory rfl changes.timers (Or.inr rfl)
    · exact .keep changes.memory rfl changes.timers (Or.inr rfl)
  | retry due changes => exact .renew changes.memory rfl changes.timers
  | rejoin early waiting changes => exact .keep changes.memory rfl changes.timers (Or.inr rfl)

/-! ## The noted timer -/

/-- A note names a timer that the machine has set, and there is none outside `Running`. -/
structure Sound (foreign : List Nat) (leaf : State) (note : Option Nat) (timers : Timers) :
    Prop where
  known : ∀ id ∈ foreign, id < timers.nextId
  fresh : ∀ id, note = some id → id < timers.nextId ∧ id ∉ foreign
  idle : leaf.isInside = false → note = none

/-- Every pending timer of the machine is the noted one. -/
def Kept (foreign : List Nat) (note : Option Nat) (timers : Timers) : Prop :=
  ∀ timer ∈ timers.ownPending foreign, note = some timer.id

section Notes

variable {foreign : List Nat} {note : Option Nat} {timers : Timers}

theorem Kept.without (kept : Kept foreign note timers) :
    (timers.without note).ownPending foreign = [] := by
  cases note with
  | none =>
    refine List.eq_nil_iff_forall_not_mem.mpr fun timer own => ?_
    cases kept timer own
  | some id =>
    show (timers.remove id).ownPending foreign = []
    rw [Timers.ownPending_remove, List.filter_eq_nil_iff]
    intro timer own
    simp [Option.some.inj (kept timer own)]

theorem Kept.length_le (kept : Kept foreign note timers) :
    (timers.ownPending foreign).length ≤ 1 := by
  have ordered : (timers.ownPending foreign).Pairwise Timer.Before := timers.ordered.filter _
  cases own : timers.ownPending foreign with
  | nil => exact Nat.zero_le 1
  | cons first rest =>
    cases rest with
    | nil => exact Nat.le_refl 1
    | cons second others =>
      -- Both of them would have the number that is noted.
      have firstOwn : first ∈ timers.ownPending foreign := by simp [own]
      have secondOwn : second ∈ timers.ownPending foreign := by simp [own]
      have number : first.id = second.id :=
        Option.some.inj ((kept first firstOwn).symm.trans (kept second secondOwn))
      have same : first = second :=
        timers.eq_of_id_eq (List.mem_filter.mp firstOwn).1 (List.mem_filter.mp secondOwn).1 number
      rw [own] at ordered
      rcases List.rel_of_pairwise_cons ordered List.mem_cons_self with sooner | older
      · exact absurd sooner (by simp [same])
      · exact absurd older.2 (by simp [same])

theorem renewed_nextId (memory : Memory) (timers : Timers) (now : Nat) :
    (renewed memory timers now).nextId =
      timers.nextId + if 0 < memory.interval then 1 else 0 := by
  unfold renewed
  split
  · exact congrArg (· + 1) (timers.without_nextId memory.deadline)
  · exact timers.without_nextId memory.deadline

variable {before : Scope State Memory} {leaf : State} {run : State × Scope State Memory}

theorem Handles.sound (sound : Sound foreign leaf note before.timers)
    (handles : Handles before leaf note run) :
    Sound foreign run.1 run.2.memory.deadline run.2.timers := by
  cases handles with
  | keep noted held timers inside =>
    dsimp only
    rw [noted, held, timers]
    refine ⟨sound.known, sound.fresh, fun outside => ?_⟩
    rcases inside with rfl | inside
    · exact sound.idle outside
    · rw [inside] at outside
      cases outside
  | @renew memory after noted held timers =>
    dsimp only
    rw [noted, timers]
    refine ⟨fun id member => ?_, fun id number => ?_, nofun⟩
    · rw [renewed_nextId]
      exact Nat.lt_add_right _ (sound.known id member)
    · -- The number of the new timer is the next one, and so not listed.
      rw [renewed_nextId]
      by_cases interval : 0 < memory.interval
      · simp only [Memory.shooting, interval, if_true, Option.some.injEq] at number ⊢
        subst number
        exact ⟨Nat.lt_succ_self _, fun listed => Nat.lt_irrefl _ (sound.known _ listed)⟩
      · simp [Memory.shooting, interval] at number
  | drop noted none timers =>
    dsimp only
    rw [noted, none, timers]
    refine ⟨fun id member => ?_, nofun, fun _ => rfl⟩
    rw [Timers.without_nextId]
    exact sound.known id member

/-- Whatever a turn makes of the note, every pending timer is the noted one again. -/
theorem Handles.kept (sound : Sound foreign leaf note before.timers)
    (kept : Kept foreign note before.timers) (handles : Handles before leaf note run) :
    Kept foreign run.2.memory.deadline run.2.timers := by
  cases handles with
  | keep noted held timers inside =>
    dsimp only
    rw [noted, held, timers]
    exact kept
  | @renew memory after noted held timers =>
    subst held
    dsimp only
    rw [noted, timers]
    intro timer own
    have gone := kept.without
    by_cases interval : 0 < memory.interval
    · have unlisted : (before.timers.without memory.deadline).nextId ∉ foreign := by
        rw [Timers.without_nextId]
        exact fun listed => Nat.lt_irrefl _ (sound.known _ listed)
      rw [renewed, if_pos interval, Timers.ownPending_insert unlisted gone] at own
      rw [List.mem_singleton.mp own]
      simp [Memory.shooting, interval]
    · rw [renewed, if_neg interval, gone] at own
      cases own
  | drop noted none timers =>
    dsimp only
    rw [timers]
    intro timer own
    rw [kept.without] at own
    cases own

/-- A pending timer that is not noted stays pending without being noted. -/
theorem Handles.not_kept {timer : Timer} (own : timer ∈ before.timers.ownPending foreign)
    (handles : Handles before leaf none run) :
    ¬Kept foreign run.2.memory.deadline run.2.timers := by
  intro kept
  cases handles with
  | keep noted held timers inside =>
    have note := kept timer (timers.symm ▸ own)
    dsimp only at note
    rw [noted, held] at note
    cases note
  | @renew memory after noted held timers =>
    by_cases interval : 0 < memory.interval
    · -- The new timer has another number.
      obtain ⟨pending, unlisted⟩ := List.mem_filter.mp own
      have still : timer ∈ after.timers.ownPending foreign := by
        rw [timers, renewed, if_pos interval, held]
        exact List.mem_filter.mpr ⟨Timers.mem_place.mpr (Or.inr pending), unlisted⟩
      have note := kept timer still
      have older := before.timers.numbered timer pending
      simp only [noted, Memory.shooting, interval, if_true, Option.some.injEq] at note
      exact absurd note.symm (Nat.ne_of_lt older)
    · have still : after.timers = before.timers := by
        rw [timers, renewed, if_neg interval, held, Timers.without]
      have note := kept timer (still.symm ▸ own)
      simp [noted, Memory.shooting, interval] at note
  | drop noted none timers =>
    have note := kept timer (timers.symm ▸ own)
    dsimp only at note
    rw [noted, none] at note
    cases note

/-- To forget a note does no harm to the others. -/
theorem Sound.left (sound : Sound foreign leaf note timers) (event : Event) :
    Sound foreign leaf (left leaf event note) timers := by
  unfold Intervalometer.left
  split
  · exact ⟨sound.known, nofun, fun _ => rfl⟩
  · exact sound

end Notes

/-! ## Among the timers of a broker -/

/-- The machine, the timers of its broker, and the numbers of those that others have set. -/
structure Clocked where
  machine : Machine State Memory
  timers : Timers
  foreign : List Nat

/-- What can happen to the machine and to the timers. -/
inductive Incident where
  | obey (order : Order) (now : Nat)
  /-- A timer fires, or another machine cancels one of its own. -/
  | remove (id : Nat)
  /-- Another machine sets a timer. -/
  | set (deadline : Nat) (event : Event) (topic : Topic)

namespace Clocked

def new : Clocked :=
  ⟨chart.machine .new, .empty, []⟩

def meet (clocked : Clocked) : Incident → Clocked
  | .obey order now =>
      let turn := chart.obey clocked.machine clocked.timers now order
      { clocked with machine := turn.machine, timers := turn.timers }
  | .remove id => { clocked with timers := clocked.timers.remove id }
  | .set deadline event topic =>
      { clocked with
        timers := (clocked.timers.insert deadline event topic).1
        foreign := clocked.timers.nextId :: clocked.foreign }

/-- What becomes of a machine that has just been made. -/
def after (incidents : List Incident) : Clocked :=
  incidents.foldl meet new

/-- The pending timers of the machine. -/
def own (clocked : Clocked) : List Timer :=
  clocked.timers.ownPending clocked.foreign

/-- The machine has at most one timer, and none in `Ready`. -/
def Tidy (clocked : Clocked) : Prop :=
  clocked.own.length ≤ 1 ∧ (clocked.machine.leaf = .ready → clocked.own = [])

instance (clocked : Clocked) : Decidable clocked.Tidy :=
  inferInstanceAs (Decidable (_ ∧ _))

/-- The end of an interval is dispatched in a sequence while the noted timer is still pending. -/
def Premature (clocked : Clocked) (incident : Incident) : Prop :=
  (∃ now, incident = .obey (.dispatch .intervalometerDeadline) now) ∧
    clocked.machine.leaf.isInside = true ∧
      ∃ timer ∈ clocked.own, clocked.machine.memory.deadline = some timer.id

/-- What holds of the machine and its note in any case. -/
structure Fit (clocked : Clocked) : Prop where
  placed : Placed clocked.machine
  sound : Sound clocked.foreign clocked.machine.leaf clocked.machine.memory.deadline clocked.timers

/-- Every pending timer of the machine is the noted one. -/
def Kept (clocked : Clocked) : Prop :=
  Intervalometer.Kept clocked.foreign clocked.machine.memory.deadline clocked.timers

variable {clocked : Clocked}

theorem fit_new : Fit new where
  placed := ⟨rfl, fun _ => rfl, nofun, Or.inl rfl⟩
  sound := ⟨nofun, nofun, fun _ => rfl⟩

theorem kept_new : Kept new :=
  fun _ => nofun

@[simp] theorem readied_deadline (machine : Machine State Memory) :
    (readied machine).deadline = machine.memory.deadline := by
  unfold readied
  split <;> rfl

/-- What an order makes of the note. -/
theorem Fit.handles (fit : Fit clocked) (order : Order) (now : Nat) :
    ∃ (before : Scope State Memory) (run : State × Scope State Memory),
      before.timers = clocked.timers ∧
        chart.obey clocked.machine clocked.timers now order = Machine.turn run ∧
        Handles before (base clocked.machine)
          (match order with
          | .start => clocked.machine.memory.deadline
          | .dispatch event =>
              left (base clocked.machine) event clocked.machine.memory.deadline) run := by
  obtain ⟨before, run, -, begun, turn, turned⟩ :=
    turned_obey fit.placed clocked.timers now order
  have deadline : before.memory.deadline = clocked.machine.memory.deadline := by
    rw [begun.memory, readied_deadline]
  refine ⟨before, run, begun.timers, turn, ?_⟩
  cases order with
  | start =>
    subst turned
    exact .keep rfl deadline rfl (Or.inl rfl)
  | dispatch event =>
    rw [← deadline]
    exact Turned.handles (base_rests fit.placed) turned

theorem Fit.base (fit : Fit clocked) :
    Sound clocked.foreign (base clocked.machine) clocked.machine.memory.deadline clocked.timers :=
  ⟨fit.sound.known, fit.sound.fresh, fun outside =>
    fit.sound.idle ((isInside_base fit.placed).symm.trans outside)⟩

theorem Fit.obey (fit : Fit clocked) (order : Order) (now : Nat) :
    Fit (clocked.meet (.obey order now)) := by
  obtain ⟨before, run, timers, turn, handles⟩ := fit.handles order now
  have placed := (turn_told fit.placed clocked.timers now order).1
  refine ⟨placed, ?_⟩
  show Sound _ (chart.obey _ _ _ _).machine.leaf (chart.obey _ _ _ _).machine.memory.deadline
    (chart.obey _ _ _ _).timers
  rw [turn]
  refine handles.sound ?_
  rw [timers]
  cases order with
  | start => exact fit.base
  | dispatch event => exact fit.base.left event

theorem Fit.meet (fit : Fit clocked) (incident : Incident) : Fit (clocked.meet incident) := by
  cases incident with
  | obey order now => exact fit.obey order now
  | remove id => exact ⟨fit.placed, fit.sound.known, fit.sound.fresh, fit.sound.idle⟩
  | set deadline event topic =>
    refine ⟨fit.placed, fun id member => ?_, fun id noted => ?_, fit.sound.idle⟩
    · rcases List.mem_cons.mp member with rfl | older
      · exact Nat.lt_succ_self _
      · exact Nat.lt_succ_of_lt (fit.sound.known id older)
    · -- The number that another machine gets is not the noted one.
      obtain ⟨older, unlisted⟩ := fit.sound.fresh id noted
      refine ⟨Nat.lt_succ_of_lt older, fun member => ?_⟩
      rcases List.mem_cons.mp member with rfl | listed
      · exact Nat.lt_irrefl _ older
      · exact unlisted listed

/-- What happens to a machine whose timers are all noted leaves them so, unless the end of an
interval is dispatched too early. -/
theorem Kept.meet (fit : Fit clocked) (kept : Kept clocked) {incident : Incident}
    (timely : ¬Premature clocked incident) : Kept (clocked.meet incident) := by
  cases incident with
  | obey order now =>
    obtain ⟨before, run, timers, turn, handles⟩ := fit.handles order now
    show Intervalometer.Kept _ (chart.obey _ _ _ _).machine.memory.deadline
      (chart.obey _ _ _ _).timers
    rw [turn]
    cases order with
    | start => exact handles.kept (timers ▸ fit.base) (timers ▸ kept)
    | dispatch event =>
      refine handles.kept (timers ▸ fit.base.left event) (timers ▸ fun timer own => ?_)
      show (if forgets (Intervalometer.base clocked.machine) event then none
        else clocked.machine.memory.deadline) = some timer.id
      split
      · next forgotten =>
        -- The noted timer would be pending when it is forgotten.
        obtain ⟨inside, expiry⟩ : _ ∧ event = .intervalometerDeadline := by
          simpa [forgets, isInside_base fit.placed] using forgotten
        exact absurd ⟨⟨now, expiry ▸ rfl⟩, inside, timer, own, kept timer own⟩ timely
      · exact kept timer own
  | remove id =>
    intro timer own
    rw [Clocked.meet, Timers.ownPending_remove] at own
    exact kept timer (List.mem_filter.mp own).1
  | set deadline event topic =>
    intro timer own
    rw [Clocked.meet, Timers.ownPending_set clocked.timers.numbered] at own
    exact kept timer own

/-- A timer that is forgotten while it is pending stays behind. -/
theorem not_kept_of_premature (fit : Fit clocked) {incident : Incident}
    (premature : Premature clocked incident) : ¬Kept (clocked.meet incident) := by
  obtain ⟨⟨now, rfl⟩, inside, timer, own, noted⟩ := premature
  obtain ⟨before, run, timers, turn, handles⟩ :=
    fit.handles (.dispatch .intervalometerDeadline) now
  have forgotten : left (Intervalometer.base clocked.machine) .intervalometerDeadline
      clocked.machine.memory.deadline = none := by
    simp [left, forgets, isInside_base fit.placed, inside]
  intro kept
  change Intervalometer.Kept _ (chart.obey _ _ _ _).machine.memory.deadline
    (chart.obey _ _ _ _).timers at kept
  rw [turn] at kept
  have pending : timer ∈ before.timers.ownPending clocked.foreign := by
    rw [timers]
    exact own
  change Handles before _ (left _ .intervalometerDeadline _) run at handles
  rw [forgotten] at handles
  exact handles.not_kept pending kept

/-- A stop ends the sequence and cancels the noted timer. -/
theorem Fit.stop (fit : Fit clocked) (now : Nat) :
    (clocked.meet (.obey (.dispatch .stopMode) now)).machine.leaf = .ready ∧
      (clocked.meet (.obey (.dispatch .stopMode) now)).timers =
        clocked.timers.without clocked.machine.memory.deadline := by
  obtain ⟨before, run, -, begun, turn, turned⟩ :=
    turned_obey fit.placed clocked.timers now (.dispatch .stopMode)
  show (chart.obey _ _ _ _).machine.leaf = .ready ∧ (chart.obey _ _ _ _).timers = _
  rw [turn]
  have timers : before.timers = clocked.timers := begun.timers
  have deadline : before.memory.deadline = clocked.machine.memory.deadline := by
    rw [begun.memory, readied_deadline]
  rw [← timers, ← deadline]
  have rests := base_rests fit.placed
  have idle : (Intervalometer.base clocked.machine).isInside = false →
      before.memory.deadline = none := fun outside => deadline.trans (fit.base.idle outside)
  generalize Intervalometer.base clocked.machine = leaf at turned rests idle
  cases turned with
  | stay ignored changes =>
    have ready : leaf = .ready := by
      revert rests ignored
      cases leaf <;> decide
    subst ready
    exact ⟨rfl, by rw [idle rfl]; exact changes.timers⟩
  | stop inside changes => exact ⟨rfl, changes.timers⟩

theorem Kept.tidy (fit : Fit clocked) (kept : Kept clocked) : Tidy clocked := by
  refine ⟨Intervalometer.Kept.length_le kept, fun ready => ?_⟩
  have none := fit.sound.idle (by rw [ready]; rfl)
  have gone := Intervalometer.Kept.without kept
  rwa [none] at gone

/-- A stop leaves the timers behind that are not noted. -/
theorem kept_of_tidy_stop (fit : Fit clocked) {now : Nat}
    (tidy : Tidy (clocked.meet (.obey (.dispatch .stopMode) now))) : Kept clocked := by
  obtain ⟨ready, timers⟩ := fit.stop now
  have none : ((clocked.timers.without clocked.machine.memory.deadline).ownPending
      clocked.foreign) = [] := timers ▸ tidy.2 ready
  intro timer own
  cases noted : clocked.machine.memory.deadline with
  | none =>
    rw [noted] at none
    exact absurd (none ▸ own) List.not_mem_nil
  | some id =>
    rw [noted, Timers.without, Timers.ownPending_remove, List.filter_eq_nil_iff] at none
    have same := none timer own
    simp only [bne_iff_ne, ne_eq, Decidable.not_not] at same
    rw [same]

theorem fit_after (incidents : List Incident) : Fit (after incidents) :=
  List.foldlRecOn incidents meet fit_new fun _ fit incident _ => fit.meet incident

theorem after_concat (past : List Incident) (incident : Incident) :
    after (past ++ [incident]) = (after past).meet incident := by
  simp [after]

theorem kept_after {incidents : List Incident}
    (timely : ∀ past incident, past ++ [incident] <+: incidents →
      ¬Premature (after past) incident) : Kept (after incidents) := by
  induction incidents using List.reverseRecOn with
  | nil => exact kept_new
  | append_singleton past incident ih =>
    rw [after_concat]
    have before : Kept (after past) :=
      ih fun earlier other inside => timely earlier other (inside.trans (List.prefix_append _ _))
    exact before.meet (fit_after past) (timely past incident List.prefix_rfl)

/-- Whatever happens to the timers and whatever events are dispatched: the machine never has more
than one timer, and none in `Ready`, even if it is stopped at any moment, just if no end of an
interval is dispatched in a sequence before the noted timer has fired. -/
theorem tidy_iff (incidents : List Incident) :
    (∀ past, past <+: incidents → ∀ now,
      Tidy (after past) ∧ Tidy ((after past).meet (.obey (.dispatch .stopMode) now))) ↔
    ∀ past incident, past ++ [incident] <+: incidents → ¬Premature (after past) incident := by
  constructor
  · intro tidy past incident inside premature
    have stray := not_kept_of_premature (fit_after past) premature
    rw [← after_concat] at stray
    exact stray (kept_of_tidy_stop (fit_after _) (tidy _ inside 0).2)
  · intro timely past inside now
    have fit := fit_after past
    have kept : Kept (after past) :=
      kept_after fun earlier other within => timely earlier other (within.trans inside)
    refine ⟨kept.tidy fit, Kept.tidy (fit.meet _) (kept.meet fit ?_)⟩
    rintro ⟨⟨_, stops⟩, -⟩
    cases stops

/-- A sequence whose first interval is said to be over at once. -/
def hurried : List Incident :=
  [.obey .start 0, .obey (.dispatch (.intervalometerStart 60000 0)) 0,
    .obey (.dispatch .intervalometerDeadline) 0, .obey (.dispatch (.captureDone false "")) 0]

/-- Two timers of the machine are pending, and one is left when it is stopped. -/
theorem stray_deadlines :
    (after hurried).own.length = 2 ∧
      let stopped := (after hurried).meet (.obey (.dispatch .stopMode) 0)
      stopped.machine.leaf = .ready ∧ stopped.own.length = 1 := by
  decide +kernel

end Clocked

end Intervalometer

end Tether
