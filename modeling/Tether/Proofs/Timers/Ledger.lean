import Mathlib.Data.List.Nodup
import Mathlib.Data.List.Perm.Basic
import Tether.Timers

/-!
# What becomes of timers

A ledger keeps the books on timers: which were scheduled, and which of them have been delivered,
cancelled or dropped. It is kept along any run of operations.

* `Accounted`: at any time every scheduled timer is in exactly one place. This needs nothing but
  that an operation moves timers from one place to another.
* `Punctual`: if time never goes back and nothing is scheduled for a time that has been, then what
  was delivered lies before what is pending, so all deliveries are in order.

`delivered_in_order` puts this together.
-/

namespace Tether

namespace Timers

/-- An operation on timers. -/
inductive Operation where
  | insert (deadline : Nat) (event : Event) (topic : Topic)
  | remove (id : Nat)
  | takeDue (now : Nat)
  | clear

/-- The timers, and what has become of those that were ever scheduled; all in the order of the
operations. -/
structure Ledger where
  timers : Timers
  inserted : List Timer
  delivered : List Timer
  removed : List Timer
  cleared : List Timer

namespace Ledger

def new : Ledger :=
  ⟨.empty, [], [], [], []⟩

/-- The ledger after one more operation. -/
def record (ledger : Ledger) : Operation → Ledger
  | .insert deadline event topic =>
      { ledger with
        timers := (ledger.timers.insert deadline event topic).1
        inserted := ledger.inserted ++ [ledger.timers.next deadline event topic] }
  | .remove id =>
      { ledger with
        timers := ledger.timers.remove id
        removed := ledger.removed ++ ledger.timers.pending.filter fun timer => timer.id == id }
  | .takeDue now =>
      { ledger with
        timers := (ledger.timers.takeDue now).2
        delivered := ledger.delivered ++ (ledger.timers.takeDue now).1 }
  | .clear =>
      { ledger with
        timers := ledger.timers.clear
        cleared := ledger.cleared ++ ledger.timers.pending }

/-- The ledger after some operations. -/
def recordAll (ledger : Ledger) (operations : List Operation) : Ledger :=
  operations.foldl record ledger

/-- All places where a timer can be. -/
def places (ledger : Ledger) : List Timer :=
  ledger.timers.pending ++ ledger.delivered ++ ledger.removed ++ ledger.cleared

end Ledger

/-- Every timer that was ever scheduled is in one place, and they have been numbered one after the
other. -/
structure Accounted (ledger : Ledger) : Prop where
  placed : ledger.places.Perm ledger.inserted
  increasing : ledger.inserted.Pairwise fun timer later => timer.id < later.id
  numbered : ∀ timer ∈ ledger.inserted, timer.id < ledger.timers.nextId

theorem place_perm (timer : Timer) (pending : List Timer) :
    (place timer pending).Perm (timer :: pending) := by
  induction pending with
  | nil => exact .refl _
  | cons first rest ih =>
    unfold place
    split
    · exact (ih.cons first).trans (.swap timer first rest)
    · exact .refl _

namespace Accounted

variable {ledger : Ledger}

theorem new : Accounted .new :=
  ⟨.refl _, .nil, fun _ member => absurd member List.not_mem_nil⟩

theorem insert (accounted : Accounted ledger) (deadline : Nat) (event : Event) (topic : Topic) :
    Accounted (ledger.record (.insert deadline event topic)) where
  placed := by
    have added := place_perm (ledger.timers.next deadline event topic) ledger.timers.pending
    have before := accounted.placed
    rw [List.perm_iff_count] at added before ⊢
    intro timer
    have addedHere := added timer
    have beforeHere := before timer
    simp only [Ledger.places, Ledger.record, Timers.insert, List.count_append, List.count_cons,
      List.count_nil] at addedHere beforeHere ⊢
    omega
  increasing := by
    refine List.pairwise_append.mpr ⟨accounted.increasing, List.pairwise_singleton _ _, ?_⟩
    intro timer member later fresh
    rw [List.mem_singleton.mp fresh]
    exact accounted.numbered timer member
  numbered := by
    intro timer member
    rcases List.mem_append.mp member with old | fresh
    · exact Nat.lt_succ_of_lt (accounted.numbered timer old)
    · rw [List.mem_singleton.mp fresh]
      exact Nat.lt_succ_self _

/-- An operation that only moves timers from one place to another. -/
theorem moved {after : Ledger} (accounted : Accounted ledger)
    (inserted : after.inserted = ledger.inserted)
    (nextId : after.timers.nextId = ledger.timers.nextId)
    (places : after.places.Perm ledger.places) : Accounted after where
  placed := by
    rw [inserted]
    exact places.trans accounted.placed
  increasing := by
    rw [inserted]
    exact accounted.increasing
  numbered := by
    rw [inserted, nextId]
    exact accounted.numbered

theorem remove (accounted : Accounted ledger) (id : Nat) :
    Accounted (ledger.record (.remove id)) := by
  refine accounted.moved rfl rfl ?_
  have parts := List.filter_append_perm (fun timer : Timer => timer.id == id)
    ledger.timers.pending
  rw [List.perm_iff_count] at parts ⊢
  intro timer
  have partsHere := parts timer
  simp only [Ledger.places, Ledger.record, remove_pending, List.count_append, bne] at partsHere ⊢
  omega

theorem takeDue (accounted : Accounted ledger) (now : Nat) :
    Accounted (ledger.record (.takeDue now)) := by
  refine accounted.moved rfl rfl ?_
  have parts := ledger.timers.due_append_notDue now
  rw [List.perm_iff_count]
  intro timer
  simp only [Ledger.places, Ledger.record, Timers.takeDue, ← parts, List.count_append]
  omega

theorem clear (accounted : Accounted ledger) : Accounted (ledger.record .clear) := by
  refine accounted.moved rfl rfl ?_
  rw [List.perm_iff_count]
  intro timer
  simp only [Ledger.places, Ledger.record, Timers.clear, empty, List.count_append, List.count_nil]
  omega

theorem record (accounted : Accounted ledger) (operation : Operation) :
    Accounted (ledger.record operation) := by
  cases operation with
  | insert deadline event topic => exact accounted.insert deadline event topic
  | remove id => exact accounted.remove id
  | takeDue now => exact accounted.takeDue now
  | clear => exact accounted.clear

theorem recordAll (accounted : Accounted ledger) (operations : List Operation) :
    Accounted (ledger.recordAll operations) :=
  List.foldlRecOn operations Ledger.record accounted fun _ before operation _ =>
    before.record operation

end Accounted

/-! ## What is due -/

section Due

variable (timers : Timers) (now : Nat)

/-- As the timers are in order, those that are due stand in front. -/
theorem span_eq_filter {pending : List Timer} (ordered : pending.Pairwise Timer.Before) :
    (pending.takeWhile fun timer => decide (timer.deadline ≤ now)) =
        pending.filter (fun timer => decide (timer.deadline ≤ now)) ∧
      (pending.dropWhile fun timer => decide (timer.deadline ≤ now)) =
        pending.filter fun timer => decide (now < timer.deadline) := by
  induction pending with
  | nil => exact ⟨rfl, rfl⟩
  | cons first rest ih =>
    obtain ⟨head, tail⟩ := List.pairwise_cons.mp ordered
    by_cases due : first.deadline ≤ now
    · have notLater : ¬ now < first.deadline := Nat.not_lt.mpr due
      simp [due, notLater, ih tail]
    · have later : now < first.deadline := Nat.not_le.mp due
      -- All that come after the first one are due no sooner.
      have restLater : ∀ timer ∈ rest, now < timer.deadline := by
        intro timer member
        rcases head timer member with before | same
        · exact Nat.lt_trans later before
        · exact same.1 ▸ later
      have restFilter : rest.filter (fun timer => decide (now < timer.deadline)) = rest :=
        List.filter_eq_self.mpr fun timer member => decide_eq_true (restLater timer member)
      simp only [List.takeWhile_cons, List.dropWhile_cons, List.filter_cons, due, later,
        restFilter, decide_false, decide_true, Bool.false_eq_true, if_false, if_true]
      exact ⟨(List.filter_eq_nil_iff.mpr (by simpa using restLater)).symm, trivial⟩

theorem due_eq : timers.due now =
    timers.pending.filter fun timer => decide (timer.deadline ≤ now) :=
  (span_eq_filter now timers.ordered).1

theorem notDue_eq : timers.notDue now =
    timers.pending.filter fun timer => decide (now < timer.deadline) :=
  (span_eq_filter now timers.ordered).2

theorem ordered_due : (timers.due now).Pairwise Timer.Before :=
  timers.ordered.sublist (List.takeWhile_sublist _)

end Due

/-! ## Order -/

/-- The last time at which timers were taken, after an operation. -/
def Operation.clock (last : Option Nat) : Operation → Option Nat
  | .takeDue now => some now
  | _ => last

/-- Whether an operation keeps the time: it does not go back, and nothing is scheduled for a time
that has been. -/
def Operation.Timely (last : Option Nat) : Operation → Prop
  | .insert deadline _ _ => ∀ now ∈ last, now < deadline
  | .takeDue now => ∀ earlier ∈ last, earlier ≤ now
  | _ => True

/-- Whether operations keep the time, one after the other. -/
def Timely (last : Option Nat) : List Operation → Prop
  | [] => True
  | operation :: rest => operation.Timely last ∧ Timely (operation.clock last) rest

/-- What has been delivered is in order, and was due at the last time; what is pending was not. -/
structure Punctual (last : Option Nat) (ledger : Ledger) : Prop where
  ordered : ledger.delivered.Pairwise Timer.Before
  past : ∀ timer ∈ ledger.delivered, ∃ now ∈ last, timer.deadline ≤ now
  future : ∀ timer ∈ ledger.timers.pending, ∀ now ∈ last, now < timer.deadline

namespace Punctual

variable {last : Option Nat} {ledger : Ledger}

theorem new : Punctual none .new where
  ordered := .nil
  past _ member := absurd member List.not_mem_nil
  future _ member := absurd member List.not_mem_nil

theorem takeDue (punctual : Punctual last ledger) {now : Nat}
    (onward : ∀ earlier ∈ last, earlier ≤ now) :
    Punctual (some now) (ledger.record (.takeDue now)) where
  ordered := by
    refine List.pairwise_append.mpr ⟨punctual.ordered, ordered_due _ now, ?_⟩
    -- What was delivered earlier was due at a time at which this was not.
    intro timer old other due
    obtain ⟨earlier, noted, passed⟩ := punctual.past timer old
    have pending : other ∈ ledger.timers.pending := (List.takeWhile_sublist _).subset due
    exact Or.inl (Nat.lt_of_le_of_lt passed (punctual.future other pending earlier noted))
  past timer member := by
    refine ⟨now, rfl, ?_⟩
    rcases List.mem_append.mp member with old | due
    · obtain ⟨earlier, noted, passed⟩ := punctual.past timer old
      exact Nat.le_trans passed (onward earlier noted)
    · have fired : timer ∈ ledger.timers.due now := due
      rw [due_eq] at fired
      exact of_decide_eq_true (List.mem_filter.mp fired).2
  future timer member time noted := by
    obtain rfl := Option.mem_some.mp noted
    have later : timer ∈ ledger.timers.notDue now := member
    rw [notDue_eq] at later
    exact of_decide_eq_true (List.mem_filter.mp later).2

theorem record (punctual : Punctual last ledger) {operation : Operation}
    (timely : operation.Timely last) :
    Punctual (operation.clock last) (ledger.record operation) := by
  cases operation with
  | takeDue now => exact punctual.takeDue timely
  | insert deadline event topic =>
    refine ⟨punctual.ordered, punctual.past, ?_⟩
    intro timer member now noted
    rcases mem_place.mp member with rfl | old
    · exact timely now noted
    · exact punctual.future timer old now noted
  | remove id =>
    refine ⟨punctual.ordered, punctual.past, ?_⟩
    intro timer member now noted
    have kept : timer ∈ (ledger.timers.remove id).pending := member
    rw [remove_pending] at kept
    exact punctual.future timer (List.mem_filter.mp kept).1 now noted
  | clear =>
    refine ⟨punctual.ordered, punctual.past, ?_⟩
    intro timer member
    exact absurd member List.not_mem_nil

theorem ordered_recordAll (punctual : Punctual last ledger) {operations : List Operation}
    (timely : Timely last operations) :
    (ledger.recordAll operations).delivered.Pairwise Timer.Before := by
  induction operations generalizing last ledger with
  | nil => exact punctual.ordered
  | cons operation rest ih => exact ih (punctual.record timely.1) timely.2

end Punctual

/-! ## Cancelled timers -/

/-- What has been cancelled stays so. -/
theorem removed_recordAll (ledger : Ledger) (operations : List Operation) :
    ledger.removed <+: (ledger.recordAll operations).removed := by
  induction operations generalizing ledger with
  | nil => exact List.prefix_rfl
  | cons operation rest ih =>
    have step : ledger.removed <+: (ledger.record operation).removed := by
      cases operation with
      | remove id => exact List.prefix_append _ _
      | _ => exact List.prefix_rfl
    exact step.trans (ih (ledger.record operation))

namespace Accounted

variable {ledger : Ledger}

theorem places_nodup (accounted : Accounted ledger) : ledger.places.Nodup := by
  rw [accounted.placed.nodup_iff]
  exact accounted.increasing.imp fun earlier equal => Nat.ne_of_lt earlier (congrArg Timer.id equal)

theorem eq_of_id_eq (accounted : Accounted ledger) {timer other : Timer}
    (member : timer ∈ ledger.places) (otherMember : other ∈ ledger.places)
    (same : timer.id = other.id) : timer = other := by
  have numbers : (ledger.inserted.map Timer.id).Nodup := by
    refine List.pairwise_map.mpr (accounted.increasing.imp ?_)
    exact fun earlier => Nat.ne_of_lt earlier
  exact List.inj_on_of_nodup_map numbers (accounted.placed.mem_iff.mp member)
    (accounted.placed.mem_iff.mp otherMember) same

/-- No timer that was cancelled has been delivered. -/
theorem not_delivered_of_removed (accounted : Accounted ledger) {timer other : Timer}
    (removed : timer ∈ ledger.removed) (delivered : other ∈ ledger.delivered) :
    other.id ≠ timer.id := by
  intro same
  have nodup := accounted.places_nodup
  have equal : other = timer := by
    refine accounted.eq_of_id_eq ?_ ?_ same
    · simp [Ledger.places, delivered]
    · simp [Ledger.places, removed]
  subst equal
  simp only [Ledger.places, List.append_assoc, List.nodup_append, List.mem_append] at nodup
  exact nodup.2.1.2.2 other delivered other (Or.inl removed) rfl

end Accounted

/-- A timer that is cancelled while it is pending is never delivered. -/
theorem never_delivered {ledger : Ledger} (accounted : Accounted ledger) {id : Nat}
    (pending : ledger.timers.isPending id = true) (later : List Operation) :
    ∀ timer ∈ (ledger.recordAll (.remove id :: later)).delivered, timer.id ≠ id := by
  intro timer delivered
  obtain ⟨cancelled, member, rfl⟩ := (ledger.timers.isPending_iff id).mp pending
  have removed : cancelled ∈ (ledger.record (.remove cancelled.id)).removed :=
    List.mem_append_right _ (List.mem_filter.mpr ⟨member, beq_self_eq_true _⟩)
  have still := (removed_recordAll (ledger.record (.remove cancelled.id)) later).subset removed
  exact (accounted.recordAll (.remove cancelled.id :: later)).not_delivered_of_removed still
    delivered

/-! ## Runs -/

/-- After any operations that keep the time: every scheduled timer is in exactly one place; a number
can be cancelled just if its timer is pending, which takes that timer away and no other one, for
good; taking what is due delivers all that is due and nothing else; and all deliveries so far are in
the order of their deadlines, and for one deadline in the order in which they were scheduled. -/
theorem delivered_in_order (operations : List Operation) (timely : Timely none operations) :
    let ledger := Ledger.new.recordAll operations
    (ledger.places.Perm ledger.inserted ∧ ledger.places.Nodup ∧
      ledger.inserted.Pairwise fun timer later => timer.id < later.id) ∧
    (∀ id, (ledger.timers.isPending id = true ↔
      ∃ timer ∈ ledger.timers.pending, timer.id = id) ∧
      (ledger.record (.remove id)).timers.pending =
        ledger.timers.pending.filter (fun timer => timer.id != id) ∧
      (ledger.timers.isPending id = true → ∀ later,
        ∀ timer ∈ (ledger.recordAll (.remove id :: later)).delivered, timer.id ≠ id)) ∧
    (∀ now, (ledger.timers.takeDue now).1 =
        ledger.timers.pending.filter (fun timer => decide (timer.deadline ≤ now)) ∧
      (ledger.timers.takeDue now).2.pending =
        ledger.timers.pending.filter fun timer => decide (now < timer.deadline)) ∧
    ledger.delivered.Pairwise Timer.Before := by
  intro ledger
  have accounted : Accounted ledger := Accounted.new.recordAll operations
  refine ⟨⟨accounted.placed, accounted.places_nodup, accounted.increasing⟩, ?_, ?_, ?_⟩
  · intro id
    exact ⟨ledger.timers.isPending_iff id, ledger.timers.remove_pending id,
      never_delivered accounted⟩
  · intro now
    exact ⟨ledger.timers.due_eq now, ledger.timers.notDue_eq now⟩
  · exact Punctual.new.ordered_recordAll timely

/-- Two deadlines that are the same, one that is cancelled, and one that is set later. -/
def twoRounds : List Operation :=
  [.insert 5 .heartbeat .heartbeat, .insert 3 .connect .cameraCmd, .insert 3 .capture .cameraCmd,
    .insert 8 .getMode .remoteCmd, .takeDue 4, .remove 0, .insert 6 .stopMode .remoteCmd,
    .takeDue 9]

theorem delivered_in_order_twoRounds :
    (Ledger.new.recordAll twoRounds).delivered.map Timer.id = [1, 2, 4, 3] ∧
      (Ledger.new.recordAll twoRounds).delivered.Pairwise Timer.Before := by
  have timely : Timely none twoRounds := by
    simp [Timely, twoRounds, Operation.Timely, Operation.clock]
  exact ⟨by decide, (delivered_in_order twoRounds timely).2.2.2⟩

end Timers

end Tether
