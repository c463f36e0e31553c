import Tether.Event
import Tether.Limits
import Tether.Topic

/-!
# Timers

Delayed events wait in the order of their deadlines, those of one deadline in the order in which
they were scheduled. Each has a number of its own by which it can be cancelled; an index leads from
the numbers to the deadlines. The index always agrees with what is pending, so that no timer can be
cancelled that is not pending, and none that is pending is missed.
-/

namespace Tether

/-- An event that is due on a topic at a deadline, in milliseconds. -/
structure Timer where
  deadline : Nat
  id : Nat
  event : Event
  topic : Topic
deriving DecidableEq

/-- Whether a timer fires before another one: it is due earlier, or at the same time and was
scheduled earlier. -/
def Timer.Before (timer other : Timer) : Prop :=
  timer.deadline < other.deadline ∨ timer.deadline = other.deadline ∧ timer.id < other.id

namespace Timers

/-! ## The index -/

/-- The entries of an index whose numbers are selected. -/
def keepNumbers (selected : Nat → Bool) (index : List (Nat × Nat)) : List (Nat × Nat) :=
  index.filter fun entry => selected entry.1

theorem lookup_keepNumbers (selected : Nat → Bool) (index : List (Nat × Nat)) (id : Nat) :
    (keepNumbers selected index).lookup id = if selected id then index.lookup id else none := by
  induction index with
  | nil => exact (ite_self none).symm
  | cons entry rest ih =>
    obtain ⟨number, deadline⟩ := entry
    unfold keepNumbers at ih ⊢
    by_cases same : id = number
    · subst same
      cases chosen : selected id with
      | true => simp [chosen]
      | false => simpa [chosen] using ih
    · have other : (id == number) = false := beq_false_of_ne same
      cases chosen : selected number with
      | true => simpa [chosen, List.lookup_cons, other] using ih
      | false => simpa [chosen, List.lookup_cons, other] using ih

/-- An index leads from the numbers of the pending timers to their deadlines. -/
def Indexes (index : List (Nat × Nat)) (pending : List Timer) : Prop :=
  ∀ id deadline, index.lookup id = some deadline ↔
    ∃ timer ∈ pending, timer.id = id ∧ timer.deadline = deadline

theorem indexes_nil : Indexes [] [] := by
  intro id deadline
  constructor
  · intro known
    cases known
  · rintro ⟨timer, member, -⟩
    exact absurd member List.not_mem_nil

theorem numbered_nil (limit : Nat) : ∀ timer ∈ ([] : List Timer), timer.id < limit :=
  fun _ member => absurd member List.not_mem_nil

/-! ## Places -/

/-- Puts a timer behind all that are due no later. -/
def place (timer : Timer) : List Timer → List Timer
  | [] => [timer]
  | other :: rest =>
      if other.deadline ≤ timer.deadline then other :: place timer rest
      else timer :: other :: rest

theorem mem_place {timer other : Timer} {pending : List Timer} :
    other ∈ place timer pending ↔ other = timer ∨ other ∈ pending := by
  induction pending with
  | nil => exact List.mem_cons
  | cons first rest ih =>
    unfold place
    split
    · rw [List.mem_cons, ih, List.mem_cons]
      exact or_left_comm
    · exact List.mem_cons

/-- A new timer fires behind all that are due no later. -/
theorem pairwise_place {timer : Timer} {pending : List Timer}
    (ordered : pending.Pairwise Timer.Before) (newer : ∀ other ∈ pending, other.id < timer.id) :
    (place timer pending).Pairwise Timer.Before := by
  induction pending with
  | nil => exact List.pairwise_singleton _ _
  | cons first rest ih =>
    obtain ⟨head, tail⟩ := List.pairwise_cons.mp ordered
    have newerRest : ∀ other ∈ rest, other.id < timer.id :=
      fun other member => newer other (List.mem_cons_of_mem first member)
    unfold place
    split
    · next noLater =>
      refine List.pairwise_cons.mpr ⟨fun other member => ?_, ih tail newerRest⟩
      rcases mem_place.mp member with rfl | old
      · rcases Nat.lt_or_eq_of_le noLater with earlier | same
        · exact Or.inl earlier
        · exact Or.inr ⟨same, newer first List.mem_cons_self⟩
      · exact head other old
    · next later =>
      refine List.pairwise_cons.mpr ⟨fun other member => Or.inl ?_, ordered⟩
      have sooner : timer.deadline < first.deadline := Nat.lt_of_not_le later
      rcases List.mem_cons.mp member with rfl | behind
      · exact sooner
      · rcases head other behind with much | same
        · exact Nat.lt_trans sooner much
        · exact same.1 ▸ sooner

/-- Of two timers in order one fires first. -/
theorem before_of_ne {timer other : Timer} {pending : List Timer}
    (ordered : pending.Pairwise Timer.Before) (member : timer ∈ pending)
    (otherMember : other ∈ pending) (different : timer ≠ other) :
    timer.Before other ∨ other.Before timer := by
  induction pending with
  | nil => cases member
  | cons first rest ih =>
    obtain ⟨head, tail⟩ := List.pairwise_cons.mp ordered
    rcases List.mem_cons.mp member with rfl | later
    · rcases List.mem_cons.mp otherMember with rfl | otherLater
      · exact absurd rfl different
      · exact Or.inl (head other otherLater)
    · rcases List.mem_cons.mp otherMember with rfl | otherLater
      · exact Or.inr (head timer later)
      · exact ih tail later otherLater

end Timers

/-- The pending timers in the order in which they fire, the index of their deadlines, and the number
of the next one. -/
structure Timers where
  pending : List Timer
  index : List (Nat × Nat)
  /-- The numbers never run out here. A counter of 64 bits that goes round agrees with this one for
  the first 2⁶⁴ timers. -/
  nextId : Nat
  ordered : pending.Pairwise Timer.Before
  numbered : ∀ timer ∈ pending, timer.id < nextId
  indexed : Timers.Indexes index pending

namespace Timers

def empty : Timers where
  pending := []
  index := []
  nextId := 0
  ordered := List.Pairwise.nil
  numbered := numbered_nil 0
  indexed := indexes_nil

instance : Inhabited Timers := ⟨empty⟩

variable (timers : Timers)

/-- No two pending timers have the same number. -/
theorem eq_of_id_eq {timer other : Timer} (member : timer ∈ timers.pending)
    (otherMember : other ∈ timers.pending) (same : timer.id = other.id) : timer = other := by
  have known : timers.index.lookup timer.id = some timer.deadline :=
    (timers.indexed _ _).mpr ⟨timer, member, rfl, rfl⟩
  have otherKnown : timers.index.lookup timer.id = some other.deadline :=
    (timers.indexed _ _).mpr ⟨other, otherMember, same.symm, rfl⟩
  have due : timer.deadline = other.deadline :=
    Option.some.inj (known.symm.trans otherKnown)
  apply Decidable.byContradiction
  intro different
  rcases before_of_ne timers.ordered member otherMember different with before | before
  · rcases before with sooner | older
    · exact Nat.ne_of_lt sooner due
    · exact Nat.ne_of_lt older.2 same
  · rcases before with sooner | older
    · exact Nat.ne_of_lt sooner due.symm
    · exact Nat.ne_of_lt older.2 same.symm

/-! ## Scheduling -/

section Insert

variable (deadline : Nat) (event : Event) (topic : Topic)

/-- The timer of the next number. -/
def next : Timer :=
  ⟨deadline, timers.nextId, event, topic⟩

theorem numbered_place :
    ∀ timer ∈ place (timers.next deadline event topic) timers.pending,
      timer.id < timers.nextId + 1 := by
  intro timer member
  rcases mem_place.mp member with rfl | old
  · exact Nat.lt_succ_self _
  · exact Nat.lt_succ_of_lt (timers.numbered timer old)

theorem indexes_place :
    Indexes ((timers.nextId, deadline) :: timers.index)
      (place (timers.next deadline event topic) timers.pending) := by
  intro id due
  rw [List.lookup_cons]
  by_cases fresh : id = timers.nextId
  · subst fresh
    rw [beq_self_eq_true]
    constructor
    · rintro ⟨⟩
      exact ⟨timers.next deadline event topic, mem_place.mpr (Or.inl rfl), rfl, rfl⟩
    · rintro ⟨timer, member, number, rfl⟩
      rcases mem_place.mp member with rfl | old
      · rfl
      · exact absurd number (Nat.ne_of_lt (timers.numbered timer old))
  · rw [beq_false_of_ne fresh, timers.indexed]
    constructor
    · rintro ⟨timer, old, number, rfl⟩
      exact ⟨timer, mem_place.mpr (Or.inr old), number, rfl⟩
    · rintro ⟨timer, member, number, rfl⟩
      rcases mem_place.mp member with rfl | old
      · exact absurd number.symm fresh
      · exact ⟨timer, old, number, rfl⟩

/-- Schedules an event; the result is the number of its timer. -/
def insert : Timers × Nat :=
  ({  pending := place (timers.next deadline event topic) timers.pending
      index := (timers.nextId, deadline) :: timers.index
      nextId := timers.nextId + 1
      ordered := pairwise_place timers.ordered timers.numbered
      numbered := timers.numbered_place deadline event topic
      indexed := timers.indexes_place deadline event topic },
    timers.nextId)

end Insert

/-! ## Cancelling -/

section Remove

variable (id : Nat)

/-- Whether a timer is pending: the index knows its deadline, and it is listed under both. -/
def isPending : Bool :=
  match timers.index.lookup id with
  | some deadline => timers.pending.any fun timer => timer.deadline == deadline && timer.id == id
  | none => false

/-- The pending timers without the one that the index leads to from a number. -/
def pendingWithout : List Timer :=
  match timers.index.lookup id with
  | some deadline =>
      timers.pending.filter fun timer => !(timer.deadline == deadline && timer.id == id)
  | none => timers.pending

theorem pendingWithout_eq :
    timers.pendingWithout id = timers.pending.filter fun timer => timer.id != id := by
  unfold pendingWithout
  split
  · next deadline known =>
    apply List.filter_congr
    intro timer member
    by_cases same : timer.id = id
    · have listed := (timers.indexed timer.id timer.deadline).mpr ⟨timer, member, rfl, rfl⟩
      rw [same, known] at listed
      rw [Option.some.inj listed, same]
      simp
    · have other : (timer.id == id) = false := beq_false_of_ne same
      simp [bne, other]
  · next unknown =>
    refine (List.filter_eq_self.mpr fun timer member => bne_iff_ne.mpr fun same => ?_).symm
    have listed := (timers.indexed timer.id timer.deadline).mpr ⟨timer, member, rfl, rfl⟩
    rw [same, unknown] at listed
    cases listed

theorem isPending_iff :
    timers.isPending id = true ↔ ∃ timer ∈ timers.pending, timer.id = id := by
  unfold isPending
  constructor
  · intro found
    split at found
    · obtain ⟨timer, member, listed⟩ := List.any_eq_true.mp found
      exact ⟨timer, member, by simpa using (Bool.and_eq_true_iff.mp listed).2⟩
    · cases found
  · rintro ⟨timer, member, rfl⟩
    rw [(timers.indexed timer.id timer.deadline).mpr ⟨timer, member, rfl, rfl⟩]
    exact List.any_eq_true.mpr ⟨timer, member, by simp⟩

theorem ordered_pendingWithout : (timers.pendingWithout id).Pairwise Timer.Before := by
  rw [pendingWithout_eq]
  exact timers.ordered.filter _

theorem numbered_pendingWithout :
    ∀ timer ∈ timers.pendingWithout id, timer.id < timers.nextId := by
  intro timer member
  rw [pendingWithout_eq] at member
  exact timers.numbered timer (List.mem_filter.mp member).1

theorem indexes_pendingWithout :
    Indexes (keepNumbers (· != id) timers.index) (timers.pendingWithout id) := by
  intro number deadline
  rw [lookup_keepNumbers, pendingWithout_eq]
  split
  · next other =>
    rw [timers.indexed]
    constructor
    · rintro ⟨timer, member, rfl, rfl⟩
      exact ⟨timer, List.mem_filter.mpr ⟨member, other⟩, rfl, rfl⟩
    · rintro ⟨timer, member, rfl, rfl⟩
      exact ⟨timer, (List.mem_filter.mp member).1, rfl, rfl⟩
  · next same =>
    refine ⟨nofun, ?_⟩
    rintro ⟨timer, member, rfl, rfl⟩
    exact absurd (List.mem_filter.mp member).2 same

/-- Cancels the timer of a number, if it is pending. -/
def remove : Timers where
  pending := timers.pendingWithout id
  index := keepNumbers (· != id) timers.index
  nextId := timers.nextId
  ordered := timers.ordered_pendingWithout id
  numbered := timers.numbered_pendingWithout id
  indexed := timers.indexes_pendingWithout id

theorem remove_pending :
    (timers.remove id).pending = timers.pending.filter fun timer => timer.id != id :=
  timers.pendingWithout_eq id

end Remove

/-! ## Firing -/

section TakeDue

variable (now : Nat)

/-- The timers that are due, earliest first. -/
def due : List Timer :=
  timers.pending.takeWhile fun timer => decide (timer.deadline ≤ now)

/-- The timers that are not due yet. -/
def notDue : List Timer :=
  timers.pending.dropWhile fun timer => decide (timer.deadline ≤ now)

theorem due_append_notDue : timers.due now ++ timers.notDue now = timers.pending :=
  List.takeWhile_append_dropWhile

theorem mem_of_mem_notDue {timer : Timer} (member : timer ∈ timers.notDue now) :
    timer ∈ timers.pending := by
  rw [← timers.due_append_notDue now]
  exact List.mem_append_right _ member

theorem ordered_notDue : (timers.notDue now).Pairwise Timer.Before :=
  timers.ordered.sublist (List.dropWhile_sublist _)

theorem numbered_notDue : ∀ timer ∈ timers.notDue now, timer.id < timers.nextId :=
  fun timer member => timers.numbered timer (timers.mem_of_mem_notDue now member)

/-- A timer that is due comes before all that are not. -/
theorem before_of_mem_due {timer other : Timer} (member : timer ∈ timers.due now)
    (otherMember : other ∈ timers.notDue now) : timer.Before other := by
  have ordered := timers.ordered
  rw [← timers.due_append_notDue now, List.pairwise_append] at ordered
  exact ordered.2.2 timer member other otherMember

theorem indexes_notDue :
    Indexes (keepNumbers (fun id => (timers.due now).all fun timer => timer.id != id) timers.index)
      (timers.notDue now) := by
  intro id deadline
  rw [lookup_keepNumbers]
  split
  · next other =>
    rw [timers.indexed]
    constructor
    · rintro ⟨timer, member, rfl, rfl⟩
      rw [← timers.due_append_notDue now] at member
      rcases List.mem_append.mp member with due | later
      · have fired := List.all_eq_true.mp other timer due
        exact absurd rfl (bne_iff_ne.mp fired)
      · exact ⟨timer, later, rfl, rfl⟩
    · rintro ⟨timer, later, rfl, rfl⟩
      exact ⟨timer, timers.mem_of_mem_notDue now later, rfl, rfl⟩
  · next fired =>
    refine ⟨nofun, ?_⟩
    rintro ⟨timer, later, rfl, rfl⟩
    refine absurd (List.all_eq_true.mpr fun other due => ?_) fired
    -- A timer that fires is another one than a timer that stays.
    rw [bne_iff_ne]
    intro same
    have before := timers.before_of_mem_due now due later
    have equal : other = timer := by
      refine timers.eq_of_id_eq ?_ (timers.mem_of_mem_notDue now later) same
      rw [← timers.due_append_notDue now]
      exact List.mem_append_left _ due
    subst equal
    rcases before with sooner | older
    · exact Nat.lt_irrefl _ sooner
    · exact Nat.lt_irrefl _ older.2

/-- The timers that are due, earliest first, and the others. -/
def takeDue : List Timer × Timers :=
  (timers.due now,
    { pending := timers.notDue now
      index := keepNumbers (fun id => (timers.due now).all fun timer => timer.id != id) timers.index
      nextId := timers.nextId
      ordered := timers.ordered_notDue now
      numbered := timers.numbered_notDue now
      indexed := timers.indexes_notDue now })

end TakeDue

def clear : Timers :=
  { empty with
    nextId := timers.nextId
    numbered := numbered_nil timers.nextId }

/-- The deadline of the timer that fires first. -/
def nextDeadline? : Option Nat :=
  timers.pending.head?.map Timer.deadline

/-! ## Delays -/

/-- A delay within the bounds that timers honour, in milliseconds. -/
def clampDelay (delay : Nat) : Nat :=
  max Limits.minDelayMs (min delay Limits.maxDelayMs)

/-- Whether a delay is longer than the longest one, to which it is then cut down. -/
def isTooLong (delay : Nat) : Bool :=
  decide (Limits.maxDelayMs < delay)

/-- The note on a delay that is cut down. -/
def tooLongNote : String :=
  "delay out of range, clamped"

end Timers

end Tether
