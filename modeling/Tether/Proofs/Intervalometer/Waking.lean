import Tether.Proofs.Intervalometer.Deadline

/-!
# What wakes a waiting sequence

A sequence that waits goes on when the end of its interval is dispatched. The timer of the noted
deadline sends it once, and it can be dispatched in `Capturing`, in `Waiting` or in `Error`, in
the middle of which the camera may fail and come back. Each of the three states deals with it in its
own way, so what can be relied upon differs from state to state (`Wakes`):

* in `Capturing`, the interval is known to be over, or its end is still to come;
* in `Waiting`, its end is still to come;
* in `Error`, the same as in `Capturing`, if the sequence is to go back to `Waiting`.

Every turn keeps this (`Turned.wakes`), and so does whatever happens at the site of the machine
(`awake_step`). Therefore a sequence that waits is never left without the event that ends its
waiting (`woken_of_reachable`).
-/

namespace Tether

namespace Intervalometer

/-! ## What is to come -/

/-- A timer of the end of an interval is pending, or it has fired and what it sent is queued. -/
def Comes (timers : Timers) (queued : List Letter) (id : Nat) : Prop :=
  (∃ timer ∈ timers.pending,
      timer.id = id ∧ timer.event = .intervalometerDeadline ∧ timer.topic = .modeFsm) ∨
    ⟨.intervalometerDeadline, some id⟩ ∈ queued

/-- The end of the interval that is noted is to come. -/
def Awaited (memory : Memory) (timers : Timers) (queued : List Letter) : Prop :=
  ∃ id, memory.deadline = some id ∧ Comes timers queued id

/-- What each state relies upon to get on. -/
structure Wakes (leaf : State) (memory : Memory) (timers : Timers) (queued : List Letter) :
    Prop where
  capturing : leaf = .capturing → 0 < memory.interval →
    memory.expired = true ∨ Awaited memory timers queued
  waiting : leaf = .waiting → memory.expired = false ∧ Awaited memory timers queued
  error : leaf = .error → memory.resume = .waiting →
    memory.expired = true ∨ Awaited memory timers queued

variable {leaf : State} {memory : Memory} {timers later : Timers} {queued kept : List Letter}

theorem Awaited.mono (awaited : Awaited memory timers queued)
    (comes : ∀ id, memory.deadline = some id → Comes timers queued id → Comes later kept id) :
    Awaited memory later kept := by
  obtain ⟨id, noted, coming⟩ := awaited
  exact ⟨id, noted, comes id noted coming⟩

/-- Only what becomes of the noted timer matters. -/
theorem Wakes.mono (wakes : Wakes leaf memory timers queued)
    (comes : ∀ id, memory.deadline = some id → Comes timers queued id → Comes later kept id) :
    Wakes leaf memory later kept where
  capturing here interval := (wakes.capturing here interval).imp_right (·.mono comes)
  waiting here := (wakes.waiting here).imp_right (·.mono comes)
  error here resume := (wakes.error here resume).imp_right (·.mono comes)

theorem Wakes.of_not_isInside (outside : leaf.isInside = false) :
    Wakes leaf memory timers queued where
  capturing here := absurd outside (by rw [here]; decide)
  waiting here := absurd outside (by rw [here]; decide)
  error here := absurd outside (by rw [here]; decide)

/-- Where the end of an interval is only noted. -/
theorem Wakes.of_expired (expired : memory.expired = true) (busy : leaf ≠ .waiting) :
    Wakes leaf memory timers queued where
  capturing _ _ := Or.inl expired
  waiting here := absurd here busy
  error _ _ := Or.inl expired

/-- A capture begins with a timer of its own. -/
theorem Wakes.shooting (memory : Memory) (timers : Timers) (now : Nat) (queued : List Letter) :
    Wakes .capturing (memory.shooting timers.nextId) (renewed memory timers now) queued where
  capturing _ interval := by
    have positive : 0 < memory.interval := interval
    let timer : Timer := ⟨now + Timers.clampDelay memory.interval.toInt.toNat, timers.nextId,
      .intervalometerDeadline, .modeFsm⟩
    refine Or.inr ⟨timers.nextId, if_pos positive, Or.inl ⟨timer, ?_, rfl, rfl, rfl⟩⟩
    rw [renewed, if_pos positive]
    refine Timers.mem_place.mpr (Or.inl ?_)
    rw [Timers.next, Timers.without_nextId]
  waiting := nofun
  error := nofun

/-! ## Turns -/

variable {before : Scope State Memory} {event : Event} {run : State × Scope State Memory}

/-- A turn keeps what a state relies upon, and what it relied upon may be the event of the turn. -/
theorem Turned.wakes (rests : leaf.Rests) (turned : Turned before leaf event run)
    (wakes : event ≠ .intervalometerDeadline →
      Wakes leaf before.memory before.timers queued) :
    Wakes run.1 run.2.memory run.2.timers queued := by
  cases turned with
  | stay ignored changes =>
    dsimp only
    rw [changes.memory, changes.timers]
    by_cases expiry : event = .intervalometerDeadline
    · -- The end of an interval is ignored in `Ready` only.
      subst expiry
      refine .of_not_isInside ?_
      revert rests ignored
      cases leaf <;> decide
    · exact wakes expiry
  | begin changes =>
    dsimp only
    rw [changes.memory, changes.timers]
    exact .shooting _ _ _ _
  | stop inside changes => exact .of_not_isInside rfl
  | note busy changes =>
    refine .of_expired (by rw [changes.memory]; rfl) ?_
    rcases busy with rfl | rfl
    · exact nofun
    · exact nofun
  | finish complete changes => exact .of_not_isInside rfl
  | again incomplete due changes =>
    dsimp only
    rw [changes.memory, changes.timers]
    exact .shooting _ _ _ _
  | pause incomplete early changes =>
    -- The sequence waits only where the interval is not over.
    obtain ⟨positive, early⟩ :
        decide (before.memory.interval ≤ 0) = false ∧ before.memory.expired = false :=
      Bool.or_eq_false_iff.mp early
    have interval : 0 < before.memory.interval := Int32.not_le.mp (of_decide_eq_false positive)
    have awaited : Awaited before.memory before.timers queued :=
      ((wakes nofun).capturing rfl interval).resolve_left (by simp [early])
    dsimp only
    rw [changes.memory, changes.timers]
    exact ⟨nofun, fun _ => ⟨early, awaited⟩, nofun⟩
  | next changes =>
    dsimp only
    rw [changes.memory, changes.timers]
    exact .shooting { before.memory with deadline := none } _ _ _
  | park busy changes =>
    dsimp only
    rw [changes.memory, changes.timers]
    refine ⟨nofun, nofun, fun _ resume => ?_⟩
    have waiting : leaf = .waiting := resume
    exact Or.inr ((wakes nofun).waiting waiting).2
  | retry due changes =>
    dsimp only
    rw [changes.memory, changes.timers]
    exact .shooting _ _ _ _
  | rejoin early waiting changes =>
    -- The end of the interval has not been dispatched, so it is still to come.
    have awaited : Awaited before.memory before.timers queued :=
      ((wakes nofun).error rfl waiting).resolve_left (by simp [early])
    dsimp only
    rw [changes.memory, changes.timers]
    exact ⟨nofun, fun _ => ⟨early, awaited⟩, nofun⟩

/-- The end of an interval ends the waiting. -/
theorem Turned.leaf_eq_capturing (turned : Turned before .waiting .intervalometerDeadline run) :
    run.1 = .capturing := by
  cases turned with
  | stay ignored => exact absurd ignored (by decide)
  | note busy => rcases busy with busy | busy <;> cases busy
  | next => rfl

/-! ## At a site -/

variable {site : Site State Memory}

/-- What holds of the machine at its site. -/
structure Awake (site : Site State Memory) : Prop where
  fit : Clocked.Fit ⟨site.machine, site.timers, site.foreign⟩
  wakes : Wakes site.machine.leaf site.machine.memory site.timers site.inbox.items

theorem awake_new : Awake (.new chart .new) where
  fit := Clocked.fit_new
  wakes := .of_not_isInside rfl

theorem Comes.queue {id : Nat} (comes : Comes timers queued id)
    (keeps : ∀ letter ∈ queued, letter ∈ kept) : Comes timers kept id :=
  comes.imp_right (keeps _)

theorem Awake.receive (awake : Awake site) {inbox : Mailbox Letter Limits.mailbox}
    (keeps : ∀ letter ∈ site.inbox.items, letter ∈ inbox.items) :
    Awake { site with inbox := inbox } where
  fit := awake.fit
  wakes := awake.wakes.mono fun _ _ comes => comes.queue keeps

/-- What a machine that has not been started relies upon is what it does once it is started. -/
theorem Awake.base (awake : Awake site) :
    Wakes (base site.machine) (readied site.machine) site.timers site.inbox.items := by
  have wakes := awake.wakes
  unfold Intervalometer.base readied
  split
  · exact wakes
  · exact .of_not_isInside rfl

theorem Awake.start (awake : Awake site) (now : Nat)
    (room : site.HasRoom (Site.letters topics
      (chart.obey site.machine site.timers now .start)).length) :
    Awake (site.absorb topics (chart.obey site.machine site.timers now .start)) := by
  refine ⟨awake.fit.obey .start now, ?_⟩
  obtain ⟨scope, run, -, begun, turn, rfl⟩ :=
    turned_obey awake.fit.placed site.timers now .start
  rw [turn] at room ⊢
  show Wakes (Intervalometer.base site.machine) scope.memory scope.timers _
  rw [begun.memory, begun.timers]
  refine awake.base.mono fun _ _ comes => comes.queue fun _ member => ?_
  rw [Site.items_absorb room]
  exact List.mem_append_left _ member

/-- If what wakes the sequence is the letter of the turn, the turn deals with it. Otherwise it is
still in the mailbox. -/
theorem Awake.turn (awake : Awake site) {letter : Letter} {rest : Mailbox Letter Limits.mailbox}
    (now : Nat) (popped : site.inbox.pop? = some (letter, rest))
    (room : { site with inbox := rest }.HasRoom (Site.letters topics
      (chart.obey site.machine site.timers now (.dispatch letter.event))).length) :
    Awake ({ site with inbox := rest }.absorb topics
      (chart.obey site.machine site.timers now (.dispatch letter.event))) := by
  refine ⟨awake.fit.obey (.dispatch letter.event) now, ?_⟩
  obtain ⟨scope, run, -, begun, turn, turned⟩ :=
    turned_obey awake.fit.placed site.timers now (.dispatch letter.event)
  have others : letter.event ≠ .intervalometerDeadline →
      Wakes (Intervalometer.base site.machine) scope.memory scope.timers rest.items := by
    intro other
    rw [begun.memory, begun.timers]
    refine awake.base.mono fun id _ comes => comes.imp_right fun member => ?_
    rw [Mailbox.items_of_pop? popped] at member
    rcases List.mem_cons.mp member with first | behind
    · exact absurd (congrArg Letter.event first).symm other
    · exact behind
  rw [turn] at room ⊢
  have woken := Turned.wakes (base_rests awake.fit.placed) turned others
  refine woken.mono fun _ _ comes => comes.queue fun _ member => ?_
  rw [Site.items_absorb room]
  exact List.mem_append_left _ member

/-- A timer that fires is not the noted one, or what it sends is queued. -/
theorem Awake.fire (awake : Awake site) {timer : Timer} (pending : timer ∈ site.timers.pending)
    (room : timer.topic ∈ topics → site.HasRoom 1) : Awake (site.fire topics timer) := by
  refine ⟨awake.fit.meet (.remove timer.id), awake.wakes.mono fun id _ comes => ?_⟩
  unfold Site.fire
  dsimp only
  rcases comes with ⟨noted, still, number, event, topic⟩ | sent
  · by_cases same : timer.id = id
    · -- No two timers have one number.
      have fired : noted = timer :=
        site.timers.eq_of_id_eq still pending (number.trans same.symm)
      subst fired
      have heard : noted.topic ∈ topics := by rw [topic]; decide
      rw [if_pos heard, Mailbox.items_put_of_lt (room heard), event, number]
      exact Or.inr (List.mem_append_right _ List.mem_cons_self)
    · refine Or.inl ⟨noted, ?_, number, event, topic⟩
      rw [Timers.remove_pending, List.mem_filter, bne_iff_ne, number]
      exact ⟨still, Ne.symm same⟩
  · right
    split
    · next heard =>
      rw [Mailbox.items_put_of_lt (room heard)]
      exact List.mem_append_left _ sent
    · exact sent

theorem Awake.set (awake : Awake site) (deadline : Nat) (event : Event) (topic : Topic) :
    Awake (site.set deadline event topic) where
  fit := awake.fit.meet (.set deadline event topic)
  wakes := awake.wakes.mono fun _ _ comes => comes.imp_left fun ⟨timer, pending, known⟩ =>
    ⟨timer, Timers.mem_place.mpr (Or.inr pending), known⟩

/-- What others cancel is not the noted timer. -/
theorem Awake.cancel (awake : Awake site) {id : Nat} (member : id ∈ site.foreign) :
    Awake { site with timers := site.timers.remove id } := by
  refine ⟨awake.fit.meet (.remove id), awake.wakes.mono fun noted deadline comes => ?_⟩
  refine comes.imp_left fun ⟨timer, pending, number, known⟩ => ⟨timer, ?_, number, known⟩
  rw [Timers.remove_pending, List.mem_filter, bne_iff_ne, number]
  refine ⟨pending, fun same => ?_⟩
  exact (awake.fit.sound.fresh noted deadline).2 (same ▸ member)

theorem awake_step {before after : Site State Memory}
    (step : Site.Step chart topics before after) (awake : Awake before) : Awake after := by
  cases step with
  | start now room => exact awake.start now room
  | turn now popped room => exact awake.turn now popped room
  | receive event room =>
    refine awake.receive fun letter member => ?_
    rw [Mailbox.items_put_of_lt room]
    exact List.mem_append_left _ member
  | fire pending room => exact awake.fire pending room
  | set deadline event topic => exact awake.set deadline event topic
  | cancel member => exact awake.cancel member

theorem awake_of_reachable (reachable : Site.Reachable chart topics .new site) : Awake site := by
  induction reachable with
  | initial => exact awake_new
  | step _ step ih => exact awake_step step ih

/-- What can be relied upon about a sequence that waits, or that is to go back to waiting. -/
structure Woken (site : Site State Memory) : Prop where
  waiting : site.machine.leaf = .waiting →
    site.machine.memory.expired = false ∧
      Awaited site.machine.memory site.timers site.inbox.items
  parked : site.machine.leaf = .error → site.machine.memory.resume = .waiting →
    site.machine.memory.expired = true ∨
      Awaited site.machine.memory site.timers site.inbox.items
  /-- What is to come ends the waiting. -/
  ends : site.machine.leaf = .waiting → ∀ timers now,
    (chart.obey site.machine timers now (.dispatch .intervalometerDeadline)).machine.leaf =
      .capturing

theorem Awake.ends (awake : Awake site) (waiting : site.machine.leaf = .waiting)
    (timers : Timers) (now : Nat) :
    (chart.obey site.machine timers now (.dispatch .intervalometerDeadline)).machine.leaf =
      .capturing := by
  obtain ⟨scope, run, -, -, turn, turned⟩ :=
    turned_obey awake.fit.placed timers now (.dispatch .intervalometerDeadline)
  have based : Intervalometer.base site.machine = .waiting := by
    unfold Intervalometer.base
    split
    · exact waiting
    · next fresh =>
      rw [awake.fit.placed.begun (eq_false_of_ne_true fresh)] at waiting
      cases waiting
  rw [turn]
  exact Turned.leaf_eq_capturing (based ▸ turned)

/-- Whatever events arrive, also errors of the camera, and in whichever order timers fire: the
event that wakes a waiting sequence is to come, and a sequence that is parked while it waits knows
that its interval is over or has that event to come. -/
theorem woken_of_reachable (reachable : Site.Reachable chart topics .new site) : Woken site :=
  have awake := awake_of_reachable reachable
  ⟨awake.wakes.waiting, awake.wakes.error, awake.ends⟩

/-- The camera fails and comes back while the sequence waits, and then the interval is over. -/
theorem woken_of_reachable_reconnected :
    ∃ site, Site.Reachable chart topics .new site ∧ site.machine.leaf = .waiting ∧
      site.inbox.items = [⟨.intervalometerDeadline, some 0⟩] ∧ Woken site := by
  have begun : Site.Reachable chart topics .new _ :=
    Site.Reachable.initial.step (.receive (.intervalometerStart 60000 0) (by decide +kernel))
  have shot : Site.Reachable chart topics .new _ := begun.step (.turn 0 rfl (by decide +kernel))
  have done : Site.Reachable chart topics .new _ :=
    (shot.step (.receive (.captureDone false "") (by decide +kernel))).step
      (.turn 0 rfl (by decide +kernel))
  have failed : Site.Reachable chart topics .new _ :=
    (done.step (.receive .cameraError (by decide +kernel))).step (.turn 0 rfl (by decide +kernel))
  have back : Site.Reachable chart topics .new _ :=
    (failed.step (.receive .cameraConnected (by decide +kernel))).step
      (.turn 0 rfl (by decide +kernel))
  have fired : Site.Reachable chart topics .new _ :=
    back.step (.fire List.mem_cons_self fun _ => by decide +kernel)
  exact ⟨_, fired, rfl, rfl, woken_of_reachable fired⟩

end Intervalometer

end Tether
