import Tether.Proofs.Camera.Alarms
import Tether.Proofs.Statechart.Site

/-!
# The timers of the controller among all others

The timers of the controller at its site, where timers fire in any order, events arrive at any
time, and other machines use the same timers. Every step keeps the site safe (`safe_step`): the
controller has no timer but the one that is needed, and when that one has fired its event is still
in the mailbox. So the event that leads out of an error state is always on its way, and no timer is
left behind (`guarded_of_reachable`).
-/

namespace Tether

namespace Camera

variable {δ : Type} {driver : Driver δ} {site : Site State (Memory δ)}

/-- The timers of the broker, and the notes of the controller. -/
def siteWatch (site : Site State (Memory δ)) : Watch :=
  ⟨site.timers, site.machine.memory.retryTimer, site.machine.memory.recoveryTimer⟩

/-- The controller has no timer but the one that is needed; if that one has fired, its event is
still in the mailbox. -/
structure Safe (site : Site State (Memory δ)) : Prop where
  placed : Placed site.machine
  known : ∀ id ∈ site.foreign, id < site.timers.nextId
  alarm : Idle site.foreign (some site.machine.leaf) (siteWatch site) ∨
    ∃ timer, Waits site.foreign timer (some site.machine.leaf) (siteWatch site) ∧
      (site.timers.ownPending site.foreign = [timer] ∨
        site.timers.ownPending site.foreign = [] ∧
          ⟨timer.event, some timer.id⟩ ∈ site.inbox.items)

theorem Safe.tended (safe : Safe site) :
    Tended site.foreign (some site.machine.leaf) (siteWatch site) where
  known := safe.known
  alarm := safe.alarm.imp_right fun ⟨timer, waits, own⟩ =>
    ⟨timer, waits, own.imp_right fun fired => fired.1⟩

/-- A pending timer of the controller is the one that is needed. -/
theorem Safe.waits (safe : Safe site) {timer : Timer} (pending : timer ∈ site.timers.pending)
    (own : timer.id ∉ site.foreign) :
    Waits site.foreign timer (some site.machine.leaf) (siteWatch site) ∧
      site.timers.ownPending site.foreign = [timer] := by
  have listed : timer ∈ site.timers.ownPending site.foreign :=
    List.mem_filter.mpr ⟨pending, decide_eq_true own⟩
  obtain idle | ⟨needed, waits, only | ⟨fired, _⟩⟩ := safe.alarm
  · rw [show site.timers.ownPending site.foreign = [] from idle.own] at listed
    cases listed
  · rw [only, List.mem_singleton] at listed
    subst listed
    exact ⟨waits, only⟩
  · rw [fired] at listed
    cases listed

theorem safe_new (memory : Memory δ) (retry : memory.retryTimer = none)
    (recovery : memory.recoveryTimer = none) : Safe (.new (chart driver) memory) where
  placed := ⟨nofun, fun _ => rfl⟩
  known := fun _ => nofun
  alarm := Or.inl ⟨rfl, retry, recovery, rfl⟩

/-- Events that arrive do not matter. -/
theorem Safe.receive (safe : Safe site) {inbox : Mailbox Letter Limits.mailbox}
    (kept : ∀ letter ∈ site.inbox.items, letter ∈ inbox.items) :
    Safe { site with inbox := inbox } where
  placed := safe.placed
  known := safe.known
  alarm := safe.alarm.imp_right fun ⟨timer, waits, own⟩ =>
    ⟨timer, waits, own.imp_right fun ⟨fired, member⟩ => ⟨fired, kept _ member⟩⟩

theorem mem_put {inbox : Mailbox Letter Limits.mailbox}
    (room : inbox.items.length + 1 ≤ Limits.mailbox) (letter : Letter) :
    (inbox.put letter).items = inbox.items ++ [letter] :=
  Mailbox.items_put_of_lt room letter

theorem safe_of_armed {run : State × Scope State (Memory δ)} (rests : run.1.rests)
    (armed : Armed site.foreign (some run.1) (watch run.2)) :
    Safe (site.absorb topics (Machine.turn run)) where
  placed := ⟨fun _ => rests, nofun⟩
  known := armed.known
  alarm := armed.alarm.imp_right fun ⟨timer, waits, own⟩ => ⟨timer, waits, Or.inl own⟩

theorem safe_of_moved (safe : Safe site) {now : Nat} {run : State × Scope State (Memory δ)}
    (moved : Moved site.foreign
      (site.machine.leaf, site.machine.scope site.timers now) run)
    (room : site.HasRoom (Site.letters topics (Machine.turn run)).length) :
    Safe (site.absorb topics (Machine.turn run)) := by
  rcases moved.change with armed | same
  · exact safe_of_armed moved.rests armed
  · obtain ⟨leaf, scope⟩ := run
    obtain ⟨rfl, watched⟩ := same
    have kept : siteWatch (site.absorb topics (Machine.turn (site.machine.leaf, scope))) =
        siteWatch site := watched
    have timers : (site.absorb topics (Machine.turn (site.machine.leaf, scope))).timers =
        site.timers := congrArg Watch.timers watched
    refine ⟨⟨fun _ => moved.rests, nofun⟩, ?_, ?_⟩
    · rw [timers]
      exact safe.known
    · rw [kept, timers]
      refine safe.alarm.imp_right fun ⟨timer, waits, own⟩ => ⟨timer, waits, ?_⟩
      refine own.imp_right fun ⟨fired, member⟩ => ⟨fired, ?_⟩
      rw [Site.absorb, Mailbox.items_putAll room]
      exact List.mem_append_left _ member

theorem Safe.start (safe : Safe site) (now : Nat)
    (room : site.HasRoom (Site.letters topics
      ((chart driver).obey site.machine site.timers now .start)).length) :
    Safe (site.absorb topics
      ((chart driver).obey site.machine site.timers now .start)) :=
  safe_of_moved safe (moved_startRun driver safe.placed site.timers now safe.tended) room

/-- Where the event of the timer is dispatched the timer is set anew. Otherwise the event stays in
the mailbox. -/
theorem Safe.turn (safe : Safe site) {letter : Letter} {rest : Mailbox Letter Limits.mailbox}
    (now : Nat) (popped : site.inbox.pop? = some (letter, rest))
    (room : { site with inbox := rest }.HasRoom (Site.letters topics
      ((chart driver).obey site.machine site.timers now (.dispatch letter.event))).length) :
    Safe ({ site with inbox := rest }.absorb topics
      ((chart driver).obey site.machine site.timers now (.dispatch letter.event))) := by
  obtain ⟨moved, rings⟩ := moved_dispatch driver safe.placed site.timers now
    safe.tended letter.event
  by_cases alarm : site.machine.leaf.alarm? = some letter.event
  · exact safe_of_armed moved.rests (rings alarm)
  · -- The event of the timer is another one, so it is still in the mailbox.
    have kept : Safe { site with inbox := rest } := by
      refine ⟨safe.placed, safe.known, safe.alarm.imp_right fun ⟨timer, waits, own⟩ => ?_⟩
      refine ⟨timer, waits, own.imp_right fun ⟨fired, member⟩ => ⟨fired, ?_⟩⟩
      rw [Mailbox.items_of_pop? popped] at member
      rcases List.mem_cons.mp member with first | later
      · have event : timer.event = letter.event := congrArg Letter.event first
        exact absurd (waits.alarm.trans (congrArg some event)) alarm
      · exact later
    exact safe_of_moved kept moved room

/-- A timer that fires is the one that is needed, or not one of the controller. -/
theorem Safe.fire (safe : Safe site) {timer : Timer}
    (pending : timer ∈ site.timers.pending)
    (room : timer.topic ∈ topics → site.HasRoom 1) : Safe (site.fire topics timer) := by
  have kept : ∀ letter ∈ site.inbox.items,
      letter ∈ (site.fire topics timer).inbox.items := by
    intro letter member
    unfold Site.fire
    dsimp only
    split
    · next heard =>
      rw [mem_put (room heard)]
      exact List.mem_append_left _ member
    · exact member
  refine ⟨safe.placed, safe.known, ?_⟩
  by_cases foreign : timer.id ∈ site.foreign
  · have own : (site.fire topics timer).timers.ownPending site.foreign =
        site.timers.ownPending site.foreign :=
      Timers.ownPending_remove_foreign site.timers foreign
    refine safe.alarm.imp (fun idle => ⟨idle.alarm, idle.retry, idle.recovery, ?_⟩)
      fun ⟨needed, waits, pending⟩ => ⟨needed, ⟨waits.alarm, waits.retry, waits.recovery,
        waits.topic, waits.own, waits.known⟩, ?_⟩
    · exact own.trans idle.own
    · exact pending.imp own.trans fun ⟨fired, member⟩ => ⟨own.trans fired, kept _ member⟩
  · -- What fires is the timer that is needed, and its event gets into the mailbox.
    obtain ⟨waits, only⟩ := safe.waits pending foreign
    have heard : timer.topic ∈ topics := by rw [waits.topic]; exact List.mem_singleton_self _
    have gone : (site.fire topics timer).timers.ownPending site.foreign = [] :=
      Timers.ownPending_cancel (Or.inl only)
    refine Or.inr ⟨timer, ⟨waits.alarm, waits.retry, waits.recovery, waits.topic, waits.own,
      waits.known⟩, Or.inr ⟨gone, ?_⟩⟩
    rw [Site.fire, if_pos heard, mem_put (room heard)]
    exact List.mem_append_right _ List.mem_cons_self

/-- All pending timers have been numbered. -/
theorem Safe.numbered (safe : Safe site) {timer : Timer}
    (pending : timer ∈ site.timers.pending) : timer.id < site.timers.nextId := by
  by_cases foreign : timer.id ∈ site.foreign
  · exact safe.known _ foreign
  · exact (safe.waits pending foreign).1.known

theorem Safe.set (safe : Safe site) (deadline : Nat) (event : Event) (topic : Topic) :
    Safe (site.set deadline event topic) := by
  have own : (site.set deadline event topic).timers.ownPending
      (site.timers.nextId :: site.foreign) = site.timers.ownPending site.foreign :=
    Timers.ownPending_set (fun _ => safe.numbered) deadline event topic
  have later : (site.set deadline event topic).timers.nextId = site.timers.nextId + 1 := rfl
  refine ⟨safe.placed, ?_, ?_⟩
  · intro id member
    rw [later]
    rcases List.mem_cons.mp member with fresh | older
    · rw [fresh]; exact Nat.lt_succ_self _
    · exact Nat.lt_succ_of_lt (safe.known id older)
  · refine safe.alarm.imp (fun idle =>
      ⟨idle.alarm, idle.retry, idle.recovery, own.trans idle.own⟩)
      fun ⟨needed, waits, pending⟩ => ⟨needed, ⟨waits.alarm, waits.retry, waits.recovery,
        waits.topic, ?_, Nat.lt_succ_of_lt waits.known⟩, ?_⟩
    · -- The number of the new timer is not the one that the controller has noted.
      intro member
      rcases List.mem_cons.mp member with fresh | older
      · exact Nat.ne_of_lt waits.known fresh
      · exact waits.own older
    · exact pending.imp own.trans fun ⟨fired, member⟩ => ⟨own.trans fired, member⟩

theorem Safe.cancel (safe : Safe site) {id : Nat} (member : id ∈ site.foreign) :
    Safe { site with timers := site.timers.remove id } := by
  have own : (site.timers.remove id).ownPending site.foreign =
      site.timers.ownPending site.foreign :=
    Timers.ownPending_remove_foreign site.timers member
  refine ⟨safe.placed, safe.known, ?_⟩
  exact safe.alarm.imp (fun idle => ⟨idle.alarm, idle.retry, idle.recovery, own.trans idle.own⟩)
    fun ⟨needed, waits, pending⟩ => ⟨needed, ⟨waits.alarm, waits.retry, waits.recovery,
      waits.topic, waits.own, waits.known⟩,
      pending.imp own.trans fun ⟨fired, member⟩ => ⟨own.trans fired, member⟩⟩

theorem safe_step {before after : Site State (Memory δ)}
    (step : Site.Step (chart driver) topics before after) (safe : Safe before) :
    Safe after := by
  cases step with
  | start now room => exact safe.start now room
  | turn now popped room => exact safe.turn now popped room
  | receive event room =>
    refine safe.receive fun letter member => ?_
    rw [mem_put room]
    exact List.mem_append_left _ member
  | fire pending room => exact safe.fire pending room
  | set deadline event topic => exact safe.set deadline event topic
  | cancel member => exact safe.cancel member

theorem safe_of_reachable {memory : Memory δ} (retry : memory.retryTimer = none)
    (recovery : memory.recoveryTimer = none)
    (reachable : Site.Reachable (chart driver) topics memory site) : Safe site := by
  induction reachable with
  | initial => exact safe_new memory retry recovery
  | step _ step ih => exact safe_step step ih

/-- A timer is pending, or it has fired and its event is still in the mailbox. -/
def Comes (site : Site State (Memory δ)) (event : Event) (id : Nat) : Prop :=
  (∃ timer ∈ site.timers.pending,
      timer.id = id ∧ timer.event = event ∧ timer.topic = .cameraCmd) ∨
    ⟨event, some id⟩ ∈ site.inbox.items

/-- What can be relied upon about the timers of the controller. -/
structure Guarded (site : Site State (Memory δ)) : Prop where
  retry : site.machine.leaf = .connectionError →
    site.machine.memory.recoveryTimer = none ∧
      ∃ id, site.machine.memory.retryTimer = some id ∧ Comes site .connect id
  recovery : site.machine.leaf = .error →
    site.machine.memory.retryTimer = none ∧
      ∃ id, site.machine.memory.recoveryTimer = some id ∧ Comes site .recover id
  others : site.machine.leaf ≠ .connectionError → site.machine.leaf ≠ .error →
    site.machine.memory.retryTimer = none ∧ site.machine.memory.recoveryTimer = none
  noted : ∀ timer ∈ site.timers.pending, timer.id ∉ site.foreign →
    site.machine.memory.retryTimer = some timer.id ∨
      site.machine.memory.recoveryTimer = some timer.id
  single : (site.timers.ownPending site.foreign).length ≤ 1

theorem Waits.noted {foreign : List Nat} {timer : Timer} {cursor : Option State} {watch : Watch}
    (waits : Waits foreign timer cursor watch) :
    watch.retry = some timer.id ∨ watch.recovery = some timer.id := by
  have alarm := waits.alarm
  cases cursor with
  | none => cases alarm
  | some state =>
    cases state with
    | connectionError => exact Or.inl waits.retry
    | error => exact Or.inr waits.recovery
    | _ => cases alarm

theorem comes_of_own {timer : Timer}
    (waits : Waits site.foreign timer (some site.machine.leaf) (siteWatch site))
    (own : site.timers.ownPending site.foreign = [timer] ∨
      site.timers.ownPending site.foreign = [] ∧
        ⟨timer.event, some timer.id⟩ ∈ site.inbox.items) :
    Comes site timer.event timer.id := by
  refine own.imp (fun pending => ⟨timer, ?_, rfl, rfl, waits.topic⟩) And.right
  have listed : timer ∈ site.timers.ownPending site.foreign := by
    rw [pending]
    exact List.mem_singleton_self timer
  exact (List.mem_filter.mp listed).1

theorem Safe.guarded (safe : Safe site) : Guarded site where
  retry leaf := by
    obtain idle | ⟨timer, waits, own⟩ := safe.alarm
    · have alarm := idle.alarm
      rw [leaf] at alarm
      cases alarm
    · have comes := comes_of_own waits own
      rw [leaf] at waits
      rw [← Option.some.inj waits.alarm] at comes
      exact ⟨waits.recovery, timer.id, waits.retry, comes⟩
  recovery leaf := by
    obtain idle | ⟨timer, waits, own⟩ := safe.alarm
    · have alarm := idle.alarm
      rw [leaf] at alarm
      cases alarm
    · have comes := comes_of_own waits own
      rw [leaf] at waits
      rw [← Option.some.inj waits.alarm] at comes
      exact ⟨waits.retry, timer.id, waits.recovery, comes⟩
  others calm well := by
    obtain idle | ⟨timer, waits, _⟩ := safe.alarm
    · exact ⟨idle.retry, idle.recovery⟩
    · have retry : site.machine.memory.retryTimer = _ := waits.retry
      have recovery : site.machine.memory.recoveryTimer = _ := waits.recovery
      rw [if_neg (calm ∘ Option.some.inj)] at retry
      rw [if_neg (well ∘ Option.some.inj)] at recovery
      exact ⟨retry, recovery⟩
  noted _ pending own := (safe.waits pending own).1.noted
  single := by
    obtain idle | ⟨timer, _, only | ⟨fired, _⟩⟩ := safe.alarm
    · rw [show site.timers.ownPending site.foreign = [] from idle.own]
      exact Nat.zero_le 1
    · rw [only]; exact Nat.le_refl 1
    · rw [fired]; exact Nat.zero_le 1

/-- Whatever the camera answers, whatever events arrive and in whichever order timers fire: in the
error states the controller has noted the timer that ends them, which is pending or whose event is
in the mailbox, and it has no other timer in any state. -/
theorem guarded_of_reachable (driver : Driver δ) (device : δ) (settings : Settings)
    {site : Site State (Memory δ)}
    (reachable : Site.Reachable (chart driver) topics (.new device settings) site) :
    Guarded site :=
  (safe_of_reachable rfl rfl reachable).guarded

/-- A camera that cannot be reached. -/
def brokenCamera : Driver Unit where
  name _ := "broken"
  isConnected _ := false
  perform _ memory := (.error .notConnected, memory)

/-- The sites of the controller of that camera. -/
def BrokenReachable (site : Site State (Memory Unit)) : Prop :=
  Site.Reachable (chart brokenCamera) topics (.new () ⟨"", false, 100, 100, 0⟩) site

/-- A failed attempt to connect, whose timer has fired. -/
theorem guarded_of_reachable_brokenCamera :
    ∃ site, BrokenReachable site ∧ site.machine.leaf = .connectionError ∧
      site.inbox.items = [⟨.connect, some 0⟩] ∧ Guarded site := by
  have started : BrokenReachable _ := .step .initial (.start 0 (by decide +kernel))
  have told : BrokenReachable _ := started.step (.receive .connect (by decide +kernel))
  have failed : BrokenReachable _ := told.step (.turn 0 rfl (by decide +kernel))
  have fired : BrokenReachable _ :=
    failed.step (.fire List.mem_cons_self fun _ => by decide +kernel)
  exact ⟨_, fired, rfl, rfl, guarded_of_reachable brokenCamera () _ fired⟩

end Camera

end Tether
