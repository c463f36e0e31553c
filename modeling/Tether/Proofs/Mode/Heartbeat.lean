import Tether.Proofs.Handshake.Mode
import Tether.Proofs.Statechart.Site
import Tether.Proofs.Timers.Ledger

/-!
# The heartbeat

The mode controller sets the timer of the first heartbeat when it is started, and that of another
one whenever it takes a heartbeat (`turn_sets`). It does not ask where a heartbeat comes from. So
one that a timer of its own has sent is replaced by the next one, but one from elsewhere begins a
chain of its own, which never ends: the heartbeats that are under way are as many as those that have
come from elsewhere, and one more (`beats_eq`).
-/

namespace Tether

namespace Mode

/-- Whether a letter is a heartbeat that a timer of the machine has sent. -/
def ownBeat (foreign : List Nat) (letter : Letter) : Bool :=
  letter.event = .heartbeat ∧ letter.timer?.any (· ∉ foreign)

/-- Whether a letter is a heartbeat from elsewhere. -/
def strayBeat (foreign : List Nat) (letter : Letter) : Bool :=
  letter.event = .heartbeat ∧ letter.timer?.any (· ∉ foreign) = false

/-- The heartbeats that are under way: timers of the machine that are pending, and letters that they
have left in its mailbox. -/
def beats (site : Site State Memory) : Nat :=
  (site.timers.ownPending site.foreign).countP (·.event = .heartbeat) +
    site.inbox.items.countP (ownBeat site.foreign)

/-- The heartbeats of an order. -/
def orderBeats : Order → Nat
  | .start => 0
  | .dispatch event => if event = .heartbeat then 1 else 0

theorem ownBeat_add_strayBeat (foreign : List Nat) (letter : Letter) :
    (if ownBeat foreign letter then 1 else 0) + (if strayBeat foreign letter then 1 else 0) =
      orderBeats (.dispatch letter.event) := by
  unfold ownBeat strayBeat orderBeats
  cases letter.timer?.any (· ∉ foreign) <;> simp

/-! ## Timers -/

/-- A number of heartbeats has been set, and nothing else has been done to the timers. -/
structure Sets (count : Nat) (before after : Timers) : Prop where
  grown : ∃ fresh : List Timer, after.pending.Perm (fresh ++ before.pending) ∧
    fresh.length = count ∧
    ∀ timer ∈ fresh, timer.event = .heartbeat ∧ timer.topic = .heartbeat ∧
      before.nextId ≤ timer.id
  later : before.nextId ≤ after.nextId

namespace Sets

variable {count more : Nat} {before middle after : Timers}

theorem refl (timers : Timers) : Sets 0 timers timers :=
  ⟨⟨[], .refl _, rfl, fun _ member => absurd member List.not_mem_nil⟩, Nat.le_refl _⟩

theorem insert (timers : Timers) (deadline : Nat) :
    Sets 1 timers (timers.insert deadline .heartbeat .heartbeat).1 := by
  refine ⟨⟨[timers.next deadline .heartbeat .heartbeat], Timers.place_perm _ _, rfl, ?_⟩,
    Nat.le_succ _⟩
  intro timer member
  rw [List.mem_singleton.mp member]
  exact ⟨rfl, rfl, Nat.le_refl _⟩

theorem trans (first : Sets count before middle) (second : Sets more middle after) :
    Sets (count + more) before after := by
  obtain ⟨⟨fresh, grown, length, heartbeats⟩, later⟩ := first
  obtain ⟨⟨fresher, grownOn, lengthOn, heartbeatsOn⟩, laterOn⟩ := second
  refine ⟨⟨fresher ++ fresh, ?_, ?_, fun timer member => ?_⟩, Nat.le_trans later laterOn⟩
  · rw [List.append_assoc]
    exact grownOn.trans (grown.append_left fresher)
  · rw [List.length_append, length, lengthOn, Nat.add_comm]
  · rcases List.mem_append.mp member with late | early
    · obtain ⟨event, topic, numbered⟩ := heartbeatsOn timer late
      exact ⟨event, topic, Nat.le_trans later numbered⟩
    · exact heartbeats timer early

/-- All heartbeats that are set are timers of the machine. -/
theorem own (sets : Sets count before after) {foreign : List Nat}
    (known : ∀ id ∈ foreign, id < before.nextId) :
    ∃ fresh : List Timer,
      (after.ownPending foreign).Perm (fresh ++ before.ownPending foreign) ∧
      fresh.length = count ∧
      ∀ timer ∈ fresh, timer.event = .heartbeat ∧ timer.topic = .heartbeat := by
  obtain ⟨⟨fresh, grown, length, heartbeats⟩, -⟩ := sets
  have unlisted : fresh.filter (fun timer => decide (timer.id ∉ foreign)) = fresh := by
    refine List.filter_eq_self.mpr fun timer member => decide_eq_true fun listed => ?_
    exact Nat.not_le_of_lt (known _ listed) (heartbeats timer member).2.2
  refine ⟨fresh, ?_, length, fun timer member => ?_⟩
  · have filtered := grown.filter fun timer => decide (timer.id ∉ foreign)
    rw [List.filter_append, unlisted] at filtered
    exact filtered
  · obtain ⟨event, topic, -⟩ := heartbeats timer member
    exact ⟨event, topic⟩

theorem countP (sets : Sets count before after) {foreign : List Nat}
    (known : ∀ id ∈ foreign, id < before.nextId) :
    (after.ownPending foreign).countP (·.event = .heartbeat) =
      (before.ownPending foreign).countP (·.event = .heartbeat) + count := by
  obtain ⟨fresh, grown, length, heartbeats⟩ := sets.own known
  have all : fresh.countP (·.event = .heartbeat) = fresh.length :=
    List.countP_eq_length.mpr fun timer member => decide_eq_true (heartbeats timer member).1
  rw [grown.countP_eq, List.countP_append, all, length, Nat.add_comm]

end Sets

/-! ## Turns -/

theorem armHeartbeat_sets (scope : Scope State Memory) :
    Sets 1 scope.timers (armHeartbeat scope).timers := by
  rw [armHeartbeat, Scope.schedule_timers]
  exact .insert scope.timers _

theorem enter_sets (scope : Scope State Memory) :
    Sets 1 scope.timers (chart.enter scope).2.timers :=
  armHeartbeat_sets (scope.record (.asked .super .super .entry))

theorem transition_timers {leaf target : State} (inside : leaf ≠ .super)
    (rests : target ≠ .super)
    (scope : Scope State Memory) :
    (chart.transition leaf target scope).2.timers = scope.timers := by
  cases leaf with
  | super => exact absurd rfl inside
  | selection | running =>
    cases target with
    | super => exact absurd rfl rests
    | selection | running => rfl

/-- Only a heartbeat sets timers. -/
theorem handle_timers (state : State) {event : Event} (other : event ≠ .heartbeat)
    (scope : Scope State Memory) :
    (chart.handle state (.event event) scope).1.timers = scope.timers := by
  cases state with
  | super =>
    show (super scope (.event event)).1.timers = _
    unfold super
    split
    · next equal => cases equal
    · rfl
    · rfl
    · next equal => cases equal; exact absurd rfl other
    · rfl
    · rfl
  | selection =>
    show (selection scope (.event event)).1.timers = _
    unfold selection
    split <;> rfl
  | running =>
    show (running scope (.event event)).1.timers = _
    unfold running
    split <;> rfl

/-- The outermost state takes all heartbeats. -/
theorem process_heartbeat {leaf : State} (rests : leaf ≠ .super) (scope : Scope State Memory) :
    Sets 1 scope.timers (chart.process (leaf, scope) .heartbeat).2.timers := by
  have armed (middle : Scope State Memory) (same : middle.timers = scope.timers) :
      Sets 1 scope.timers (armHeartbeat middle).timers :=
    same ▸ armHeartbeat_sets middle
  cases leaf with
  | super => exact absurd rfl rests
  | selection =>
    exact armed ((scope.record (.asked .selection .selection (.event .heartbeat))).record
      (.asked .selection .super (.event .heartbeat))) rfl
  | running =>
    exact armed ((scope.record (.asked .running .running (.event .heartbeat))).record
      (.asked .running .super (.event .heartbeat))) rfl

theorem process_timers {leaf : State} (rests : leaf ≠ .super) {event : Event}
    (other : event ≠ .heartbeat) (scope : Scope State Memory) :
    (chart.process (leaf, scope) event).2.timers = scope.timers := by
  refine Chart.process_induction shallow (fun _ asked => asked.timers = scope.timers)
    (fun run => run.2.timers = scope.timers) ?_ (fun _ same => same) rfl
  intro state asked _ same
  have kept := handle_timers state other (asked.record (.asked leaf state (.event event)))
  have leads := (handle_answers (asked.record (.asked leaf state (.event event))) state event).leads
  cases found : chart.ask leaf state (.event event) asked with
  | mk after reaction =>
    rw [Chart.ask] at found
    rw [found] at kept leads
    have unchanged : after.timers = scope.timers := kept.trans same
    cases reaction with
    | handled => exact unchanged
    | delegate => exact unchanged
    | transition target =>
      have inside := switch?_rests ((leads target).mp rfl)
      exact (transition_timers rests inside after).trans unchanged

theorem process_sets {leaf : State} (rests : leaf ≠ .super) (event : Event)
    (scope : Scope State Memory) :
    Sets (orderBeats (.dispatch event)) scope.timers
      (chart.process (leaf, scope) event).2.timers := by
  by_cases heartbeat : event = .heartbeat
  · rw [orderBeats, if_pos heartbeat, heartbeat]
    exact process_heartbeat rests scope
  · rw [orderBeats, if_neg heartbeat, process_timers rests heartbeat]
    exact .refl scope.timers

theorem startRun_sets {machine : Machine State Memory} (placed : Placed machine) (timers : Timers)
    (now : Nat) : Sets (if machine.started then 0 else 1) timers
      (chart.startRun machine timers now).2.timers := by
  unfold Chart.startRun
  split
  · exact .refl timers
  · have entered : Duo.Tells .mode Duo.silence (machine.scope timers now)
        (chart.enter (machine.scope timers now)).2 :=
      (tells_carries (machine.scope timers now) Duo.silence).enter_chart shallow (.refl _)
    rw [Chart.replayHeld_eq_self (entered.replay.trans placed.replay)]
    exact enter_sets (machine.scope timers now)

/-- A turn sets the first heartbeat if it starts the machine, and another one for a heartbeat. -/
theorem turn_sets {machine : Machine State Memory} (placed : Placed machine) (timers : Timers)
    (now : Nat) (order : Order) :
    Sets ((if machine.started then 0 else 1) + orderBeats order) timers
      (chart.obey machine timers now order).timers := by
  have started := startRun_sets placed timers now
  cases order with
  | start => exact started
  | dispatch event =>
    obtain ⟨begun, based⟩ := startRun_eq placed timers now
    have rests : (chart.startRun machine timers now).1 ≠ .super := based ▸ base_rests placed
    have told := (process_eq rests event (chart.startRun machine timers now).2).1
    have idle : (chart.process (chart.startRun machine timers now) event).2.replay = false :=
      told.replay.trans (begun.replay.trans placed.replay)
    rw [Chart.obey, Chart.dispatch, Chart.replayHeld_eq_self idle]
    exact started.trans (process_sets rests event _)

/-! ## Sites -/

/-- What is known of the timers of a site and of the letters that they have sent. -/
structure Proper (site : Site State Memory) (letters : List Letter) : Prop where
  placed : Placed site.machine
  known : ∀ id ∈ site.foreign, id < site.timers.nextId
  sent : ∀ letter, letter ∈ site.inbox.items ∨ letter ∈ letters →
    ∀ id, letter.timer? = some id → id < site.timers.nextId
  own : ∀ timer ∈ site.timers.ownPending site.foreign,
    timer.event = .heartbeat ∧ timer.topic = .heartbeat

/-- The heartbeats that are under way are as many as those that have come from elsewhere, and one
more as soon as the machine is started. -/
def Balanced (site : Site State Memory) (letters : List Letter) : Prop :=
  beats site = letters.countP (strayBeat site.foreign) + if site.machine.started then 1 else 0

variable {site after : Site State Memory} {letters : List Letter}

/-- The machine itself sends no heartbeats but by its timers. -/
theorem countP_ownBeat_letters (foreign : List Nat) (turn : Turn State Memory) :
    (Site.letters topics turn).countP (ownBeat foreign) = 0 := by
  rw [List.countP_eq_zero]
  intro letter member
  obtain ⟨event, -, rfl⟩ := List.mem_map.mp member
  simp [ownBeat]

theorem Proper.absorb (proper : Proper site letters) (now : Nat) (order : Order)
    (room : site.HasRoom
      (Site.letters topics (chart.obey site.machine site.timers now order)).length) :
    let turn := chart.obey site.machine site.timers now order
    Proper (site.absorb topics turn) letters ∧
      beats (site.absorb topics turn) =
        beats site + ((if site.machine.started then 0 else 1) + orderBeats order) := by
  intro turn
  have sets := turn_sets proper.placed site.timers now order
  obtain ⟨fresh, grown, -, heartbeats⟩ := sets.own proper.known
  have items := Site.items_absorb room
  refine ⟨⟨(turn_eq proper.placed site.timers now order).1, ?_, ?_, ?_⟩, ?_⟩
  · exact fun id member => Nat.lt_of_lt_of_le (proper.known id member) sets.later
  · intro letter member id number
    rw [items, List.mem_append] at member
    rcases member with (waiting | said) | past
    · exact Nat.lt_of_lt_of_le (proper.sent letter (.inl waiting) id number) sets.later
    · obtain ⟨event, -, rfl⟩ := List.mem_map.mp said
      cases number
    · exact Nat.lt_of_lt_of_le (proper.sent letter (.inr past) id number) sets.later
  · intro timer member
    rcases List.mem_append.mp (grown.mem_iff.mp member) with new | old
    · exact heartbeats timer new
    · exact proper.own timer old
  · have pending := sets.countP proper.known
    have waiting : (site.absorb topics turn).inbox.items.countP (ownBeat site.foreign) =
        site.inbox.items.countP (ownBeat site.foreign) := by
      rw [items, List.countP_append, countP_ownBeat_letters, Nat.add_zero]
    show (turn.timers.ownPending site.foreign).countP _ +
      (site.absorb topics turn).inbox.items.countP (ownBeat site.foreign) = _
    rw [waiting, pending, beats, Nat.add_right_comm]

theorem Proper.start (proper : Proper site letters) (balanced : Balanced site letters) (now : Nat)
    (room : site.HasRoom
      (Site.letters topics (chart.obey site.machine site.timers now .start)).length) :
    let next := site.absorb topics (chart.obey site.machine site.timers now .start)
    Proper next letters ∧ Balanced next letters := by
  intro next
  obtain ⟨properNow, count⟩ := proper.absorb now .start room
  refine ⟨properNow, ?_⟩
  have started : next.machine.started = true := rfl
  rw [Balanced, count, balanced, started, orderBeats]
  show _ = letters.countP (strayBeat site.foreign) + 1
  split <;> rfl

/-- A heartbeat that the machine takes is one of its own, or one from elsewhere. -/
theorem Proper.turn {letter : Letter} {rest : Mailbox Letter Limits.mailbox}
    (proper : Proper site letters) (balanced : Balanced site letters) (now : Nat)
    (popped : site.inbox.pop? = some (letter, rest))
    (room : { site with inbox := rest }.HasRoom (Site.letters topics
      (chart.obey site.machine site.timers now (.dispatch letter.event))).length) :
    let next := { site with inbox := rest }.absorb topics
      (chart.obey site.machine site.timers now (.dispatch letter.event))
    Proper next (letters ++ [letter]) ∧ Balanced next (letters ++ [letter]) := by
  intro next
  have items := Mailbox.items_of_pop? popped
  have opened : Proper { site with inbox := rest } (letters ++ [letter]) := by
    refine ⟨proper.placed, proper.known, fun other member => proper.sent other ?_, proper.own⟩
    rw [items, List.mem_cons]
    rcases member with waiting | past
    · exact .inl (.inr waiting)
    · rcases List.mem_append.mp past with earlier | now
      · exact .inr earlier
      · exact .inl (.inl (List.mem_singleton.mp now))
  obtain ⟨properNow, count⟩ := opened.absorb now (.dispatch letter.event) room
  refine ⟨properNow, ?_⟩
  have taken : beats site =
      beats { site with inbox := rest } + if ownBeat site.foreign letter then 1 else 0 := by
    rw [beats, items, List.countP_cons, ← Nat.add_assoc]
    rfl
  have kinds := ownBeat_add_strayBeat site.foreign letter
  have started : next.machine.started = true := rfl
  have begun : (if site.machine.started then 0 else 1) +
      (if site.machine.started then 1 else 0) = 1 := by
    cases site.machine.started <;> rfl
  rw [Balanced, taken] at balanced
  rw [Balanced, count, started, List.countP_append, List.countP_singleton]
  show beats { site with inbox := rest } + ((if site.machine.started then 0 else 1) + _) =
    letters.countP (strayBeat site.foreign) + (if strayBeat site.foreign letter then 1 else 0) + 1
  omega

/-- Heartbeats stay under way while the machine rests. -/
theorem Balanced.of_beats_eq (balanced : Balanced site letters)
    (machine : after.machine = site.machine) (foreign : after.foreign = site.foreign)
    (same : beats after = beats site) : Balanced after letters := by
  rw [Balanced, same, balanced, foreign, machine]

theorem Proper.receive (proper : Proper site letters) (event : Event) (room : site.HasRoom 1) :
    let next := { site with inbox := site.inbox.put ⟨event, none⟩ }
    Proper next letters ∧ beats next = beats site := by
  intro next
  have items : next.inbox.items = site.inbox.items ++ [⟨event, none⟩] :=
    Mailbox.items_put_of_lt room _
  refine ⟨⟨proper.placed, proper.known, fun letter member id number => ?_, proper.own⟩, ?_⟩
  · rw [items, List.mem_append, List.mem_singleton] at member
    rcases member with (waiting | rfl) | past
    · exact proper.sent letter (.inl waiting) id number
    · cases number
    · exact proper.sent letter (.inr past) id number
  · have stray : ownBeat site.foreign ⟨event, none⟩ = false := by simp [ownBeat]
    rw [beats, items, List.countP_append, List.countP_singleton, stray]
    rfl

/-- A timer that fires leaves its heartbeat in the mailbox, if it is one of the machine. -/
theorem Proper.fire {timer : Timer} (proper : Proper site letters)
    (pending : timer ∈ site.timers.pending) (room : timer.topic ∈ topics → site.HasRoom 1) :
    Proper (site.fire topics timer) letters ∧ beats (site.fire topics timer) = beats site := by
  have items := Site.items_fire room
  refine ⟨⟨proper.placed, proper.known, fun letter member id number => ?_, ?_⟩, ?_⟩
  · rw [items, List.mem_append] at member
    rcases member with (waiting | fired) | past
    · exact proper.sent letter (.inl waiting) id number
    · split at fired
      · rw [List.mem_singleton.mp fired] at number
        cases number
        exact site.timers.numbered timer pending
      · cases fired
    · exact proper.sent letter (.inr past) id number
  · intro other member
    have kept : other ∈ (site.timers.remove timer.id).ownPending site.foreign := member
    rw [Timers.ownPending_remove] at kept
    exact proper.own other (List.mem_filter.mp kept).1
  · show ((site.timers.remove timer.id).ownPending site.foreign).countP _ +
      (site.fire topics timer).inbox.items.countP (ownBeat site.foreign) = _
    rw [items, List.countP_append, beats]
    by_cases listed : timer.id ∈ site.foreign
    · -- A timer of others leaves no heartbeat of the machine.
      rw [Timers.ownPending_remove_foreign _ listed]
      split
      · rw [List.countP_singleton, if_neg (by simp [ownBeat, listed])]
        rfl
      · rfl
    · have own : timer ∈ site.timers.ownPending site.foreign :=
        List.mem_filter.mpr ⟨pending, decide_eq_true listed⟩
      obtain ⟨event, topic⟩ := proper.own timer own
      have heard : timer.topic ∈ topics := by rw [topic]; decide
      have count := (Timers.perm_ownPending own).countP_eq (·.event = .heartbeat)
      rw [List.countP_cons, if_pos (decide_eq_true event)] at count
      rw [if_pos heard, List.countP_singleton, if_pos (by simp [ownBeat, event, listed]), count]
      omega

/-- A timer that others set has a new number, so it leaves the kinds of all letters as they are. -/
theorem any_unlisted {foreign : List Nat} {fresh : Nat} {letter : Letter}
    (sent : ∀ id, letter.timer? = some id → id < fresh) :
    letter.timer?.any (· ∉ fresh :: foreign) = letter.timer?.any (· ∉ foreign) := by
  cases found : letter.timer? with
  | none => rfl
  | some id => simp [Nat.ne_of_lt (sent id found)]

theorem Proper.set (proper : Proper site letters) (balanced : Balanced site letters)
    (deadline : Nat) (event : Event) (topic : Topic) :
    Proper (site.set deadline event topic) letters ∧
      Balanced (site.set deadline event topic) letters := by
  have own : (site.set deadline event topic).timers.ownPending
      (site.set deadline event topic).foreign = site.timers.ownPending site.foreign :=
    Timers.ownPending_set site.timers.numbered deadline event topic
  have later : (site.set deadline event topic).timers.nextId = site.timers.nextId + 1 := rfl
  refine ⟨⟨proper.placed, fun id member => ?_, fun letter member id number => ?_, ?_⟩, ?_⟩
  · rw [later]
    rcases List.mem_cons.mp member with fresh | older
    · rw [fresh]
      exact Nat.lt_succ_self _
    · exact Nat.lt_succ_of_lt (proper.known id older)
  · rw [later]
    exact Nat.lt_succ_of_lt (proper.sent letter member id number)
  · rw [own]
    exact proper.own
  · have waiting : site.inbox.items.countP (ownBeat (site.timers.nextId :: site.foreign)) =
        site.inbox.items.countP (ownBeat site.foreign) :=
      List.countP_congr fun letter member => by
        rw [ownBeat, ownBeat, any_unlisted (proper.sent letter (.inl member))]
    have past : letters.countP (strayBeat (site.timers.nextId :: site.foreign)) =
        letters.countP (strayBeat site.foreign) :=
      List.countP_congr fun letter member => by
        rw [strayBeat, strayBeat, any_unlisted (proper.sent letter (.inr member))]
    rw [Balanced, beats] at balanced ⊢
    rw [own]
    show _ + site.inbox.items.countP (ownBeat (site.timers.nextId :: site.foreign)) =
      letters.countP (strayBeat (site.timers.nextId :: site.foreign)) + _
    rw [waiting, past]
    exact balanced

theorem Proper.cancel (proper : Proper site letters) {id : Nat} (member : id ∈ site.foreign) :
    let next := { site with timers := site.timers.remove id }
    Proper next letters ∧ beats next = beats site := by
  intro next
  have own : next.timers.ownPending site.foreign = site.timers.ownPending site.foreign :=
    Timers.ownPending_remove_foreign site.timers member
  refine ⟨⟨proper.placed, proper.known, proper.sent, ?_⟩, ?_⟩
  · show ∀ timer ∈ next.timers.ownPending site.foreign, _
    rw [own]
    exact proper.own
  · show (next.timers.ownPending site.foreign).countP _ + _ = _
    rw [own]
    rfl

theorem Proper.pause (proper : Proper site letters) (balanced : Balanced site letters)
    (meanwhile : Site.Meanwhile topics site after) :
    Proper after letters ∧ Balanced after letters := by
  cases meanwhile with
  | receive event room =>
    exact (proper.receive event room).imp_right (balanced.of_beats_eq rfl rfl)
  | fire pending room => exact (proper.fire pending room).imp_right (balanced.of_beats_eq rfl rfl)
  | set deadline event topic => exact proper.set balanced deadline event topic
  | cancel member => exact (proper.cancel member).imp_right (balanced.of_beats_eq rfl rfl)

theorem proper_of_taken {heartbeat : Nat}
    (taken : Site.Taken chart topics (.new heartbeat) site letters) :
    Proper site letters ∧ Balanced site letters := by
  induction taken with
  | initial =>
    refine ⟨⟨⟨rfl, fun _ => rfl, nofun⟩, fun _ member => absurd member List.not_mem_nil, ?_,
      fun _ member => absurd member List.not_mem_nil⟩, rfl⟩
    exact fun letter member => absurd (or_self_iff.mp member) List.not_mem_nil
  | start _ now room ih => exact ih.1.start ih.2 now room
  | turn _ now popped room ih => exact ih.1.turn ih.2 now popped room
  | pause _ meanwhile ih => exact ih.1.pause ih.2 meanwhile

/-- Whatever events arrive and in whichever order timers fire: as soon as the mode controller has
been started, its heartbeats that are under way are one more than the heartbeats that it has taken
and that have come from elsewhere. So there is a single one if and only if there have been none of
those. -/
theorem beats_eq {heartbeat : Nat}
    (taken : Site.Taken chart topics (.new heartbeat) site letters)
    (started : site.machine.started = true) :
    beats site = letters.countP (strayBeat site.foreign) + 1 := by
  have balanced := (proper_of_taken taken).2
  rw [Balanced, started] at balanced
  exact balanced

/-- The controller takes the heartbeat of its own first timer. -/
theorem beats_eq_ticking :
    ∃ site, Site.Taken chart topics (.new 100) site [⟨.heartbeat, some 0⟩] ∧
      site.machine.started = true ∧ beats site = 1 := by
  have started : Site.Taken chart topics (.new 100) _ _ := .start .initial 0 (by decide +kernel)
  have fired : Site.Taken chart topics (.new 100) _ _ :=
    started.pause (.fire List.mem_cons_self fun _ => by decide +kernel)
  have ticked : Site.Taken chart topics (.new 100) _ _ :=
    fired.turn 100 rfl (by decide +kernel)
  exact ⟨_, ticked, rfl, beats_eq ticked rfl⟩

/-- After a heartbeat of a client there are two chains. -/
theorem beats_doubled :
    ∃ site, Site.Reachable chart topics (.new 100) site ∧ site.machine.started = true ∧
      beats site = 2 := by
  have started : Site.Reachable chart topics (.new 100) _ :=
    .step .initial (.start 0 (by decide +kernel))
  have told : Site.Reachable chart topics (.new 100) _ :=
    started.step (.receive .heartbeat (by decide +kernel))
  have taken : Site.Reachable chart topics (.new 100) _ :=
    told.step (.turn 0 rfl (by decide +kernel))
  exact ⟨_, taken, rfl, by decide +kernel⟩

end Mode

end Tether
