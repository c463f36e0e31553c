import Tether.Proofs.Camera.Faults
import Tether.Proofs.Camera.Shots

/-!
# Trouble is noticed

A turn of the camera controller in which a call has failed alarmingly ends in a broken state, or the
controller has told itself of an error. No turn enters a broken state without such a failure, unless
it is the turn of the news of an error (`trouble_noticed`).

A failure in an answer to an event heads for a broken state, and a failure on the way to any state
is reported at once (`heading_carries`). After the first failure all events that are still to be
dispatched again are ones that wait, and none of them leads out of a broken state (`sound_process`).
-/

namespace Tether

namespace Camera

variable {δ : Type}

/-- Whether a journal tells of a failure that must not be passed over. -/
def Alarmed (journal : List (Effect State)) : Prop :=
  ∃ failure ∈ failures journal, failure.isAlarming

instance (journal : List (Effect State)) : Decidable (Alarmed journal) :=
  inferInstanceAs (Decidable (∃ failure ∈ failures journal, failure.isAlarming))

/-- Whether a journal tells that a broken state has been entered. -/
def Breaks (journal : List (Effect State)) : Prop :=
  ∃ leaf state : State, state.isBroken ∧ .asked leaf state .entry ∈ journal

/-- Whether trouble has been noticed, and nothing else has been taken for trouble; `excused` tells
whether a broken state may be entered though nothing has failed. -/
structure Sound (excused : Prop) (run : State × Scope State (Memory δ)) : Prop where
  noticed : Alarmed run.2.journal →
    run.1.isBroken ∨ .postedSelf .cameraError ∈ run.2.journal
  founded : Breaks run.2.journal → excused ∨ Alarmed run.2.journal

/-- A machine on its way to a state is sound, and has a reason if that state is a broken one. -/
structure Heading (excused : Prop) (goal : State) (scope : Scope State (Memory δ)) : Prop
    extends Sound excused (goal, scope) where
  reason : goal.isBroken → excused ∨ Alarmed scope.journal

/-- Nothing has failed so far. -/
structure Calm (excused : Prop) (scope : Scope State (Memory δ)) : Prop where
  unalarmed : ¬ Alarmed scope.journal
  founded : Breaks scope.journal → excused

theorem Calm.sound {excused : Prop} {scope : Scope State (Memory δ)} (calm : Calm excused scope)
    (leaf : State) : Sound excused (leaf, scope) :=
  ⟨fun alarmed => absurd alarmed calm.unalarmed, fun breaks => .inl (calm.founded breaks)⟩

/-! ## Journals -/

theorem not_alarmed_nil : ¬ Alarmed [] := by
  rintro ⟨failure, ⟨⟩, -⟩

theorem not_breaks_nil : ¬ Breaks [] := by
  rintro ⟨leaf, state, -, ⟨⟩⟩

theorem Alarmed.of_prefix {journal later : List (Effect State)} (grown : journal <+: later)
    (alarmed : Alarmed journal) : Alarmed later := by
  obtain ⟨added, rfl⟩ := grown
  obtain ⟨failure, member, alarming⟩ := alarmed
  obtain ⟨last, equal⟩ := failuresFrom_append none journal added
  refine ⟨failure, ?_, alarming⟩
  rw [failures, equal]
  exact List.mem_append_left _ member

theorem alarmed_append_warned {journal : List (Effect State)} {warning : Warning} :
    Alarmed (journal ++ [.warned warning]) ↔ Alarmed journal := by
  rw [Alarmed, failures_append_warned, Alarmed]

theorem breaks_append_warned {journal : List (Effect State)} {warning : Warning}
    (breaks : Breaks (journal ++ [.warned warning])) : Breaks journal := by
  obtain ⟨leaf, state, broken, member⟩ := breaks
  refine ⟨leaf, state, broken, (List.mem_append.mp member).resolve_right fun last => ?_⟩
  cases List.mem_singleton.mp last

section Steps

variable {driver : Driver δ} {excused : Prop} {leaf goal state : State} {signal : Signal}
  {failed : List (Call × Fault)} {scope : Scope State (Memory δ)}

/-- Asking a state adds the calls that have failed for it. -/
theorem failures_ask (fails : Fails failed (scope.record (.asked leaf state signal))
    ((chart driver).ask leaf state signal scope).1) :
    failures ((chart driver).ask leaf state signal scope).1.journal =
      failures scope.journal ++
        failed.map fun one => ⟨some ⟨leaf, state, signal⟩, one.1, one.2⟩ := by
  obtain ⟨added, grown, quiet⟩ := (chart driver).ask_journal leaf state signal scope
  have past : faults (scope.record (.asked leaf state signal)).journal = faults scope.journal := by
    rw [Scope.record, faults, List.filterMap_append]
    exact List.append_nil _
  have equal : faults added = failed := by
    rw [Fails, grown, past, faults, List.filterMap_append] at fails
    exact List.append_cancel_left fails
  rw [grown, failures_append_asked, failuresFrom_of_quiet _ quiet, equal]

theorem alarmed_ask (fails : Fails failed (scope.record (.asked leaf state signal))
    ((chart driver).ask leaf state signal scope).1) :
    Alarmed ((chart driver).ask leaf state signal scope).1.journal ↔
      Alarmed scope.journal ∨ Alarming ⟨leaf, state, signal⟩ failed := by
  rw [Alarmed, failures_ask fails]
  simp only [List.mem_append, List.mem_map, or_and_right, exists_or]
  refine or_congr_right ⟨?_, ?_⟩
  · rintro ⟨_, ⟨one, member, rfl⟩, alarming⟩
    exact ⟨one, member, alarming⟩
  · rintro ⟨one, member, alarming⟩
    exact ⟨_, ⟨one, member, rfl⟩, alarming⟩

theorem breaks_ask (breaks : Breaks ((chart driver).ask leaf state signal scope).1.journal) :
    Breaks scope.journal ∨ signal = .entry ∧ state.isBroken := by
  obtain ⟨added, grown, quiet⟩ := (chart driver).ask_journal leaf state signal scope
  obtain ⟨past, entered, broken, member⟩ := breaks
  rw [grown] at member
  rcases List.mem_append.mp member with earlier | now
  · exact .inl ⟨past, entered, broken, earlier⟩
  · rcases List.mem_cons.mp now with equal | later
    · cases equal
      exact .inr ⟨rfl, broken⟩
    · cases quiet _ later

theorem journal_ask_prefix :
    scope.journal <+: ((chart driver).ask leaf state signal scope).1.journal := by
  obtain ⟨added, grown, -⟩ := (chart driver).ask_journal leaf state signal scope
  exact ⟨_, grown.symm⟩

/-! ## Transitions -/

/-- On the way to a state, a state may be asked that reports its failures and is entered only as the
goal, if it is a broken one. -/
theorem Heading.ask (heading : Heading excused goal scope)
    (admits : Admits ⟨leaf, state, signal⟩ (scope.record (.asked leaf state signal))
      ((chart driver).ask leaf state signal scope).1)
    (aimed : signal = .entry → state.isBroken → goal.isBroken) :
    Heading excused goal ((chart driver).ask leaf state signal scope).1 := by
  obtain ⟨failed, fails, reports⟩ := admits
  have alarmed := alarmed_ask fails
  have lasting : excused ∨ Alarmed scope.journal →
      excused ∨ Alarmed ((chart driver).ask leaf state signal scope).1.journal :=
    Or.imp_right fun earlier => alarmed.mpr (.inl earlier)
  refine ⟨⟨fun alarm => ?_, fun breaks => ?_⟩,
    fun broken => lasting (heading.reason broken)⟩
  · rcases alarmed.mp alarm with earlier | now
    · exact (heading.noticed earlier).imp_right fun told => journal_ask_prefix.subset told
    · exact .inr (reports now)
  · rcases breaks_ask breaks with earlier | ⟨entry, broken⟩
    · exact lasting (heading.founded earlier)
    · exact lasting (heading.reason (aimed entry broken))

theorem Heading.warn (heading : Heading excused goal scope) (warning : Warning) :
    Heading excused goal (scope.warn warning) where
  noticed alarm :=
    (heading.noticed (alarmed_append_warned.mp alarm)).imp_right (List.mem_append_left _)
  founded breaks :=
    (heading.founded (breaks_append_warned breaks)).imp_right alarmed_append_warned.mpr
  reason broken := (heading.reason broken).imp_right alarmed_append_warned.mpr

theorem Calm.warn (calm : Calm excused scope) (warning : Warning) :
    Calm excused (scope.warn warning) :=
  ⟨fun alarm => calm.unalarmed (alarmed_append_warned.mp alarm),
    fun breaks => calm.founded (breaks_append_warned breaks)⟩

/-- A broken state is entered only as the goal of a transition. -/
theorem eq_of_isBroken (member : state ∈ goal.path) (broken : state.isBroken) : goal = state := by
  rcases mem_path member with equal | rfl | rfl | ⟨rfl, -⟩
  · exact equal
  all_goals cases broken

/-- Initial transitions have nothing to do with broken states. -/
theorem not_isBroken_of_initial {target : State} (initial : leaf.initial? = some target) :
    leaf.isBroken = false ∧ target.isBroken = false := by
  cases leaf <;> cases initial <;> exact ⟨rfl, rfl⟩

theorem heading_carries (driver : Driver δ) (excused : Prop) :
    (chart driver).Carries (fun goal _ => Heading excused goal)
      (fun goal _ => Heading excused goal) where
  leave leaf goal state scope _ heading := by
    refine heading.ask (admits_calm ?_) (by rintro ⟨⟩)
    rw [Chart.ask, handle_exit, Fails, onExit_journal]
    exact (List.append_nil _).symm
  turn _ heading := heading
  enter leaf goal state scope member heading := by
    refine heading.ask (handle_entry_admits driver leaf state _) fun _ broken => ?_
    rw [chain_eq] at member
    rw [eq_of_isBroken member broken]
    exact broken
  init {leaf scope} heading := by
    obtain ⟨idle, leads⟩ := handle_init driver leaf (scope.record (.asked leaf leaf .init))
    have same : ((chart driver).ask leaf leaf .init scope).1 = _ := idle
    have asked : Heading excused leaf ((chart driver).ask leaf leaf .init scope).1 :=
      heading.ask (admits_calm (same ▸ Fails.refl _)) (by rintro ⟨⟩)
    cases found : (chart driver).ask leaf leaf .init scope with
    | mk after reaction =>
      rw [found] at asked
      cases reaction with
      | handled => exact asked
      | delegate => exact asked
      | transition target =>
        obtain ⟨sourceSound, targetSound⟩ := not_isBroken_of_initial (leads target (by
          rw [← Chart.ask, found]))
        refine ⟨⟨fun alarm => .inr ((asked.noticed alarm).resolve_left ?_),
          asked.founded⟩, ?_⟩
        · rw [sourceSound]
          exact Bool.false_ne_true
        · rw [targetSound]
          exact fun broken => absurd broken Bool.false_ne_true
  leaving_warn warning heading := heading.warn warning
  entering_warn warning heading := heading.warn warning

end Steps

/-! ## Events -/

section Events

variable {driver : Driver δ} {excused : Prop} {run : State × Scope State (Memory δ)}
  {event : Event}

/-- No event that waits leads out of a broken state. -/
theorem process_of_isBroken (rests : run.1.rests) (broken : run.1.isBroken) (waits : event.Waits) :
    ((chart driver).process run event).1 = run.1 := by
  obtain ⟨leaf, scope⟩ := run
  have outcome := outcome driver rests event scope
  generalize (chart driver).process (leaf, scope) event = after at outcome ⊢
  cases outcome with
  | stays does quiet => rfl
  | holds does holds => rfl
  | leads does leads =>
    cases (leads.waits waits).1
    cases broken

/-- What a state answers to an event before anything has failed. Only this state can have made a
call that fails alarmingly, and then it has asked for a broken state. -/
theorem Calm.ask {scope : Scope State (Memory δ)} (calm : Calm excused scope) (driver : Driver δ)
    (leaf state : State) (news : event = .cameraError → excused) :
    match (chart driver).ask leaf state (.event event) scope with
    | (after, .transition target) => Heading excused target after
    | (after, _) => Calm excused after := by
  obtain ⟨failed, fails, responds⟩ := handle_event_responds driver leaf state event
    (scope.record (.asked leaf state (.event event)))
  have alarmed := alarmed_ask fails
  have founded (breaks : Breaks ((chart driver).ask leaf state (.event event) scope).1.journal) :
      excused :=
    calm.founded ((breaks_ask breaks).resolve_right fun entry => nomatch entry.1)
  have leads (alarm : Alarmed ((chart driver).ask leaf state (.event event) scope).1.journal) :=
    responds.noticed ((alarmed.mp alarm).resolve_left calm.unalarmed)
  have reasons := responds.founded
  rw [show (chart driver).handle state (.event event) _ =
    (chart driver).ask leaf state (.event event) scope from rfl] at leads reasons
  cases found : (chart driver).ask leaf state (.event event) scope with
  | mk after reaction =>
    rw [found] at alarmed founded leads reasons
    cases reaction with
    | handled =>
      refine ⟨fun alarm => ?_, founded⟩
      obtain ⟨_, ⟨⟩, -⟩ := leads alarm
    | delegate =>
      refine ⟨fun alarm => ?_, founded⟩
      obtain ⟨_, ⟨⟩, -⟩ := leads alarm
    | transition target =>
      refine ⟨⟨fun alarm => ?_, fun breaks => .inl (founded breaks)⟩, fun broken => ?_⟩
      · obtain ⟨_, ⟨⟩, broken⟩ := leads alarm
        exact .inl broken
      · rcases reasons target rfl broken with alarming | told
        · exact .inr (alarmed.mpr (.inr alarming))
        · exact .inl (news (Signal.event.inj told))

/-- After a failure, events that wait keep a machine where it is noticed. -/
theorem Sound.process_of_alarmed (sound : Sound excused run) (rests : run.1.rests)
    (alarmed : Alarmed run.2.journal) (waits : event.Waits) :
    Sound excused ((chart driver).process run event) := by
  have grown : run.2.journal <+: ((chart driver).process run event).2.journal :=
    Chart.prefix_processAll (shallow driver) [event] run
  refine ⟨fun _ => (sound.noticed alarmed).imp (fun broken => ?_) fun told => grown.subset told,
    fun _ => .inr (alarmed.of_prefix grown)⟩
  rw [process_of_isBroken rests broken waits]
  exact broken

/-- An event keeps a machine sound if nothing has failed before it, or if it is one that waits. -/
theorem sound_process (rests : run.1.rests) (sound : Sound excused run)
    (news : event = .cameraError → excused) (fresh : Alarmed run.2.journal → event.Waits) :
    Sound excused ((chart driver).process run event) := by
  by_cases alarmed : Alarmed run.2.journal
  · exact sound.process_of_alarmed rests alarmed (fresh alarmed)
  · obtain ⟨leaf, scope⟩ := run
    have calm : Calm excused scope :=
      ⟨alarmed, fun breaks => (sound.founded breaks).resolve_right alarmed⟩
    refine Chart.process_induction (shallow driver) (fun _ => Calm excused) (Sound excused) ?_
      (fun _ calm => (calm.warn .unhandled).sound leaf) calm
    intro state asked _ calm
    have answered := calm.ask driver leaf state news
    cases found : (chart driver).ask leaf state (.event event) asked with
    | mk after reaction =>
      rw [found] at answered
      cases reaction with
      | handled => exact answered.sound leaf
      | delegate => exact answered
      | transition target =>
        exact ((heading_carries driver excused).transition (shallow driver) answered).toSound

theorem sound_batch {events : List Event} (steady : Steady run) (sound : Sound excused run)
    (waits : ∀ event ∈ events, event.Waits) :
    Sound excused (events.foldl (chart driver).process run) := by
  induction events generalizing run with
  | nil => exact sound
  | cons event rest ih =>
    have waitsNow := waits event List.mem_cons_self
    have later : ∀ other ∈ rest, other.Waits := fun other member =>
      waits other (List.mem_cons_of_mem event member)
    refine ih ((steady_sustains driver).process event steady) ?_ later
    refine sound_process steady.rests sound (fun news => ?_) fun _ => waitsNow
    rw [news] at waitsNow
    exact absurd waitsNow (by decide)

end Events

/-! ## Turns -/

/-- Nothing fails while a machine is started. -/
theorem calm_startRun {machine : Machine State (Memory δ)} (kept : Kept machine)
    (driver : Driver δ) (excused : Prop) (timers : Timers) (now : Nat) :
    Calm excused ((chart driver).startRun machine timers now).2 := by
  have calm : Calm excused (machine.scope timers now) :=
    ⟨not_alarmed_nil, fun breaks => absurd breaks not_breaks_nil⟩
  rw [startRun_eq kept]
  split
  · exact calm
  · have entered := (heading_carries driver excused).enter_chart (shallow driver)
      ⟨calm.sound _, nofun⟩
    have none : failures ((chart driver).enter (machine.scope timers now)).2.journal = [] := rfl
    have unalarmed : ¬ Alarmed ((chart driver).enter (machine.scope timers now)).2.journal := by
      rintro ⟨failure, member, -⟩
      rw [none] at member
      cases member
    exact ⟨unalarmed, fun breaks => (entered.founded breaks).resolve_right unalarmed⟩

/-- Whatever the camera answers: a dispatch in which a call fails that must not be passed over ends
in a broken state, or with the news of an error in the mailbox of the controller. A broken state is
entered only in a dispatch in which such a call fails, or in that of the news of an error. -/
theorem trouble_noticed (driver : Driver δ) (memory : Memory δ) (occasions : List Occasion)
    (event : Event) (timers : Timers) (now : Nat) :
    let history := (History.new (chart driver) memory).obeyAll (chart driver) occasions
    let turn := (chart driver).dispatch history.machine event timers now
    (Alarmed turn.journal →
      turn.machine.leaf.isBroken ∨ .postedSelf .cameraError ∈ turn.journal) ∧
    (Breaks turn.journal → event = .cameraError ∨ Alarmed turn.journal) := by
  intro history turn
  have kept : Kept history.machine := kept_obeyAll (kept_new driver memory) driver occasions
  obtain ⟨-, -, steady, settled⟩ := startRun_keeps kept driver timers now
  have calm := calm_startRun kept driver (event = .cameraError) timers now
  let begun := (chart driver).startRun history.machine timers now
  have soundNow : Sound (event = .cameraError) ((chart driver).process begun event) :=
    sound_process steady.rests (calm.sound _) id fun alarmed => absurd alarmed calm.unalarmed
  have steadyNow := (steady_sustains driver).process event steady
  obtain ⟨asked, ready⟩ := (outcome driver steady.rests event begun.2).replay settled
  have soundThen : Sound (event = .cameraError)
      ((chart driver).replayHeld Limits.replayRounds ((chart driver).process begun event)) := by
    rcases (replayHeld_eq driver steadyNow asked ready).2 with same | ⟨-, batch⟩
    · rw [same]
      exact soundNow
    · rw [batch]
      exact sound_batch ((steady_sustains driver).take steadyNow)
        ⟨soundNow.noticed, soundNow.founded⟩ steadyNow.waits
  exact ⟨soundThen.noticed, soundThen.founded⟩

/-- A camera without settings, to which the controller has connected, is asked to change one. -/
theorem trouble_noticed_change :
    let history := (History.new (chart plainCamera) (.new () ⟨"", false, 0, 0, 0⟩)).obeyAll
      (chart plainCamera) [⟨.dispatch .connect, .empty, 0⟩]
    let turn := (chart plainCamera).dispatch history.machine (.setIso 200) .empty 0
    history.machine.leaf = .ready ∧ Alarmed turn.journal ∧
      (turn.machine.leaf.isBroken ∨ .postedSelf .cameraError ∈ turn.journal) := by
  intro history turn
  have alarmed : Alarmed turn.journal := by decide +kernel
  exact ⟨by decide +kernel, alarmed,
    (trouble_noticed plainCamera (.new () ⟨"", false, 0, 0, 0⟩)
      [⟨.dispatch .connect, .empty, 0⟩] (.setIso 200) .empty 0).1 alarmed⟩

end Camera

end Tether
