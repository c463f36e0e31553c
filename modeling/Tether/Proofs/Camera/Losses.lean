import Tether.Proofs.Camera.Shots
import Tether.Proofs.Statechart.Hearings

/-!
# What becomes of the events that are held back

The events that a busy camera holds back are dispatched again in one batch when it is ready. The
first of them that is a capture or that fails ends that: a camera that is taking a picture holds the
others back once more, but one that is in trouble holds back changes of settings only, so it drops
captures and queries that had been kept until then.

Every event that has been held back is answered, held back, or lost, and those that are not lost
stay in their order (`accounts_obeyAll`). Nothing is lost if and only if in trouble nothing but
changes of settings is dispatched again (`conserved_iff`).
-/

namespace Tether

namespace Camera

variable {δ : Type}

/-! ## Accounts -/

/-- The events that are dispatched again in a turn. -/
def replays (turn : Turn State (Memory δ)) : List (Dispatch State) :=
  (dispatches turn.journal).tail

/-- The events among some dispatches that a camera that was ready has handled. -/
def answered (replayed : List (Dispatch State)) : List Event :=
  (replayed.filter fun dispatch => dispatch.leaf = .ready ∧ dispatch.dropped = false).map
    Dispatch.event

/-- The events among some dispatches that were dropped. -/
def lost (replayed : List (Dispatch State)) : List Event :=
  (replayed.filter Dispatch.dropped).map Dispatch.event

/-- The event of an order, if it has been put behind the other held events. -/
def newlyHeld (before after : HeldEvents) : Order → List Event
  | .start => []
  | .dispatch event => if after.items = before.items ++ [event] then [event] else []

/-- All events that are dispatched again while a machine obeys some orders. -/
def again (driver : Driver δ) (history : History State (Memory δ)) :
    List Occasion → List (Dispatch State)
  | [] => []
  | occasion :: rest =>
      replays ((chart driver).obey history.machine occasion.timers occasion.now occasion.order) ++
        again driver (history.obey (chart driver) occasion) rest

/-- The events that are held back while a machine obeys some orders, in their order. -/
def heldBack (driver : Driver δ) (history : History State (Memory δ)) :
    List Occasion → List Event
  | [] => []
  | occasion :: rest =>
      newlyHeld history.machine.held (history.obey (chart driver) occasion).machine.held
          occasion.order ++
        heldBack driver (history.obey (chart driver) occasion) rest

/-- Every event that has been held back is still held back, or has been handled once by a camera
that was ready; and none has been dropped. -/
def Conserved (driver : Driver δ) (history : History State (Memory δ))
    (occasions : List Occasion) : Prop :=
  answered (again driver history occasions) ++
      (history.obeyAll (chart driver) occasions).machine.held.items =
    heldBack driver history occasions ∧
  ∀ dispatch ∈ again driver history occasions, dispatch.dropped = false

instance (driver : Driver δ) (history : History State (Memory δ)) (occasions : List Occasion) :
    Decidable (Conserved driver history occasions) :=
  inferInstanceAs (Decidable (_ ∧ _))

/-- Some events have been answered, lost or kept, and apart from the lost ones in their order. -/
structure Accounts (answered lost kept all : List Event) : Prop where
  complete : (answered ++ (lost ++ kept)).Perm all
  order : (answered ++ kept).Sublist all

namespace Accounts

variable {replied gone kept middle all : List Event}

theorem refl (all : List Event) : Accounts [] [] all all :=
  ⟨.refl all, .refl all⟩

theorem trans {more missing : List Event} (first : Accounts replied gone middle all)
    (second : Accounts more missing kept middle) :
    Accounts (replied ++ more) (gone ++ missing) kept all where
  complete := by
    rw [List.perm_iff_count]
    intro event
    have early := first.complete.count_eq event
    have late := second.complete.count_eq event
    simp only [List.count_append] at early late ⊢
    omega
  order := by
    rw [List.append_assoc]
    exact (second.order.append_left replied).trans first.order

/-- Events that are still due are kept behind the others. -/
theorem then_due (accounts : Accounts replied gone kept all) (due : List Event) :
    Accounts replied gone (kept ++ due) (all ++ due) where
  complete := by
    rw [← List.append_assoc gone, ← List.append_assoc replied]
    exact accounts.complete.append_right due
  order := by
    rw [← List.append_assoc]
    exact accounts.order.append_right due

/-- If nothing is lost, nothing has been changed but the place. -/
theorem eq_of_nothing_lost (accounts : Accounts replied [] kept all) : replied ++ kept = all :=
  accounts.order.eq_of_length (accounts.complete.length_eq)

end Accounts

theorem answered_append (replayed more : List (Dispatch State)) :
    answered (replayed ++ more) = answered replayed ++ answered more := by
  rw [answered, List.filter_append, List.map_append, answered, answered]

theorem lost_append (replayed more : List (Dispatch State)) :
    lost (replayed ++ more) = lost replayed ++ lost more := by
  rw [lost, List.filter_append, List.map_append, lost, lost]

/-! ## Events that wait -/

section Waiting

variable (driver : Driver δ) {event : Event} (waits : event.Waits)
  (scope : Scope State (Memory δ))

include waits

theorem handle_busy {leaf : State} (busy : leaf.isBusy) :
    (chart driver).handle leaf (.event event) scope = (scope.defer event, .handled) := by
  have holds : deferWhileBusy scope event = (scope.defer event, .handled) := if_pos waits
  cases leaf with
  | capturing =>
    show capturing driver scope (.event event) = _
    unfold capturing
    split
    · next equal => cases equal
    · next equal => cases equal
    · next equal => cases equal
    · next equal => cases equal; exact absurd waits (by decide)
    · next equal => cases equal; exact holds
  | downloading =>
    show downloading driver scope (.event event) = _
    unfold downloading
    split
    · next equal => cases equal
    · next equal => cases equal
    · next equal => cases equal
    · next equal => cases equal; exact absurd waits (by decide)
    · next equal => cases equal; exact holds
  | _ => cases busy

theorem handle_error : (chart driver).handle .error (.event event) scope =
    if event.isSetter then (scope.defer event, .handled) else (scope, .delegate) := by
  show error driver scope (.event event) = _
  unfold error
  split
  · next equal => cases equal
  · next equal => cases equal
  · next equal => cases equal
  · next equal => cases equal; exact absurd waits (by decide)
  · next equal => cases equal; exact absurd waits (by decide)
  · next equal => cases equal; exact absurd waits (by decide)
  · next equal => cases equal; exact absurd waits (by decide)
  · next equal => cases equal; exact absurd waits (by decide)
  · next equal => cases equal; rfl

theorem handle_super :
    (chart driver).handle .super (.event event) scope = (scope, .delegate) := by
  show super scope (.event event) = _
  unfold super
  split
  · next equal => cases equal
  · next equal => cases equal
  · next equal => cases equal
  · next equal => cases equal; exact absurd waits (by rintro (⟨⟨⟩⟩ | ⟨⟨⟩⟩))
  · next equal => cases equal; exact absurd waits (by rintro (⟨⟨⟩⟩ | ⟨⟨⟩⟩))
  · next equal => cases equal; exact absurd waits (by decide)
  · rfl

theorem handle_ready : ((chart driver).handle .ready (.event event) scope).2 ≠ .delegate := by
  have keeps : ∀ {outcome}, Answers .ready event scope outcome → outcome.2 ≠ .delegate := by
    intro outcome answers
    cases answers with
    | passes passes => exact absurd rfl (passes.waits waits).1
    | handles | holds | leads => rintro ⟨⟩
  exact keeps (ready_answers driver scope (.inl rfl))

/-- A camera in trouble drops what is no change of a setting. -/
theorem process_error (other : event.isSetter = false) :
    (chart driver).process (.error, scope) event =
      (.error, ((scope.record (.asked .error .error (.event event))).record
        (.asked .error .super (.event event))).warn .unhandled) := by
  have first := handle_error driver waits (scope.record (.asked .error .error (.event event)))
  rw [other] at first
  have second := handle_super driver waits
    ((scope.record (.asked .error .error (.event event))).record
      (.asked .error .super (.event event)))
  rw [Chart.process, show Limits.maxStateDepth = 14 + 1 + 1 from rfl, Chart.bubble,
    Chart.ask, first]
  show (chart driver).bubble .error event (14 + 1) (some .super) _ = _
  rw [Chart.bubble, Chart.ask, second]
  rfl

end Waiting

/-- The states in which held events are dispatched again. -/
def State.replays : State → Bool
  | .ready | .capturing | .downloading | .error => true
  | _ => false

theorem State.replays_cases {state : State} (replays : state.replays) :
    state = .ready ∨ state.isBusy ∨ state = .error := by
  revert replays
  cases state <;> decide

/-- What has become of some events that were to be dispatched again. -/
structure Replayed (before after : State × Scope State (Memory δ)) (events : List Event)
    (replayed : List (Dispatch State)) : Prop where
  hearings : hearings after.2.journal =
    hearings before.2.journal ++ replayed.flatMap Dispatch.hearings
  dropped : ∀ dispatch ∈ replayed, dispatch.dropped ↔
    dispatch.leaf = .error ∧ dispatch.event.isSetter = false
  accounts : Accounts (answered replayed) (lost replayed) after.2.held.items
    (before.2.held.items ++ events)

section Replays

variable {driver : Driver δ} {run : State × Scope State (Memory δ)} {event : Event}

/-- An event leaves the held events as they are, or is put behind them. -/
theorem Outcome.items {leaf : State} {scope : Scope State (Memory δ)}
    (outcome : Outcome driver leaf event scope run)
    (room : .warned .deferredFull ∉ run.2.journal) :
    run.2.held = scope.held ∨
      leaf ≠ .ready ∧ run.1 = leaf ∧ run.2.held.items = scope.held.items ++ [event] := by
  cases outcome with
  | stays does quiet => exact .inl does.keeps.held
  | holds does holds =>
    refine .inr ⟨holds.notReady, rfl, ?_⟩
    rw [Scope.items_defer room, does.keeps.held]
  | leads does leads =>
    exact .inl ((transition_entering driver leads.busy _).passed.held.trans does.keeps.held)

/-- An event that is held back once more. -/
theorem replayed_defer {leaf : State} {scope : Scope State (Memory δ)} (other : leaf ≠ .ready)
    (kept : leaf = .error → event.isSetter)
    (handled : (chart driver).handle leaf (.event event)
      (scope.record (.asked leaf leaf (.event event))) =
        ((scope.record (.asked leaf leaf (.event event))).defer event, .handled))
    (room : .warned .deferredFull ∉ ((chart driver).process (leaf, scope) event).2.journal) :
    Replayed (leaf, scope) ((chart driver).process (leaf, scope) event) [event]
      [⟨leaf, event, false⟩] := by
  have asked : (chart driver).ask leaf leaf (.event event) scope =
      ((scope.record (.asked leaf leaf (.event event))).defer event, .handled) := handled
  have processed : (chart driver).process (leaf, scope) event =
      (leaf, (scope.record (.asked leaf leaf (.event event))).defer event) := by
    rw [Chart.process, show Limits.maxStateDepth = 15 + 1 from rfl, Chart.bubble, asked]
  refine ⟨?_, fun dispatch member => ?_, ?_⟩
  · rw [List.flatMap_singleton]
    exact Chart.hearings_process_of_answered (by rw [asked]; rintro ⟨⟩)
  · rw [List.mem_singleton.mp member]
    refine ⟨fun dropped => absurd dropped Bool.false_ne_true, fun trouble => ?_⟩
    exact absurd (kept trouble.1) (by rw [trouble.2]; exact Bool.false_ne_true)
  · rw [processed] at room ⊢
    have items := Scope.items_defer room
    have unanswered : answered [⟨leaf, event, false⟩] = [] := by simp [answered, other]
    rw [unanswered]
    show Accounts [] [] ((scope.record _).defer event).held.items _
    rw [items]
    exact .refl _

theorem replayed_process (rests : run.1.rests) (replays : run.1.replays) (settled : Settled run)
    (waits : event.Waits)
    (room : .warned .deferredFull ∉ ((chart driver).process run event).2.journal) :
    ∃ dropped, Replayed run ((chart driver).process run event) [event]
      [⟨run.1, event, dropped⟩] := by
  obtain ⟨leaf, scope⟩ := run
  have outcome := outcome driver rests event scope
  rcases State.replays_cases replays with ready | busy | trouble
  · cases (ready : leaf = .ready)
    have empty : scope.held.items = [] := settled.ready rfl
    have held : ((chart driver).process (.ready, scope) event).2.held.items = [] :=
      (congrArg Mailbox.items
        ((outcome.items room).resolve_right fun waiting => waiting.1 rfl)).trans empty
    refine ⟨false, ?_, fun dispatch member => ?_, ?_⟩
    · rw [List.flatMap_singleton]
      exact Chart.hearings_process_of_answered (handle_ready driver waits _)
    · rw [List.mem_singleton.mp member]
      exact ⟨fun dropped => absurd dropped Bool.false_ne_true,
        fun trouble => State.noConfusion trouble.1⟩
    · rw [held, show (State.ready, scope).2.held.items = [] from empty]
      exact ⟨.refl _, .refl _⟩
  · have other : leaf ≠ .ready := by rintro rfl; cases busy
    have healthy : leaf = .error → event.isSetter := by rintro rfl; cases busy
    exact ⟨false, replayed_defer other healthy (handle_busy driver waits _ busy) room⟩
  · cases (trouble : leaf = .error)
    have handled := handle_error driver waits (scope.record (.asked .error .error (.event event)))
    cases setter : event.isSetter with
    | true =>
      rw [setter] at handled
      exact ⟨false, replayed_defer (by rintro ⟨⟩) (fun _ => setter) handled room⟩
    | false =>
      have processed := process_error driver waits scope setter
      refine ⟨true, ?_, fun dispatch member => ?_, ?_⟩
      · rw [processed]
        simp [hearings, Scope.warn, Scope.record, Effect.hearing?, Dispatch.hearings]
      · rw [List.mem_singleton.mp member]
        exact ⟨fun _ => ⟨rfl, setter⟩, fun _ => rfl⟩
      · rw [processed]
        show Accounts [] [event] scope.held.items (scope.held.items ++ [event])
        have moved : ([event] ++ scope.held.items).Perm (scope.held.items ++ [event]) :=
          List.perm_append_comm
        exact ⟨moved, List.sublist_append_left _ _⟩

/-- An event that waits leaves the camera in a state in which the next one is dispatched again. -/
theorem Outcome.replays {leaf : State} {scope : Scope State (Memory δ)}
    (outcome : Outcome driver leaf event scope run) (replays : leaf.replays)
    (waits : event.Waits) : run.1.replays := by
  cases outcome with
  | stays | holds => exact replays
  | leads does leads =>
    rw [transition_leaf]
    rcases (leads.waits waits).2 with rfl | rfl <;> rfl

theorem replayed_batch (events : List Event) (steady : Steady run) (replays : run.1.replays)
    (settled : Settled run) (waits : ∀ event ∈ events, event.Waits)
    (room : .warned .deferredFull ∉ (events.foldl (chart driver).process run).2.journal) :
    ∃ replayed, Replayed run (events.foldl (chart driver).process run) events replayed := by
  induction events generalizing run with
  | nil =>
    refine ⟨[], (List.append_nil _).symm, fun _ member => absurd member List.not_mem_nil, ?_⟩
    rw [List.append_nil]
    exact .refl _
  | cons event rest ih =>
    have roomNow : .warned .deferredFull ∉ ((chart driver).process run event).2.journal :=
      fun full => room ((Chart.prefix_processAll (shallow driver) rest _).subset full)
    have waitsNow := waits event List.mem_cons_self
    have outcome := outcome driver steady.rests event run.2
    have connected : run.1 ≠ .disconnected := fun equal => by rw [equal] at replays; cases replays
    obtain ⟨dropped, now⟩ := replayed_process steady.rests replays settled waitsNow roomNow
    obtain ⟨replayed, later⟩ := ih ((steady_sustains driver).process event steady)
      (outcome.replays replays waitsNow) (outcome.again settled connected waitsNow).1
      (fun other member => waits other (List.mem_cons_of_mem event member)) room
    refine ⟨⟨run.1, event, dropped⟩ :: replayed, ?_, fun dispatch member => ?_, ?_⟩
    · rw [List.foldl_cons, later.hearings, now.hearings, List.append_assoc,
        ← List.flatMap_append]
      rfl
    · rcases List.mem_cons.mp member with rfl | among
      · exact now.dropped _ List.mem_cons_self
      · exact later.dropped dispatch among
    · have first := now.accounts.then_due rest
      rw [List.append_assoc] at first
      have both := first.trans later.accounts
      rw [← answered_append, ← lost_append] at both
      exact both

end Replays

/-! ## Turns -/

theorem newlyHeld_of_length_le {before after : HeldEvents}
    (fewer : after.items.length ≤ before.items.length) (order : Order) :
    newlyHeld before after order = [] := by
  cases order with
  | start => rfl
  | dispatch event =>
    refine if_neg fun equal => ?_
    rw [equal, List.length_append, List.length_singleton] at fewer
    exact Nat.not_succ_le_self _ fewer

theorem hearings_startRun {machine : Machine State (Memory δ)} (kept : Kept machine)
    (driver : Driver δ) (timers : Timers) (now : Nat) :
    hearings ((chart driver).startRun machine timers now).2.journal = [] := by
  rw [startRun_eq kept]
  split
  · rfl
  · exact (chart driver).hearings_enter _

/-- What a turn has done to the events that are held back. -/
structure Accounted (held : HeldEvents) (order : Order) (turn : Turn State (Memory δ)) : Prop where
  kept : Kept turn.machine
  dropped : ∀ dispatch ∈ replays turn, dispatch.dropped ↔
    dispatch.leaf = .error ∧ dispatch.event.isSetter = false
  accounts : Accounts (answered (replays turn)) (lost (replays turn)) turn.machine.held.items
    (held.items ++ newlyHeld held turn.machine.held order)

section Turns

variable {held : HeldEvents} {event : Event} {dispatch : Dispatch State}
  {run after : State × Scope State (Memory δ)}

theorem replays_turn {replayed : List (Dispatch State)}
    (heard : hearings run.2.journal = dispatch.hearings ++ replayed.flatMap Dispatch.hearings) :
    replays (Machine.turn run) = replayed := by
  show (dispatchesOf (hearings run.2.journal)).tail = replayed
  rw [heard, ← List.flatMap_cons, dispatchesOf_flatMap]
  rfl

/-- If nothing is dispatched again, the event itself may have been put behind the others. -/
theorem accounted_alone (heard : hearings run.2.journal = dispatch.hearings)
    (kept : Kept (Machine.turn run).machine)
    (items : run.2.held = held ∨ run.2.held.items = held.items ++ [event]) :
    Accounted held (.dispatch event) (Machine.turn run) := by
  have nothing : replays (Machine.turn run) = [] :=
    replays_turn (heard.trans (List.append_nil _).symm)
  refine ⟨kept, fun _ member => absurd (nothing ▸ member) List.not_mem_nil, ?_⟩
  rw [nothing]
  show Accounts [] [] run.2.held.items (held.items ++ newlyHeld held run.2.held _)
  rcases items with same | behind
  · rw [same, newlyHeld_of_length_le (Nat.le_refl _), List.append_nil]
    exact .refl _
  · rw [newlyHeld, if_pos behind, behind]
    exact .refl _

/-- If the held events are dispatched again, nothing is put behind them. -/
theorem accounted_replayed {replayed : List (Dispatch State)}
    (heard : hearings run.2.journal = dispatch.hearings)
    (again : Replayed (run.1, { run.2 with replay := false, held := .empty }) after
      run.2.held.items replayed)
    (kept : Kept (Machine.turn after).machine) (order : Order) :
    Accounted run.2.held order (Machine.turn after) := by
  have same : replays (Machine.turn after) = replayed :=
    replays_turn (again.hearings.trans (congrArg (· ++ _) heard))
  have accounts : Accounts (answered replayed) (lost replayed) after.2.held.items
      run.2.held.items := again.accounts
  have fewer : after.2.held.items.length ≤ run.2.held.items.length := by
    have length := accounts.complete.length_eq
    simp only [List.length_append] at length
    omega
  refine ⟨kept, same ▸ again.dropped, ?_⟩
  rw [same, show (Machine.turn after).machine.held = after.2.held from rfl,
    newlyHeld_of_length_le fewer, List.append_nil]
  exact accounts

/-- What a turn does to the events that are held back. -/
theorem accounted_obey {machine : Machine State (Memory δ)} (kept : Kept machine)
    (driver : Driver δ) (timers : Timers) (now : Nat) (order : Order)
    (room : .warned .deferredFull ∉ ((chart driver).obey machine timers now order).journal) :
    Accounted machine.held order ((chart driver).obey machine timers now order) := by
  obtain ⟨-, held, steady, settled⟩ := startRun_keeps kept driver timers now
  have silent := hearings_startRun kept driver timers now
  cases order with
  | start =>
    have nothing : replays ((chart driver).obey machine timers now .start) = [] :=
      congrArg (List.tail ∘ dispatchesOf) silent
    refine ⟨kept_turn steady settled,
      fun _ member => absurd (nothing ▸ member) List.not_mem_nil, ?_⟩
    rw [nothing, newlyHeld, List.append_nil, ← held]
    exact .refl _
  | dispatch event =>
    let begun := (chart driver).startRun machine timers now
    have outcome := outcome driver steady.rests event begun.2
    obtain ⟨asked, ready⟩ := outcome.replay settled
    have steadyNow := (steady_sustains driver).process event steady
    obtain ⟨dropped, heard⟩ := Chart.hearings_process (shallow driver) begun event
    rw [silent, List.nil_append] at heard
    have grown := (chart driver).prefix_replayHeld (shallow driver) Limits.replayRounds
      ((chart driver).process begun event)
    have items := outcome.items fun full => room (grown.subset full)
    rw [show begun.2.held = machine.held from held] at items
    obtain ⟨settledNow, same | ⟨here, batch⟩⟩ := replayHeld_eq driver steadyNow asked ready
    · rw [Chart.obey, Chart.dispatch, same]
      exact accounted_alone heard (kept_turn steadyNow (same ▸ settledNow))
        (items.imp_right fun behind => behind.2.2)
    · -- A camera that has become ready has not held the event back.
      have unchanged := items.resolve_right fun behind => behind.1 (behind.2.1.symm.trans here)
      have roomLater : .warned .deferredFull ∉ ((chart driver).replayHeld Limits.replayRounds
          ((chart driver).process begun event)).2.journal := room
      have steadyThen := (steady_sustains driver).replayHeld Limits.replayRounds steadyNow
      rw [Chart.obey, Chart.dispatch]
      rw [batch] at roomLater steadyThen settledNow ⊢
      have replaysNow : ((chart driver).process begun event).1.replays := by rw [here]; rfl
      obtain ⟨replayed, again⟩ := replayed_batch _ ((steady_sustains driver).take steadyNow)
        replaysNow ⟨rfl, fun _ => rfl⟩ steadyNow.waits roomLater
      rw [← unchanged]
      exact accounted_replayed heard again (kept_turn steadyThen settledNow) _

end Turns

/-! ## Histories -/

/-- Every event that has been held back is answered, lost, or held back; and those are lost that are
dispatched again in trouble and are no changes of settings. -/
theorem accounts_obeyAll (driver : Driver δ) (occasions : List Occasion)
    {history : History State (Memory δ)} (kept : Kept history.machine)
    (room : .warned .deferredFull ∉ (history.obeyAll (chart driver) occasions).journal) :
    (∀ dispatch ∈ again driver history occasions, dispatch.dropped ↔
      dispatch.leaf = .error ∧ dispatch.event.isSetter = false) ∧
    Accounts (answered (again driver history occasions)) (lost (again driver history occasions))
      (history.obeyAll (chart driver) occasions).machine.held.items
      (history.machine.held.items ++ heldBack driver history occasions) := by
  induction occasions generalizing history with
  | nil =>
    refine ⟨fun _ member => absurd member List.not_mem_nil, ?_⟩
    rw [heldBack, List.append_nil]
    exact .refl _
  | cons occasion rest ih =>
    have roomNow : .warned .deferredFull ∉ (history.obey (chart driver) occasion).journal :=
      fun full => room ((History.prefix_obeyAll (chart driver) _ rest).subset full)
    have now := accounted_obey kept driver occasion.timers occasion.now occasion.order
      fun full => roomNow (List.mem_append_right _ full)
    obtain ⟨dropped, later⟩ := @ih (history.obey (chart driver) occasion) now.kept room
    refine ⟨fun dispatch member => ?_, ?_⟩
    · rcases List.mem_append.mp member with current | coming
      · exact now.dropped dispatch current
      · exact dropped dispatch coming
    · have accounts := now.accounts.then_due
        (heldBack driver (history.obey (chart driver) occasion) rest)
      rw [again, heldBack, answered_append, lost_append, ← List.append_assoc]
      exact accounts.trans later

theorem lost_eq_nil_iff {replayed : List (Dispatch State)} :
    lost replayed = [] ↔ ∀ dispatch ∈ replayed, dispatch.dropped = false := by
  rw [lost, List.map_eq_nil_iff, List.filter_eq_nil_iff]
  exact forall₂_congr fun dispatch _ => Bool.not_eq_true _ ▸ Iff.rfl

/-- However the camera behaves: as long as the queue of held events never overflows, every event
that has been held back is still held back or has been handled once by a camera that was ready,
and none is dropped when it is dispatched again, if and only if in the error state nothing but
changes of settings is dispatched again. -/
theorem conserved_iff (driver : Driver δ) (memory : Memory δ) (occasions : List Occasion) :
    let history := History.new (chart driver) memory
    .warned .deferredFull ∉ (history.obeyAll (chart driver) occasions).journal →
      (Conserved driver history occasions ↔
        ∀ dispatch ∈ again driver history occasions, dispatch.leaf = .error →
          dispatch.event.isSetter) := by
  intro history room
  have kept : Kept history.machine := kept_new driver memory
  obtain ⟨dropped, accounts⟩ := accounts_obeyAll driver occasions kept room
  have nothingDropped :
      (∀ dispatch ∈ again driver history occasions, dispatch.dropped = false) ↔
      ∀ dispatch ∈ again driver history occasions, dispatch.leaf = .error →
        dispatch.event.isSetter := by
    refine forall₂_congr fun dispatch member => ?_
    rw [← Bool.not_eq_true, dropped dispatch member, not_and, Bool.not_eq_false]
  rw [← nothingDropped]
  refine ⟨fun conserved => conserved.2, fun none => ⟨?_, none⟩⟩
  rw [lost_eq_nil_iff.mpr none] at accounts
  exact accounts.eq_of_nothing_lost

/-- A controller of the plain camera that has not been started. -/
def plainNew : History State (Memory Unit) :=
  .new (chart plainCamera) (.new () ⟨"", false, 0, 0, 0⟩)

/-- Two changes of settings that arrive during a capture are kept though the first one fails. -/
theorem conserved_changes :
    .warned .deferredFull ∉
      (plainNew.obeyAll (chart plainCamera) changesDuringCapture).journal ∧
      Conserved plainCamera plainNew changesDuringCapture := by
  have room : .warned .deferredFull ∉
      (plainNew.obeyAll (chart plainCamera) changesDuringCapture).journal :=
    Effect.not_warned (by decide +kernel)
  exact ⟨room, (conserved_iff plainCamera (.new () ⟨"", false, 0, 0, 0⟩) changesDuringCapture
    room).mpr (by decide +kernel)⟩

/-- A change of a setting and a query arrive during a capture. -/
def queryDuringCapture : List Occasion :=
  [.connect, .capture, .setIso 200, .getIso, .captureStep].map
    fun event => ⟨.dispatch event, .empty, 0⟩

/-- The change fails, which leads to the error state; there the query is dropped. -/
theorem query_lost :
    .warned .deferredFull ∉ (plainNew.obeyAll (chart plainCamera) queryDuringCapture).journal ∧
      heldBack plainCamera plainNew queryDuringCapture = [.setIso 200, .getIso] ∧
      lost (again plainCamera plainNew queryDuringCapture) = [.getIso] ∧
      ¬ Conserved plainCamera plainNew queryDuringCapture :=
  ⟨Effect.not_warned (by decide +kernel), by decide +kernel, by decide +kernel,
    by decide +kernel⟩

end Camera

end Tether
