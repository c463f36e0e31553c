import Tether.Proofs.Intervalometer.Turn

/-!
# How the intervalometer asks for shots

The intervalometer is in `Capturing` after a turn only if the turn asked the camera for a shot, or
if it was there before and has not heard how the capture has ended (`asks_or_waits`).
-/

namespace Tether

namespace Intervalometer

/-! ## Where demands go -/

/-- A scope in which every demand for a shot has been sent to the camera. -/
def Aimed (scope : Scope State Memory) : Prop :=
  ∀ topic, .posted .capture topic ∈ scope.journal → topic = .cameraCmd

namespace Aimed

variable {scope after : Scope State Memory}

theorem of_journal (aimed : Aimed scope) (same : after.journal = scope.journal) : Aimed after := by
  intro topic member
  rw [same] at member
  exact aimed topic member

theorem record (aimed : Aimed scope) {effect : Effect State}
    (own : ∀ topic, effect = .posted .capture topic → topic = .cameraCmd) :
    Aimed (scope.record effect) := by
  intro topic member
  rcases List.mem_append.mp member with earlier | last
  · exact aimed topic earlier
  · exact own topic (List.mem_singleton.mp last).symm

theorem enterLeaf (aimed : Aimed scope) (state : State) :
    Aimed (Intervalometer.enterLeaf scope state) :=
  record (aimed.of_journal rfl) nofun

theorem cancelDeadline (aimed : Aimed scope) : Aimed (Intervalometer.cancelDeadline scope) :=
  aimed.of_journal (Scope.cancel?_journal _ _)

theorem schedule (aimed : Aimed scope) (event : Event) (topic : Topic) (delay : Nat) :
    Aimed (scope.schedule event topic delay).1 := by
  intro other member
  rw [Scope.schedule_journal] at member
  rcases List.mem_append.mp member with earlier | clamped
  · exact aimed other earlier
  · split at clamped
    · cases List.mem_singleton.mp clamped
    · cases clamped

theorem setDeadline (aimed : Aimed scope) : Aimed (Intervalometer.setDeadline scope) := by
  unfold Intervalometer.setDeadline
  split
  · have scheduled := aimed.schedule .intervalometerDeadline .modeFsm
      scope.memory.interval.toInt.toNat
    exact scheduled.of_journal rfl
  · exact aimed

theorem beginCapture (aimed : Aimed scope) : Aimed (Intervalometer.beginCapture scope) := by
  have begun : Aimed (update (Intervalometer.enterLeaf scope .capturing) fun memory =>
      { memory with expired := false }) := (aimed.enterLeaf .capturing).of_journal rfl
  have asked : Aimed (Scope.post _ .capture .cameraCmd) := begun.cancelDeadline.record ?_
  · exact asked.setDeadline
  · rintro _ ⟨⟩
    rfl

/-- Only the entry of `Capturing` asks for a shot. -/
theorem handle (aimed : Aimed scope) (state : State) (signal : Signal) :
    Aimed (chart.handle state signal scope).1 := by
  cases state with
  | super =>
    show Aimed (super scope signal).1
    unfold super
    split
    · exact aimed
    · exact aimed
    · exact aimed
    · exact aimed.record nofun
    · exact aimed
  | ready =>
    show Aimed (ready scope signal).1
    unfold ready
    split
    · exact aimed.enterLeaf .ready
    all_goals exact aimed.of_journal rfl
  | running =>
    show Aimed (running scope signal).1
    unfold running
    split
    · exact aimed
    · exact aimed.cancelDeadline.record nofun
    all_goals exact aimed
  | capturing =>
    show Aimed (capturing scope signal).1
    unfold capturing
    split
    · exact aimed.beginCapture
    all_goals exact aimed.of_journal rfl
  | waiting =>
    show Aimed (waiting scope signal).1
    unfold waiting
    split
    · exact aimed.enterLeaf .waiting
    all_goals exact aimed.of_journal rfl
  | error =>
    show Aimed (error scope signal).1
    unfold error
    split
    · exact aimed.enterLeaf .error
    all_goals exact aimed.of_journal rfl

end Aimed

theorem aimed_preserves : chart.Preserves Aimed where
  ask leaf state signal scope aimed := by
    have asked : Aimed (scope.record (.asked leaf state signal)) := aimed.record nofun
    exact asked.handle state signal
  warn _ _ aimed := aimed.record nofun
  take aimed := aimed.of_journal rfl

/-! ## Turns -/

/-- An event that does not tell how a capture has ended. -/
structure NoOutcome (event : Event) : Prop where
  done : ∀ downloaded file, event ≠ .captureDone downloaded file
  trouble : event ≠ .cameraError

theorem noOutcome_of_ignores {event : Event} (ignored : State.ignores .capturing event = true) :
    NoOutcome event where
  done := by
    rintro downloaded file rfl
    cases ignored
  trouble := by
    rintro rfl
    cases ignored

/-- No asking is the mark of a demand. -/
theorem markOf_ne_shot (leaf state : State) (event : Event) :
    markOf leaf state event ≠ some .shot := by
  have guarded {fires : Prop} [Decidable fires] {mark : Mark} (other : mark ≠ .shot) :
      (if fires then some mark else none) ≠ some .shot := by
    split
    · exact fun same => other (Option.some.inj same)
    · exact nofun
  cases event with
  | intervalometerStart | captureDone | intervalometerDeadline | stopMode =>
    exact guarded nofun
  | _ => exact nofun

theorem posted_of_shot {journal : List (Effect State)} (shot : .shot ∈ marks journal) :
    ∃ topic, .posted .capture topic ∈ journal := by
  obtain ⟨effect, member, marked⟩ := List.mem_filterMap.mp shot
  unfold mark? at marked
  split at marked
  · exact absurd marked (markOf_ne_shot _ _ _)
  · exact ⟨_, member⟩
  · cases marked
  · cases marked

/-- What leads to `Capturing` asks for a shot, unless the sequence stays there. -/
theorem Turned.asks {before : Scope State Memory} {leaf : State} {event : Event}
    {run : State × Scope State Memory} (turned : Turned before leaf event run)
    (capturing : run.1 = .capturing) :
    .shot ∈ marks run.2.journal ∨ leaf = .capturing ∧ NoOutcome event := by
  have asks {after : Scope State Memory} {added : List Mark}
      (marked : marks after.journal = marks before.journal ++ added)
      (last : added.getLast? = some .shot) : .shot ∈ marks after.journal := by
    rw [marked]
    exact List.mem_append_right _ (List.mem_of_getLast? last)
  cases turned with
  | stay ignored changes =>
    subst capturing
    exact Or.inr ⟨rfl, noOutcome_of_ignores ignored⟩
  | note busy changes => exact Or.inr ⟨capturing, nofun, nofun⟩
  | begin changes => exact Or.inl (asks changes.journal rfl)
  | again incomplete due changes => exact Or.inl (asks changes.journal rfl)
  | next changes => exact Or.inl (asks changes.journal rfl)
  | retry due changes => exact Or.inl (asks changes.journal rfl)
  | stop => cases capturing
  | finish => cases capturing
  | pause => cases capturing
  | park => cases capturing
  | rejoin => cases capturing

/-- If the intervalometer is in `Capturing` after a turn, then it has asked for a shot, or it was
there before and the event that it took was not the end of a capture. -/
theorem asks_or_waits {machine : Machine State Memory} (placed : Placed machine) (timers : Timers)
    (now : Nat) (order : Order)
    (capturing : (chart.obey machine timers now order).machine.leaf = .capturing) :
    .posted .capture .cameraCmd ∈ (chart.obey machine timers now order).journal ∨
      machine.leaf = .capturing ∧ ∀ event, order = .dispatch event → NoOutcome event := by
  have here (based : base machine = .capturing) : machine.leaf = .capturing := by
    unfold base at based
    split at based
    · exact based
    · cases based
  have aims : ∀ topic,
      .posted .capture topic ∈ (chart.obey machine timers now order).journal →
        topic = .cameraCmd := by
    obtain ⟨run, turn, aimed⟩ := aimed_preserves.obey shallow machine timers now order nofun
    rw [turn]
    exact aimed
  obtain ⟨scope, run, -, -, turn, turned⟩ := turned_obey placed timers now order
  rw [turn] at capturing aims ⊢
  cases order with
  | start =>
    subst turned
    exact Or.inr ⟨here capturing, nofun⟩
  | dispatch event =>
    rcases Turned.asks turned capturing with shot | ⟨based, other⟩
    · obtain ⟨topic, posted⟩ := posted_of_shot shot
      obtain rfl := aims topic posted
      exact Or.inl posted
    · refine Or.inr ⟨here based, ?_⟩
      rintro _ ⟨⟩
      exact other

end Intervalometer

end Tether
