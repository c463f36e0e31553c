import Tether.Proofs.Statechart.Passage

/-!
# On which topics a machine speaks

If all handlers of a chart speak on some topics only (`SpeaksOn`), then so does a machine of that
chart in all its turns: what it publishes goes there (`posted_obey`), and so does what it leaves to
timers (`pending_obey`).
-/

namespace Tether

variable {S M : Type}

/-- The topic that an entry of a journal is published on. -/
def Effect.topic? : Effect S → Option Topic
  | .posted _ topic => some topic
  | _ => none

/-- A scope in which nothing has been said on other topics than some, and in which only the timers
that were there before may do so later. -/
structure Scope.Voiced (topics : List Topic) (timers : Timers) (scope : Scope S M) : Prop where
  posted : ∀ effect ∈ scope.journal, ∀ topic, effect.topic? = some topic → topic ∈ topics
  pending : ∀ timer ∈ scope.timers.pending, timer ∈ timers.pending ∨ timer.topic ∈ topics

namespace Scope.Voiced

variable {topics : List Topic} {timers : Timers} {scope : Scope S M}

theorem record {effect : Effect S} (voiced : scope.Voiced topics timers)
    (own : ∀ topic, effect.topic? = some topic → topic ∈ topics) :
    (scope.record effect).Voiced topics timers where
  posted other member := by
    rcases List.mem_append.mp member with earlier | last
    · exact voiced.posted other earlier
    · rw [List.mem_singleton.mp last]
      exact own
  pending := voiced.pending

theorem warn (voiced : scope.Voiced topics timers) (warning : Warning) :
    (scope.warn warning).Voiced topics timers :=
  voiced.record nofun

/-- Timers may be dropped, and set on the topics. -/
theorem setTimers {later : Timers} (voiced : scope.Voiced topics timers)
    (pending : ∀ timer ∈ later.pending, timer ∈ scope.timers.pending ∨
      timer.topic ∈ topics) :
    { scope with timers := later }.Voiced topics timers where
  posted := voiced.posted
  pending timer member := by
    rcases pending timer member with old | own
    · exact voiced.pending timer old
    · exact Or.inr own

theorem schedule (voiced : scope.Voiced topics timers) (event : Event) {topic : Topic}
    (own : topic ∈ topics) (delay : Nat) :
    (scope.schedule event topic delay).1.Voiced topics timers := by
  have placed : ∀ timer ∈ (scope.timers.insert (scope.now + Timers.clampDelay delay) event
      topic).1.pending, timer ∈ scope.timers.pending ∨ timer.topic ∈ topics := by
    intro timer member
    rcases Timers.mem_place.mp member with rfl | old
    · exact Or.inr own
    · exact Or.inl old
  unfold Scope.schedule
  split
  · exact (voiced.warn .delayClamped).setTimers placed
  · exact voiced.setTimers placed

theorem cancel (voiced : scope.Voiced topics timers) (id : Nat) :
    (scope.cancel id).Voiced topics timers := by
  refine voiced.setTimers fun timer member => Or.inl ?_
  rw [Timers.remove_pending] at member
  exact (List.mem_filter.mp member).1

/-- One action on the topics. -/
theorem act (voiced : scope.Voiced topics timers) {action : Action M}
    (own : action.SpeaksOn topics) : (scope.act action).Voiced topics timers := by
  cases action with
  | setMemory memory => exact ⟨voiced.posted, voiced.pending⟩
  | post event topic =>
    refine voiced.record ?_
    rintro _ ⟨⟩
    exact List.contains_iff_mem.mp own
  | postSelf event => exact voiced.record nofun
  | noteCall call reply => exact voiced.record nofun
  | schedule event topic delay => exact voiced.schedule event (List.contains_iff_mem.mp own) delay
  | cancel id => exact voiced.cancel id
  | defer event =>
    show (scope.defer event).Voiced topics timers
    unfold defer
    split
    · exact ⟨(voiced.warn .deferredFull).posted, voiced.pending⟩
    · exact ⟨voiced.posted, voiced.pending⟩
  | requestReplay => exact ⟨voiced.posted, voiced.pending⟩

theorem becomesOn {after : Scope S M} (voiced : scope.Voiced topics timers)
    (becomes : scope.BecomesOn topics after) : after.Voiced topics timers := by
  obtain ⟨actions, own, rfl⟩ := becomes
  exact List.foldlRecOn actions Scope.act voiced fun _ before action member =>
    before.act (own action member)

end Scope.Voiced

namespace Chart

variable {chart : Chart S M} {topics : List Topic}

/-- The handlers of a chart speak on some topics only. -/
def SpeaksOn (chart : Chart S M) (topics : List Topic) : Prop :=
  ∀ (state : S) (signal : Signal) (scope : Scope S M),
    scope.BecomesOn topics (chart.handle state signal scope).1

theorem SpeaksOn.preserves (speaks : chart.SpeaksOn topics) (timers : Timers) :
    chart.Preserves (Scope.Voiced topics timers) where
  ask leaf state signal scope voiced := by
    have asked : (scope.record (.asked leaf state signal)).Voiced topics timers :=
      voiced.record nofun
    exact asked.becomesOn (speaks state signal _)
  warn warning _ voiced := voiced.warn warning
  take voiced := ⟨voiced.posted, voiced.pending⟩

section Turns

variable [DecidableEq S] (speaks : chart.SpeaksOn topics) (shallow : chart.Shallow)
  (machine : Machine S M) (timers : Timers) (now : Nat) (order : Order)

include speaks shallow

theorem voiced_obey :
    ∃ run : S × Scope S M, chart.obey machine timers now order = Machine.turn run ∧
      run.2.Voiced topics timers := by
  refine (speaks.preserves timers).obey shallow machine timers now order ⟨?_, ?_⟩
  · intro effect member
    exact absurd member List.not_mem_nil
  · intro timer member
    exact Or.inl member

/-- What a machine publishes in a turn goes to the topics of its chart. -/
theorem posted_obey {effect : Effect S} {topic : Topic}
    (member : effect ∈ (chart.obey machine timers now order).journal)
    (published : effect.topic? = some topic) : topic ∈ topics := by
  obtain ⟨run, turned, voiced⟩ := voiced_obey speaks shallow machine timers now order
  rw [turned] at member
  exact voiced.posted effect member topic published

/-- The timers that a machine sets in a turn speak on the topics of its chart. -/
theorem pending_obey {timer : Timer}
    (member : timer ∈ (chart.obey machine timers now order).timers.pending) :
    timer ∈ timers.pending ∨ timer.topic ∈ topics := by
  obtain ⟨run, turned, voiced⟩ := voiced_obey speaks shallow machine timers now order
  rw [turned] at member
  exact voiced.pending timer member

end Turns

end Chart

end Tether
