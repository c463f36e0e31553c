import Tether.Assembly
import Tether.Proofs.Camera.Outcome
import Tether.Proofs.Handshake.Intervalometer
import Tether.Proofs.Handshake.Mode
import Tether.Proofs.Statechart.Traffic
import Tether.Proofs.Statechart.Voice

/-!
# Who speaks as a remote client

Each of the four machines speaks on few topics, and none of them on the topic of remote clients. So
whatever the machines do when they have their turns, they are silent there (`rounds_silent`): they
add nothing to what has been said on that topic, and set no timer that would say something later.
-/

namespace Tether

theorem Gate.shallow : Gate.chart.Shallow := by
  intro state
  cases state <;> rfl

theorem Gate.speaksOn : Gate.chart.SpeaksOn Gate.spokenTopics := by
  intro state signal scope
  cases state with
  | enabled => exact enabled_becomes scope signal
  | disabled => exact disabled_becomes scope signal

theorem Camera.speaksOn {δ : Type} (driver : Driver δ) :
    (Camera.chart driver).SpeaksOn Camera.spokenTopics := by
  intro state signal scope
  cases state with
  | super => exact super_becomes scope signal
  | disconnected => exact disconnected_becomes driver scope signal
  | connected => exact connected_becomes driver scope signal
  | ready => exact ready_becomes driver scope signal
  | capturing => exact capturing_becomes driver scope signal
  | downloading => exact downloading_becomes driver scope signal
  | connectionError => exact connectionError_becomes driver scope signal
  | error => exact error_becomes driver scope signal

theorem Mode.speaksOn : Mode.chart.SpeaksOn Mode.spokenTopics := by
  intro state signal scope
  cases state with
  | super => exact super_becomes scope signal
  | selection => exact selection_becomes scope signal
  | running => exact running_becomes scope signal

theorem Intervalometer.speaksOn :
    Intervalometer.chart.SpeaksOn Intervalometer.spokenTopics := by
  intro state signal scope
  cases state with
  | super => exact super_becomes scope signal
  | ready => exact ready_becomes scope signal
  | running => exact running_becomes scope signal
  | capturing => exact capturing_becomes scope signal
  | waiting => exact waiting_becomes scope signal
  | error => exact error_becomes scope signal

/-! ## Silence on a topic -/

/-- What has been said on a topic, oldest first. -/
def saidOn (topic : Topic) (posted : List (Topic × Event)) : List Event :=
  posted.filterMap fun entry => if entry.1 = topic then some entry.2 else none

theorem saidOn_concat (topic : Topic) (posted : List (Topic × Event)) (event : Event) :
    saidOn topic (posted ++ [(topic, event)]) = saidOn topic posted ++ [event] := by
  simp [saidOn]

theorem saidOn_concat_of_ne {topic other : Topic} (different : other ≠ topic)
    (posted : List (Topic × Event)) (event : Event) :
    saidOn topic (posted ++ [(other, event)]) = saidOn topic posted := by
  simp [saidOn, different]

namespace Traffic

variable {σ : Type} {topic : Topic}

/-- No pending timer speaks on a topic. -/
def Quiet (topic : Topic) (traffic : Traffic σ) : Prop :=
  ∀ timer ∈ traffic.service.timers.pending, timer.topic ≠ topic

/-- Nothing is said on a topic, and nothing left to timers to be said there. -/
structure Silent (topic : Topic) (before after : Traffic σ) : Prop where
  said : saidOn topic after.posted = saidOn topic before.posted
  quiet : before.Quiet topic → after.Quiet topic

namespace Silent

theorem refl (traffic : Traffic σ) : Silent topic traffic traffic :=
  ⟨rfl, id⟩

theorem trans {before middle after : Traffic σ} (first : Silent topic before middle)
    (second : Silent topic middle after) : Silent topic before after :=
  ⟨second.said.trans first.said, fun quiet => second.quiet (first.quiet quiet)⟩

end Silent

section Exchanges

variable [DecidableEq σ] {S M : Type}

theorem quiet_post {traffic : Traffic σ} (quiet : traffic.Quiet topic) (event : Event)
    (other : Topic) : (traffic.post event other).Quiet topic := by
  unfold Quiet
  rw [service_post]
  exact quiet

theorem post_silent {other : Topic} (different : other ≠ topic) (traffic : Traffic σ)
    (event : Event) : Silent topic traffic (traffic.post event other) :=
  ⟨saidOn_concat_of_ne different _ _, fun quiet => quiet_post quiet event other⟩

theorem follow_silent {effect : Effect S}
    (outside : effect.topic? ≠ some topic) (machine : σ) (traffic : Traffic σ) :
    Silent topic traffic (follow machine traffic effect) := by
  cases effect with
  | posted event other =>
    refine post_silent (fun same => outside ?_) traffic event
    rw [← same]
    rfl
  | postedSelf event =>
    refine ⟨rfl, fun quiet => ?_⟩
    show (traffic.deliver machine event).Quiet topic
    unfold Quiet
    rw [service_deliver]
    exact quiet
  | asked leaf state signal => exact .refl traffic
  | called call reply => exact .refl traffic
  | warned warning => exact .refl traffic

/-- A turn of a machine that does not speak on the topic. -/
theorem absorb_silent [DecidableEq S] {chart : Chart S M} {topics : List Topic}
    (speaks : chart.SpeaksOn topics) (shallow : chart.Shallow) (outside : topic ∉ topics)
    (traffic : Traffic σ) (station : σ) (machine : Machine S M) (now : Nat) (order : Order) :
    Silent topic traffic
      (traffic.absorb station (chart.obey machine traffic.service.timers now order)) := by
  have others : ∀ effect ∈ (chart.obey machine traffic.service.timers now order).journal,
      effect.topic? ≠ some topic := by
    intro effect member published
    exact outside (Chart.posted_obey speaks shallow machine _ now order member published)
  have pending : Silent topic traffic (traffic.withService { traffic.service with
      timers := (chart.obey machine traffic.service.timers now order).timers }) := by
    refine ⟨rfl, fun quiet timer member same => ?_⟩
    rcases Chart.pending_obey speaks shallow machine _ now order member with old | own
    · exact quiet timer old same
    · exact outside (same ▸ own)
  refine pending.trans ?_
  exact List.foldlRecOn (motive := Silent topic _) _ (follow station) (.refl _)
    fun later silent effect member => silent.trans
      (follow_silent (others effect member) station later)

theorem take?_silent {traffic rest : Traffic σ} {station : σ} {event : Event}
    (taken : traffic.take? station = some (event, rest)) : Silent topic traffic rest := by
  refine ⟨?_, fun quiet => ?_⟩
  · obtain ⟨⟨first, box⟩, -, equal⟩ := Option.map_eq_some_iff.mp taken
    cases equal
    rfl
  · unfold Quiet
    rw [service_take? taken]
    exact quiet

theorem postFired_silent {fired : List Timer} (quiet : ∀ timer ∈ fired, timer.topic ≠ topic)
    (traffic : Traffic σ) : Silent topic traffic (traffic.postFired fired) :=
  List.foldlRecOn (motive := Silent topic traffic) fired _ (.refl traffic)
    fun later silent timer member => silent.trans (post_silent (quiet timer member) later _)

/-- Time passes until the next deadline. -/
theorem fireNext_silent {traffic : Traffic σ} (quiet : traffic.Quiet topic) :
    Silent topic traffic traffic.fireNext := by
  unfold fireNext TimerService.fireNext
  cases traffic.service.timers.nextDeadline? with
  | none => exact .refl traffic
  | some deadline =>
    have parted := traffic.service.timers.due_append_notDue (max traffic.service.now deadline)
    have fired : Silent topic traffic (traffic.withService { traffic.service with
        timers := (traffic.service.timers.takeDue (max traffic.service.now deadline)).2
        now := max traffic.service.now deadline }) := by
      refine ⟨rfl, fun _ timer member => quiet timer ?_⟩
      rw [← parted]
      exact List.mem_append_right _ member
    refine fired.trans (postFired_silent (fun timer member => quiet timer ?_) _)
    rw [← parted]
    exact List.mem_append_left _ member

end Exchanges

end Traffic

/-! ## The machines together -/

namespace Assembly

variable {δ : Type} (driver : Driver δ)

theorem quiet_new (device : δ) (settings : Camera.Settings) (heartbeat : Nat) (topic : Topic) :
    (Assembly.new driver device settings heartbeat).traffic.Quiet topic := by
  have none : (Assembly.new driver device settings heartbeat).traffic.service.timers.pending = [] :=
    rfl
  intro timer member
  rw [none] at member
  exact absurd member List.not_mem_nil

/-- No machine speaks as a remote client. -/
theorem order_silent (assembly : Assembly δ) (order : Order) (station : Station) :
    Traffic.Silent .remoteCmd assembly.traffic (assembly.order driver order station).traffic := by
  cases station with
  | gate =>
    exact Traffic.absorb_silent Gate.speaksOn Gate.shallow (by decide) _ _ _ _ _
  | camera =>
    exact Traffic.absorb_silent (Camera.speaksOn driver) (Camera.shallow driver)
      (by decide) _ _ _ _ _
  | mode =>
    exact Traffic.absorb_silent Mode.speaksOn Mode.shallow (by decide) _ _ _ _ _
  | intervalometer =>
    exact Traffic.absorb_silent Intervalometer.speaksOn Intervalometer.shallow (by decide) _ _ _ _ _

theorem start_silent (assembly : Assembly δ) :
    Traffic.Silent .remoteCmd assembly.traffic (assembly.start driver).traffic :=
  List.foldlRecOn (motive := fun later : Assembly δ =>
    Traffic.Silent .remoteCmd assembly.traffic later.traffic) Station.all _ (.refl _)
    fun later silent station _ => silent.trans (order_silent driver later .start station)

theorem turn?_silent {assembly next : Assembly δ} {station : Station}
    (turned : assembly.turn? driver station = some next) :
    Traffic.Silent .remoteCmd assembly.traffic next.traffic := by
  obtain ⟨⟨event, rest⟩, taken, equal⟩ := Option.map_eq_some_iff.mp turned
  cases equal
  exact (Traffic.take?_silent taken).trans
    (order_silent driver { assembly with traffic := rest } (.dispatch event) station)

theorem round_silent (assembly : Assembly δ) :
    Traffic.Silent .remoteCmd assembly.traffic (assembly.round driver).1.traffic := by
  refine List.foldlRecOn (motive := fun run : Assembly δ × Nat =>
    Traffic.Silent .remoteCmd assembly.traffic run.1.traffic) Station.all _ (.refl _) ?_
  rintro ⟨before, turns⟩ silent station -
  dsimp only
  split
  · next turned => exact silent.trans (turn?_silent driver turned)
  · exact silent

theorem rounds_silent (limit : Nat) (assembly : Assembly δ) :
    Traffic.Silent .remoteCmd assembly.traffic (assembly.rounds driver limit).1.traffic := by
  induction limit generalizing assembly with
  | zero => exact .refl _
  | succ limit ih =>
    have first := round_silent driver assembly
    unfold rounds
    dsimp only
    split
    · exact first
    · exact first.trans (ih _)

end Assembly

end Tether
