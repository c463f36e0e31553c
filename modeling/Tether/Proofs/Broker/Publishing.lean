import Tether.Proofs.Broker.Forum
import Tether.Proofs.Mailbox.Queue

/-!
# Every post reaches its subscribers, in order

However the acts of publishers and subscribers interleave, a post delivers its event once to each
subscriber that is registered when the post begins, and to nobody else; a subscriber receives the
events of a publisher in the order of its posts; and a mailbox that nobody reads holds the last of
the events that were delivered to it (`delivers_of_run`).
-/

namespace Tether

namespace Forum

variable {π σ : Type} {capacity : σ → Nat}

/-! ## What is expected of a run -/

def Act.isPost : Act π σ → Bool
  | .post .. => true
  | _ => false

/-- The number of posts among some acts, which is the number of the next one. -/
def posts (acts : List (Act π σ)) : Nat :=
  acts.countP Act.isPost

/-- The deliveries of the post with a number. -/
def deliveries (forum : Forum π σ capacity) (number : Nat) : List (Delivery π σ) :=
  forum.delivered.filter fun delivery => delivery.number = number

/-- Whether a publisher has no deliveries left of its post with a number. -/
def Done (forum : Forum π σ capacity) (publisher : π) (number : Nat) : Prop :=
  ∀ delivery ∈ forum.due publisher, delivery.number ≠ number

section Expectations

variable [DecidableEq σ]

/-- Whether a subscriber is registered for a topic after an act, if it is known whether it was
before. -/
def Act.registers (subscriber : σ) (topic : Topic) (before : Bool) : Act π σ → Bool
  | .subscribe other channel => before || decide (other = subscriber ∧ channel = topic)
  | .unsubscribe other channel => before && decide ¬ (other = subscriber ∧ channel = topic)
  | .unsubscribeAll other => before && decide (other ≠ subscriber)
  | .post .. | .put _ | .take _ => before

/-- Whether a subscriber is registered for a topic after some acts. -/
def registered (acts : List (Act π σ)) (subscriber : σ) (topic : Topic) : Bool :=
  acts.foldl (Act.registers subscriber topic) false

/-- The deliveries of a publisher to a subscriber, in the order in which they arrive. -/
def receives [DecidableEq π] (forum : Forum π σ capacity) (publisher : π) (subscriber : σ) :
    List (Delivery π σ) :=
  forum.delivered.filter fun delivery =>
    delivery.publisher = publisher ∧ delivery.subscriber = subscriber

/-- All events that have been delivered to a subscriber. -/
def hears (forum : Forum π σ capacity) (subscriber : σ) : List Event :=
  (forum.delivered.filter fun delivery => delivery.subscriber = subscriber).map Delivery.event

/-- A post that was begun after some acts goes to those who were registered then, to each of them
at most once, and to all of them when it is done. -/
structure Reaches (forum : Forum π σ capacity) (before : List (Act π σ)) (publisher : π)
    (event : Event) (topic : Topic) : Prop where
  own : ∀ delivery ∈ forum.deliveries (posts before), delivery.publisher = publisher ∧
    delivery.event = event ∧ registered before delivery.subscriber topic
  once : ((forum.deliveries (posts before)).map Delivery.subscriber).Nodup
  all : forum.Done publisher (posts before) →
    ∀ subscriber, registered before subscriber topic →
    subscriber ∈ (forum.deliveries (posts before)).map Delivery.subscriber

/-- What is true of a forum after some acts. -/
structure Delivers [DecidableEq π] (acts : List (Act π σ)) (forum : Forum π σ capacity) :
    Prop where
  /-- No list of subscribers contains anyone twice. -/
  listed : ∀ topic, (forum.broker.subscribers topic).Nodup
  /-- Every post reaches its subscribers. -/
  reached : ∀ before publisher event topic after,
    acts = before ++ .post publisher event topic :: after →
      forum.Reaches before publisher event topic
  /-- Nothing is delivered that has not been posted. -/
  posted : ∀ delivery ∈ forum.delivered, delivery.number < posts acts
  /-- What a subscriber receives from a publisher comes in the order of the posts. -/
  ordered : ∀ publisher subscriber,
    (forum.receives publisher subscriber).Pairwise fun earlier later =>
      earlier.number < later.number
  /-- A mailbox that nobody reads holds the last events that it has got. -/
  latest : ∀ subscriber, .take subscriber ∉ acts →
    (forum.box subscriber).items = (forum.hears subscriber).rtake (capacity subscriber)

end Expectations

/-! ## The course of a publisher -/

/-- That a delivery is not later than another one, nor the same one. -/
def Delivery.Precedes (earlier later : Delivery π σ) : Prop :=
  earlier.number < later.number ∨
    earlier.number = later.number ∧ earlier.subscriber ≠ later.subscriber

/-- The deliveries of a publisher: those that are done, and those that are due. -/
def course [DecidableEq π] (forum : Forum π σ capacity) (publisher : π) :
    List (Delivery π σ) :=
  (forum.delivered.filter fun delivery => delivery.publisher = publisher) ++ forum.due publisher

theorem course_sublist [DecidableEq π] {forum : Forum π σ capacity} {publisher : π}
    {chosen : List (Delivery π σ)} (sub : chosen.Sublist forum.delivered)
    (own : ∀ delivery ∈ chosen, delivery.publisher = publisher) :
    chosen.Sublist (forum.course publisher) := by
  have kept : chosen.filter (fun delivery => delivery.publisher = publisher) = chosen :=
    List.filter_eq_self.mpr fun delivery member => decide_eq_true (own delivery member)
  exact (kept ▸ sub.filter _).trans (List.sublist_append_left _ _)

theorem posts_concat (acts : List (Act π σ)) (act : Act π σ) :
    posts (acts ++ [act]) = posts acts + if act.isPost then 1 else 0 := by
  rw [posts, List.countP_append, List.countP_singleton, posts]

/-- An act that is found in a longer series is the last one, or in the shorter one. -/
theorem split_concat {acts before after : List (Act π σ)} {act found : Act π σ}
    (split : acts ++ [act] = before ++ found :: after) :
    (before = acts ∧ found = act) ∨ ∃ rest, acts = before ++ found :: rest := by
  cases after using List.reverseRecOn with
  | nil =>
    obtain ⟨same, last⟩ := List.append_inj' split rfl
    exact .inl ⟨same.symm, (List.singleton_inj.mp last).symm⟩
  | append_singleton rest last =>
    have split : acts ++ [act] = (before ++ found :: rest) ++ [last] := by
      rw [split, List.append_assoc, List.cons_append]
    exact .inr ⟨rest, (List.append_inj' split rfl).1⟩

variable [DecidableEq σ]

/-- The deliveries that the posts of a publisher among some acts ask for. -/
structure Planned (acts : List (Act π σ)) (publisher : π) (course : List (Delivery π σ)) :
    Prop where
  own : ∀ delivery ∈ course, delivery.publisher = publisher
  numbered : ∀ delivery ∈ course, delivery.number < posts acts
  ordered : course.Pairwise Delivery.Precedes
  faithful : ∀ before poster event topic after,
    acts = before ++ .post poster event topic :: after →
    ∀ delivery ∈ course, delivery.number = posts before → delivery.publisher = poster ∧
      delivery.event = event ∧ registered before delivery.subscriber topic
  complete : ∀ before event topic after, acts = before ++ .post publisher event topic :: after →
    ∀ subscriber, registered before subscriber topic →
      ∃ delivery ∈ course, delivery.number = posts before ∧ delivery.subscriber = subscriber

theorem registered_concat (acts : List (Act π σ)) (act : Act π σ) (subscriber : σ)
    (topic : Topic) : registered (acts ++ [act]) subscriber topic =
      act.registers subscriber topic (registered acts subscriber topic) := by
  rw [registered, List.foldl_append]
  rfl

theorem Planned.nil (publisher : π) : Planned ([] : List (Act π σ)) publisher [] where
  own _ member := nomatch member
  numbered _ member := nomatch member
  ordered := .nil
  faithful _ _ _ _ _ _ _ member := nomatch member
  complete before _ _ _ split := by cases before <;> cases split

/-- What others do asks nothing of a publisher. -/
theorem Planned.other {acts : List (Act π σ)} {publisher : π} {course : List (Delivery π σ)}
    (planned : Planned acts publisher course) {act : Act π σ}
    (other : ∀ event topic, act ≠ .post publisher event topic) :
    Planned (acts ++ [act]) publisher course where
  own := planned.own
  numbered delivery member := by
    rw [posts_concat]
    exact Nat.lt_add_right _ (planned.numbered delivery member)
  ordered := planned.ordered
  faithful before poster event topic after split delivery member number := by
    rcases split_concat split with ⟨rfl, -⟩ | ⟨rest, split⟩
    · exact absurd number (Nat.ne_of_lt (planned.numbered delivery member))
    · exact planned.faithful before poster event topic rest split delivery member number
  complete before event topic after split := by
    rcases split_concat split with ⟨-, rfl⟩ | ⟨rest, split⟩
    · exact absurd rfl (other event topic)
    · exact planned.complete before event topic rest split

/-- A post asks for a delivery to each of those who are registered. -/
theorem Planned.post {acts : List (Act π σ)} {publisher : π} {course : List (Delivery π σ)}
    (planned : Planned acts publisher course) (event : Event) {topic : Topic} {owners : List σ}
    (nodup : owners.Nodup)
    (registry : ∀ subscriber, subscriber ∈ owners ↔ registered acts subscriber topic) :
    Planned (acts ++ [.post publisher event topic]) publisher
      (course ++ owners.map (Delivery.mk publisher (posts acts) event)) where
  own delivery member := by
    rcases List.mem_append.mp member with earlier | new
    · exact planned.own delivery earlier
    · obtain ⟨owner, -, rfl⟩ := List.mem_map.mp new
      rfl
  numbered delivery member := by
    rw [posts_concat]
    rcases List.mem_append.mp member with earlier | new
    · exact Nat.lt_add_right _ (planned.numbered delivery earlier)
    · obtain ⟨owner, -, rfl⟩ := List.mem_map.mp new
      exact Nat.lt_succ_self _
  ordered := by
    refine List.pairwise_append.mpr ⟨planned.ordered, ?_, fun earlier member later new => ?_⟩
    · exact List.pairwise_map.mpr (nodup.imp fun different => .inr ⟨rfl, different⟩)
    · obtain ⟨owner, -, rfl⟩ := List.mem_map.mp new
      exact .inl (planned.numbered earlier member)
  faithful before poster event' topic' after split delivery member number := by
    rcases split_concat split with ⟨rfl, same⟩ | ⟨rest, split⟩
    · cases same
      rcases List.mem_append.mp member with earlier | new
      · exact absurd number (Nat.ne_of_lt (planned.numbered delivery earlier))
      · obtain ⟨owner, listed, rfl⟩ := List.mem_map.mp new
        exact ⟨rfl, rfl, (registry owner).mp listed⟩
    · rcases List.mem_append.mp member with earlier | new
      · exact planned.faithful before poster event' topic' rest split delivery earlier number
      · -- the post is a later one than those before
        obtain ⟨owner, -, rfl⟩ := List.mem_map.mp new
        rw [split, posts, List.countP_append, List.countP_cons] at number
        simp only [Act.isPost, if_true, posts] at number
        omega
  complete before event' topic' after split subscriber listed := by
    rcases split_concat split with ⟨rfl, same⟩ | ⟨rest, split⟩
    · cases same
      exact ⟨⟨publisher, posts before, event, subscriber⟩,
        List.mem_append_right _ (List.mem_map_of_mem ((registry subscriber).mpr listed)),
        rfl, rfl⟩
    · obtain ⟨delivery, member, found⟩ :=
        planned.complete before event' topic' rest split subscriber listed
      exact ⟨delivery, List.mem_append_left _ member, found⟩

/-! ## Runs -/

variable [DecidableEq π]

/-- What every act keeps: the registry is what the acts make of it, and the courses of the
publishers are what they have asked for. -/
structure Sound (acts : List (Act π σ)) (forum : Forum π σ capacity) : Prop where
  nodup : forum.broker.subscriptions.Nodup
  registry : ∀ subscriber topic,
    (topic, subscriber) ∈ forum.broker.subscriptions ↔ registered acts subscriber topic
  posted : forum.posted = posts acts
  planned : ∀ publisher, Planned acts publisher (forum.course publisher)

section Steps

variable {acts : List (Act π σ)} {forum after : Forum π σ capacity}

theorem Sound.new : Sound ([] : List (Act π σ)) (new : Forum π σ capacity) where
  nodup := .nil
  registry _ _ := ⟨nofun, nofun⟩
  posted := rfl
  planned := .nil

/-- An act that is not a post leaves the courses as they are. -/
theorem Sound.other (sound : Sound acts forum) {act : Act π σ} (other : act.isPost = false)
    (nodup : after.broker.subscriptions.Nodup)
    (registry : ∀ subscriber topic, (topic, subscriber) ∈ after.broker.subscriptions ↔
      act.registers subscriber topic (decide ((topic, subscriber) ∈ forum.broker.subscriptions)))
    (posted : after.posted = forum.posted)
    (course : ∀ publisher, after.course publisher = forum.course publisher) :
    Sound (acts ++ [act]) after where
  nodup := nodup
  registry subscriber topic := by
    have before : decide ((topic, subscriber) ∈ forum.broker.subscriptions) =
        registered acts subscriber topic :=
      Bool.eq_iff_iff.mpr (decide_eq_true_iff.trans (sound.registry subscriber topic))
    rw [registered_concat, ← before]
    exact registry subscriber topic
  posted := by rw [posted, sound.posted, posts_concat, other]; rfl
  planned publisher := by
    rw [course]
    refine (sound.planned publisher).other fun event topic equal => ?_
    rw [equal] at other
    cases other

theorem course_hand (forum : Forum π σ capacity) {publisher : π} {delivery : Delivery π σ}
    {rest : List (Delivery π σ)} (due : forum.due publisher = delivery :: rest)
    (own : delivery.publisher = publisher) (reader : π) :
    (forum.hand publisher delivery rest).course reader = forum.course reader := by
  have delivered : (forum.hand publisher delivery rest).delivered =
      forum.delivered ++ [delivery] := rfl
  rw [course, delivered, List.filter_append, List.filter_singleton, own]
  by_cases equal : reader = publisher
  · subst equal
    rw [due_hand_self, decide_eq_true rfl, List.append_assoc, course, due]
    rfl
  · rw [due_hand_of_ne _ _ _ _ equal, decide_eq_false (Ne.symm equal), course, cond_false,
      List.append_nil]

theorem Sound.post (sound : Sound acts forum) {publisher : π} (idle : forum.due publisher = [])
    (event : Event) (topic : Topic) :
    Sound (acts ++ [.post publisher event topic])
      (forum.announce publisher event topic) where
  nodup := sound.nodup
  registry subscriber channel := by
    rw [registered_concat]
    exact sound.registry subscriber channel
  posted := by rw [posts_concat, ← sound.posted]; rfl
  planned reader := by
    by_cases equal : reader = publisher
    · subst equal
      have all := (sound.planned reader).post event
        (Broker.nodup_subscribers sound.nodup topic)
        fun subscriber => Broker.mem_subscribers.trans (sound.registry subscriber topic)
      rw [course, idle, List.append_nil, ← sound.posted] at all
      rw [course, due_announce_self]
      exact all
    · rw [course, due_announce_of_ne forum equal]
      refine (sound.planned reader).other fun event' topic' same => ?_
      cases same
      exact equal rfl

theorem Sound.act (sound : Sound acts forum) {act : Act π σ}
    (acted : forum.act? act = some after) : Sound (acts ++ [act]) after := by
  cases act with
  | subscribe subscriber topic =>
    cases acted
    refine sound.other rfl (Broker.nodup_subscribe sound.nodup subscriber topic) ?_ rfl
      fun _ => rfl
    intro other channel
    rw [Broker.mem_subscribe, Act.registers, Bool.or_eq_true, decide_eq_true_iff,
      decide_eq_true_iff, Prod.mk.injEq]
    exact or_congr_right ⟨fun same => ⟨same.2.symm, same.1.symm⟩,
      fun same => ⟨same.2.symm, same.1.symm⟩⟩
  | unsubscribe subscriber topic =>
    cases acted
    refine sound.other rfl (sound.nodup.filter _) ?_ rfl fun _ => rfl
    intro other channel
    simp only [Broker.unsubscribe, List.mem_filter, Act.registers, Bool.and_eq_true,
      decide_eq_true_iff, ne_eq, Prod.mk.injEq]
    exact and_congr_right fun _ => not_congr
      ⟨fun same => ⟨same.2.symm, same.1.symm⟩, fun same => ⟨same.2.symm, same.1.symm⟩⟩
  | unsubscribeAll subscriber =>
    cases acted
    refine sound.other rfl (sound.nodup.filter _) ?_ rfl fun _ => rfl
    intro other channel
    simp only [Broker.unsubscribeAll, List.mem_filter, Act.registers, Bool.and_eq_true,
      decide_eq_true_iff]
    exact and_congr_right fun _ => ne_comm
  | post publisher event topic =>
    rw [act?] at acted
    split at acted
    · next idle =>
      cases acted
      exact sound.post (List.isEmpty_iff.mp idle) event topic
    · cases acted
  | put publisher =>
    rw [act?] at acted
    split at acted
    · cases acted
    · next delivery rest due =>
      cases acted
      have own : delivery.publisher = publisher :=
        (sound.planned publisher).own delivery (by simp [course, due])
      exact sound.other rfl sound.nodup (fun _ _ => decide_eq_true_iff.symm) rfl
        (course_hand forum due own)
  | take subscriber =>
    obtain ⟨popped, -, rfl⟩ := Option.map_eq_some_iff.mp acted
    exact sound.other rfl sound.nodup (fun _ _ => decide_eq_true_iff.symm) rfl fun _ => rfl

theorem sound_of_run (ran : run acts = some forum) : Sound acts forum :=
  run_induction Sound.new (fun _ _ _ _ _ sound acted => sound.act acted) ran

theorem Sound.reached (sound : Sound acts forum) {before rest : List (Act π σ)} {publisher : π}
    {event : Event} {topic : Topic} (split : acts = before ++ .post publisher event topic :: rest) :
    forum.Reaches before publisher event topic := by
  have own : ∀ delivery ∈ forum.deliveries (posts before), delivery.publisher = publisher ∧
      delivery.event = event ∧ registered before delivery.subscriber topic := by
    intro delivery member
    obtain ⟨done, number⟩ := List.mem_filter.mp member
    have here : delivery ∈ forum.course delivery.publisher :=
      List.mem_append_left _ (List.mem_filter.mpr ⟨done, decide_eq_true rfl⟩)
    exact (sound.planned delivery.publisher).faithful before publisher event topic rest split
      delivery here (of_decide_eq_true number)
  refine ⟨own, ?_, fun done subscriber listed => ?_⟩
  · have sub := course_sublist List.filter_sublist fun delivery member => (own delivery member).1
    refine List.pairwise_map.mpr
      (((sound.planned publisher).ordered.sublist sub).imp_of_mem ?_)
    intro earlier later here there precedes
    have same : earlier.number = later.number :=
      (of_decide_eq_true (List.mem_filter.mp here).2).trans
        (of_decide_eq_true (List.mem_filter.mp there).2).symm
    exact (precedes.resolve_left (Nat.not_lt_of_le (Nat.le_of_eq same.symm))).2
  · obtain ⟨delivery, member, number, rfl⟩ :=
      (sound.planned publisher).complete before event topic rest split subscriber listed
    rcases List.mem_append.mp member with delivered | due
    · exact List.mem_map_of_mem
        (List.mem_filter.mpr ⟨(List.mem_filter.mp delivered).1, decide_eq_true number⟩)
    · exact absurd number (done delivery due)

theorem Sound.ordered (sound : Sound acts forum) (publisher : π) (subscriber : σ) :
    (forum.receives publisher subscriber).Pairwise fun earlier later =>
      earlier.number < later.number := by
  have chosen : ∀ delivery ∈ forum.receives publisher subscriber,
      delivery.publisher = publisher ∧ delivery.subscriber = subscriber := fun delivery member =>
    of_decide_eq_true (List.mem_filter.mp member).2
  have sub := course_sublist List.filter_sublist fun delivery member => (chosen delivery member).1
  refine ((sound.planned publisher).ordered.sublist sub).imp_of_mem ?_
  intro earlier later here there precedes
  exact precedes.resolve_right fun same =>
    same.2 ((chosen earlier here).2.trans (chosen later there).2.symm)

/-- A delivery is the last event that its subscriber hears. -/
theorem latest_hand {subscriber : σ}
    (latest : (forum.box subscriber).items =
      (forum.hears subscriber).rtake (capacity subscriber))
    (publisher : π) (delivery : Delivery π σ) (rest : List (Delivery π σ)) :
    ((forum.hand publisher delivery rest).box subscriber).items =
      ((forum.hand publisher delivery rest).hears subscriber).rtake (capacity subscriber) := by
  have delivered : (forum.hand publisher delivery rest).delivered =
      forum.delivered ++ [delivery] := rfl
  rw [hears, delivered, List.filter_append, List.filter_singleton, List.map_append, ← hears]
  by_cases equal : delivery.subscriber = subscriber
  · subst equal
    rw [box_hand_self, Mailbox.items_put, latest, Mailbox.rtake_rtake_concat, decide_eq_true rfl]
    rfl
  · rw [box_hand_of_ne _ _ _ _ (Ne.symm equal), decide_eq_false equal, latest, cond_false,
      List.map_nil, List.append_nil]

theorem latest_of_run (ran : run acts = some forum) (subscriber : σ)
    (unread : .take subscriber ∉ acts) :
    (forum.box subscriber).items = (forum.hears subscriber).rtake (capacity subscriber) := by
  refine run_induction (motive := fun acts (forum : Forum π σ capacity) =>
    .take subscriber ∉ acts → (forum.box subscriber).items =
      (forum.hears subscriber).rtake (capacity subscriber)) (fun _ => (List.rtake_nil _).symm) ?_
        ran unread
  intro acts act before after _ latest acted unread
  have latest := latest fun member => unread (List.mem_append_left _ member)
  cases act with
  | subscribe | unsubscribe | unsubscribeAll =>
    cases acted
    exact latest
  | post publisher event topic =>
    rw [act?] at acted
    split at acted <;> cases acted
    exact latest
  | put publisher =>
    rw [act?] at acted
    split at acted <;> cases acted
    exact latest_hand latest publisher _ _
  | take reader =>
    obtain ⟨popped, -, rfl⟩ := Option.map_eq_some_iff.mp acted
    have other : subscriber ≠ reader := fun equal =>
      unread (List.mem_append_right _ (equal ▸ List.mem_singleton_self _))
    show (Function.update before.box reader popped.2 subscriber).items = _
    rw [Function.update_of_ne other]
    exact latest

end Steps

/-- However the acts of publishers and subscribers interleave, all posts are delivered as they
should be. -/
theorem delivers_of_run {acts : List (Act π σ)} {forum : Forum π σ capacity}
    (ran : run acts = some forum) : Delivers acts forum := by
  have sound := sound_of_run ran
  refine ⟨Broker.nodup_subscribers sound.nodup, fun before publisher event topic after split =>
    sound.reached split, fun delivery member => ?_, sound.ordered, latest_of_run ran⟩
  exact (sound.planned delivery.publisher).numbered delivery
    (List.mem_append_left _ (List.mem_filter.mpr ⟨member, decide_eq_true rfl⟩))

/-- Two publishers whose puts cross. The second subscriber leaves while an event is on its way to
it, and the mailbox of the first one is too small for all that it gets. -/
def crossing : List (Act Bool Bool) :=
  [.subscribe false .remoteCmd, .subscribe true .remoteCmd, .subscribe false .cameraEvent,
    .post false .enableGate .remoteCmd, .put false, .post true .heartbeat .cameraEvent, .put true,
    .unsubscribeAll true, .put false, .post false .disableGate .remoteCmd, .put false]

theorem crossing_delivers : ∃ forum : Forum Bool Bool fun _ => 2, run crossing = some forum ∧
    Delivers crossing forum ∧ (forum.box false).items = [.heartbeat, .disableGate] ∧
    (forum.box true).items = [.enableGate] :=
  ⟨_, rfl, delivers_of_run rfl, rfl, rfl⟩

end Forum

end Tether
