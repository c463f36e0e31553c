import Tether.Proofs.Statechart.History
import Tether.Statechart.Traffic

/-!
# Mailboxes after a turn

What a turn of one machine puts into the mailboxes of all machines on the broker: each mailbox gets,
in order, what its machine hears of the journal of the turn (`inbox_absorb`).
-/

namespace Tether

namespace Exchange

variable {σ : Type} [DecidableEq σ] {capacity : Nat}

theorem lookup_replace_self {owner : σ} {box : Mailbox Event capacity}
    {boxes : List (σ × Mailbox Event capacity)} (known : ∃ entry ∈ boxes, entry.1 = owner) :
    (boxes.map fun entry => if entry.1 = owner then (owner, box) else entry).lookup owner =
      some box := by
  induction boxes with
  | nil => obtain ⟨entry, member, _⟩ := known; cases member
  | cons first rest ih =>
    rw [List.map_cons]
    by_cases equal : first.1 = owner
    · rw [if_pos equal, List.lookup_cons_self]
    · rw [if_neg equal, List.lookup_cons, beq_false_of_ne (Ne.symm equal)]
      obtain ⟨entry, member, named⟩ := known
      rcases List.mem_cons.mp member with first | later
      · exact absurd (first ▸ named) equal
      · exact ih ⟨entry, later, named⟩

theorem lookup_replace_of_ne {owner reader : σ} (other : reader ≠ owner)
    (box : Mailbox Event capacity) (boxes : List (σ × Mailbox Event capacity)) :
    (boxes.map fun entry => if entry.1 = owner then (owner, box) else entry).lookup reader =
      boxes.lookup reader := by
  induction boxes with
  | nil => rfl
  | cons first rest ih =>
    rw [List.map_cons]
    by_cases equal : first.1 = owner
    · rw [if_pos equal, List.lookup_cons, List.lookup_cons, ih, equal, beq_false_of_ne other]
    · rw [if_neg equal, List.lookup_cons, List.lookup_cons, ih]

theorem box_setBox_self (exchange : Exchange σ capacity) (owner : σ)
    (box : Mailbox Event capacity) : (exchange.setBox owner box).box owner = box := by
  unfold setBox
  split
  · next known =>
    have known : ∃ entry ∈ exchange.boxes, entry.1 = owner := by simpa using known
    rw [Exchange.box, lookup_replace_self known]
    rfl
  · next unknown =>
    have absent : exchange.boxes.lookup owner = none := by
      rw [List.lookup_eq_none_iff]
      intro entry member
      have other : entry.1 ≠ owner := fun equal =>
        unknown (List.any_eq_true.mpr ⟨entry, member, decide_eq_true equal⟩)
      exact bne_iff_ne.mpr (Ne.symm other)
    rw [Exchange.box, List.lookup_append, absent, Option.none_or, List.lookup_cons_self]
    rfl

theorem box_setBox_of_ne (exchange : Exchange σ capacity) {owner reader : σ}
    (other : reader ≠ owner) (box : Mailbox Event capacity) :
    (exchange.setBox owner box).box reader = exchange.box reader := by
  unfold setBox
  split
  · rw [Exchange.box, lookup_replace_of_ne other, Exchange.box]
  · have unchanged : (exchange.boxes ++ [(owner, box)]).lookup reader =
        exchange.boxes.lookup reader := by
      rw [List.lookup_append, List.lookup_cons, beq_false_of_ne other]
      exact Option.or_none
    rw [Exchange.box, unchanged, Exchange.box]

theorem broker_setBox (exchange : Exchange σ capacity) (owner : σ)
    (box : Mailbox Event capacity) : (exchange.setBox owner box).broker = exchange.broker := by
  unfold setBox
  split <;> rfl

theorem box_deliver (exchange : Exchange σ capacity) (owner reader : σ) (event : Event) :
    (exchange.deliver owner event).box reader =
      if reader = owner then (exchange.box reader).put event else exchange.box reader := by
  unfold deliver
  split
  · next equal => rw [equal, box_setBox_self]
  · next other => rw [box_setBox_of_ne exchange other]

theorem box_deliverAll (event : Event) {owners : List σ} (nodup : owners.Nodup)
    (exchange : Exchange σ capacity) (reader : σ) :
    (owners.foldl (fun exchange owner => exchange.deliver owner event) exchange).box reader =
      if reader ∈ owners then (exchange.box reader).put event else exchange.box reader := by
  induction owners generalizing exchange with
  | nil => rfl
  | cons owner rest ih =>
    obtain ⟨absent, nodup⟩ := List.nodup_cons.mp nodup
    rw [List.foldl_cons, ih nodup, box_deliver]
    by_cases equal : reader = owner
    · subst equal
      rw [if_neg absent, if_pos rfl, if_pos List.mem_cons_self]
    · simp [equal]

theorem broker_deliverAll (event : Event) (owners : List σ) (exchange : Exchange σ capacity) :
    (owners.foldl (fun exchange owner => exchange.deliver owner event) exchange).broker =
      exchange.broker := by
  induction owners generalizing exchange with
  | nil => rfl
  | cons owner rest ih => rw [List.foldl_cons, ih, deliver, broker_setBox]

end Exchange

namespace Traffic

variable {σ : Type} {S M : Type}

/-- Who listens to what: every machine is registered once for each of its topics. -/
structure Wired (topics : σ → List Topic) (traffic : Traffic σ) : Prop where
  nodup : ∀ topic, (traffic.exchange.broker.subscribers topic).Nodup
  listens : ∀ topic machine,
    machine ∈ traffic.exchange.broker.subscribers topic ↔ topic ∈ topics machine

variable {topics : σ → List Topic} {traffic : Traffic σ}

theorem Wired.of_subscriptions (wired : Wired topics traffic) {later : Traffic σ}
    (same : later.exchange.broker.subscriptions = traffic.exchange.broker.subscriptions) :
    Wired topics later := by
  have subscribers (topic : Topic) : later.exchange.broker.subscribers topic =
      traffic.exchange.broker.subscribers topic := by
    rw [Broker.subscribers, same, Broker.subscribers]
  exact ⟨fun topic => subscribers topic ▸ wired.nodup topic,
    fun topic machine => subscribers topic ▸ wired.listens topic machine⟩

variable [DecidableEq σ]

theorem Wired.post (wired : Wired topics traffic) (event : Event) (topic : Topic) :
    Wired topics (traffic.post event topic) :=
  wired.of_subscriptions
    (congrArg Broker.subscriptions (Exchange.broker_deliverAll event _ traffic.exchange))

theorem Wired.deliver (wired : Wired topics traffic) (machine : σ) (event : Event) :
    Wired topics (traffic.deliver machine event) :=
  wired.of_subscriptions
    (congrArg Broker.subscriptions (Exchange.broker_setBox traffic.exchange machine _))

theorem inbox_post (wired : Wired topics traffic) (event : Event) (topic : Topic) (machine : σ) :
    (traffic.post event topic).inbox machine =
      if topic ∈ topics machine then (traffic.inbox machine).put event
      else traffic.inbox machine := by
  have delivered := Exchange.box_deliverAll event (wired.nodup topic) traffic.exchange machine
  rw [inbox, post, Exchange.post, delivered]
  exact if_congr (wired.listens topic machine) rfl rfl

theorem inbox_follow (wired : Wired topics traffic) (sender machine : σ) (effect : Effect S) :
    Wired topics (follow sender traffic effect) ∧
      (follow sender traffic effect).inbox machine =
        (traffic.inbox machine).putAll
          (effect.heard? (topics machine) (decide (machine = sender))).toList := by
  cases effect with
  | posted event topic =>
    refine ⟨wired.post event topic, ?_⟩
    rw [follow, inbox_post wired, Effect.heard?]
    split <;> rfl
  | postedSelf event =>
    refine ⟨wired.deliver sender event, ?_⟩
    rw [follow, deliver, inbox, Exchange.box_deliver, Effect.heard?]
    by_cases equal : machine = sender
    · rw [if_pos equal, if_pos (decide_eq_true equal)]; rfl
    · rw [if_neg equal, if_neg (by simpa using equal)]; rfl
  | asked leaf state signal => exact ⟨wired, rfl⟩
  | called call reply => exact ⟨wired, rfl⟩
  | warned warning => exact ⟨wired, rfl⟩

theorem inbox_followAll (journal : List (Effect S)) (wired : Wired topics traffic)
    (sender machine : σ) :
    Wired topics (journal.foldl (follow sender) traffic) ∧
      (journal.foldl (follow sender) traffic).inbox machine =
        (traffic.inbox machine).putAll
          (journal.filterMap (Effect.heard? (topics machine) (decide (machine = sender)))) := by
  induction journal generalizing traffic with
  | nil => exact ⟨wired, rfl⟩
  | cons effect rest ih =>
    obtain ⟨wiredNow, now⟩ := inbox_follow wired sender machine effect
    obtain ⟨wiredLater, later⟩ := ih wiredNow
    refine ⟨wiredLater, ?_⟩
    rw [List.foldl_cons, later, now, List.filterMap_cons]
    cases effect.heard? (topics machine) (decide (machine = sender)) <;> rfl

/-- After a turn of a machine, each mailbox has got what its machine hears of the turn. -/
theorem inbox_absorb (wired : Wired topics traffic) (sender machine : σ) (turn : Turn S M) :
    (traffic.absorb sender turn).inbox machine =
      (traffic.inbox machine).putAll
        (turn.journal.filterMap (Effect.heard? (topics machine) (decide (machine = sender)))) := by
  have served : Wired topics
      (traffic.withService { traffic.service with timers := turn.timers }) :=
    wired.of_subscriptions rfl
  exact (inbox_followAll turn.journal served sender machine).2

theorem Wired.absorb (wired : Wired topics traffic) (sender : σ) (turn : Turn S M) :
    Wired topics (traffic.absorb sender turn) := by
  have served : Wired topics
      (traffic.withService { traffic.service with timers := turn.timers }) :=
    wired.of_subscriptions rfl
  exact (inbox_followAll turn.journal served sender sender).1

/-- What a machine hears of the journal of a turn of `sender`. -/
def heard (topics : σ → List Topic) (machine sender : σ) (journal : List (Effect S)) :
    List Event :=
  journal.filterMap (Effect.heard? (topics machine) (decide (machine = sender)))

/-- Whether all that is said in a turn fits into the mailboxes. -/
def HasRoom (topics : σ → List Topic) (traffic : Traffic σ) (sender : σ)
    (turn : Turn S M) : Prop :=
  ∀ machine, (traffic.inbox machine).items.length +
    (heard topics machine sender turn.journal).length ≤ Limits.mailbox

/-- If there is room, a turn appends to each mailbox what its machine hears. -/
theorem items_absorb (wired : Wired topics traffic) {sender : σ} {turn : Turn S M}
    (room : HasRoom topics traffic sender turn) (machine : σ) :
    ((traffic.absorb sender turn).inbox machine).items =
      (traffic.inbox machine).items ++ heard topics machine sender turn.journal := by
  rw [inbox_absorb wired]
  exact Mailbox.items_putAll (room machine)

theorem items_post (wired : Wired topics traffic) (event : Event) (topic : Topic)
    (room : ∀ machine, topic ∈ topics machine →
      (traffic.inbox machine).items.length < Limits.mailbox) (machine : σ) :
    ((traffic.post event topic).inbox machine).items =
      (traffic.inbox machine).items ++ if topic ∈ topics machine then [event] else [] := by
  rw [inbox_post wired]
  split
  · next listens => exact Mailbox.items_put_of_lt (room machine listens) event
  · exact (List.append_nil _).symm

/-- Taking an event out of one mailbox leaves the others as they are. -/
theorem of_take? {machine : σ} {event : Event} {rest : Traffic σ}
    (taken : traffic.take? machine = some (event, rest)) :
    (traffic.inbox machine).items = event :: (rest.inbox machine).items ∧
      (∀ other, other ≠ machine → rest.inbox other = traffic.inbox other) ∧
      (Wired topics traffic → Wired topics rest) := by
  obtain ⟨⟨first, box⟩, popped, equal⟩ := Option.map_eq_some_iff.mp taken
  cases equal
  refine ⟨?_, fun other different => ?_, fun wired => ?_⟩
  · have kept : (traffic.exchange.setBox machine box).box machine = box :=
      Exchange.box_setBox_self _ _ _
    rw [Mailbox.items_of_pop? popped, inbox, kept]
  · exact Exchange.box_setBox_of_ne _ different box
  · exact wired.of_subscriptions
      (congrArg Broker.subscriptions (Exchange.broker_setBox traffic.exchange machine box))

/-! ## The timers -/

theorem service_post (traffic : Traffic σ) (event : Event) (topic : Topic) :
    (traffic.post event topic).service = traffic.service :=
  congrArg Broker.service (Exchange.broker_deliverAll event _ traffic.exchange)

theorem service_deliver (traffic : Traffic σ) (machine : σ) (event : Event) :
    (traffic.deliver machine event).service = traffic.service :=
  congrArg Broker.service (Exchange.broker_setBox traffic.exchange machine _)

theorem service_take? {machine : σ} {event : Event} {rest : Traffic σ}
    (taken : traffic.take? machine = some (event, rest)) : rest.service = traffic.service := by
  obtain ⟨⟨first, box⟩, -, equal⟩ := Option.map_eq_some_iff.mp taken
  cases equal
  exact congrArg Broker.service (Exchange.broker_setBox traffic.exchange machine box)

/-- A turn leaves its timers behind, and nothing else of the service changes. -/
theorem service_absorb (traffic : Traffic σ) (sender : σ) (turn : Turn S M) :
    (traffic.absorb sender turn).service = { traffic.service with timers := turn.timers } := by
  let served := traffic.withService { traffic.service with timers := turn.timers }
  show (turn.journal.foldl (follow sender) served).service = served.service
  refine List.foldlRecOn (motive := fun later => later.service = served.service) turn.journal
    (follow sender) rfl ?_
  intro later same effect _
  cases effect with
  | posted event topic => exact (service_post later event topic).trans same
  | postedSelf event => exact (service_deliver later sender event).trans same
  | asked leaf state signal => exact same
  | called call reply => exact same
  | warned warning => exact same

end Traffic

end Tether
