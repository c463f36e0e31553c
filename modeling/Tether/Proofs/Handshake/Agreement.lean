import Tether.Proofs.Handshake.Intervalometer
import Tether.Proofs.Handshake.Mode

/-!
# Agreement of the mode controller and the intervalometer

The two machines hand a token back and forth: a queued request to begin a sequence, a running
sequence, or a queued report that the sequence has ended. While the mode controller is in `Running`
there is always a token, whoever posts whatever (`Reachable.running_tokens`). As long as nobody else
makes tokens, there is exactly one then and none otherwise (`Reachable.balanced`). Both together are
`agree_of_reachable`.

The plan: a step is first told in terms of the queues and the states alone (`Move`), and then in
terms of the number of tokens. The mode controller makes a token when it hands over control and
uses one up when it takes control back. The intervalometer passes tokens on; it loses one only where
there are several.
-/

namespace Tether

/-- The events that an order takes out of the mailbox. -/
def Order.taken : Order → List Event
  | .start => []
  | .dispatch event => [event]

namespace Duo

/-- What is queued for a machine, oldest first. -/
def queue (duo : Duo) (party : Party) : List Event :=
  (duo.inbox party).items

/-- Whether the intervalometer is inside `Running`. -/
def busy (duo : Duo) : Bool :=
  Intervalometer.chart.isIn duo.meter .running

/-- What both machines keep between turns. -/
structure Sound (duo : Duo) : Prop where
  wired : Traffic.Wired Party.topics duo.traffic
  mode : Mode.Placed duo.mode
  meter : Intervalometer.Placed duo.meter

/-- The mailboxes after a turn of `sender` that follows an order. -/
structure Exchanged (sender : Party) (order : Order) (said : Party → List Event)
    (before after : Party → List Event) : Prop where
  own : ∃ rest, before sender = order.taken ++ rest ∧ after sender = rest ++ said sender
  others : ∀ party, party ≠ sender → after party = before party ++ said party

/-- What a step comes to. -/
inductive Move (allowed : Event → Prop) (before after : Duo) : Prop where
  | mode (order : Order) (said : Party → List Event)
      (exchanged : Exchanged .mode order said before.queue after.queue)
      (handover : Mode.Handover before.mode.leaf after.mode.leaf order said)
      (meter : after.meter = before.meter)
  | meter (order : Order) (said : Party → List Event)
      (exchanged : Exchanged .meter order said before.queue after.queue)
      (told : said = Intervalometer.told before.busy after.busy)
      (starts : before.busy = false → after.busy = Intervalometer.asksStart order)
      (mode : after.mode = before.mode)
  | others (events : Party → List Event)
    (may : ∀ party, ∀ event ∈ events party, allowed event)
      (put : ∀ party, after.queue party = before.queue party ++ events party)
      (mode : after.mode = before.mode) (meter : after.meter = before.meter)

/-! ## What a step comes to -/

section Turns

variable {S M : Type} {duo after : Duo} {sender : Party} {turn : Turn S M}

/-- A turn appends what is heard of it to the queues. -/
theorem queue_absorb (wired : Traffic.Wired Party.topics duo.traffic)
    (room : duo.HasRoom sender turn) (absorbed : after.traffic = duo.traffic.absorb sender turn)
    (party : Party) : after.queue party = duo.queue party ++ heard party sender turn.journal := by
  rw [queue, inbox, absorbed]
  exact Traffic.items_absorb wired room party

theorem exchanged_start (wired : Traffic.Wired Party.topics duo.traffic)
    (room : duo.HasRoom sender turn) (absorbed : after.traffic = duo.traffic.absorb sender turn) :
    Exchanged sender .start (fun party => heard party sender turn.journal)
      duo.queue after.queue where
  own := ⟨duo.queue sender, rfl, queue_absorb wired room absorbed sender⟩
  others party _ := queue_absorb wired room absorbed party

theorem exchanged_dispatch {event : Event} {rest : Traffic Party}
    (wired : Traffic.Wired Party.topics duo.traffic)
    (taken : duo.traffic.take? sender = some (event, rest))
    (room : { duo with traffic := rest }.HasRoom sender turn)
    (absorbed : after.traffic = rest.absorb sender turn) :
    Exchanged sender (.dispatch event) (fun party => heard party sender turn.journal)
      duo.queue after.queue := by
  obtain ⟨first, others, wiring⟩ := Traffic.of_take? taken
  have filled := queue_absorb (wiring wired) room absorbed
  refine ⟨⟨_, first, filled sender⟩, fun party other => ?_⟩
  have kept : queue { duo with traffic := rest } party = duo.queue party :=
    congrArg Mailbox.items (others party other)
  rw [← kept]
  exact filled party

end Turns

section Steps

variable {allowed : Event → Prop} {before after : Duo}

/-- What both machines keep is kept by every step, and every step comes to a move. -/
theorem Sound.move (sound : Sound before) (step : Step allowed before after) :
    Sound after ∧ Move allowed before after := by
  cases step with
  | modeStart now room =>
    obtain ⟨placed, handover⟩ :=
      Mode.turn_handover sound.mode before.traffic.service.timers now .start
    exact ⟨⟨sound.wired.absorb .mode _, placed, sound.meter⟩,
      .mode .start _ (exchanged_start sound.wired room rfl) handover rfl⟩
  | @modeTurn event rest now taken room =>
    obtain ⟨placed, handover⟩ :=
      Mode.turn_handover sound.mode before.traffic.service.timers now (.dispatch event)
    obtain ⟨_, _, wiring⟩ := Traffic.of_take? taken
    exact ⟨⟨(wiring sound.wired).absorb .mode _, placed, sound.meter⟩,
      .mode (.dispatch event) _ (exchanged_dispatch sound.wired taken room rfl) handover rfl⟩
  | meterStart now room =>
    obtain ⟨placed, told, starts⟩ :=
      Intervalometer.turn_told sound.meter before.traffic.service.timers now .start
    exact ⟨⟨sound.wired.absorb .meter _, sound.mode, placed⟩,
      .meter .start _ (exchanged_start sound.wired room rfl) (funext told) starts rfl⟩
  | @meterTurn event rest now taken room =>
    obtain ⟨placed, told, starts⟩ :=
      Intervalometer.turn_told sound.meter before.traffic.service.timers now (.dispatch event)
    obtain ⟨_, _, wiring⟩ := Traffic.of_take? taken
    exact ⟨⟨(wiring sound.wired).absorb .meter _, sound.mode, placed⟩,
      .meter (.dispatch event) _ (exchanged_dispatch sound.wired taken room rfl) (funext told)
        starts rfl⟩
  | @post event topic may room =>
    refine ⟨⟨sound.wired.post event topic, sound.mode, sound.meter⟩, .others
      (fun party => if topic ∈ party.topics then [event] else []) ?_ (fun party => ?_) rfl rfl⟩
    · intro party posted member
      split at member
      · exact List.mem_singleton.mp member ▸ may
      · cases member
    · exact Traffic.items_post sound.wired event topic room party
  | clock service =>
    exact ⟨⟨sound.wired.of_subscriptions rfl, sound.mode, sound.meter⟩, .others (fun _ => [])
      (fun _ _ member => absurd member List.not_mem_nil) (fun _ => (List.append_nil _).symm)
      rfl rfl⟩

end Steps

/-! ## Tokens -/

/-- How many tokens there are: queued requests for the intervalometer, queued reports for the mode
controller, and a running sequence. -/
def tokens (duo : Duo) : Nat :=
  (duo.queue .meter).countP Event.isStart + (duo.queue .mode).countP Event.isStopped +
    duo.busy.toNat

/-- The number of events of a kind that are queued for any of the machines. -/
def queued (duo : Duo) (kind : Event → Bool) : Nat :=
  (duo.queue .mode).countP kind + (duo.queue .meter).countP kind

section Counting

variable {order : Order} {said before after : Party → List Event} {sender party : Party}

theorem Exchanged.countP_own (exchanged : Exchanged sender order said before after)
    (kind : Event → Bool) :
    (after sender).countP kind + order.taken.countP kind =
      (before sender).countP kind + (said sender).countP kind := by
  obtain ⟨rest, taken, left⟩ := exchanged.own
  rw [taken, left, List.countP_append, List.countP_append]
  omega

theorem Exchanged.countP_other (exchanged : Exchanged sender order said before after)
    (other : party ≠ sender) (kind : Event → Bool) :
    (after party).countP kind = (before party).countP kind + (said party).countP kind := by
  rw [exchanged.others party other, List.countP_append]

theorem countP_isStart_taken (order : Order) :
    order.taken.countP Event.isStart = (Intervalometer.asksStart order).toNat := by
  cases order with
  | start => rfl
  | dispatch event => cases event <;> rfl

theorem countP_isStopped_taken {order : Order} (other : order ≠ .dispatch .modeStopped) :
    order.taken.countP Event.isStopped = 0 := by
  cases order with
  | start => rfl
  | dispatch event =>
    cases event with
    | modeStopped => exact absurd rfl other
    | _ => rfl

theorem countP_told_meter (before after : Bool) (kind : Event → Bool) :
    (Intervalometer.told before after .meter).countP kind = 0 := by
  cases before <;> cases after <;> rfl

theorem countP_isStart_told (before after : Bool) (party : Party) :
    (Intervalometer.told before after party).countP Event.isStart = 0 := by
  cases before <;> cases after <;> cases party <;> rfl

end Counting

section Conservation

variable {order : Order} {said : Party → List Event} {before after : Duo}

/-- The mode controller makes a token with a request and uses one up with a report. -/
theorem tokens_mode (exchanged : Exchanged .mode order said before.queue after.queue)
    (silent : said .mode = []) (meter : after.meter = before.meter) :
    after.tokens + order.taken.countP Event.isStopped =
      before.tokens + (said .meter).countP Event.isStart := by
  have own := exchanged.countP_own Event.isStopped
  have other := exchanged.countP_other (by decide : Party.meter ≠ .mode) Event.isStart
  have busy : after.busy = before.busy := congrArg (Intervalometer.chart.isIn · .running) meter
  rw [silent] at own
  rw [List.countP_nil] at own
  unfold tokens
  rw [busy]
  omega

/-- The intervalometer passes tokens on. It loses a request that finds a sequence running, but then
the sequence is a token itself. -/
theorem tokens_meter (exchanged : Exchanged .meter order said before.queue after.queue)
    (told : said = Intervalometer.told before.busy after.busy)
    (starts : before.busy = false → after.busy = Intervalometer.asksStart order) :
    after.tokens = before.tokens ∨ 0 < after.tokens ∧ after.tokens + 1 = before.tokens := by
  have own := exchanged.countP_own Event.isStart
  have other := exchanged.countP_other (by decide : Party.mode ≠ .meter) Event.isStopped
  rw [countP_isStart_taken] at own
  subst told
  unfold tokens
  cases idle : before.busy with
  | false =>
    -- Nothing is running, so a request that is taken becomes a running sequence.
    rw [idle] at own other
    rw [starts idle] at own other ⊢
    have quiet (party : Party) (kind : Event → Bool) :
        (Intervalometer.told false (Intervalometer.asksStart order) party).countP kind = 0 := rfl
    rw [quiet] at own other
    have none : Bool.toNat false = 0 := rfl
    omega
  | true =>
    have one : Bool.toNat true = 1 := rfl
    -- A sequence is running, so a request that is taken is lost; the end of the sequence is
    -- reported.
    have bound := Bool.toNat_le (Intervalometer.asksStart order)
    rw [idle] at own other
    cases stops : after.busy with
    | true =>
      have quiet (party : Party) (kind : Event → Bool) :
          (Intervalometer.told true true party).countP kind = 0 := rfl
      rw [stops, quiet] at own other
      omega
    | false =>
      have none : Bool.toNat false = 0 := rfl
      have quiet : (Intervalometer.told true false .meter).countP Event.isStart = 0 := rfl
      have report : (Intervalometer.told true false .mode).countP Event.isStopped = 1 := rfl
      rw [stops] at own other
      omega

/-- Others can only add tokens. -/
theorem tokens_others {events : Party → List Event}
    (put : ∀ party, after.queue party = before.queue party ++ events party)
    (meter : after.meter = before.meter) :
    after.tokens = before.tokens + (events .meter).countP Event.isStart +
      (events .mode).countP Event.isStopped := by
  have busy : after.busy = before.busy := congrArg (Intervalometer.chart.isIn · .running) meter
  unfold tokens
  rw [put, put, busy, List.countP_append, List.countP_append]
  omega

end Conservation

/-! ## Agreement -/

theorem Move.running_tokens {allowed : Event → Prop} {before after : Duo}
    (move : Move allowed before after) (alive : before.mode.leaf = .running → 0 < before.tokens)
    (running : after.mode.leaf = .running) : 0 < after.tokens := by
  cases move with
  | mode order said exchanged handover meter =>
    cases handover with
    | stay same silent other =>
      have counted := tokens_mode exchanged (silent .mode) meter
      have begun := same.mp running
      have kept := countP_isStopped_taken (other begun)
      have alive := alive begun
      omega
    | give interval total _ _ request silent spoken =>
      have counted := tokens_mode exchanged silent meter
      rw [request, spoken] at counted
      have asked : [Event.intervalometerStart interval total].countP Event.isStart = 1 := rfl
      have taken : (Order.dispatch (.runIntervalometer interval total)).taken.countP
          Event.isStopped = 0 := rfl
      omega
    | take _ stops => exact absurd running stops
  | meter order said exchanged told starts mode =>
    have alive := alive (mode ▸ running)
    rcases tokens_meter exchanged told starts with same | ⟨some, _⟩
    · omega
    · exact some
  | others events may put mode meter =>
    have counted := tokens_others put meter
    have alive := alive (mode ▸ running)
    omega

/-- There is one token while the mode controller is in `Running` and none otherwise, and no token
waits where nobody looks for it. -/
structure Balanced (duo : Duo) : Prop where
  tokens : duo.tokens = if duo.mode.leaf = .running then 1 else 0
  requests : (duo.queue .mode).countP Event.isStart = 0
  reports : (duo.queue .meter).countP Event.isStopped = 0

section Balance

variable {order : Order} {said : Party → List Event} {before after : Duo}

theorem Balanced.modeTurn (balanced : Balanced before)
    (exchanged : Exchanged .mode order said before.queue after.queue)
    (handover : Mode.Handover before.mode.leaf after.mode.leaf order said)
    (meter : after.meter = before.meter) : Balanced after := by
  have tokens := balanced.tokens
  have requests := exchanged.countP_own Event.isStart
  have reports := exchanged.countP_other (by decide : Party.meter ≠ .mode) Event.isStopped
  rw [balanced.requests] at requests
  rw [balanced.reports] at reports
  cases handover with
  | stay same silent other =>
    have counted := tokens_mode exchanged (silent .mode) meter
    rw [silent, List.countP_nil] at counted
    rw [silent] at requests reports
    refine ⟨?_, Nat.eq_zero_of_add_eq_zero_right requests, reports⟩
    by_cases running : before.mode.leaf = .running
    · rw [if_pos running] at tokens
      rw [if_pos (same.mpr running)]
      have kept := countP_isStopped_taken (other running)
      omega
    · rw [if_neg running] at tokens
      rw [if_neg (running ∘ same.mp)]
      omega
  | give interval total idle running request silent spoken =>
    have counted := tokens_mode exchanged silent meter
    rw [silent] at requests
    rw [spoken] at reports
    refine ⟨?_, Nat.eq_zero_of_add_eq_zero_right requests, reports⟩
    rw [request, spoken, tokens, if_neg idle] at counted
    rw [if_pos running]
    exact counted
  | take running idle report silent =>
    have counted := tokens_mode exchanged (silent .mode) meter
    rw [silent] at requests reports
    refine ⟨?_, Nat.eq_zero_of_add_eq_zero_right requests, reports⟩
    rw [report, silent, tokens, if_pos running] at counted
    rw [if_neg idle]
    exact Nat.succ.inj counted

theorem Balanced.meterTurn (balanced : Balanced before)
    (exchanged : Exchanged .meter order said before.queue after.queue)
    (told : said = Intervalometer.told before.busy after.busy)
    (starts : before.busy = false → after.busy = Intervalometer.asksStart order)
    (mode : after.mode = before.mode) : Balanced after := by
  have tokens := balanced.tokens
  have requests := exchanged.countP_other (by decide : Party.mode ≠ .meter) Event.isStart
  have reports := exchanged.countP_own Event.isStopped
  rw [balanced.requests, told, countP_isStart_told] at requests
  rw [balanced.reports, told, countP_told_meter] at reports
  refine ⟨?_, requests, Nat.eq_zero_of_add_eq_zero_right reports⟩
  rw [mode]
  rcases tokens_meter exchanged told starts with same | ⟨some, lost⟩
  · exact same.trans tokens
  · -- A token is lost only where there are several.
    have few : before.tokens ≤ 1 := by
      rw [tokens]
      split <;> decide
    omega

theorem Balanced.others {events : Party → List Event} (balanced : Balanced before)
    (neutral : ∀ party, ∀ event ∈ events party, event.Neutral)
    (put : ∀ party, after.queue party = before.queue party ++ events party)
    (mode : after.mode = before.mode) (meter : after.meter = before.meter) : Balanced after := by
  have starts (party : Party) : (events party).countP Event.isStart = 0 :=
    List.countP_eq_zero.mpr fun event member =>
      Bool.not_eq_true _ ▸ (neutral party event member).1
  have stops (party : Party) : (events party).countP Event.isStopped = 0 :=
    List.countP_eq_zero.mpr fun event member =>
      Bool.not_eq_true _ ▸ (neutral party event member).2
  refine ⟨?_, ?_, ?_⟩
  · rw [tokens_others put meter, starts, stops, mode]
    exact balanced.tokens
  · rw [put, List.countP_append, starts, balanced.requests]
  · rw [put, List.countP_append, stops, balanced.reports]

theorem Move.balanced {allowed : Event → Prop} (move : Move allowed before after)
    (neutral : ∀ event, allowed event → event.Neutral) (balanced : Balanced before) :
    Balanced after := by
  cases move with
  | mode order said exchanged handover meter => exact balanced.modeTurn exchanged handover meter
  | meter order said exchanged told starts mode =>
    exact balanced.meterTurn exchanged told starts mode
  | others events may put mode meter =>
    exact balanced.others (fun party event member => neutral event (may party event member)) put
      mode meter

end Balance

/-! ## Reachable states -/

theorem wired_new : Traffic.Wired Party.topics
    (.new [(.mode, Mode.topics), (.meter, Intervalometer.topics)]) where
  nodup topic := by cases topic <;> decide
  listens topic party := by cases topic <;> cases party <;> decide

theorem sound_new (heartbeat : Nat) : Sound (new heartbeat) where
  wired := wired_new
  mode := ⟨rfl, fun _ => rfl, nofun⟩
  meter := ⟨rfl, fun _ => rfl, nofun, Or.inl rfl⟩

theorem balanced_new (heartbeat : Nat) : Balanced (new heartbeat) :=
  ⟨rfl, rfl, rfl⟩

section Reachable

variable {allowed : Event → Prop} {heartbeat : Nat} {duo : Duo}

theorem Reachable.sound (reachable : Reachable allowed heartbeat duo) : Sound duo := by
  induction reachable with
  | initial => exact sound_new heartbeat
  | step _ step ih => exact (ih.move step).1

theorem Reachable.running_tokens (reachable : Reachable allowed heartbeat duo) :
    duo.mode.leaf = .running → 0 < duo.tokens := by
  induction reachable with
  | initial => exact nofun
  | step reachable step ih => exact (reachable.sound.move step).2.running_tokens ih

theorem Reachable.balanced (reachable : Reachable allowed heartbeat duo)
    (neutral : ∀ event, allowed event → event.Neutral) : Balanced duo := by
  induction reachable with
  | initial => exact balanced_new heartbeat
  | step reachable step ih => exact (reachable.sound.move step).2.balanced neutral ih

end Reachable

/-- While the mode controller is in `Running`, the intervalometer is inside its `Running`, or a
request to begin is on its way to it, or a report of the end is on its way back. If nobody else
posts such requests and reports, exactly one of these holds once while the mode controller is in
`Running`, and none at any other time. -/
theorem agree_of_reachable {allowed : Event → Prop} {heartbeat : Nat} {duo : Duo}
    (reachable : Reachable allowed heartbeat duo) :
    (duo.mode.leaf = .running →
      duo.busy = true ∨
        (∃ interval total, .intervalometerStart interval total ∈ duo.queue .meter) ∨
        .modeStopped ∈ duo.queue .mode) ∧
    ((∀ event, allowed event → event.Neutral) →
      duo.queued Event.isStart + duo.queued Event.isStopped + duo.busy.toNat =
        if duo.mode.leaf = .running then 1 else 0) := by
  refine ⟨fun running => ?_, fun neutral => ?_⟩
  · have alive := reachable.running_tokens running
    cases busy : duo.busy with
    | true => exact Or.inl rfl
    | false =>
      rw [tokens, busy, Bool.toNat_false, Nat.add_zero] at alive
      refine Or.inr ((Nat.add_pos_iff_pos_or_pos.mp alive).imp (fun some => ?_) fun some => ?_)
      · obtain ⟨event, member, starts⟩ := List.countP_pos_iff.mp some
        obtain ⟨interval, total, rfl⟩ := Event.isStart_iff.mp starts
        exact ⟨interval, total, member⟩
      · obtain ⟨event, member, stops⟩ := List.countP_pos_iff.mp some
        exact Event.isStopped_iff.mp stops ▸ member
  · have balanced := reachable.balanced neutral
    rw [← balanced.tokens, tokens, queued, queued, balanced.requests, balanced.reports]
    omega

/-- A client has asked for the intervalometer, and the mode controller has handed over control. -/
theorem agree_of_reachable_handedOver :
    ∃ duo, Reachable Event.Neutral 1000 duo ∧ duo.mode.leaf = .running ∧ duo.busy = false ∧
      (duo.busy = true ∨
        (∃ interval total, .intervalometerStart interval total ∈ duo.queue .meter) ∨
        .modeStopped ∈ duo.queue .mode) ∧
      duo.queued Event.isStart + duo.queued Event.isStopped + duo.busy.toNat = 1 := by
  have asked : Reachable Event.Neutral 1000 _ :=
    .step .initial
      (@Step.post _ _ (.runIntervalometer 5 3) .remoteCmd ⟨rfl, rfl⟩ fun party => by
        cases party <;> decide)
  have given : Reachable Event.Neutral 1000 _ :=
    asked.step (.modeTurn 0 rfl fun party => by cases party <;> decide +kernel)
  obtain ⟨held, counted⟩ := agree_of_reachable given
  exact ⟨_, given, rfl, rfl, held rfl, counted fun _ => id⟩

end Duo

end Tether
