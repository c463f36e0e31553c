import Tether.Proofs.Statechart.History

/-!
# A machine at its site

A machine takes its events out of a mailbox, and shares the timers of a broker with others. Events
come from anywhere at any time, timers fire in any order, and others set timers and cancel their
own; the machine takes one event after the other. The steps of a site are those that leave room
in the mailbox, so that no event is ever pushed out.

Each timer is known by its number. Those that others have set are listed, so the timers of the
machine are the remaining ones (`ownPending`).
-/

namespace Tether

/-- An event in a mailbox, and the timer that sent it, if one did. -/
structure Letter where
  event : Event
  timer? : Option Nat
deriving DecidableEq

/-- A machine, its mailbox, the timers of its broker, and the numbers of those that others set. -/
structure Site (S M : Type) where
  machine : Machine S M
  inbox : Mailbox Letter Limits.mailbox
  timers : Timers
  foreign : List Nat

namespace Site

variable {S M : Type}

/-- A site before anything has happened. -/
def new (chart : Chart S M) (memory : M) : Site S M :=
  ⟨chart.machine memory, .empty, .empty, []⟩

/-- The letters that a turn puts into the mailbox of the machine itself, which listens to some
topics. -/
def letters (topics : List Topic) (turn : Turn S M) : List Letter :=
  (turn.journal.filterMap (Effect.heard? topics true)).map (Letter.mk · none)

/-- Takes over the outcome of a turn. -/
def absorb (topics : List Topic) (site : Site S M) (turn : Turn S M) : Site S M :=
  { site with
    machine := turn.machine
    timers := turn.timers
    inbox := site.inbox.putAll (letters topics turn) }

/-- Lets a timer fire. -/
def fire (topics : List Topic) (site : Site S M) (timer : Timer) : Site S M :=
  { site with
    timers := site.timers.remove timer.id
    inbox :=
      if timer.topic ∈ topics then site.inbox.put ⟨timer.event, some timer.id⟩
      else site.inbox }

/-- Lets others set a timer. -/
def set (site : Site S M) (deadline : Nat) (event : Event) (topic : Topic) : Site S M :=
  { site with
    timers := (site.timers.insert deadline event topic).1
    foreign := site.timers.nextId :: site.foreign }

/-- Whether there is room for some more letters. -/
def HasRoom (site : Site S M) (count : Nat) : Prop :=
  site.inbox.items.length + count ≤ Limits.mailbox

instance (site : Site S M) (count : Nat) : Decidable (site.HasRoom count) :=
  inferInstanceAs (Decidable (site.inbox.items.length + count ≤ Limits.mailbox))

/-- What can happen at the site of a machine with some topics. -/
inductive Step [DecidableEq S] (chart : Chart S M) (topics : List Topic) :
    Site S M → Site S M → Prop where
  | start {site : Site S M} (now : Nat)
      (room : site.HasRoom
        (letters topics (chart.obey site.machine site.timers now .start)).length) :
      Step chart topics site
        (site.absorb topics (chart.obey site.machine site.timers now .start))
  | turn {site : Site S M} {letter : Letter} {rest : Mailbox Letter Limits.mailbox}
      (now : Nat) (popped : site.inbox.pop? = some (letter, rest))
      (room : { site with inbox := rest }.HasRoom (letters topics
        (chart.obey site.machine site.timers now (.dispatch letter.event))).length) :
      Step chart topics site
        ({ site with inbox := rest }.absorb topics
          (chart.obey site.machine site.timers now (.dispatch letter.event)))
  | receive {site : Site S M} (event : Event) (room : site.HasRoom 1) :
      Step chart topics site { site with inbox := site.inbox.put ⟨event, none⟩ }
  | fire {site : Site S M} {timer : Timer} (pending : timer ∈ site.timers.pending)
      (room : timer.topic ∈ topics → site.HasRoom 1) :
      Step chart topics site (site.fire topics timer)
  | set {site : Site S M} (deadline : Nat) (event : Event) (topic : Topic) :
      Step chart topics site (site.set deadline event topic)
  | cancel {site : Site S M} {id : Nat} (member : id ∈ site.foreign) :
      Step chart topics site { site with timers := site.timers.remove id }

/-- The sites that a new one can become. -/
inductive Reachable [DecidableEq S] (chart : Chart S M) (topics : List Topic) (memory : M) :
    Site S M → Prop where
  | initial : Reachable chart topics memory (.new chart memory)
  | step {before after : Site S M} (reachable : Reachable chart topics memory before)
      (step : Step chart topics before after) : Reachable chart topics memory after

/-- What can happen at a site while its machine rests. -/
inductive Meanwhile (topics : List Topic) : Site S M → Site S M → Prop where
  | receive {site : Site S M} (event : Event) (room : site.HasRoom 1) :
      Meanwhile topics site { site with inbox := site.inbox.put ⟨event, none⟩ }
  | fire {site : Site S M} {timer : Timer} (pending : timer ∈ site.timers.pending)
      (room : timer.topic ∈ topics → site.HasRoom 1) :
      Meanwhile topics site (site.fire topics timer)
  | set {site : Site S M} (deadline : Nat) (event : Event) (topic : Topic) :
      Meanwhile topics site (site.set deadline event topic)
  | cancel {site : Site S M} {id : Nat} (member : id ∈ site.foreign) :
      Meanwhile topics site { site with timers := site.timers.remove id }

/-- The sites that a new one can become, each with the journal of all that its machine has done. -/
inductive Record [DecidableEq S] (chart : Chart S M) (topics : List Topic) (memory : M) :
    Site S M → List (Effect S) → Prop where
  | initial : Record chart topics memory (.new chart memory) []
  | start {site : Site S M} {journal : List (Effect S)}
      (record : Record chart topics memory site journal) (now : Nat)
      (room : site.HasRoom
        (letters topics (chart.obey site.machine site.timers now .start)).length) :
      Record chart topics memory
        (site.absorb topics (chart.obey site.machine site.timers now .start))
        (journal ++ (chart.obey site.machine site.timers now .start).journal)
  | turn {site : Site S M} {journal : List (Effect S)} {letter : Letter}
      {rest : Mailbox Letter Limits.mailbox}
      (record : Record chart topics memory site journal) (now : Nat)
      (popped : site.inbox.pop? = some (letter, rest))
      (room : { site with inbox := rest }.HasRoom (letters topics
        (chart.obey site.machine site.timers now (.dispatch letter.event))).length) :
      Record chart topics memory
        ({ site with inbox := rest }.absorb topics
          (chart.obey site.machine site.timers now (.dispatch letter.event)))
        (journal ++ (chart.obey site.machine site.timers now (.dispatch letter.event)).journal)
  | pause {site after : Site S M} {journal : List (Effect S)}
      (record : Record chart topics memory site journal) (meanwhile : Meanwhile topics site after) :
      Record chart topics memory after journal

/-- The sites that a new one can become, each with the letters that its machine has taken. -/
inductive Taken [DecidableEq S] (chart : Chart S M) (topics : List Topic) (memory : M) :
    Site S M → List Letter → Prop where
  | initial : Taken chart topics memory (.new chart memory) []
  | start {site : Site S M} {letters : List Letter}
      (taken : Taken chart topics memory site letters) (now : Nat)
      (room : site.HasRoom
        (Site.letters topics (chart.obey site.machine site.timers now .start)).length) :
      Taken chart topics memory
        (site.absorb topics (chart.obey site.machine site.timers now .start)) letters
  | turn {site : Site S M} {letters : List Letter} {letter : Letter}
      {rest : Mailbox Letter Limits.mailbox}
      (taken : Taken chart topics memory site letters) (now : Nat)
      (popped : site.inbox.pop? = some (letter, rest))
      (room : { site with inbox := rest }.HasRoom (Site.letters topics
        (chart.obey site.machine site.timers now (.dispatch letter.event))).length) :
      Taken chart topics memory
        ({ site with inbox := rest }.absorb topics
          (chart.obey site.machine site.timers now (.dispatch letter.event)))
        (letters ++ [letter])
  | pause {site after : Site S M} {letters : List Letter}
      (taken : Taken chart topics memory site letters) (meanwhile : Meanwhile topics site after) :
      Taken chart topics memory after letters

section Records

variable {topics : List Topic} {site after : Site S M} {memory : M} {journal : List (Effect S)}

theorem Meanwhile.machine (meanwhile : Meanwhile topics site after) :
    after.machine = site.machine := by
  cases meanwhile <;> rfl

/-- Nothing gets lost from a mailbox while the machine rests. -/
theorem Meanwhile.keeps (meanwhile : Meanwhile topics site after) :
    ∀ letter ∈ site.inbox.items, letter ∈ after.inbox.items := by
  intro letter member
  cases meanwhile with
  | receive event room =>
    rw [Mailbox.items_put_of_lt room]
    exact List.mem_append_left _ member
  | fire pending room =>
    unfold Site.fire
    dsimp only
    split
    · next heard =>
      rw [Mailbox.items_put_of_lt (room heard)]
      exact List.mem_append_left _ member
    · exact member
  | set => exact member
  | cancel => exact member

theorem items_absorb {turn : Turn S M} (room : site.HasRoom (letters topics turn).length) :
    (site.absorb topics turn).inbox.items = site.inbox.items ++ letters topics turn :=
  Mailbox.items_putAll room

/-- A timer that fires puts a letter behind the others, if its topic is heard. -/
theorem items_fire {timer : Timer} (room : timer.topic ∈ topics → site.HasRoom 1) :
    (site.fire topics timer).inbox.items =
      site.inbox.items ++
        if timer.topic ∈ topics then [⟨timer.event, some timer.id⟩] else [] := by
  unfold fire
  dsimp only
  split
  · next heard => exact Mailbox.items_put_of_lt (room heard) _
  · exact (List.append_nil _).symm

/-- A record is that of a machine that obeys one order after the other. -/
theorem Record.history [DecidableEq S] {chart : Chart S M}
    (record : Record chart topics memory site journal) :
    ∃ occasions, History.obeyAll chart (.new chart memory) occasions =
      ⟨site.machine, journal⟩ := by
  have one_more {history : History S M} {past : List Occasion}
      (equal : History.obeyAll chart (.new chart memory) past = history) (occasion : Occasion) :
      History.obeyAll chart (.new chart memory) (past ++ [occasion]) =
        history.obey chart occasion := by
    rw [← equal]
    exact List.foldl_append
  induction record with
  | initial => exact ⟨[], rfl⟩
  | @start site _ _ now _ ih =>
    obtain ⟨past, equal⟩ := ih
    exact ⟨_, one_more equal ⟨.start, site.timers, now⟩⟩
  | @turn site _ letter _ _ now _ _ ih =>
    obtain ⟨past, equal⟩ := ih
    exact ⟨_, one_more equal ⟨.dispatch letter.event, site.timers, now⟩⟩
  | pause _ meanwhile ih => rw [meanwhile.machine]; exact ih

end Records

end Site

/-! ## Own timers -/

namespace Timers

/-- The pending timers that are not listed. -/
def ownPending (foreign : List Nat) (timers : Timers) : List Timer :=
  timers.pending.filter fun timer => decide (timer.id ∉ foreign)

theorem filter_place_of_not {selected : Timer → Bool} {timer : Timer}
    (other : selected timer = false) (pending : List Timer) :
    (place timer pending).filter selected = pending.filter selected := by
  induction pending with
  | nil => rw [place, List.filter_cons, other]; rfl
  | cons first rest ih =>
    unfold place
    split
    · rw [List.filter_cons, List.filter_cons, ih]
    · rw [List.filter_cons, other]
      rfl

theorem filter_place_of_nil {selected : Timer → Bool} {timer : Timer}
    (chosen : selected timer = true) {pending : List Timer}
    (others : pending.filter selected = []) :
    (place timer pending).filter selected = [timer] := by
  induction pending with
  | nil => rw [place, List.filter_cons, chosen]; rfl
  | cons first rest ih =>
    have unchosen : selected first = false := by
      have absent := List.filter_eq_nil_iff.mp others first List.mem_cons_self
      simpa using absent
    rw [List.filter_cons, unchosen] at others
    unfold place
    split
    · rw [List.filter_cons, unchosen]
      exact ih others
    · rw [List.filter_cons, chosen, List.filter_cons, unchosen]
      exact congrArg (timer :: ·) others

/-- Setting the first own timer. -/
theorem ownPending_insert {foreign : List Nat} {timers : Timers}
    (fresh : timers.nextId ∉ foreign) (none : timers.ownPending foreign = []) (deadline : Nat)
    (event : Event) (topic : Topic) :
    (timers.insert deadline event topic).1.ownPending foreign =
      [⟨deadline, timers.nextId, event, topic⟩] :=
  filter_place_of_nil (decide_eq_true fresh) none

/-- A timer that others set is not an own one. -/
theorem ownPending_set {foreign : List Nat} {timers : Timers}
    (known : ∀ timer ∈ timers.pending, timer.id < timers.nextId) (deadline : Nat)
    (event : Event)
    (topic : Topic) :
    (timers.insert deadline event topic).1.ownPending (timers.nextId :: foreign) =
      timers.ownPending foreign := by
  unfold ownPending insert
  rw [filter_place_of_not (decide_eq_false (not_not_intro List.mem_cons_self))]
  apply List.filter_congr
  intro timer member
  have older : timer.id ≠ timers.nextId := Nat.ne_of_lt (known timer member)
  simp [older]

theorem ownPending_remove (foreign : List Nat) (timers : Timers) (id : Nat) :
    (timers.remove id).ownPending foreign =
      (timers.ownPending foreign).filter fun timer => timer.id != id := by
  rw [ownPending, remove_pending, ownPending, List.filter_filter, List.filter_filter]
  exact List.filter_congr fun timer _ => Bool.and_comm _ _

/-- Cancelling the only own timer, which may have fired. -/
theorem ownPending_cancel {foreign : List Nat} {timers : Timers} {timer : Timer}
    (own : timers.ownPending foreign = [timer] ∨ timers.ownPending foreign = []) :
    (timers.remove timer.id).ownPending foreign = [] := by
  rw [ownPending_remove]
  rcases own with pending | fired
  · rw [pending, List.filter_cons, bne_self_eq_false]; rfl
  · rw [fired]; rfl

theorem ownPending_remove_foreign {foreign : List Nat} (timers : Timers) {id : Nat}
    (member : id ∈ foreign) :
    (timers.remove id).ownPending foreign = timers.ownPending foreign := by
  rw [ownPending_remove, List.filter_eq_self]
  intro timer own
  have outside : timer.id ∉ foreign := of_decide_eq_true (List.mem_filter.mp own).2
  rw [bne_iff_ne]
  exact fun equal => outside (equal ▸ member)

/-- Exactly the timer that fires is no longer pending. -/
theorem perm_ownPending {foreign : List Nat} {timers : Timers} {timer : Timer}
    (own : timer ∈ timers.ownPending foreign) :
    (timers.ownPending foreign).Perm (timer :: (timers.remove timer.id).ownPending foreign) := by
  have nodup : (timers.ownPending foreign).Nodup := by
    refine (timers.ordered.filter _).imp fun before same => ?_
    subst same
    rcases before with sooner | older
    · exact Nat.lt_irrefl _ sooner
    · exact Nat.lt_irrefl _ older.2
  have others : (timers.remove timer.id).ownPending foreign =
      (timers.ownPending foreign).filter (· != timer) := by
    rw [ownPending_remove]
    refine List.filter_congr fun other member => ?_
    rw [Bool.eq_iff_iff, bne_iff_ne, bne_iff_ne]
    refine not_congr ⟨fun number => ?_, fun equal => congrArg Timer.id equal⟩
    exact timers.eq_of_id_eq (List.mem_filter.mp member).1 (List.mem_filter.mp own).1 number
  rw [others, ← nodup.erase_eq_filter]
  exact List.perm_cons_erase own

end Timers

end Tether
