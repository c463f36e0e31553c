import Mathlib.Data.List.DropRight
import Mathlib.Data.List.Perm.Basic
import Tether.Mailbox

/-!
# A mailbox is a queue that overwrites its oldest item

The rules of a queue of a fixed capacity are stated apart from the mailbox (`Serves`): an item that
is put into a full queue takes the place of the oldest one, and its client is told; nobody else is.
A mailbox keeps these rules whatever it is asked for, in any order (`Log.traces_serveAll`), and
the only demand that it leaves without a reply is to wait without an end for an item while there is
none (`answer_eq_none_iff`).

From the rules alone follows what becomes of the items (`balanced_of_traces`): each one that has
been put is read, overwritten, cleared away or still queued, and those that are read or queued are
in the order in which they were put.
-/

namespace Tether

namespace Mailbox

variable {α : Type} {capacity : Nat}

/-! ## The items after a put -/

theorem mem_of_mem_put {box : Mailbox α capacity} {item other : α}
    (member : other ∈ (box.put item).items) : other ∈ box.items ∨ other = item := by
  unfold put at member
  split at member
  · exact (List.mem_append.mp member).imp_right List.mem_singleton.mp
  · exact (List.mem_append.mp (List.mem_of_mem_drop member)).imp_right List.mem_singleton.mp

theorem items_put (box : Mailbox α capacity) (item : α) :
    (box.put item).items = (box.items ++ [item]).rtake capacity := by
  unfold put List.rtake
  split
  · next room =>
    have all : (box.items ++ [item]).length - capacity = 0 :=
      Nat.sub_eq_zero_of_le (length_append_le room item)
    rw [all, List.drop_zero]
  · rw [List.length_append, List.length_singleton]

/-- What has been left out before does not matter to the last items. -/
theorem rtake_rtake_concat (items : List α) (item : α) (count : Nat) :
    (items.rtake count ++ [item]).rtake count = (items ++ [item]).rtake count := by
  cases count with
  | zero => rw [List.rtake_zero, List.rtake_zero]
  | succ count =>
    rw [List.rtake_concat_succ, List.rtake_concat_succ]
    refine congrArg (· ++ [item]) ?_
    rw [List.rtake, List.rtake, List.rtake, List.length_drop, List.drop_drop]
    congr 1
    omega

/-! ## The rules of a queue -/

/-- What a queue of at most `capacity` items replies to a demand, and the items before and after. -/
inductive Serves (capacity : Nat) : List α → Demand α → Reply α → List α → Prop
  | append {queue : List α} {item : α} (room : queue.length < capacity) :
      Serves capacity queue (.put item) (.put false) (queue ++ [item])
  | overwrite {oldest item : α} {rest : List α} (full : (oldest :: rest).length = capacity) :
      Serves capacity (oldest :: rest) (.put item) (.put true) (rest ++ [item])
  | pop {oldest : α} {rest : List α} {patience : Patience} :
      Serves capacity (oldest :: rest) (.pop patience) (.popped (some oldest)) rest
  | miss {patience : Patience} (finite : patience ≠ .endless) :
      Serves capacity [] (.pop patience) (.popped none) []
  | clear {queue : List α} : Serves capacity queue .clear .cleared []

theorem overwrites_iff (positive : 0 < capacity) {box : Mailbox α capacity} :
    box.overwrites = true ↔ box.items.length = capacity := by
  rw [overwrites, isFull, isEmpty, Bool.and_eq_true, beq_iff_eq, Bool.not_eq_true',
    List.isEmpty_eq_false_iff]
  refine ⟨fun both => both.1, fun full => ⟨full, fun empty => ?_⟩⟩
  rw [empty] at full
  exact absurd full (Nat.ne_of_lt positive)

/-- A mailbox replies by the rules of a queue. -/
theorem serves_of_answer (positive : 0 < capacity) {box after : Mailbox α capacity}
    {demand : Demand α} {reply : Reply α} (answered : box.answer demand = some (reply, after)) :
    Serves capacity box.items demand reply after.items := by
  cases demand with
  | put item =>
    cases answered
    rcases Nat.lt_or_eq_of_le box.length_le with room | full
    · have told : box.overwrites = false :=
        Bool.eq_false_iff.mpr fun told => Nat.ne_of_lt room ((overwrites_iff positive).mp told)
      rw [told, items_put_of_lt room]
      exact .append room
    · rw [(overwrites_iff positive).mpr full, items_put_of_full full]
      cases queue : box.items with
      | nil =>
        rw [queue] at full
        exact absurd full (Nat.ne_of_lt positive)
      | cons oldest rest =>
        rw [queue] at full
        exact .overwrite full
  | pop patience =>
    rw [answer] at answered
    cases popped : box.pop? with
    | some found =>
      obtain ⟨item, rest⟩ := found
      rw [popped] at answered
      cases answered
      rw [items_of_pop? popped]
      exact .pop
    | none =>
      rw [popped] at answered
      dsimp only at answered
      split at answered
      · cases answered
      · next finite =>
        cases answered
        rw [pop?_eq_none_iff.mp popped]
        exact .miss finite
  | clear =>
    cases answered
    exact .clear

theorem answer_eq_none_iff {box : Mailbox α capacity} {demand : Demand α} :
    box.answer demand = none ↔ demand = .pop .endless ∧ box.items = [] := by
  cases demand with
  | put item => simp [answer]
  | clear => simp [answer]
  | pop patience =>
    rw [answer, ← pop?_eq_none_iff]
    cases popped : box.pop? with
    | some found => simp
    | none => simp

/-! ## Logs -/

/-- A demand, the reply to it, and the items that were queued before. -/
structure Entry (α : Type) where
  queued : List α
  demand : Demand α
  reply : Reply α

/-- A mailbox and what it has been asked for so far. -/
structure Log (α : Type) (capacity : Nat) where
  box : Mailbox α capacity
  entries : List (Entry α)

namespace Log

def new : Log α capacity :=
  ⟨.empty, []⟩

/-- The log after one more demand, if there is a reply to it. -/
def serve (log : Log α capacity) (demand : Demand α) : Option (Log α capacity) :=
  (log.box.answer demand).map fun (reply, after) =>
    ⟨after, log.entries ++ [⟨log.box.items, demand, reply⟩]⟩

/-- The log after demands one after the other, if there are replies to all of them. -/
def serveAll (log : Log α capacity) (demands : List (Demand α)) : Option (Log α capacity) :=
  demands.foldlM serve log

theorem serve_eq_some_iff {log later : Log α capacity} {demand : Demand α} :
    log.serve demand = some later ↔
      ∃ reply, log.box.answer demand = some (reply, later.box) ∧
        later.entries = log.entries ++ [⟨log.box.items, demand, reply⟩] := by
  rw [serve, Option.map_eq_some_iff]
  constructor
  · rintro ⟨⟨reply, after⟩, answered, rfl⟩
    exact ⟨reply, answered, rfl⟩
  · rintro ⟨reply, answered, entries⟩
    exact ⟨(reply, later.box), answered, congrArg (Log.mk later.box) entries.symm⟩

theorem serve_eq_none_iff {log : Log α capacity} {demand : Demand α} :
    log.serve demand = none ↔ demand = .pop .endless ∧ log.box.items = [] := by
  rw [serve, Option.map_eq_none_iff, answer_eq_none_iff]

theorem serveAll_append (log : Log α capacity) (demands more : List (Demand α)) :
    log.serveAll (demands ++ more) = (log.serveAll demands).bind fun later => later.serveAll more :=
  List.foldlM_append

end Log

/-- A queue that is empty at first has been through some entries, and then holds some items. -/
inductive Traces (capacity : Nat) : List (Entry α) → List α → Prop
  | nil : Traces capacity [] []
  | concat {entries : List (Entry α)} {queue after : List α} {demand : Demand α}
    {reply : Reply α}
      (earlier : Traces capacity entries queue)
      (serves : Serves capacity queue demand reply after) :
      Traces capacity (entries ++ [⟨queue, demand, reply⟩]) after

theorem Log.traces_serveAll (positive : 0 < capacity) {demands : List (Demand α)}
    {log later : Log α capacity} (traces : Traces capacity log.entries log.box.items)
    (served : log.serveAll demands = some later) :
    Traces capacity later.entries later.box.items ∧
      later.entries.map Entry.demand = log.entries.map Entry.demand ++ demands := by
  induction demands generalizing log with
  | nil =>
    cases served
    exact ⟨traces, (List.append_nil _).symm⟩
  | cons demand rest ih =>
    obtain ⟨next, first, others⟩ := Option.bind_eq_some_iff.mp served
    obtain ⟨reply, answered, entries⟩ := serve_eq_some_iff.mp first
    have traced : Traces capacity next.entries next.box.items :=
      entries ▸ traces.concat (serves_of_answer positive answered)
    obtain ⟨all, demands⟩ := ih traced others
    refine ⟨all, ?_⟩
    rw [demands, entries, List.map_append, List.append_assoc]
    rfl

/-- Demands have no replies if and only if one of them is to wait without an end for an item, while
there is none. -/
theorem Log.serveAll_eq_none_iff {log : Log α capacity} {demands : List (Demand α)} :
    log.serveAll demands = none ↔ ∃ earlier later, earlier ++ [.pop .endless] <+: demands ∧
      log.serveAll earlier = some later ∧ later.box.items = [] := by
  constructor
  · intro refused
    induction demands generalizing log with
    | nil => cases refused
    | cons demand rest ih =>
      cases served : log.serve demand with
      | none =>
        obtain ⟨rfl, empty⟩ := serve_eq_none_iff.mp served
        exact ⟨[], log, List.prefix_append _ rest, rfl, empty⟩
      | some next =>
        have others : next.serveAll rest = none := by
          rw [← refused, serveAll, serveAll, List.foldlM_cons, served]
          rfl
        obtain ⟨earlier, later, first, reached, empty⟩ := ih others
        refine ⟨demand :: earlier, later, List.cons_prefix_cons.mpr ⟨rfl, first⟩, ?_, empty⟩
        rw [← reached, serveAll, serveAll, List.foldlM_cons, served]
        rfl
  · rintro ⟨earlier, later, ⟨rest, rfl⟩, served, empty⟩
    have refused : later.serveAll [.pop .endless] = none := by
      rw [serveAll, List.foldlM_cons, serve_eq_none_iff.mpr ⟨rfl, empty⟩]
      rfl
    rw [serveAll_append, serveAll_append, served, Option.bind_some, refused]
    rfl

/-! ## What becomes of the items -/

namespace Entry

/-- The item that is put, if it is. -/
def put (entry : Entry α) : List α :=
  match entry.demand with
  | .put item => [item]
  | _ => []

/-- The item that is read, if there is one. -/
def read (entry : Entry α) : List α :=
  match entry.reply with
  | .popped item? => item?.toList
  | _ => []

/-- Whether the client has been told that an item was pushed out. -/
def overwrote (entry : Entry α) : Bool :=
  match entry.reply with
  | .put overwrote => overwrote
  | _ => false

/-- The item that is pushed out, if there is one. -/
def overwritten (entry : Entry α) : List α :=
  if entry.overwrote then entry.queued.take 1 else []

/-- The items that are cleared away. -/
def cleared (entry : Entry α) : List α :=
  match entry.demand with
  | .clear => entry.queued
  | _ => []

end Entry

/-- What has become of the items of a queue that has been through some entries. -/
structure Balanced (capacity : Nat) (entries : List (Entry α)) (queue : List α) : Prop where
  length_le : queue.length ≤ capacity
  /-- What has been read and what is queued is in the order in which it was put. -/
  order : (entries.flatMap Entry.read ++ queue).Sublist (entries.flatMap Entry.put)
  complete : (entries.flatMap Entry.read ++ (entries.flatMap Entry.overwritten ++
    (entries.flatMap Entry.cleared ++ queue))).Perm (entries.flatMap Entry.put)
  /-- For every item that was pushed out a client has been told. -/
  told : (entries.flatMap Entry.overwritten).length = entries.countP Entry.overwrote
  /-- If nothing has been asked for but to put items, the last ones are queued. -/
  last : (∀ entry ∈ entries, ∃ item, entry.demand = .put item) →
    queue = (entries.flatMap Entry.put).rtake capacity

namespace Balanced

variable {entries : List (Entry α)} {queue after : List α} {demand : Demand α} {reply : Reply α}

theorem nil : Balanced capacity ([] : List (Entry α)) [] where
  length_le := Nat.zero_le capacity
  order := .refl _
  complete := .refl _
  told := rfl
  last _ := (List.drop_nil).symm

/-- An item that is put is the last one that is queued. -/
theorem last_concat {item : α} (balanced : Balanced capacity entries queue)
    (kept : after = (queue ++ [item]).rtake capacity)
    (puts : ∀ entry ∈ entries ++ [Entry.mk queue (.put item) reply],
      ∃ item, entry.demand = .put item) :
    after = ((entries ++ [Entry.mk queue (.put item) reply]).flatMap Entry.put).rtake capacity := by
  have before := balanced.last fun entry member => puts entry (List.mem_append_left _ member)
  rw [kept, before, rtake_rtake_concat, List.flatMap_append]
  rfl

/-- A demand for anything but to put an item settles what is said of puts alone. -/
theorem last_of_other (other : ∀ item, demand ≠ .put item)
    (puts : ∀ entry ∈ entries ++ [Entry.mk queue demand reply],
      ∃ item, entry.demand = .put item) :
    after = ((entries ++ [Entry.mk queue demand reply]).flatMap Entry.put).rtake capacity := by
  obtain ⟨item, put⟩ := puts _ (List.mem_append_right entries List.mem_cons_self)
  exact absurd put (other item)

theorem put (balanced : Balanced capacity entries queue) {item : α}
    (room : queue.length < capacity) :
    Balanced capacity (entries ++ [⟨queue, .put item, .put false⟩]) (queue ++ [item]) where
  length_le := length_append_le room item
  order := by
    simpa [Entry.read, Entry.put] using balanced.order.append_right [item]
  complete := by
    simpa [Entry.read, Entry.put, Entry.overwritten, Entry.overwrote, Entry.cleared] using
      balanced.complete.append_right [item]
  told := by
    simpa [Entry.overwritten, Entry.overwrote] using balanced.told
  last := balanced.last_concat (by
    have all : (queue ++ [item]).length - capacity = 0 :=
      Nat.sub_eq_zero_of_le (length_append_le room item)
    rw [List.rtake, all, List.drop_zero])

theorem overwrite {oldest item : α} {rest : List α}
    (balanced : Balanced capacity entries (oldest :: rest))
    (full : (oldest :: rest).length = capacity) :
    Balanced capacity (entries ++ [⟨oldest :: rest, .put item, .put true⟩])
      (rest ++ [item]) where
  length_le := by
    rw [List.length_append]
    exact Nat.le_of_eq full
  order := by
    have fewer := ((List.sublist_cons_self oldest rest).append_left _).trans balanced.order
    simpa [Entry.read, Entry.put] using fewer.append_right [item]
  complete := by
    have moved := (List.perm_middle.symm.append_left _).append_left _ |>.trans balanced.complete
    simpa [Entry.read, Entry.put, Entry.overwritten, Entry.overwrote, Entry.cleared] using
      moved.append_right [item]
  told := by
    simpa [Entry.overwritten, Entry.overwrote] using balanced.told
  last := balanced.last_concat (by
    have surplus : (oldest :: rest ++ [item]).length - capacity = 1 := by
      rw [List.length_append, full, List.length_singleton, Nat.add_sub_cancel_left]
    rw [List.rtake, surplus]
    rfl)

theorem pop {oldest : α} {rest : List α} {patience : Patience}
    (balanced : Balanced capacity entries (oldest :: rest)) :
    Balanced capacity (entries ++ [⟨oldest :: rest, .pop patience, .popped (some oldest)⟩])
      rest where
  length_le := Nat.le_of_succ_le balanced.length_le
  order := by
    simpa [Entry.read, Entry.put] using balanced.order
  complete := by
    have moved (first second : List α) :
        (oldest :: (first ++ (second ++ rest))).Perm (first ++ (second ++ oldest :: rest)) := by
      rw [← List.append_assoc, ← List.append_assoc]
      exact List.perm_middle.symm
    simpa [Entry.read, Entry.put, Entry.overwritten, Entry.overwrote, Entry.cleared] using
      ((moved _ _).append_left _).trans balanced.complete
  told := by
    simpa [Entry.overwritten, Entry.overwrote] using balanced.told
  last := last_of_other fun _ => nofun

theorem miss {patience : Patience} (balanced : Balanced capacity entries []) :
    Balanced capacity (entries ++ [⟨[], .pop patience, .popped none⟩]) [] where
  length_le := balanced.length_le
  order := by
    simpa [Entry.read, Entry.put] using balanced.order
  complete := by
    simpa [Entry.read, Entry.put, Entry.overwritten, Entry.overwrote, Entry.cleared] using
      balanced.complete
  told := by
    simpa [Entry.overwritten, Entry.overwrote] using balanced.told
  last := last_of_other fun _ => nofun

theorem clear (balanced : Balanced capacity entries queue) :
    Balanced capacity (entries ++ [⟨queue, .clear, .cleared⟩]) [] where
  length_le := Nat.zero_le capacity
  order := by
    simpa [Entry.read, Entry.put] using (List.sublist_append_left _ queue).trans balanced.order
  complete := by
    simpa [Entry.read, Entry.put, Entry.overwritten, Entry.overwrote, Entry.cleared] using
      balanced.complete
  told := by
    simpa [Entry.overwritten, Entry.overwrote] using balanced.told
  last := last_of_other nofun

/-- Every item that has been put is accounted for. -/
theorem count (balanced : Balanced capacity entries queue) :
    (entries.flatMap Entry.put).length = (entries.flatMap Entry.read).length +
      entries.countP Entry.overwrote + (entries.flatMap Entry.cleared).length + queue.length := by
  rw [← balanced.told, ← balanced.complete.length_eq]
  simp only [List.length_append]
  omega

end Balanced

theorem balanced_of_traces {entries : List (Entry α)} {queue : List α}
    (traces : Traces capacity entries queue) : Balanced capacity entries queue := by
  induction traces with
  | nil => exact .nil
  | concat earlier serves ih =>
    cases serves with
    | append room => exact ih.put room
    | overwrite full => exact ih.overwrite full
    | pop => exact ih.pop
    | miss finite => exact ih.miss
    | clear => exact ih.clear

/-- Whatever is asked of a new mailbox, in any order: it replies as a queue does, unless a client
waits without an end for an item while there is none; the mailbox is empty or full when the queue
is; and every item that has been put is read, overwritten, cleared away or queued. -/
theorem serves_as_queue (positive : 0 < capacity) (demands : List (Demand α)) :
    ((Log.new : Log α capacity).serveAll demands = none ↔
      ∃ earlier later, earlier ++ [.pop .endless] <+: demands ∧
        (Log.new : Log α capacity).serveAll earlier = some later ∧ later.box.items = []) ∧
    ∀ log : Log α capacity, Log.new.serveAll demands = some log →
      log.entries.map Entry.demand = demands ∧
      Traces capacity log.entries log.box.items ∧
      Balanced capacity log.entries log.box.items ∧
      (log.entries.flatMap Entry.put).length = (log.entries.flatMap Entry.read).length +
        log.entries.countP Entry.overwrote + (log.entries.flatMap Entry.cleared).length +
          log.box.length ∧
      (log.box.isEmpty ↔ log.box.length = 0) ∧
        (log.box.isFull ↔ log.box.length = capacity) := by
  refine ⟨Log.serveAll_eq_none_iff, fun log served => ?_⟩
  obtain ⟨traces, asked⟩ := Log.traces_serveAll positive .nil served
  have balanced := balanced_of_traces traces
  refine ⟨asked, traces, balanced, balanced.count, ?_, ?_⟩
  · rw [isEmpty, List.isEmpty_iff, length, List.length_eq_zero_iff]
  · rw [isFull, beq_iff_eq, length]

/-- An item is pushed out, one is read, one is cleared away, a read finds none, and one is left. -/
theorem serves_as_queue_two :
    let demands : List (Demand Nat) :=
      [.put 1, .put 2, .put 3, .pop .endless, .clear, .pop (.milliseconds 5), .put 4]
    0 < 2 ∧ ∃ log : Log Nat 2, Log.new.serveAll demands = some log ∧
      log.entries.map Entry.reply = [.put false, .put false, .put true, .popped (some 2), .cleared,
        .popped none, .put false] ∧
      Balanced 2 log.entries [4] := by
  intro demands
  obtain ⟨-, served⟩ := serves_as_queue (by decide : 0 < 2) demands
  have found := served _ rfl
  exact ⟨by decide, _, rfl, rfl, found.2.2.1⟩

end Mailbox

end Tether
