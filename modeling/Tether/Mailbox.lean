/-!
# Bounded mailboxes

A first-in first-out queue of a fixed capacity that never refuses an item: an item put into a full
mailbox pushes the oldest one out, so a slow reader always finds the most recent traffic.
-/

namespace Tether

/-- A queue of at most `capacity` items, oldest first. -/
structure Mailbox (α : Type) (capacity : Nat) where
  items : List α
  length_le : items.length ≤ capacity

namespace Mailbox

variable {α : Type} {capacity : Nat}

def empty : Mailbox α capacity :=
  ⟨[], Nat.zero_le capacity⟩

instance : Inhabited (Mailbox α capacity) := ⟨empty⟩

def length (box : Mailbox α capacity) : Nat :=
  box.items.length

def isEmpty (box : Mailbox α capacity) : Bool :=
  box.items.isEmpty

/-- Whether the next item will push one out. -/
def isFull (box : Mailbox α capacity) : Bool :=
  box.items.length == capacity

theorem length_append_le {items : List α} (h : items.length < capacity) (item : α) :
    (items ++ [item]).length ≤ capacity :=
  List.length_append ▸ h

theorem length_drop_le (items : List α) (item : α) :
    ((items ++ [item]).drop (items.length + 1 - capacity)).length ≤ capacity := by
  rw [List.length_drop, List.length_append, List.length_singleton]
  omega

theorem length_tail_le {box : Mailbox α capacity} {item : α} {rest : List α}
    (h : box.items = item :: rest) : rest.length ≤ capacity := by
  have bound := box.length_le
  rw [h, List.length_cons] at bound
  exact Nat.le_of_succ_le bound

/-- Appends an item, without the oldest one if the mailbox is full. -/
def put (box : Mailbox α capacity) (item : α) : Mailbox α capacity :=
  if h : box.items.length < capacity then
    ⟨box.items ++ [item], length_append_le h item⟩
  else
    ⟨(box.items ++ [item]).drop (box.items.length + 1 - capacity),
      length_drop_le box.items item⟩

/-- Whether putting an item pushes one out that was queued. -/
def overwrites (box : Mailbox α capacity) : Bool :=
  box.isFull && !box.isEmpty

/-- The oldest item and the mailbox without it. -/
def pop? (box : Mailbox α capacity) : Option (α × Mailbox α capacity) :=
  match h : box.items with
  | [] => none
  | item :: rest =>
      some (item, ⟨rest, length_tail_le h⟩)

/-! ## What the operations do to the items -/

theorem items_put_of_lt {box : Mailbox α capacity} (h : box.items.length < capacity) (item : α) :
    (box.put item).items = box.items ++ [item] := by
  rw [put, dif_pos h]

theorem length_lt_of_not_overwrites {box : Mailbox α capacity} (positive : 0 < capacity)
    (room : box.overwrites = false) : box.items.length < capacity := by
  refine Nat.lt_of_le_of_ne box.length_le fun full => ?_
  have filled : box.isFull = true := beq_iff_eq.mpr full
  have holding : box.isEmpty = false := by
    rw [isEmpty, List.isEmpty_eq_false_iff, ne_eq, ← List.length_eq_zero_iff, full]
    exact Nat.ne_of_gt positive
  rw [overwrites, filled, holding] at room
  cases room

theorem items_put_of_full {box : Mailbox α capacity} (h : box.items.length = capacity)
    (item : α) : (box.put item).items = (box.items ++ [item]).drop 1 := by
  have surplus : box.items.length + 1 - capacity = 1 := by omega
  rw [put, dif_neg (Nat.not_lt.mpr (Nat.le_of_eq h.symm))]
  exact congrArg (fun count => (box.items ++ [item]).drop count) surplus

theorem pop?_eq_none_iff {box : Mailbox α capacity} : box.pop? = none ↔ box.items = [] := by
  unfold pop?
  split <;> simp_all

theorem items_of_pop? {box rest : Mailbox α capacity} {item : α}
    (h : box.pop? = some (item, rest)) : box.items = item :: rest.items := by
  unfold pop? at h
  split at h
  · cases h
  · rename_i found
    cases h
    exact found

def putAll (box : Mailbox α capacity) (items : List α) : Mailbox α capacity :=
  items.foldl put box

theorem items_putAll {box : Mailbox α capacity} {items : List α}
    (room : box.items.length + items.length ≤ capacity) :
    (box.putAll items).items = box.items ++ items := by
  induction items generalizing box with
  | nil => exact (List.append_nil _).symm
  | cons item rest ih =>
    rw [List.length_cons] at room
    have placed : (box.put item).items = box.items ++ [item] :=
      items_put_of_lt (by omega) item
    have later : (box.put item).items.length + rest.length ≤ capacity := by
      rw [placed, List.length_append, List.length_singleton]
      omega
    calc
      (box.putAll (item :: rest)).items = ((box.put item).putAll rest).items := rfl
      _ = (box.put item).items ++ rest := ih later
      _ = box.items ++ item :: rest := by rw [placed, List.append_assoc]; rfl

/-! ## Clients -/

/-- How long a client that reads a mailbox waits for an item while there is none. -/
inductive Patience where
  | none
  | milliseconds (limit : Nat)
  | endless
deriving DecidableEq

/-- What a client asks of a mailbox. -/
inductive Demand (α : Type) where
  | put (item : α)
  | pop (patience : Patience)
  | clear
deriving DecidableEq

/-- What a client is told. -/
inductive Reply (α : Type) where
  /-- The item has been put, and whether another one was pushed out for it. -/
  | put (overwrote : Bool)
  /-- The oldest item, if there was one. -/
  | popped (item? : Option α)
  | cleared
deriving DecidableEq

/-- What a mailbox replies to a client while nobody else uses it, and the mailbox afterwards. To a
client that waits without an end an empty mailbox never replies. -/
def answer (box : Mailbox α capacity) : Demand α → Option (Reply α × Mailbox α capacity)
  | .put item => some (.put box.overwrites, box.put item)
  | .pop patience =>
      match box.pop? with
      | some (item, rest) => some (.popped (some item), rest)
      | none => if patience = .endless then none else some (.popped none, box)
  | .clear => some (.cleared, .empty)

end Mailbox

end Tether
