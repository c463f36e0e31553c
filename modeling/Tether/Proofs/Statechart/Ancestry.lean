import Mathlib.Data.List.TakeWhile
import Tether.Statechart.Walk

/-!
# Ancestors in a shallow chart

A chart is shallow if every chain of ancestors ends within the depth that the engine follows; then
no parent table is cyclic, and no chain is cut. In a shallow chart

* `chain_eq_cons`: a chain is its state followed by the chain of the parent;
* `chain_eq_exits_append`: a transition leaves the part of the source's chain below the pivot;
* `chain_eq_entries_append`: it enters the part of the target's chain below the pivot.

So both walks of a transition meet at the same place, although they are computed differently.
-/

namespace Tether

namespace Chart

variable {S M : Type} {chart : Chart S M}

/-- Every chain of ancestors ends within the depth that the engine follows. -/
def Shallow (chart : Chart S M) : Prop :=
  ∀ state, chart.isCut state = false

/-- The chain of the innermost entered state, if any state is entered. -/
def chainFrom (chart : Chart S M) : Option S → List S
  | some state => chart.chain state
  | none => []

/-! ## Chains -/

theorem climb_none (limit : Nat) : chart.climb limit none = [] := by
  cases limit <;> rfl

theorem climb_succ_some (limit : Nat) (state : S) :
    chart.climb (limit + 1) (some state) = state :: chart.climb limit (chart.parent state) := rfl

/-- A chain that ends within the limit does not depend on the limit. -/
theorem climb_succ_of_length_le (limit : Nat) {cursor : Option S}
    (ends : (chart.climb (limit + 1) cursor).length ≤ limit) :
    chart.climb (limit + 1) cursor = chart.climb limit cursor := by
  induction limit generalizing cursor with
  | zero => rw [List.length_eq_zero_iff.mp (Nat.le_zero.mp ends)]; rfl
  | succ limit ih =>
    cases cursor with
    | none => rw [climb_none, climb_none]
    | some state =>
      rw [climb_succ_some, List.length_cons] at ends
      rw [climb_succ_some, climb_succ_some, ih (Nat.le_of_succ_le_succ ends)]

theorem Shallow.length_climb_le (shallow : chart.Shallow) (state : S) :
    (chart.climb (Limits.maxStateDepth + 1) (some state)).length ≤ Limits.maxStateDepth := by
  have uncut := shallow state
  rw [isCut, decide_eq_false_iff_not] at uncut
  exact Nat.not_lt.mp uncut

theorem chainFrom_parent (state : S) :
    chart.chainFrom (chart.parent state) = chart.chainAbove state := by
  unfold chainFrom chainAbove
  cases chart.parent state <;> rfl

theorem chain_eq_cons (shallow : chart.Shallow) (state : S) :
    chart.chain state = state :: chart.chainAbove state := by
  have bound := shallow.length_climb_le state
  rw [climb_succ_some, List.length_cons] at bound
  have uncut := climb_succ_of_length_le (Limits.maxStateDepth - 1) (Nat.le_of_succ_le_succ bound)
  calc
    chart.chain state = state :: chart.climb (Limits.maxStateDepth - 1) (chart.parent state) := rfl
    _ = state :: chart.climb Limits.maxStateDepth (chart.parent state) := by rw [← uncut]; rfl
    _ = state :: chart.chainAbove state := by
      rw [← chainFrom_parent]
      cases chart.parent state <;> rfl

theorem length_chain_le (state : S) : (chart.chain state).length ≤ Limits.maxStateDepth := by
  suffices bound : ∀ limit cursor, (chart.climb limit cursor).length ≤ limit from bound _ _
  intro limit
  induction limit with
  | zero => intro cursor; exact Nat.le_refl 0
  | succ limit ih =>
    intro cursor
    cases cursor with
    | none => exact Nat.zero_le _
    | some state => exact Nat.succ_le_succ (ih (chart.parent state))

/-- A chain is longer than that of the parent. -/
theorem length_chain_lt (shallow : chart.Shallow) {state above : S}
    (parent : chart.parent state = some above) :
    (chart.chain above).length < (chart.chain state).length := by
  rw [chain_eq_cons shallow state, List.length_cons, ← chainFrom_parent, parent]
  exact Nat.lt_succ_self _

/-- Induction from the top of the forest downwards. -/
theorem Shallow.induction (shallow : chart.Shallow) {motive : S → Prop}
    (step : ∀ state, (∀ above, chart.parent state = some above → motive above) →
      motive state)
    (state : S) : motive state := by
  generalize size : (chart.chain state).length = length
  induction length using Nat.strongRecOn generalizing state with
  | ind length ih =>
    apply step
    intro above found
    exact ih _ (size ▸ length_chain_lt shallow found) above rfl

theorem chainFrom_injective (shallow : chart.Shallow) {first second : Option S}
    (equal : chart.chainFrom first = chart.chainFrom second) : first = second := by
  cases first with
  | none =>
    cases second with
    | none => rfl
    | some state =>
      rw [chainFrom, chainFrom, chain_eq_cons shallow] at equal
      cases equal
  | some state =>
    rw [chainFrom, chain_eq_cons shallow] at equal
    cases second with
    | none => cases equal
    | some other =>
      rw [chainFrom, chain_eq_cons shallow] at equal
      rw [(List.cons.inj equal).1]

/-- A state is the first of its chain from itself, and its parent's chain is the rest. -/
theorem chainFrom_eq_cons (shallow : chart.Shallow) {cursor : Option S} {state : S}
    {rest : List S} (equal : chart.chainFrom cursor = state :: rest) :
    cursor = some state ∧ chart.chainFrom (chart.parent state) = rest := by
  cases cursor with
  | none => cases equal
  | some other =>
    rw [chainFrom, chain_eq_cons shallow] at equal
    cases equal
    exact ⟨rfl, chainFrom_parent state⟩

section Transitions

variable [DecidableEq S]

/-! ## The pivot -/

theorem mem_of_mem_pivot {source target state : S}
    (found : chart.pivot? source target = some state) :
    state ∈ chart.chain source ∧ state ∈ chart.chainAbove target := by
  refine ⟨List.mem_of_find?_eq_some found, ?_⟩
  have chosen := List.find?_some found
  exact of_decide_eq_true chosen

/-- Up to a state of it, a chain is the part below that state and the chain of that state. -/
theorem chain_eq_takeWhile_append (shallow : chart.Shallow) {state : S} {pivot : Option S}
    (member : ∀ above, pivot = some above → above ∈ chart.chain state) :
    chart.chain state =
      (chart.chain state).takeWhile (fun other => decide (some other ≠ pivot)) ++
        chart.chainFrom pivot := by
  induction state using shallow.induction with
  | step state ih =>
    rw [chain_eq_cons shallow, List.takeWhile_cons]
    by_cases reached : some state = pivot
    · rw [if_neg (by simp [reached]), List.nil_append, ← reached, chainFrom,
        chain_eq_cons shallow]
    · rw [if_pos (by simp [reached]), List.cons_append, ← chainFrom_parent]
      congr 1
      -- The pivot has not been reached, so it lies in the chain of the parent.
      have higher : ∀ above, pivot = some above →
        above ∈ chart.chainFrom (chart.parent state) := by
        intro above found
        have inside := member above found
        rw [chain_eq_cons shallow, List.mem_cons] at inside
        rcases inside with equal | inside
        · exact absurd (by rw [found, equal]) reached
        · rwa [chainFrom_parent]
      cases found : chart.parent state with
      | none =>
        cases pivot with
        | none => rfl
        | some above =>
          have inside := higher above rfl
          rw [found] at inside
          exact absurd inside List.not_mem_nil
      | some parent =>
        rw [found] at higher
        exact ih parent found higher

theorem chain_eq_exits_append (shallow : chart.Shallow) (source target : S) :
    chart.chain source =
      chart.exits source target ++ chart.chainFrom (chart.pivot? source target) :=
  chain_eq_takeWhile_append shallow fun _ found => (mem_of_mem_pivot found).1

theorem climbBelow_eq_takeWhile (shallow : chart.Shallow) {pivot : Option S} {limit : Nat}
    {state : S} (enough : (chart.chain state).length ≤ limit) :
    chart.climbBelow pivot limit (some state) =
      (chart.chain state).takeWhile fun other => decide (some other ≠ pivot) := by
  induction state using shallow.induction generalizing limit with
  | step state ih =>
    rw [chain_eq_cons shallow, List.length_cons] at enough
    cases limit with
    | zero => exact absurd enough (Nat.not_succ_le_zero _)
    | succ limit =>
      rw [climbBelow, chain_eq_cons shallow, List.takeWhile_cons]
      by_cases reached : some state = pivot
      · rw [if_pos reached, if_neg (by simp [reached])]
      · rw [if_neg reached, if_pos (by simp [reached])]
        congr 1
        rw [← chainFrom_parent] at enough ⊢
        cases found : chart.parent state with
        | none => cases limit <;> rfl
        | some parent =>
          rw [found] at enough
          exact ih parent found (Nat.le_of_succ_le_succ enough)

theorem chain_eq_entries_append (shallow : chart.Shallow) (source target : S) :
    chart.chain target =
      (chart.entries source target).reverse ++
        chart.chainFrom (chart.pivot? source target) := by
  have enough : (chart.chain target).length ≤ chart.states.length + Limits.maxStateDepth :=
    Nat.le_trans (length_chain_le target) (Nat.le_add_left _ _)
  rw [entries, List.reverse_reverse, climbBelow_eq_takeWhile shallow enough]
  apply chain_eq_takeWhile_append shallow
  intro above found
  rw [chain_eq_cons shallow]
  exact List.mem_cons_of_mem target (mem_of_mem_pivot found).2

/-- What stands before the first match in a list does not match. -/
theorem takeWhile_ne_find? (list : List S) (matching : S → Bool) :
    (list.takeWhile fun item => decide (some item ≠ list.find? matching)) =
      list.takeWhile fun item => !matching item := by
  induction list with
  | nil => rfl
  | cons item rest ih =>
    rw [List.takeWhile_cons, List.takeWhile_cons, List.find?_cons]
    cases found : matching item with
    | true => simp
    | false =>
      -- What is found further on matches, and this item does not.
      have other : some item ≠ rest.find? matching := by
        intro equal
        rw [List.find?_some equal.symm] at found
        cases found
      rw [if_pos (decide_eq_true other), if_pos Bool.not_false]
      exact congrArg (item :: ·) ih

theorem exits_eq_takeWhile (source target : S) :
    chart.exits source target =
      (chart.chain source).takeWhile fun state => !decide (state ∈ chart.chainAbove target) :=
  takeWhile_ne_find? _ _

/-- A transition leaves no state strictly above its target. -/
theorem not_mem_chainAbove_of_mem_exits {source target state : S}
    (member : state ∈ chart.exits source target) : state ∉ chart.chainAbove target := by
  rw [exits_eq_takeWhile] at member
  have outside := List.mem_takeWhile_imp member
  simpa using outside

end Transitions

end Chart

end Tether
