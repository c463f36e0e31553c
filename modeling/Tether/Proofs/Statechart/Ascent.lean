import Mathlib.Data.List.Perm.Subperm
import Tether.Proofs.Statechart.Ancestry

/-!
# Walks upwards in any parent table

Nothing is known of the parent table here: it may be cyclic, and its states may lie as deep as they
like. `ascend` leads upwards step by step, and a chain lists where it leads for as many steps as the
engine follows (`getElem?_climb`).

The way down to a target is listed from the target upwards until the pivot or the top is reached
(`WayDown`). Nothing counts the states on it, so where the table leads to neither there is no way
down. There is one exactly if so many steps upwards lead to the pivot or beyond the top
(`exists_wayDown_iff`), and the walk of the engine lists it if its limit is no smaller
(`WayDown.climbBelow_eq`). No state comes twice on a way down, so the limit is no smaller in a chart
that lists its states (`WayDown.length_le`).
-/

namespace Tether

namespace Chart

variable {S M : Type} {chart : Chart S M}

/-! ## Steps upwards -/

/-- Where so many steps upwards lead; beyond the top there is nothing. -/
def ascend (chart : Chart S M) : Nat → Option S → Option S
  | 0, cursor => cursor
  | steps + 1, cursor => chart.ascend steps (cursor.bind chart.parent)

theorem ascend_none (steps : Nat) : chart.ascend steps none = none := by
  induction steps with
  | zero => rfl
  | succ steps ih => exact ih

theorem ascend_add (steps more : Nat) (cursor : Option S) :
    chart.ascend (steps + more) cursor = chart.ascend more (chart.ascend steps cursor) := by
  induction steps generalizing cursor with
  | zero => rw [Nat.zero_add]; rfl
  | succ steps ih => rw [Nat.succ_add]; exact ih _

/-- There is nothing beyond the top, however far one goes. -/
theorem ascend_eq_none_of_le {steps later : Nat} {cursor : Option S} (le : steps ≤ later)
    (top : chart.ascend steps cursor = none) : chart.ascend later cursor = none := by
  obtain ⟨more, rfl⟩ := Nat.exists_eq_add_of_le le
  rw [ascend_add, top, ascend_none]

/-- Among states that all have parents among them, there is no top. -/
theorem ascend_ne_none_of_closed (inside : S → Prop)
    (closed : ∀ state, inside state →
      ∃ above, chart.parent state = some above ∧ inside above)
    {state : S} (begins : inside state) (steps : Nat) :
    chart.ascend steps (some state) ≠ none := by
  induction steps generalizing state with
  | zero => exact nofun
  | succ steps ih =>
    obtain ⟨above, parent, within⟩ := closed state begins
    rw [ascend, Option.bind_some, parent]
    exact ih within

theorem getElem?_climb (limit steps : Nat) (cursor : Option S) :
    (chart.climb limit cursor)[steps]? =
      if steps < limit then chart.ascend steps cursor else none := by
  induction limit generalizing steps cursor with
  | zero => simp [climb]
  | succ limit ih =>
    cases cursor with
    | none => simp [climb_none, ascend_none]
    | some state =>
      cases steps with
      | zero => simp [climb_succ_some, ascend]
      | succ steps => simp [climb_succ_some, ascend, ih]

theorem mem_climb_iff {limit : Nat} {cursor : Option S} {state : S} :
    state ∈ chart.climb limit cursor ↔
      ∃ steps < limit, chart.ascend steps cursor = some state := by
  simp only [List.mem_iff_getElem?, getElem?_climb]
  constructor
  · rintro ⟨steps, found⟩
    split at found
    · next within => exact ⟨steps, within, found⟩
    · cases found
  · rintro ⟨steps, within, found⟩
    exact ⟨steps, by rw [if_pos within, found]⟩

/-! ## The way down to a target -/

/-- The states from a state upwards to below the pivot, or to the top if the pivot is not above it.
Nothing else ends the list. -/
inductive WayDown (chart : Chart S M) (pivot : Option S) : Option S → List S → Prop where
  | top : WayDown chart pivot none []
  | pivot : WayDown chart pivot pivot []
  | up {state : S} {path : List S} (below : some state ≠ pivot)
      (rest : WayDown chart pivot (chart.parent state) path) :
      WayDown chart pivot (some state) (state :: path)

/-- Every state that has a parent is in the list of states. -/
def Listed (chart : Chart S M) : Prop :=
  ∀ state, (chart.parent state).isSome → state ∈ chart.states

namespace WayDown

variable {pivot cursor : Option S} {path : List S}

theorem unique {other : List S} (way : chart.WayDown pivot cursor path)
    (again : chart.WayDown pivot cursor other) : path = other := by
  induction way generalizing other with
  | top => cases again <;> rfl
  | pivot =>
    cases again with
    | top | pivot => rfl
    | up below => exact absurd rfl below
  | up below _ ih =>
    cases again with
    | pivot => exact absurd rfl below
    | up _ rest => rw [ih rest]

theorem ascend (way : chart.WayDown pivot cursor path) :
    chart.ascend path.length cursor = none ∨ chart.ascend path.length cursor = pivot := by
  induction way with
  | top => exact .inl rfl
  | pivot => exact .inr rfl
  | up _ _ ih => exact ih

/-- A walk that is left as many steps as the way down has states lists them all. -/
theorem climbBelow_eq [DecidableEq S] (way : chart.WayDown pivot cursor path) {limit : Nat}
    (enough : path.length ≤ limit) : chart.climbBelow pivot limit cursor = path := by
  induction way generalizing limit with
  | top => cases limit <;> rfl
  | pivot =>
    cases limit with
    | zero => rfl
    | succ limit =>
      cases pivot with
      | none => rfl
      | some state => exact if_pos rfl
  | up below _ ih =>
    obtain ⟨limit, rfl⟩ := Nat.exists_eq_add_of_le' (Nat.le_trans (Nat.le_add_left 1 _) enough)
    rw [climbBelow, if_neg below, ih (Nat.le_of_succ_le_succ enough)]

/-- Every state on a way down begins one of its own. -/
theorem of_mem (way : chart.WayDown pivot cursor path) {state : S} (member : state ∈ path) :
    ∃ rest, chart.WayDown pivot (some state) (state :: rest) ∧ rest.length < path.length := by
  induction way with
  | top | pivot => cases member
  | @up first path below rest ih =>
    rcases List.mem_cons.mp member with rfl | above
    · exact ⟨path, .up below rest, Nat.lt_succ_self _⟩
    · obtain ⟨others, later, shorter⟩ := ih above
      exact ⟨others, later, Nat.lt_succ_of_lt shorter⟩

/-- A state that came again would lead round for ever. -/
theorem nodup (way : chart.WayDown pivot cursor path) : path.Nodup := by
  induction way with
  | top | pivot => exact List.nodup_nil
  | @up state path below rest ih =>
    refine List.nodup_cons.mpr ⟨fun again => ?_, ih⟩
    obtain ⟨others, later, shorter⟩ := rest.of_mem again
    -- The way from here and the way from its return are the same, but the second is shorter.
    obtain ⟨-, rfl⟩ := List.cons.inj ((WayDown.up below rest).unique later)
    exact Nat.lt_irrefl _ shorter

/-- All states on a way down but the last have parents. -/
theorem parent_isSome (way : chart.WayDown pivot cursor path) :
    ∀ state ∈ path.dropLast, (chart.parent state).isSome := by
  induction way with
  | top | pivot => simp
  | @up first path _ rest ih =>
    cases path with
    | nil => simp
    | cons second path =>
      intro state member
      rw [List.dropLast_cons_cons, List.mem_cons] at member
      rcases member with rfl | later
      · cases found : chart.parent state with
        | none => rw [found] at rest; cases rest
        | some parent => rfl
      · exact ih state later

/-- In a chart that lists its states, a way down is hardly longer than the list. -/
theorem length_le (listed : chart.Listed) (way : chart.WayDown pivot cursor path) :
    path.length ≤ chart.states.length + 1 := by
  have nodup := way.nodup.sublist (List.dropLast_sublist path)
  have inside : path.dropLast ⊆ chart.states := by
    intro state member
    exact listed state (way.parent_isSome state member)
  have short := (List.subperm_of_subset nodup inside).length_le
  rw [List.length_dropLast] at short
  exact Nat.le_succ_of_pred_le short

end WayDown

/-- What a walk lists is a way down if it ends with a step to spare. -/
theorem wayDown_iff [DecidableEq S] {pivot cursor : Option S} {path : List S} :
    chart.WayDown pivot cursor path ↔ chart.climbBelow pivot (path.length + 1) cursor = path := by
  refine ⟨fun way => way.climbBelow_eq (Nat.le_succ _), fun walked => ?_⟩
  induction path generalizing cursor with
  | nil =>
    cases cursor with
    | none => exact .top
    | some state =>
      by_cases reached : some state = pivot
      · exact reached ▸ .pivot
      · rw [climbBelow, if_neg reached] at walked
        cases walked
  | cons first rest ih =>
    cases cursor with
    | none => cases walked
    | some state =>
      rw [climbBelow] at walked
      split at walked
      · cases walked
      · next below =>
        obtain ⟨rfl, later⟩ := List.cons.inj walked
        exact .up below (ih later)

/-- There is a way down of some length at most if so many steps upwards lead to its end. -/
theorem exists_wayDown_of_ascend {pivot : Option S} {steps : Nat} {cursor : Option S}
    (ends : chart.ascend steps cursor = none ∨ chart.ascend steps cursor = pivot) :
    ∃ path, chart.WayDown pivot cursor path ∧ path.length ≤ steps := by
  induction steps generalizing cursor with
  | zero =>
    rcases ends with rfl | rfl
    · exact ⟨[], .top, Nat.le_refl 0⟩
    · exact ⟨[], .pivot, Nat.le_refl 0⟩
  | succ steps ih =>
    cases cursor with
    | none => exact ⟨[], .top, Nat.zero_le _⟩
    | some state =>
      by_cases reached : some state = pivot
      · exact ⟨[], reached ▸ .pivot, Nat.zero_le _⟩
      · obtain ⟨path, way, short⟩ := ih ends
        exact ⟨state :: path, .up reached way, Nat.succ_le_succ short⟩

theorem exists_wayDown_iff {pivot cursor : Option S} :
    (∃ path, chart.WayDown pivot cursor path) ↔
      ∃ steps, chart.ascend steps cursor = none ∨ chart.ascend steps cursor = pivot := by
  constructor
  · rintro ⟨path, way⟩
    exact ⟨path.length, way.ascend⟩
  · rintro ⟨steps, ends⟩
    obtain ⟨path, way, -⟩ := exists_wayDown_of_ascend ends
    exact ⟨path, way⟩

theorem exists_wayDown_le_iff {pivot cursor : Option S} {limit : Nat} :
    (∃ path, chart.WayDown pivot cursor path ∧ path.length ≤ limit) ↔
      ∃ steps ≤ limit, chart.ascend steps cursor = none ∨
        chart.ascend steps cursor = pivot := by
  constructor
  · rintro ⟨path, way, short⟩
    exact ⟨path.length, short, way.ascend⟩
  · rintro ⟨steps, short, ends⟩
    obtain ⟨path, way, shorter⟩ := exists_wayDown_of_ascend ends
    exact ⟨path, way, shorter.trans short⟩

end Chart

end Tether
