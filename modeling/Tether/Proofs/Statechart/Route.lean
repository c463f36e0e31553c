import Mathlib.Data.List.Sort
import Mathlib.Logic.Relation
import Tether.Mode
import Tether.Proofs.Statechart.History

/-!
# The route of a transition

What a transition does can be said without chains and pivots. One state is above another if its
children lead down to it (`Above`). A transition leaves the states from its source upwards that are
not strictly above its target, innermost first, and then enters those from its target upwards that
have not stayed entered, outermost first (`Route`). So a target that is the source itself, or lies
above it, is left and entered again.

A state on the route is told once, and its wish for a transition comes to nothing (`Told`). Then the
target is asked for an initial transition, which is carried out by the same rule, and so on until a
state keeps itself or too many have been followed (`Settles`).

`transits_iff` says that the engine does this and nothing else, in every shallow chart: the route
that it computes from the pivot is the only one there is (`route_walk`, `Route.unique`).
-/

namespace Tether

namespace Chart

variable {S M : Type} {chart : Chart S M}

/-! ## Above and below -/

/-- The first state is the parent of the second. -/
def IsParent (chart : Chart S M) (outer inner : S) : Prop :=
  chart.parent inner = some outer

/-- The first state lies strictly above the second. -/
def Above (chart : Chart S M) : S → S → Prop :=
  Relation.TransGen chart.IsParent

/-- The first state is the second or lies above it. -/
def AtOrAbove (chart : Chart S M) : S → S → Prop :=
  Relation.ReflTransGen chart.IsParent

theorem mem_chain_iff (shallow : chart.Shallow) {outer inner : S} :
    outer ∈ chart.chain inner ↔ chart.AtOrAbove outer inner := by
  induction inner using shallow.induction with
  | step inner ih =>
    rw [chain_eq_cons shallow, List.mem_cons, ← chainFrom_parent, AtOrAbove,
      Relation.ReflTransGen.cases_tail_iff]
    constructor
    · rintro (rfl | inside)
      · exact Or.inl rfl
      · cases found : chart.parent inner with
        | none => rw [found] at inside; cases inside
        | some parent =>
          rw [found] at inside
          exact Or.inr ⟨parent, (ih parent found).mp inside, found⟩
    · rintro (rfl | ⟨parent, above, found⟩)
      · exact Or.inl rfl
      · have inside := (ih parent found).mpr above
        have here : chart.parent inner = some parent := found
        rw [here]
        exact Or.inr inside

theorem mem_chainAbove_iff (shallow : chart.Shallow) {outer inner : S} :
    outer ∈ chart.chainAbove inner ↔ chart.Above outer inner := by
  rw [← chainFrom_parent, Above, Relation.TransGen.tail'_iff]
  constructor
  · intro inside
    cases found : chart.parent inner with
    | none => rw [found] at inside; cases inside
    | some parent =>
      rw [found] at inside
      exact ⟨parent, (mem_chain_iff shallow).mp inside, found⟩
  · rintro ⟨parent, above, found⟩
    have here : chart.parent inner = some parent := found
    rw [here]
    exact (mem_chain_iff shallow).mpr above

theorem Above.irrefl (shallow : chart.Shallow) (state : S) : ¬ chart.Above state state := by
  -- A chain gets shorter on the way up.
  have shorter {outer inner : S} (above : chart.Above outer inner) :
      (chart.chain outer).length < (chart.chain inner).length := by
    induction above with
    | single parent => exact length_chain_lt shallow parent
    | tail _ parent ih => exact ih.trans (length_chain_lt shallow parent)
  exact fun above => Nat.lt_irrefl _ (shorter above)

/-- A chain goes up. -/
theorem pairwise_chain (shallow : chart.Shallow) (state : S) :
    (chart.chain state).Pairwise fun inner outer => chart.Above outer inner := by
  induction state using shallow.induction with
  | step state ih =>
    rw [chain_eq_cons shallow, List.pairwise_cons]
    refine ⟨fun outer inside => (mem_chainAbove_iff shallow).mp inside, ?_⟩
    rw [← chainFrom_parent]
    cases found : chart.parent state with
    | none => exact List.Pairwise.nil
    | some parent => exact ih parent found

theorem nodup_chain (shallow : chart.Shallow) (state : S) : (chart.chain state).Nodup := by
  refine (pairwise_chain shallow state).imp ?_
  rintro inner _ above rfl
  exact Above.irrefl shallow inner above

/-! ## The route -/

/-- The states that a transition leaves and those that it enters, in this order and once each. -/
structure Route (chart : Chart S M) (source target : S) (leaves enters : List S) : Prop where
  mem_leaves : ∀ state, state ∈ leaves ↔
    chart.AtOrAbove state source ∧ ¬ chart.Above state target
  mem_enters : ∀ state, state ∈ enters ↔
    chart.AtOrAbove state target ∧ ¬ (chart.AtOrAbove state source ∧ chart.Above state target)
  leaves_upwards : leaves.Pairwise fun earlier later => chart.Above later earlier
  enters_downwards : enters.Pairwise fun earlier later => chart.Above earlier later
  nodup_leaves : leaves.Nodup
  nodup_enters : enters.Nodup

/-- States that are told upwards, in the order of a list without repetitions. -/
theorem eq_of_mem_iff_of_pairwise (shallow : chart.Shallow) {states others : List S}
    (upwards : states.Pairwise fun earlier later => chart.Above later earlier)
    (upwardsToo : others.Pairwise fun earlier later => chart.Above later earlier)
    (nodup : states.Nodup) (nodupToo : others.Nodup)
    (same : ∀ state, state ∈ states ↔ state ∈ others) : states = others := by
  have perm : states.Perm others := (List.perm_ext_iff_of_nodup nodup nodupToo).mpr same
  refine perm.eq_of_pairwise (fun inner outer _ _ above below => ?_) upwards upwardsToo
  exact absurd (above.trans below) (Above.irrefl shallow _)

/-- There is one route from a state to another. -/
theorem Route.unique (shallow : chart.Shallow) {source target : S}
    {leaves enters otherLeaves otherEnters : List S}
    (route : chart.Route source target leaves enters)
    (other : chart.Route source target otherLeaves otherEnters) :
    leaves = otherLeaves ∧ enters = otherEnters := by
  constructor
  · refine eq_of_mem_iff_of_pairwise shallow route.leaves_upwards other.leaves_upwards
      route.nodup_leaves other.nodup_leaves fun state => ?_
    rw [route.mem_leaves, other.mem_leaves]
  · apply List.reverse_injective
    refine eq_of_mem_iff_of_pairwise shallow
      (List.pairwise_reverse.mpr route.enters_downwards)
      (List.pairwise_reverse.mpr other.enters_downwards)
      (List.nodup_reverse.mpr route.nodup_enters)
      (List.nodup_reverse.mpr other.nodup_enters) fun state => ?_
    rw [List.mem_reverse, List.mem_reverse, route.mem_enters, other.mem_enters]

/-- A part of a chain below the rest of it. -/
theorem mem_lower_iff (shallow : chart.Shallow) {leaf state : S} {lower upper : List S}
    (parts : chart.chain leaf = lower ++ upper) :
    state ∈ lower ↔ chart.AtOrAbove state leaf ∧ state ∉ upper := by
  have nodup : (lower ++ upper).Nodup := parts ▸ nodup_chain shallow leaf
  rw [← mem_chain_iff shallow, parts, List.mem_append]
  constructor
  · intro inside
    refine ⟨Or.inl inside, fun higher => ?_⟩
    exact (List.nodup_append.mp nodup).2.2 state inside state higher rfl
  · rintro ⟨inside, outside⟩
    exact inside.resolve_right outside

section Walk

variable [DecidableEq S] {source target state : S}

/-- What lies from the pivot upwards is above both the source and the target. -/
theorem mem_pivot_iff (shallow : chart.Shallow) :
    state ∈ chart.chainFrom (chart.pivot? source target) ↔
      chart.AtOrAbove state source ∧ chart.Above state target := by
  constructor
  · intro inside
    refine ⟨(mem_chain_iff shallow).mp ?_, ?_⟩
    · rw [chain_eq_exits_append shallow source target]
      exact List.mem_append_right _ inside
    · cases found : chart.pivot? source target with
      | none => rw [found] at inside; cases inside
      | some pivot =>
        rw [found] at inside
        have upwards := (mem_chain_iff shallow).mp inside
        have above := (mem_chainAbove_iff shallow).mp (mem_of_mem_pivot found).2
        exact above.trans_right upwards
  · rintro ⟨current, above⟩
    have inside := (mem_chain_iff shallow).mpr current
    rw [chain_eq_exits_append shallow source target, List.mem_append] at inside
    refine inside.resolve_left fun left => ?_
    exact not_mem_chainAbove_of_mem_exits left ((mem_chainAbove_iff shallow).mpr above)

/-- The engine computes the route from the pivot. -/
theorem route_walk (shallow : chart.Shallow) (source target : S) :
    chart.Route source target (chart.exits source target) (chart.entries source target) := by
  have outward := chain_eq_exits_append shallow source target
  have inward := chain_eq_entries_append shallow source target
  have upwards := pairwise_chain shallow source
  have upwardsToo := pairwise_chain shallow target
  have nodup := nodup_chain shallow source
  have nodupToo := nodup_chain shallow target
  rw [outward] at upwards nodup
  rw [inward] at upwardsToo nodupToo
  refine ⟨fun state => ?_, fun state => ?_, ?_, ?_, ?_, ?_⟩
  · rw [mem_lower_iff shallow outward, mem_pivot_iff shallow]
    tauto
  · rw [← List.mem_reverse, mem_lower_iff shallow inward, mem_pivot_iff shallow]
  · exact (List.pairwise_append.mp upwards).1
  · exact List.pairwise_reverse.mp (List.pairwise_append.mp upwardsToo).1
  · exact nodup.of_append_left
  · exact List.nodup_reverse.mp nodupToo.of_append_left

end Walk

/-! ## Walking the route -/

/-- Some states are told of a signal one after the other while `leaf` is the current state. A wish
for a transition leaves a warning and has no other effect. -/
inductive Told (chart : Chart S M) (leaf : S) (signal : Signal) :
    List S → Scope S M → Scope S M → Prop
  | nil (scope : Scope S M) : Told chart leaf signal [] scope scope
  | heeds {state : S} {rest : List S} {scope after last : Scope S M} {reaction : Reaction S} :
      chart.ask leaf state signal scope = (after, reaction) →
      (∀ target, reaction ≠ .transition target) →
      Told chart leaf signal rest after last → Told chart leaf signal (state :: rest) scope last
  | wishes {state target : S} {rest : List S} {scope after last : Scope S M} :
      chart.ask leaf state signal scope = (after, .transition target) →
      Told chart leaf signal rest (after.warn (.transitionIgnored signal)) last →
      Told chart leaf signal (state :: rest) scope last

/-- The states of the route are left, and then those that lead to the target are entered. -/
def Walks (chart : Chart S M) (source target : S) (before after : Scope S M) : Prop :=
  ∃ leaves enters middle, chart.Route source target leaves enters ∧
    chart.Told source .exit leaves before middle ∧ chart.Told source .entry enters middle after

/-- A state that has been entered is asked for an initial transition, and so is the target of that
one, until a state keeps itself or `limit` initial transitions have been followed. -/
inductive Settles (chart : Chart S M) : Nat → S → Scope S M → S × Scope S M → Prop
  | keeps {limit : Nat} {leaf : S} {scope after : Scope S M} {reaction : Reaction S} :
      chart.ask leaf leaf .init scope = (after, reaction) →
      (∀ target, reaction ≠ .transition target) →
      Settles chart (limit + 1) leaf scope (leaf, after)
  | follows {limit : Nat} {leaf target : S} {scope after moved : Scope S M}
      {result : S × Scope S M} :
      chart.ask leaf leaf .init scope = (after, .transition target) →
      chart.Walks leaf target after moved → Settles chart limit target moved result →
      Settles chart (limit + 1) leaf scope result
  | exhausted (leaf : S) (scope : Scope S M) :
      Settles chart 0 leaf scope (leaf, scope.warn .initChainTooLong)

/-- A transition walks its route and lets its target settle. -/
def Transits (chart : Chart S M) (source target : S) (scope : Scope S M)
    (result : S × Scope S M) : Prop :=
  ∃ moved, chart.Walks source target scope moved ∧
    chart.Settles Limits.maxStateDepth target moved result

theorem told_iff {leaf : S} {signal : Signal} {states : List S} {before after : Scope S M} :
    chart.Told leaf signal states before after ↔
      states.foldl (chart.notify leaf signal) before = after := by
  induction states generalizing before with
  | nil => exact ⟨fun | .nil _ => rfl, fun | rfl => .nil _⟩
  | cons state rest ih =>
    rw [List.foldl_cons, ← ih, notify]
    constructor
    · rintro (_ | ⟨asked, plain, told⟩ | ⟨asked, told⟩)
      · rename_i reaction
        rw [asked]
        cases reaction with
        | transition target => exact absurd rfl (plain target)
        | _ => exact told
      · rw [asked]
        exact told
    · intro told
      cases asked : chart.ask leaf state signal before with
      | mk middle reaction =>
        rw [asked] at told
        cases reaction with
        | transition target => exact .wishes asked told
        | _ => exact .heeds asked nofun told

/-! What the journal shows of a walk: the states of the route have been asked, and no others. -/

theorem filter_isAsked_of_ask {leaf state : S} {signal : Signal} {scope after : Scope S M}
    {reaction : Reaction S} (asked : chart.ask leaf state signal scope = (after, reaction)) :
    after.journal.filter Effect.isAsked =
      scope.journal.filter Effect.isAsked ++ [.asked leaf state signal] := by
  obtain ⟨added, grown, quiet⟩ := chart.ask_journal leaf state signal scope
  rw [asked] at grown
  have nothing : added.filter Effect.isAsked = [] := by simpa using quiet
  rw [grown, List.filter_append, List.filter_cons_of_pos rfl, nothing]

theorem Told.asked {leaf : S} {signal : Signal} {states : List S} {before after : Scope S M}
    (told : chart.Told leaf signal states before after) :
    after.journal.filter Effect.isAsked =
      before.journal.filter Effect.isAsked ++ states.map (.asked leaf · signal) := by
  induction told with
  | nil => exact (List.append_nil _).symm
  | heeds asked _ _ ih =>
    rw [ih, filter_isAsked_of_ask asked, List.append_assoc]
    rfl
  | wishes asked _ ih =>
    rw [ih, Scope.warn, Scope.record, List.filter_append, filter_isAsked_of_ask asked,
      List.append_assoc, List.append_assoc]
    rfl

theorem Walks.asked {source target : S} {before after : Scope S M}
    (walks : chart.Walks source target before after) :
    ∃ leaves enters, chart.Route source target leaves enters ∧
      after.journal.filter Effect.isAsked =
        before.journal.filter Effect.isAsked ++ leaves.map (.asked source · .exit) ++
          enters.map (.asked source · .entry) := by
  obtain ⟨leaves, enters, middle, route, left, entered⟩ := walks
  exact ⟨leaves, enters, route, by rw [entered.asked, left.asked]⟩

section Walk

variable [DecidableEq S]

theorem walks_iff (shallow : chart.Shallow) {source target : S} {before after : Scope S M} :
    chart.Walks source target before after ↔ chart.move source target before = after := by
  have walk := route_walk shallow source target
  rw [move_eq shallow]
  constructor
  · rintro ⟨leaves, enters, middle, route, left, entered⟩
    obtain ⟨rfl, rfl⟩ := route.unique shallow walk
    rw [told_iff] at left entered
    rw [left, entered]
  · rintro rfl
    exact ⟨_, _, _, walk, told_iff.mpr rfl, told_iff.mpr rfl⟩

theorem settles_iff (shallow : chart.Shallow) {limit : Nat} {leaf : S} {scope : Scope S M}
    {result : S × Scope S M} :
    chart.Settles limit leaf scope result ↔ chart.settle limit leaf scope = result := by
  constructor
  · intro settles
    induction settles with
    | keeps asked plain =>
      rename_i reaction
      rw [settle, asked]
      cases reaction with
      | transition target => exact absurd rfl (plain target)
      | _ => rfl
    | follows asked walks _ ih =>
      rw [settle, asked]
      dsimp only
      rw [(walks_iff shallow).mp walks, ih]
    | exhausted => rfl
  · rintro rfl
    induction limit generalizing leaf scope with
    | zero => exact .exhausted leaf scope
    | succ limit ih =>
      unfold settle
      cases asked : chart.ask leaf leaf .init scope with
      | mk after reaction =>
        cases reaction with
        | transition target => exact .follows asked ((walks_iff shallow).mpr rfl) ih
        | _ => exact .keeps asked nofun

/-- In a shallow chart a transition leaves and enters exactly the states of its route and then
settles, whatever its states answer on the way. -/
theorem transits_iff (shallow : chart.Shallow) (source target : S) (scope : Scope S M)
    (result : S × Scope S M) :
    chart.Transits source target scope result ↔
      chart.transition source target scope = result := by
  unfold Transits transition
  constructor
  · rintro ⟨moved, walks, settles⟩
    rw [(walks_iff shallow).mp walks, (settles_iff shallow).mp settles]
  · intro equal
    exact ⟨_, (walks_iff shallow).mpr rfl, (settles_iff shallow).mpr equal⟩

/-- From the running intervalometer to the state around it, which is left and entered again and
leads on to the selection. -/
theorem transits_super :
    let scope := (Mode.chart.machine (.new 5000)).scope .empty 0
    Mode.chart.Shallow ∧
      Mode.chart.Transits .running .super scope (Mode.chart.transition .running .super scope) ∧
      (Mode.chart.transition .running .super scope).1 = .selection :=
  have shallow : Mode.chart.Shallow := fun state => by cases state <;> rfl
  ⟨shallow, (transits_iff shallow .running .super _ _).mpr rfl, rfl⟩

end Walk

end Chart

end Tether
