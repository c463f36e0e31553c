import Tether.Proofs.Statechart.Ascent
import Tether.Proofs.Statechart.Delegation
import Tether.Proofs.Statechart.Route
import Tether.Statechart.Table

/-!
# How far a parent table is followed

No walk of the engine trusts the parent table. Chains, and with them the question which states a
machine is in, are cut off after `Limits.maxStateDepth` states; an event is put to no more states
than that, and no more states than that are asked for an initial transition. A transition leaves
states of a chain only.

But the way down to a target is as long as the table makes it. It ends at the pivot, and a pivot is
never far. A transition without one enters all ancestors of its target, however many there are, and
never gets to its target if they have no end (`Moves`, `exists_moves_iff`). So the limit holds of a
transition exactly if there is a pivot, or if no more states than that lead from the target to the
top (`bounded_iff`). `depthGuard` says all this of any chart.

In a chart that lists its states, the engine carries out every transition that gets to its target
(`Moves.move_eq_of_listed`), and follows initial transitions to the end that they have
(`Settling.settle_eq`).
-/

namespace Tether

namespace Chart

variable {S M : Type} {chart : Chart S M}

/-! ## Transitions without a limit -/

/-- What a transition warns of before it leaves any state. -/
def warnMove (chart : Chart S M) (source target : S) (scope : Scope S M) : Scope S M :=
  match chart.parent target with
  | some parent => chart.warnCut parent (chart.warnCut source scope)
  | none => chart.warnCut source scope

theorem filter_isAsked_warnCut (state : S) (scope : Scope S M) :
    (chart.warnCut state scope).journal.filter Effect.isAsked =
      scope.journal.filter Effect.isAsked := by
  unfold warnCut
  split
  · simp [Scope.warn, Scope.record, Effect.isAsked]
  · rfl

theorem filter_isAsked_warnMove (source target : S) (scope : Scope S M) :
    (chart.warnMove source target scope).journal.filter Effect.isAsked =
      scope.journal.filter Effect.isAsked := by
  unfold warnMove
  cases chart.parent target with
  | none => exact filter_isAsked_warnCut source scope
  | some parent => dsimp only; rw [filter_isAsked_warnCut, filter_isAsked_warnCut]

variable [DecidableEq S]

/-- A transition that enters the whole way down to its target. Where there is no way down it leaves
states all the same, but comes to no end. -/
structure Moves (chart : Chart S M) (source target : S) (entered : List S)
    (before after : Scope S M) : Prop where
  way : chart.WayDown (chart.pivot? source target) (some target) entered.reverse
  told : ∃ middle,
    chart.Told source .exit (chart.exits source target) (chart.warnMove source target before)
      middle ∧
    chart.Told source .entry entered middle after

/-- What the limit is to grant a transition: it gets to its target, and neither leaves nor enters
more states than the limit. -/
def Bounded (chart : Chart S M) (source target : S) (before : Scope S M) : Prop :=
  ∃ entered, chart.Moves source target entered before (chart.move source target before) ∧
    (chart.exits source target).length ≤ Limits.maxStateDepth ∧
    entered.length ≤ Limits.maxStateDepth

theorem move_eq_foldl (source target : S) (scope : Scope S M) :
    chart.move source target scope =
      (chart.entries source target).foldl (chart.notify source .entry)
        ((chart.exits source target).foldl (chart.notify source .exit)
          (chart.warnMove source target scope)) := by
  unfold move warnMove
  cases chart.parent target <;> rfl

section Moves

variable {source target : S} {entered : List S} {before after : Scope S M}

namespace Moves

/-- The engine carries out a transition that enters no more states than its walk has steps. -/
theorem move_eq (moves : chart.Moves source target entered before after)
    (enough : entered.length ≤ chart.states.length + Limits.maxStateDepth) :
    chart.move source target before = after := by
  obtain ⟨middle, left, told⟩ := moves.told
  have walked : chart.entries source target = entered := by
    rw [entries, moves.way.climbBelow_eq (by rwa [List.length_reverse]), List.reverse_reverse]
  rw [told_iff] at left told
  rw [move_eq_foldl, walked, left, told]

theorem move_eq_of_listed (listed : chart.Listed)
    (moves : chart.Moves source target entered before after) :
    chart.move source target before = after := by
  have short := moves.way.length_le listed
  rw [List.length_reverse] at short
  exact moves.move_eq (short.trans (Nat.add_le_add_left (by decide) _))

/-- The states that a transition leaves and enters are told of it, and no others. -/
theorem asked (moves : chart.Moves source target entered before after) :
    after.journal.filter Effect.isAsked =
      before.journal.filter Effect.isAsked ++
        (chart.exits source target).map (.asked source · .exit) ++
        entered.map (.asked source · .entry) := by
  obtain ⟨middle, left, told⟩ := moves.told
  rw [told.asked, left.asked, filter_isAsked_warnMove]

end Moves

/-- Along every way down there is a transition. -/
theorem exists_moves {path : List S}
    (way : chart.WayDown (chart.pivot? source target) (some target) path)
    (before : Scope S M) : ∃ after, chart.Moves source target path.reverse before after :=
  ⟨_, by rwa [List.reverse_reverse], _, told_iff.mpr rfl, told_iff.mpr rfl⟩

/-- A pivot is not far above the target. -/
theorem ascend_of_pivot {pivot : S} (found : chart.pivot? source target = some pivot) :
    ∃ steps ≤ Limits.maxStateDepth, chart.ascend steps (some target) = some pivot := by
  have above := (mem_of_mem_pivot found).2
  rw [← chainFrom_parent] at above
  cases parent : chart.parent target with
  | none => rw [parent] at above; cases above
  | some outer =>
    rw [parent] at above
    obtain ⟨steps, within, reached⟩ := mem_climb_iff.mp above
    refine ⟨steps + 1, within, ?_⟩
    rw [ascend, Option.bind_some, parent, reached]

theorem exists_moves_iff : (∃ entered after, chart.Moves source target entered before after) ↔
    (chart.pivot? source target).isSome ∨ ∃ steps, chart.ascend steps (some target) = none := by
  have ways : (∃ entered after, chart.Moves source target entered before after) ↔
      ∃ path, chart.WayDown (chart.pivot? source target) (some target) path := by
    constructor
    · rintro ⟨entered, after, moves⟩
      exact ⟨entered.reverse, moves.way⟩
    · rintro ⟨path, way⟩
      exact ⟨path.reverse, exists_moves way before⟩
  rw [ways, exists_wayDown_iff]
  cases found : chart.pivot? source target with
  | none => simp
  | some pivot =>
    obtain ⟨steps, -, reached⟩ := ascend_of_pivot found
    exact ⟨fun _ => .inl rfl, fun _ => ⟨steps, .inr reached⟩⟩

theorem length_exits_le (source target : S) :
    (chart.exits source target).length ≤ Limits.maxStateDepth :=
  (List.takeWhile_prefix _).length_le.trans (length_chain_le source)

/-- A transition is within the limit if the way down is. -/
theorem bounded_iff_wayDown : chart.Bounded source target before ↔
    ∃ path, chart.WayDown (chart.pivot? source target) (some target) path ∧
      path.length ≤ Limits.maxStateDepth := by
  constructor
  · rintro ⟨entered, moves, -, short⟩
    exact ⟨entered.reverse, moves.way, by rwa [List.length_reverse]⟩
  · rintro ⟨path, way, short⟩
    obtain ⟨after, moves⟩ := exists_moves way before
    rw [← List.length_reverse] at short
    -- The walk of the engine has more steps than the limit, so it lists this way to its end.
    have arrived := moves.move_eq (short.trans (Nat.le_add_left _ _))
    exact ⟨path.reverse, arrived ▸ moves, length_exits_le source target, short⟩

theorem bounded_iff : chart.Bounded source target before ↔
    (chart.pivot? source target).isSome ∨
      chart.ascend Limits.maxStateDepth (some target) = none := by
  rw [bounded_iff_wayDown, exists_wayDown_le_iff]
  cases found : chart.pivot? source target with
  | none =>
    constructor
    · rintro ⟨steps, within, top | top⟩
      · exact .inr (ascend_eq_none_of_le within top)
      · exact .inr (ascend_eq_none_of_le within top)
    · rintro (pivot | top)
      · cases pivot
      · exact ⟨_, Nat.le_refl _, .inl top⟩
  | some pivot =>
    obtain ⟨steps, within, reached⟩ := ascend_of_pivot found
    exact ⟨fun _ => .inl rfl, fun _ => ⟨steps, within, .inr reached⟩⟩

end Moves

/-! ## Initial transitions -/

/-- Initial transitions are followed from a state on: the states that are asked for one, at most
`limit` of them, and the run at the end. There is no end if one of the transitions comes to none. -/
inductive Settling (chart : Chart S M) :
    Nat → S → Scope S M → List S → Option (S × Scope S M) → Prop where
  | keeps {limit : Nat} {leaf : S} {scope after : Scope S M} {reaction : Reaction S} :
      chart.ask leaf leaf .init scope = (after, reaction) →
      (∀ target, reaction ≠ .transition target) →
      Settling chart (limit + 1) leaf scope [leaf] (some (leaf, after))
  | follows {limit : Nat} {leaf target : S} {scope after moved : Scope S M}
      {entered asked : List S} {outcome : Option (S × Scope S M)} :
      chart.ask leaf leaf .init scope = (after, .transition target) →
      chart.Moves leaf target entered after moved →
      Settling chart limit target moved asked outcome →
      Settling chart (limit + 1) leaf scope (leaf :: asked) outcome
  | strays {limit : Nat} {leaf target : S} {scope after : Scope S M} :
      chart.ask leaf leaf .init scope = (after, .transition target) →
      (¬∃ entered moved, chart.Moves leaf target entered after moved) →
      Settling chart (limit + 1) leaf scope [leaf] none
  | exhausted (leaf : S) (scope : Scope S M) :
      Settling chart 0 leaf scope [] (some (leaf, scope.warn .initChainTooLong))

theorem exists_settling (chart : Chart S M) (limit : Nat) (leaf : S) (scope : Scope S M) :
    ∃ asked outcome, chart.Settling limit leaf scope asked outcome := by
  induction limit generalizing leaf scope with
  | zero => exact ⟨[], _, .exhausted leaf scope⟩
  | succ limit ih =>
    cases found : chart.ask leaf leaf .init scope with
    | mk after reaction =>
      cases reaction with
      | handled | delegate => exact ⟨[leaf], _, .keeps found nofun⟩
      | transition target =>
        by_cases gets : ∃ entered moved, chart.Moves leaf target entered after moved
        · obtain ⟨entered, moved, moves⟩ := gets
          obtain ⟨asked, outcome, settling⟩ := ih target moved
          exact ⟨leaf :: asked, outcome, .follows found moves settling⟩
        · exact ⟨[leaf], none, .strays found gets⟩

namespace Settling

variable {limit : Nat} {leaf : S} {scope : Scope S M} {asked : List S}
  {outcome : Option (S × Scope S M)}

theorem length_le (settling : chart.Settling limit leaf scope asked outcome) :
    asked.length ≤ limit := by
  induction settling with
  | keeps | strays => exact Nat.succ_le_succ (Nat.zero_le _)
  | follows _ _ _ ih => exact Nat.succ_le_succ ih
  | exhausted => exact Nat.le_refl 0

/-- Only ancestors without an end keep a machine from settling. -/
theorem exists_endless (settling : chart.Settling limit leaf scope asked none) :
    ∃ target, ∀ steps, chart.ascend steps (some target) ≠ none := by
  generalize lost : none = outcome at settling
  induction settling with
  | keeps | exhausted => cases lost
  | follows _ _ _ ih => exact ih lost
  | @strays _ _ target _ _ _ nowhere =>
    refine ⟨target, fun steps top => nowhere ?_⟩
    exact exists_moves_iff.mpr (.inr ⟨steps, top⟩)

/-- The engine comes to the end that there is. -/
theorem settle_eq (listed : chart.Listed) {result : S × Scope S M}
    (settling : chart.Settling limit leaf scope asked (some result)) :
    chart.settle limit leaf scope = result := by
  generalize ended : some result = outcome at settling
  induction settling with
  | @keeps limit leaf scope after reaction found plain =>
    cases ended
    rw [settle, found]
    cases reaction with
    | transition target => exact absurd rfl (plain target)
    | handled | delegate => rfl
  | follows found moves _ ih =>
    rw [settle, found]
    dsimp only
    rw [moves.move_eq_of_listed listed, ih ended]
  | strays => cases ended
  | exhausted => cases ended; rfl

end Settling

/-! ## Delegations -/

/-- An event is put to some states of a chain, from its start on. -/
theorem bubble_consults (leaf : S) (event : Event) (limit : Nat) (cursor : Option S)
    (scope : Scope S M) :
    ∃ asked, asked <+: chart.climb limit cursor ∧
      consultations (chart.bubble leaf event limit cursor scope).2.journal =
        consultations scope.journal ++ Consultation.entries ⟨leaf, event, asked⟩ := by
  have nobody (scope : Scope S M) : consultations (scope.warn .unhandled).journal =
      consultations scope.journal ++ Consultation.entries ⟨leaf, event, []⟩ :=
    (consultations_warn scope .unhandled).trans (List.append_nil _).symm
  induction limit generalizing cursor scope with
  | zero => exact ⟨[], List.nil_prefix, nobody scope⟩
  | succ limit ih =>
    cases cursor with
    | none => exact ⟨[], List.nil_prefix, nobody scope⟩
    | some state =>
      have consulted := chart.consultations_ask leaf state (.event event) scope
      have first : [state] <+: chart.climb (limit + 1) (some state) := ⟨_, rfl⟩
      unfold bubble
      cases found : chart.ask leaf state (.event event) scope with
      | mk after reaction =>
        rw [found] at consulted
        cases reaction with
        | handled => exact ⟨[state], first, consulted⟩
        | transition target =>
          exact ⟨[state], first, (consultations_transition leaf target after).trans consulted⟩
        | delegate =>
          obtain ⟨above, inside, later⟩ := ih (chart.parent state) after
          refine ⟨state :: above, (List.prefix_cons_inj state).mpr inside, ?_⟩
          rw [later, consulted, List.append_assoc]
          rfl

/-! ## The limit -/

/-- What the limit on the depth of states bounds in a chart, and what it does not. -/
structure DepthGuard (chart : Chart S M) : Prop where
  chain : ∀ state, (chart.chain state).length ≤ Limits.maxStateDepth
  isIn : ∀ machine state, chart.isIn machine state = true ↔
    ∃ steps < Limits.maxStateDepth, chart.ascend steps (some machine.leaf) = some state
  /-- An event is put to states of the chain of the current state only. -/
  process : ∀ run event, ∃ asked, asked <+: chart.chain run.1 ∧
    consultations (chart.process run event).2.journal =
      consultations run.2.journal ++ Consultation.entries ⟨run.1, event, asked⟩
  /-- Initial transitions come to an end after so many askings, unless one of them leads to a state
  whose ancestors have none. -/
  settle : ∀ leaf scope, ∃ asked outcome,
    chart.Settling Limits.maxStateDepth leaf scope asked outcome ∧
      asked.length ≤ Limits.maxStateDepth ∧
      (outcome = none → ∃ target, ∀ steps, chart.ascend steps (some target) ≠ none)
  exits : ∀ source target, (chart.exits source target).length ≤ Limits.maxStateDepth
  /-- A transition gets to its target if there is a pivot, or a top above the target. -/
  moves : ∀ source target before,
    (∃ entered after, chart.Moves source target entered before after) ↔
      (chart.pivot? source target).isSome ∨ ∃ steps, chart.ascend steps (some target) = none
  asked : ∀ source target entered before after,
    chart.Moves source target entered before after →
      after.journal.filter Effect.isAsked =
        before.journal.filter Effect.isAsked ++
          (chart.exits source target).map (.asked source · .exit) ++
          entered.map (.asked source · .entry)
  /-- It is within the limit if there is a pivot, or if the top is. -/
  bounded : ∀ source target before, chart.Bounded source target before ↔
    (chart.pivot? source target).isSome ∨
      chart.ascend Limits.maxStateDepth (some target) = none
  /-- Whatever comes to an end, the engine carries out. -/
  engine : chart.Listed →
    (∀ source target entered before after,
      chart.Moves source target entered before after →
        chart.move source target before = after) ∧
    ∀ leaf scope asked result,
      chart.Settling Limits.maxStateDepth leaf scope asked (some result) →
        chart.settle Limits.maxStateDepth leaf scope = result

/-- Whatever the parent table is, everything but the way down to a target is within the limit, and
that is if there is a pivot or a top within the limit. -/
theorem depthGuard (chart : Chart S M) : chart.DepthGuard where
  chain := length_chain_le
  isIn machine state := by rw [isIn, decide_eq_true_iff, Chart.chain, mem_climb_iff]
  process run event := bubble_consults run.1 event _ _ _
  settle leaf scope := by
    obtain ⟨asked, outcome, settling⟩ := exists_settling chart Limits.maxStateDepth leaf scope
    refine ⟨asked, outcome, settling, settling.length_le, ?_⟩
    rintro rfl
    exact settling.exists_endless
  exits := length_exits_le
  moves _ _ _ := exists_moves_iff
  asked _ _ _ _ _ moves := moves.asked
  bounded _ _ _ := bounded_iff
  engine listed := by
    constructor
    · intro source target entered before after moves
      exact moves.move_eq_of_listed listed
    · intro leaf scope asked result settling
      exact settling.settle_eq listed

end Chart

/-! ## Tables -/

namespace Table

theorem listed_chart (rows : List Row) (initial : String) : (chart rows initial).Listed := by
  intro state inner
  cases found : rows.find? fun row => row.name = state with
  | none =>
    dsimp only [chart] at inner
    rw [found] at inner
    cases inner
  | some row =>
    have named : row.name = state := by simpa using List.find?_some found
    exact List.mem_map.mpr ⟨row, List.mem_of_find?_eq_some found, named⟩

/-- Seventeen states inside each other. -/
def levels : List String :=
  ["d0", "d1", "d2", "d3", "d4", "d5", "d6", "d7", "d8", "d9", "d10", "d11", "d12", "d13", "d14",
    "d15", "d16"]

/-- A state apart, which leads to the innermost level when a picture is asked for. -/
def tower : Chart String Memory :=
  chart
    (⟨"home", none, [(.event Event.capture.id, [⟨[], some "d16", false⟩])]⟩ ::
      List.zipWith (fun name parent => ⟨name, parent, []⟩) levels (none :: levels.map some))
    "home"

/-- A state apart, and two that are the parents of each other. -/
def ring : Chart String Memory :=
  chart [⟨"home", none, []⟩, ⟨"a", some "b", []⟩, ⟨"b", some "a", []⟩] "home"

/-- One more state than the limit is entered in the tower, and nothing gets into the ring. -/
theorem depth_unguarded :
    let before := (tower.machine .new).scope .empty 0
    tower.Moves "home" "d16" levels before (tower.move "home" "d16" before) ∧
      levels.length = 17 ∧ ¬tower.Bounded "home" "d16" before ∧
      ¬∃ entered after, ring.Moves "home" "a" entered before after := by
  refine ⟨?_, rfl, ?_, ?_⟩
  · -- The chains of both sides are disjoint, so the way down is the whole tower.
    have way : tower.WayDown (tower.pivot? "home" "d16") (some "d16") levels.reverse :=
      Chart.wayDown_iff.mpr rfl
    obtain ⟨after, moves⟩ := Chart.exists_moves way ((tower.machine .new).scope .empty 0)
    rw [List.reverse_reverse] at moves
    exact moves.move_eq_of_listed (listed_chart _ _) ▸ moves
  · rw [Chart.bounded_iff]
    rintro (pivot | top)
    · cases pivot
    · cases top
  · rw [Chart.exists_moves_iff]
    rintro (pivot | ⟨steps, top⟩)
    · cases pivot
    · have endless : ring.ascend steps (some "a") ≠ none := by
        refine Chart.ascend_ne_none_of_closed (fun state => state = "a" ∨ state = "b") ?_
          (.inl rfl) steps
        rintro _ (rfl | rfl)
        · exact ⟨"b", rfl, .inr rfl⟩
        · exact ⟨"a", rfl, .inl rfl⟩
      exact endless top

end Table

end Tether
