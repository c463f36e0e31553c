import Tether.Camera.Chart
import Tether.Proofs.Statechart.History

/-!
# What is done to the camera

The journal of the camera controller tells which calls were made to the camera, and before each of
them which state was being asked about which signal. So every call is a deed that was done for an
asking. This is how the deeds that change settings are read off a journal.
-/

namespace Tether

namespace Camera

/-- The call of an entry of a journal, if it changes a setting. -/
def setter? : Effect State → Option Call
  | .called call _ => if call.isSetter then some call else none
  | _ => none

/-- The calls of a journal that change settings. -/
def setterCalls (journal : List (Effect State)) : List Call :=
  journal.filterMap setter?

/-- A state being asked about a signal while `leaf` is the current state. -/
structure Asking where
  leaf : State
  state : State
  signal : Signal
deriving DecidableEq

/-- A call to the camera, and the asking that it was made for, if there was one. -/
structure Deed where
  asking : Option Asking
  call : Call
deriving DecidableEq

/-- The calls of a journal, where `asking` is the asking that the journal begins in. -/
def deedsFrom (asking : Option Asking) : List (Effect State) → List Deed
  | [] => []
  | .asked leaf state signal :: rest => deedsFrom (some ⟨leaf, state, signal⟩) rest
  | .called call _ :: rest => ⟨asking, call⟩ :: deedsFrom asking rest
  | _ :: rest => deedsFrom asking rest

/-- The calls of a journal, each with the asking that it was made for. -/
def deeds (journal : List (Effect State)) : List Deed :=
  deedsFrom none journal

/-- The deeds of a journal that change settings. -/
def setterDeeds (journal : List (Effect State)) : List Deed :=
  (deeds journal).filter fun deed => deed.call.isSetter

theorem deedsFrom_append_asked (asking : Option Asking) (journal rest : List (Effect State))
    (leaf state : State) (signal : Signal) :
    deedsFrom asking (journal ++ .asked leaf state signal :: rest) =
      deedsFrom asking journal ++ deedsFrom (some ⟨leaf, state, signal⟩) rest := by
  induction journal generalizing asking with
  | nil => rfl
  | cons effect journal ih =>
    cases effect with
    | asked leaf state signal => exact ih _
    | called call reply => exact congrArg (⟨asking, call⟩ :: ·) (ih asking)
    | posted event topic => exact ih asking
    | postedSelf event => exact ih asking
    | warned warning => exact ih asking

theorem deedsFrom_append_warned (asking : Option Asking) (journal : List (Effect State))
    (warning : Warning) :
    deedsFrom asking (journal ++ [.warned warning]) = deedsFrom asking journal := by
  induction journal generalizing asking with
  | nil => rfl
  | cons effect journal ih =>
    cases effect with
    | asked leaf state signal => exact ih _
    | called call reply => exact congrArg (⟨asking, call⟩ :: ·) (ih asking)
    | posted event topic => exact ih asking
    | postedSelf event => exact ih asking
    | warned warning => exact ih asking

/-- Between two askings, all changes of settings are made for the first one. -/
theorem filter_deedsFrom_of_quiet (asking : Asking) {added : List (Effect State)}
    (quiet : ∀ effect ∈ added, effect.isAsked = false) :
    ((deedsFrom (some asking) added).filter fun deed => deed.call.isSetter) =
      (setterCalls added).map (Deed.mk (some asking)) := by
  induction added with
  | nil => rfl
  | cons effect rest ih =>
    have later := ih fun other member => quiet other (List.mem_cons_of_mem effect member)
    cases effect with
    | asked leaf state signal => cases quiet _ List.mem_cons_self
    | posted event topic => exact later
    | postedSelf event => exact later
    | warned warning => exact later
    | called call reply =>
      unfold setterCalls at later ⊢
      rw [deedsFrom, List.filter_cons, List.filterMap_cons, setter?, later]
      cases call.isSetter <;> rfl

theorem setterDeeds_append_warned (journal : List (Effect State)) (warning : Warning) :
    setterDeeds (journal ++ [.warned warning]) = setterDeeds journal := by
  rw [setterDeeds, deeds, deedsFrom_append_warned]
  rfl

theorem setterDeeds_append_asked (journal added : List (Effect State)) (leaf state : State)
    (signal : Signal) (quiet : ∀ effect ∈ added, effect.isAsked = false) :
    setterDeeds (journal ++ .asked leaf state signal :: added) =
      setterDeeds journal ++
        (setterCalls added).map (Deed.mk (some ⟨leaf, state, signal⟩)) := by
  rw [setterDeeds, deeds, deedsFrom_append_asked, List.filter_append,
    filter_deedsFrom_of_quiet _ quiet]
  rfl

end Camera

end Tether
