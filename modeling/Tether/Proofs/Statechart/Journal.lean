import Mathlib.Data.List.Induction
import Tether.Proofs.Statechart.History

/-!
# Reading a journal

Two ways to read the journal of a machine. `latest` takes what was said last about a matter, so it
is settled by the end of the journal. `Orderly` looks at every entry together with all that precedes
it, so it also tells what was said meanwhile.

Most entries matter to neither: `latest_append_of_silent` and `orderly_append` let a proof about one
matter pass over what handlers tell about others.
-/

namespace Tether

variable {S : Type} {α : Type}

/-- What a journal said last about a matter, if it said anything. -/
def latest (read : Effect S → Option α) (journal : List (Effect S)) : Option α :=
  (journal.filterMap read).getLast?

theorem latest_append (read : Effect S → Option α) (journal added : List (Effect S)) :
    latest read (journal ++ added) = (latest read added).or (latest read journal) := by
  simp [latest, List.getLast?_append]

theorem latest_concat (read : Effect S → Option α) {effect : Effect S} {said : α}
    (tells : read effect = some said) (journal : List (Effect S)) :
    latest read (journal ++ [effect]) = some said := by
  simp [latest, tells]

theorem latest_append_of_silent {read : Effect S → Option α} {added : List (Effect S)}
    (silent : ∀ effect ∈ added, read effect = none) (journal : List (Effect S)) :
    latest read (journal ++ added) = latest read journal := by
  have nothing : latest read added = none := by
    simp [latest, List.filterMap_eq_nil_iff.mpr silent]
  rw [latest_append, nothing, Option.none_or]

/-- Every entry of a journal is as wanted after all that precedes it. -/
def Orderly (wanted : List (Effect S) → Effect S → Prop) (journal : List (Effect S)) : Prop :=
  ∀ past effect, past ++ [effect] <+: journal → wanted past effect

section Orderly

variable {wanted : List (Effect S) → Effect S → Prop}

theorem orderly_nil : Orderly wanted [] := by
  intro past effect inside
  simp at inside

theorem orderly_concat {journal : List (Effect S)} {effect : Effect S} :
    Orderly wanted (journal ++ [effect]) ↔ Orderly wanted journal ∧ wanted journal effect := by
  constructor
  · intro orderly
    refine ⟨fun past earlier inside => ?_, orderly journal effect List.prefix_rfl⟩
    exact orderly past earlier (inside.trans (List.prefix_append _ _))
  · rintro ⟨orderly, last⟩ past earlier inside
    rcases List.prefix_concat_iff.mp inside with equal | within
    · obtain ⟨rfl, same⟩ := List.append_inj' equal rfl
      obtain rfl := List.singleton_inj.mp same
      exact last
    · exact orderly past earlier within

/-- What was out of order stays so. -/
theorem Orderly.of_append {journal added : List (Effect S)}
    (orderly : Orderly wanted (journal ++ added)) : Orderly wanted journal :=
  fun past effect inside => orderly past effect (inside.trans (List.prefix_append _ _))

/-- Entries that are always as wanted do not matter. -/
theorem orderly_append {journal added : List (Effect S)}
    (idle : ∀ effect ∈ added, ∀ past, wanted past effect) :
    Orderly wanted (journal ++ added) ↔ Orderly wanted journal := by
  refine ⟨Orderly.of_append, fun orderly => ?_⟩
  induction added using List.reverseRecOn with
  | nil => simpa using orderly
  | append_singleton added effect ih =>
    rw [← List.append_assoc, orderly_concat]
    refine ⟨ih fun earlier member => idle earlier (by simp [member]), ?_⟩
    exact idle effect (by simp) _

end Orderly

/-! ## What handlers add -/

namespace Effect

/-- The event of an entry that publishes one of a kind on a topic. -/
def report? (topic : Topic) (kind : Event → Bool) : Effect S → Option Event
  | .posted event place => if place = topic ∧ kind event then some event else none
  | _ => none

end Effect

variable {M : Type}

/-- From one scope to another nothing but idle entries has been added to the journal. -/
def Scope.Adds (idle : Effect S → Prop) (before after : Scope S M) : Prop :=
  ∃ added, after.journal = before.journal ++ added ∧ ∀ effect ∈ added, idle effect

namespace Scope.Adds

variable {idle : Effect S → Prop} {before middle after : Scope S M}

theorem of_journal_eq (same : after.journal = before.journal) : Adds idle before after :=
  ⟨[], by simp [same], by simp⟩

theorem refl (scope : Scope S M) : Adds idle scope scope :=
  of_journal_eq rfl

theorem trans (first : Adds idle before middle) (second : Adds idle middle after) :
    Adds idle before after := by
  obtain ⟨added, grown, quiet⟩ := first
  obtain ⟨more, grownOn, quietOn⟩ := second
  refine ⟨added ++ more, by rw [grownOn, grown, List.append_assoc], ?_⟩
  intro effect member
  rcases List.mem_append.mp member with earlier | later
  · exact quiet effect earlier
  · exact quietOn effect later

theorem record {effect : Effect S} (quiet : idle effect) (first : Adds idle before after) :
    Adds idle before (after.record effect) :=
  first.trans ⟨[effect], rfl, by simpa using quiet⟩

theorem schedule (idle : Effect S → Prop) (clamped : idle (.warned .delayClamped))
    (scope : Scope S M) (event : Event) (topic : Topic) (delay : Nat) :
    Adds idle scope (scope.schedule event topic delay).1 := by
  refine ⟨_, scope.schedule_journal event topic delay, ?_⟩
  intro effect member
  split at member
  · rw [List.mem_singleton.mp member]; exact clamped
  · cases member

theorem defer (idle : Effect S → Prop) (full : idle (.warned .deferredFull)) (scope : Scope S M)
    (event : Event) : Adds idle scope (scope.defer event) := by
  unfold Scope.defer
  split
  · exact (refl scope).record full
  · exact refl scope

/-- The entries that have been added are of two kinds at once. -/
theorem and {other : Effect S → Prop} (first : Adds idle before after)
    (second : Adds other before after) :
    Adds (fun effect => idle effect ∧ other effect) before after := by
  obtain ⟨added, grown, quiet⟩ := first
  obtain ⟨same, grownToo, quietToo⟩ := second
  rw [grown, List.append_cancel_left_eq] at grownToo
  subst grownToo
  exact ⟨added, grown, fun effect member => ⟨quiet effect member, quietToo effect member⟩⟩

theorem imp {other : Effect S → Prop} (adds : Adds idle before after)
    (implies : ∀ effect, idle effect → other effect) : Adds other before after := by
  obtain ⟨added, grown, quiet⟩ := adds
  exact ⟨added, grown, fun effect member => implies effect (quiet effect member)⟩

/-- What has been added since a moment in between has been added. -/
theorem since {first second : Effect S → Prop} (adds : Adds idle before after)
    (early : Adds first before middle) (late : Adds second middle after) :
    Adds idle middle after := by
  obtain ⟨added, grown, quiet⟩ := adds
  obtain ⟨head, begun, -⟩ := early
  obtain ⟨tail, ended, -⟩ := late
  rw [ended, begun, List.append_assoc, List.append_cancel_left_eq] at grown
  subst grown
  exact ⟨tail, ended, fun effect member => quiet effect (List.mem_append_right head member)⟩

/-- What idle entries say nothing about is as it was. -/
theorem latest_eq {read : Effect S → Option α} (adds : Adds idle before after)
    (silent : ∀ effect, idle effect → read effect = none) (past : List (Effect S)) :
    latest read (past ++ after.journal) = latest read (past ++ before.journal) := by
  obtain ⟨added, grown, quiet⟩ := adds
  rw [grown, ← List.append_assoc]
  exact latest_append_of_silent (fun effect member => silent effect (quiet effect member)) _

theorem orderly_iff {wanted : List (Effect S) → Effect S → Prop} (adds : Adds idle before after)
    (proper : ∀ effect, idle effect → ∀ past, wanted past effect) (past : List (Effect S)) :
    Orderly wanted (past ++ after.journal) ↔ Orderly wanted (past ++ before.journal) := by
  obtain ⟨added, grown, quiet⟩ := adds
  rw [grown, ← List.append_assoc]
  exact orderly_append fun effect member => proper effect (quiet effect member)

end Scope.Adds

end Tether
