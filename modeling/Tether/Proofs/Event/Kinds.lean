import Tether.Event.Wire

/-!
# The kinds of fields

A field of an event holds a truth value, a text, a 32-bit integer, a list of those, or a 32-bit
float. `Kind.Fits` says which JSON values are of a kind, and `Kind.Rejects` what is wrong with the
others. Each kind has one reader: it accepts what fits, it says what is wrong with the rest, and
what it has read is written back as the value that was there (`Kind.Reads`). Only a float may be
written back as another one.
-/

namespace Tether

namespace Event

/-- The type of a field. -/
inductive Kind where
  | bool
  | text
  | int32
  | int32s
  | single
deriving DecidableEq

namespace Kind

/-- A JSON value is of a kind. -/
inductive Fits : Kind → Json → Prop
  | bool (value : Bool) : Fits .bool (.bool value)
  | text (value : String) : Fits .text (.str value)
  | int32 {n : Int} : -2147483648 ≤ n → n ≤ 2147483647 → Fits .int32 (.int n)
  | int32s {items : List Json} :
    (∀ item ∈ items, Fits .int32 item) → Fits .int32s (.arr items)
  | whole (n : Int) : Fits .single (.int n)
  | single (x : Binary) : Fits .single (.float x)

/-- What is wrong with a JSON value that is not of a kind. Of a list the first bad item decides. -/
inductive Rejects : Kind → Json → Json.Mismatch → Prop
  | bool {found : Json} : (∀ value, found ≠ .bool value) →
      Rejects .bool found (.wrongType found "a boolean")
  | text {found : Json} : (∀ value, found ≠ .str value) →
      Rejects .text found (.wrongType found "a string")
  | int32 {found : Json} : (∀ n, found ≠ .int n) →
      Rejects .int32 found (.wrongType found "i32")
  | range {n : Int} : n < -2147483648 ∨ 2147483647 < n →
      Rejects .int32 (.int n) (.outOfRange n "i32")
  | int32s {found : Json} : (∀ items, found ≠ .arr items) →
      Rejects .int32s found (.wrongType found "a sequence")
  | item {earlier later : List Json} {item : Json} {reason : Json.Mismatch} :
      (∀ other ∈ earlier, Fits .int32 other) → Rejects .int32 item reason →
      Rejects .int32s (.arr (earlier ++ item :: later)) reason
  | single {found : Json} : (∀ n, found ≠ .int n) → (∀ x, found ≠ .float x) →
      Rejects .single found (.wrongType found "f32")

/-- A reader and a writer of a kind. -/
structure Reads {α : Type} (kind : Kind) (read : Json → Except Json.Mismatch α)
    (write : α → Json) : Prop where
  fits : ∀ value, kind.Fits value ↔ ∃ result, read value = .ok result
  rejects : ∀ value reason, kind.Rejects value reason ↔ read value = .error reason
  exact : kind ≠ .single → ∀ value result, read value = .ok result → write result = value

theorem reads_bool : bool.Reads Json.toBool .bool where
  fits value := by
    constructor
    · intro fits
      cases fits with
      | bool b => exact ⟨b, rfl⟩
    · rintro ⟨result, read⟩
      cases value with
      | bool b => exact .bool b
      | _ => cases read
  rejects value reason := by
    constructor
    · intro rejects
      cases rejects with
      | bool other =>
        cases value with
        | bool b => exact absurd rfl (other b)
        | _ => rfl
    · intro read
      cases value <;> cases read <;> exact .bool nofun
  exact _ value result read := by
    cases value <;> cases read
    rfl

theorem reads_text : text.Reads Json.toText .str where
  fits value := by
    constructor
    · intro fits
      cases fits with
      | text t => exact ⟨t, rfl⟩
    · rintro ⟨result, read⟩
      cases value with
      | str t => exact .text t
      | _ => cases read
  rejects value reason := by
    constructor
    · intro rejects
      cases rejects with
      | text other =>
        cases value with
        | str t => exact absurd rfl (other t)
        | _ => rfl
    · intro read
      cases value <;> cases read <;> exact .text nofun
  exact _ value result read := by
    cases value <;> cases read
    rfl

theorem reads_single : single.Reads Json.toSingle Json.ofSingle where
  fits value := by
    constructor
    · intro fits
      cases fits <;> exact ⟨_, rfl⟩
    · rintro ⟨result, read⟩
      cases value with
      | int n => exact .whole n
      | float x => exact .single x
      | _ => cases read
  rejects value reason := by
    constructor
    · intro rejects
      cases rejects with
      | single noInteger noFloat =>
        cases value with
        | int n => exact absurd rfl (noInteger n)
        | float x => exact absurd rfl (noFloat x)
        | _ => rfl
    · intro read
      cases value <;> cases read <;> exact .single nofun nofun
  exact other := absurd rfl other

/-! ## Integers -/

theorem toInt32_int (n : Int) : Json.toInt32 (.int n) =
    if -2147483648 ≤ n ∧ n ≤ 2147483647 then .ok (Int32.ofInt n)
    else .error (.outOfRange n "i32") := rfl

theorem reads_int32 : int32.Reads Json.toInt32 (fun n => .int n.toInt) where
  fits value := by
    constructor
    · intro fits
      cases fits with
      | int32 low high => exact ⟨_, if_pos ⟨low, high⟩⟩
    · rintro ⟨result, read⟩
      cases value with
      | int n =>
        rw [toInt32_int] at read
        split at read
        · next bounds => exact .int32 bounds.1 bounds.2
        · cases read
      | _ => cases read
  rejects value reason := by
    constructor
    · intro rejects
      cases rejects with
      | int32 other =>
        cases value with
        | int n => exact absurd rfl (other n)
        | _ => rfl
      | range outside => exact if_neg (by omega)
    · intro read
      cases value with
      | int n =>
        rw [toInt32_int] at read
        split at read
        · cases read
        · next outside =>
          cases read
          exact .range (by omega)
      | _ => cases read; exact .int32 nofun
  exact _ value result read := by
    cases value with
    | int n =>
      rw [toInt32_int] at read
      split at read
      · next bounds =>
        cases read
        rw [Int32.toInt_ofInt_of_le bounds.1 (by omega)]
      · cases read
    | _ => cases read

/-! ## Lists -/

section Items

variable {α : Type} {kind : Kind} {read : Json → Except Json.Mismatch α} {write : α → Json}

theorem Reads.ok_of_items (reads : kind.Reads read write) {items : List Json} :
    (∀ item ∈ items, kind.Fits item) ↔ ∃ results, items.mapM read = .ok results := by
  induction items with
  | nil => exact ⟨fun _ => ⟨[], rfl⟩, fun _ _ member => nomatch member⟩
  | cons item rest ih =>
    rw [List.forall_mem_cons, ih, reads.fits, List.mapM_cons]
    cases read item with
    | error reason => simp [bind, Except.bind]
    | ok result =>
      cases rest.mapM read with
      | error reason => simp [bind, Except.bind]
      | ok results => simp [bind, Except.bind, pure, Except.pure]

theorem Reads.error_of_items (reads : kind.Reads read write) {items : List Json}
    {reason : Json.Mismatch} :
    (∃ earlier item later, items = earlier ++ item :: later ∧
      (∀ other ∈ earlier, kind.Fits other) ∧ kind.Rejects item reason) ↔
      items.mapM read = .error reason := by
  induction items with
  | nil =>
    constructor
    · rintro ⟨earlier, item, later, equal, -, -⟩
      cases earlier <;> cases equal
    · exact nofun
  | cons item rest ih =>
    rw [List.mapM_cons]
    constructor
    · rintro ⟨earlier, bad, later, equal, before, rejected⟩
      cases earlier with
      | nil =>
        cases equal
        rw [(reads.rejects _ _).mp rejected]
        rfl
      | cons first earlier =>
        cases equal
        obtain ⟨fits, before⟩ := List.forall_mem_cons.mp before
        obtain ⟨result, accepted⟩ := (reads.fits _).mp fits
        rw [accepted, ih.mp ⟨earlier, bad, later, rfl, before, rejected⟩]
        rfl
    · intro failed
      cases here : read item with
      | error other =>
        rw [here] at failed
        cases failed
        exact ⟨[], item, rest, rfl, nofun, (reads.rejects _ _).mpr here⟩
      | ok result =>
        have fits := (reads.fits _).mpr ⟨result, here⟩
        cases behind : rest.mapM read with
        | ok results =>
          rw [here, behind] at failed
          cases failed
        | error other =>
          rw [here, behind] at failed
          cases failed
          obtain ⟨earlier, bad, later, rfl, before, rejected⟩ := ih.mpr behind
          exact ⟨item :: earlier, bad, later, rfl, List.forall_mem_cons.mpr ⟨fits, before⟩,
            rejected⟩

theorem Reads.exact_items (reads : kind.Reads read write) (other : kind ≠ .single)
    {items : List Json} {results : List α} (accepted : items.mapM read = .ok results) :
    results.map write = items := by
  induction items generalizing results with
  | nil =>
    cases accepted
    rfl
  | cons item rest ih =>
    rw [List.mapM_cons] at accepted
    cases here : read item with
    | error reason =>
      rw [here] at accepted
      cases accepted
    | ok result =>
      cases behind : rest.mapM read with
      | error reason =>
        rw [here, behind] at accepted
        cases accepted
      | ok others =>
        rw [here, behind] at accepted
        cases accepted
        rw [List.map_cons, reads.exact other item result here, ih behind]

end Items

theorem reads_int32s : int32s.Reads Json.toInt32s Json.ofInt32s where
  fits value := by
    constructor
    · intro fits
      cases fits with
      | int32s each => exact reads_int32.ok_of_items.mp each
    · rintro ⟨results, read⟩
      cases value with
      | arr items => exact .int32s (reads_int32.ok_of_items.mpr ⟨results, read⟩)
      | _ => cases read
  rejects value reason := by
    constructor
    · intro rejects
      cases rejects with
      | int32s other =>
        cases value with
        | arr items => exact absurd rfl (other items)
        | _ => rfl
      | item before rejected =>
        exact reads_int32.error_of_items.mp ⟨_, _, _, rfl, before, rejected⟩
    · intro read
      cases value with
      | arr items =>
        obtain ⟨earlier, item, later, rfl, before, rejected⟩ :=
          reads_int32.error_of_items.mpr read
        exact .item before rejected
      | _ => cases read; exact .int32s nofun
  exact other value results read := by
    cases value with
    | arr items => exact congrArg Json.arr (reads_int32.exact_items (by decide) read)
    | _ => cases read

end Kind

end Event

end Tether
