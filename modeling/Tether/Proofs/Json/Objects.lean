import Mathlib.Data.List.Induction
import Tether.Json.Basic

/-!
# Fields in order

Putting a field into a list keeps the order of the keys (`InOrder.insertField`), and then the field
is found under its key (`lookup_insertField`). So the fields of an object that is built from any
fields are in order (`inOrder_orderFields`), and if no two of them have one key, each of them is
found (`lookup_orderFields`). Fields that are in order stay as they are (`InOrder.orderFields`).
`Json.restrict` is the part of a value that has some keys.
-/

namespace Tether

namespace Json

/-- The keys of a field list are in strictly increasing order. -/
def InOrder (fields : List (String × Json)) : Prop :=
  fields.Pairwise fun field later => field.1 < later.1

variable {key : String} {value : Json} {fields : List (String × Json)}

theorem mem_insertField {field : String × Json} (member : field ∈ insertField key value fields) :
    field = (key, value) ∨ field ∈ fields := by
  induction fields with
  | nil => exact Or.inl (List.mem_singleton.mp member)
  | cons other rest ih =>
    rw [insertField] at member
    split at member
    · exact (List.mem_cons.mp member).imp_right (List.mem_cons_of_mem other)
    split at member
    · exact List.mem_cons.mp member
    · rcases List.mem_cons.mp member with rfl | later
      · exact Or.inr List.mem_cons_self
      · exact (ih later).imp_right (List.mem_cons_of_mem other)

theorem InOrder.insertField (ordered : InOrder fields) (key : String) (value : Json) :
    InOrder (insertField key value fields) := by
  induction fields with
  | nil => exact List.pairwise_singleton _ _
  | cons other rest ih =>
    obtain ⟨least, sorted⟩ := List.pairwise_cons.mp ordered
    rw [Json.insertField]
    split
    · next same =>
      exact List.pairwise_cons.mpr ⟨fun later member => same ▸ least later member, sorted⟩
    split
    · next before =>
      refine List.pairwise_cons.mpr ⟨fun later member => ?_, ordered⟩
      rcases List.mem_cons.mp member with rfl | behind
      · exact before
      · exact String.lt_trans before (least later behind)
    · next different behind =>
      have after : other.1 < key := Decidable.byContradiction fun before =>
        different (String.le_antisymm (String.not_lt.mp before) (String.not_lt.mp behind))
      refine List.pairwise_cons.mpr ⟨fun later member => ?_, ih sorted⟩
      rcases mem_insertField member with rfl | old
      · exact after
      · exact least later old

theorem lookup_cons (wanted : String) (field : String × Json) (fields : List (String × Json)) :
    (field :: fields).lookup wanted =
      if wanted = field.1 then some field.2 else fields.lookup wanted := by
  rw [List.lookup_cons]
  by_cases same : wanted = field.1
  · rw [if_pos same, beq_iff_eq.mpr same]
  · rw [if_neg same, beq_eq_false_iff_ne.mpr same]

theorem lookup_insertField (wanted : String) :
    (insertField key value fields).lookup wanted =
      if wanted = key then some value else fields.lookup wanted := by
  induction fields with
  | nil => rw [Json.insertField, lookup_cons, List.lookup_nil]
  | cons other rest ih =>
    rw [Json.insertField]
    split
    · next same =>
      rw [lookup_cons, lookup_cons, ← same]
      split <;> rfl
    split
    · rw [lookup_cons]
    · next different _ =>
      rw [lookup_cons, ih, lookup_cons]
      by_cases found : wanted = key
      · rw [if_pos found, if_pos found, if_neg (found ▸ different)]
      · rw [if_neg found, if_neg found]

theorem insertField_last (last : ∀ field ∈ fields, field.1 < key) :
    insertField key value fields = fields ++ [(key, value)] := by
  induction fields with
  | nil => rfl
  | cons field fields ih =>
    have earlier : field.1 < key := last field List.mem_cons_self
    have different : key ≠ field.1 := by
      rintro rfl
      exact String.lt_irrefl _ earlier
    have behind : ¬key < field.1 := fun before =>
      String.lt_irrefl _ (String.lt_trans before earlier)
    rw [Json.insertField, if_neg different, if_neg behind,
      ih fun other member => last other (List.mem_cons_of_mem field member)]
    rfl

/-! ## Objects -/

/-- One more field. -/
theorem orderFields_concat (fields : List (String × Json)) (field : String × Json) :
    orderFields (fields ++ [field]) = insertField field.1 field.2 (orderFields fields) := by
  rw [orderFields, List.foldl_append]
  rfl

theorem inOrder_orderFields (fields : List (String × Json)) : InOrder (orderFields fields) := by
  induction fields using List.reverseRecOn with
  | nil => exact List.Pairwise.nil
  | append_singleton fields field ih =>
    rw [orderFields_concat]
    exact ih.insertField field.1 field.2

theorem mem_orderFields {field : String × Json} (member : field ∈ orderFields fields) :
    field ∈ fields := by
  induction fields using List.reverseRecOn with
  | nil => cases member
  | append_singleton fields last ih =>
    rw [orderFields_concat] at member
    rcases mem_insertField member with rfl | older
    · exact List.mem_concat_self
    · exact List.mem_append_left _ (ih older)

/-- If no two fields have one key, each of them is found under its key. -/
theorem lookup_orderFields (distinct : (fields.map Prod.fst).Nodup)
    (member : (key, value) ∈ fields) : (orderFields fields).lookup key = some value := by
  induction fields using List.reverseRecOn with
  | nil => cases member
  | append_singleton fields last ih =>
    rw [List.map_append, List.nodup_append] at distinct
    obtain ⟨front, -, apart⟩ := distinct
    rw [orderFields_concat, lookup_insertField]
    rcases List.mem_append.mp member with older | newest
    · have different : key ≠ last.1 :=
        apart key (List.mem_map_of_mem older) last.1 List.mem_cons_self
      rw [if_neg different, ih front older]
    · rw [← List.mem_singleton.mp newest, if_pos rfl]

theorem InOrder.orderFields (ordered : InOrder fields) : orderFields fields = fields := by
  induction fields using List.reverseRecOn with
  | nil => rfl
  | append_singleton fields field ih =>
    obtain ⟨front, -, last⟩ := List.pairwise_append.mp ordered
    rw [orderFields_concat, ih front]
    exact insertField_last fun other member => last other member field List.mem_cons_self

/-- The object with those fields of a value that have one of some keys. -/
def restrict (keys : List String) (json : Json) : Json :=
  .ofFields (keys.filterMap fun key => (json.get? key).map (key, ·))

end Json

end Tether
