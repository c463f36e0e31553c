import Tether.Proofs.Json.Numbers
import Tether.Proofs.Json.Objects
import Tether.Proofs.Json.Strings

/-!
# Parsing undoes compact printing

A value without floats whose integers fit 64 bits, whose objects have their keys in order and that
is not nested too deep (`Plain`) is read back from its compact text, whatever comes after it
(`readValue_chars`), and so from its bytes (`ofBytes?_toBytes`).
-/

namespace Tether

namespace Json

/-- A value without floats, nested at most so deep, with its keys in order. -/
inductive Plain : Nat → Json → Prop where
  | null {depth : Nat} : Plain depth .null
  | bool {depth : Nat} (value : Bool) : Plain depth (.bool value)
  | int {depth : Nat} {n : Int} (long : IsLong n) : Plain depth (.int n)
  | str {depth : Nat} (s : String) : Plain depth (.str s)
  | arr {depth : Nat} {items : List Json} (all : ∀ item ∈ items, Plain depth item) :
      Plain (depth + 1) (.arr items)
  | obj {depth : Nat} {fields : List (String × Json)} (ordered : InOrder fields)
      (all : ∀ field ∈ fields, Plain depth field.2) : Plain (depth + 1) (.obj fields)

/-! ## Items and fields -/

/-- A value is read back from its text. -/
def ReadBy (reader : List Char → Option (Json × List Char)) (value : Json) : Prop :=
  ∀ rest, EndsNumber rest → reader (chars value ++ rest) = some (value, rest)

variable {reader : List Char → Option (Json × List Char)} {depth : Nat}

/-- There is nothing to skip before a visible character. -/
theorem skipSpace_cons {c : Char} (visible : isSpace c = false) (rest : List Char) :
    skipSpace (c :: rest) = c :: rest := by
  rw [skipSpace, List.dropWhile_cons, if_neg (by simp [visible])]

theorem itemChars_cons_cons (first second : Json) (items : List Json) :
    itemChars (first :: second :: items) = chars first ++ ',' :: itemChars (second :: items) := by
  rw [itemChars]
  exact nofun

theorem fieldChars_cons_cons (key : String) (value : Json) (second : String × Json)
    (fields : List (String × Json)) :
    fieldChars ((key, value) :: second :: fields) =
      stringChars key ++ ':' :: (chars value ++ ',' :: fieldChars (second :: fields)) := by
  rw [fieldChars]
  exact nofun

theorem readItems_itemChars {first : Json} {items : List Json}
    (all : ∀ item ∈ first :: items, ReadBy reader item) (rest : List Char) :
    readItems reader (itemChars (first :: items) ++ ']' :: rest) = some (first :: items, rest) := by
  induction items generalizing first with
  | nil =>
    have read := all first List.mem_cons_self _ (@endsNumber_cons ']' (by decide) rest)
    rw [itemChars, readItems, read]
    rfl
  | cons second items ih =>
    have later := ih fun item member => all item (List.mem_cons_of_mem first member)
    have read := all first List.mem_cons_self _
      (@endsNumber_cons ',' (by decide) (itemChars (second :: items) ++ ']' :: rest))
    rw [itemChars_cons_cons, List.append_assoc, List.cons_append, readItems, read]
    simp only [skipSpace_cons (show isSpace ',' = false by decide)]
    rw [if_pos (by simp only [List.length_append, List.length_cons]; omega), later]
    rfl

theorem readKey_stringChars (key : String) (rest : List Char) :
    readKey (stringChars key ++ ':' :: rest) = some (key, rest) := by
  have text := readString_escapeChars key.toList (':' :: rest)
  rw [stringChars, List.cons_append, List.append_assoc, List.singleton_append, readKey]
  simp only [skipSpace_cons (show isSpace '"' = false by decide), text,
    skipSpace_cons (show isSpace ':' = false by decide), String.ofList_toList]

theorem readFields_fieldChars {first : String × Json} {fields : List (String × Json)}
    (all : ∀ field ∈ first :: fields, ReadBy reader field.2) (rest : List Char) :
    readFields reader (fieldChars (first :: fields) ++ '}' :: rest) =
      some (first :: fields, rest) := by
  induction fields generalizing first with
  | nil =>
    have read := all first List.mem_cons_self _ (@endsNumber_cons '}' (by decide) rest)
    rw [fieldChars, List.append_assoc, List.cons_append, readFields, readKey_stringChars]
    simp only [read]
    rfl
  | cons second fields ih =>
    have later := ih fun field member => all field (List.mem_cons_of_mem first member)
    have read := all first List.mem_cons_self _
      (@endsNumber_cons ',' (by decide) (fieldChars (second :: fields) ++ '}' :: rest))
    rw [fieldChars_cons_cons, List.append_assoc, List.cons_append, List.append_assoc,
      List.cons_append, readFields, readKey_stringChars]
    simp only [read, skipSpace_cons (show isSpace ',' = false by decide)]
    rw [if_pos (by simp only [List.length_append, List.length_cons]; omega), later]
    rfl

/-! ## Values -/

/-- What the text of an integer starts with is the start of nothing else. -/
theorem start_of_number {c : Char} (start : c = '-' ∨ Text.isDigit c = true) :
    isSpace c = false ∧ c ∉ [']', 'n', 't', 'f', '"', '[', '{'] := by
  refine ⟨eq_false_of_ne_true fun space => ?_, fun other => ?_⟩
  · simp only [isSpace, Bool.or_eq_true, decide_eq_true_eq] at space
    rcases space with ((rfl | rfl) | rfl) | rfl <;> revert start <;> decide
  · simp only [List.mem_cons, List.not_mem_nil, or_false] at other
    rcases other with rfl | rfl | rfl | rfl | rfl | rfl | rfl <;> revert start <;> decide

/-- The text of a value starts with a visible character that closes nothing. -/
theorem Plain.head {value : Json} (plain : Plain depth value) :
    ∃ c more, chars value = c :: more ∧ isSpace c = false ∧ c ≠ ']' := by
  cases plain with
  | null => exact ⟨_, _, rfl, by decide, by decide⟩
  | bool value => cases value <;> exact ⟨_, _, rfl, by decide, by decide⟩
  | @int _ n long =>
    obtain ⟨c, more, digits, start⟩ := intDigits_cons n
    obtain ⟨visible, other⟩ := start_of_number start
    refine ⟨c, more, digits, visible, ?_⟩
    rintro rfl
    exact other List.mem_cons_self
  | str s => exact ⟨_, _, rfl, by decide, by decide⟩
  | arr => exact ⟨_, _, rfl, by decide, by decide⟩
  | obj => exact ⟨_, _, rfl, by decide, by decide⟩

/-- A text that starts like an integer is read as a number. -/
theorem readValue_number {c : Char} {more : List Char}
    (start : c = '-' ∨ Text.isDigit c = true) :
    readValue depth (c :: more) = readNumber (c :: more) := by
  obtain ⟨visible, other⟩ := start_of_number start
  rw [readValue.eq_def]
  simp only [skipSpace_cons visible]
  split
  · next null => exact absurd (by cases null; decide) other
  · next true => exact absurd (by cases true; decide) other
  · next false => exact absurd (by cases false; decide) other
  · next string => exact absurd (by cases string; decide) other
  · next array => exact absurd (by cases array; decide) other
  · next object => exact absurd (by cases object; decide) other
  · rfl

/-- An array is read back if its items are. -/
theorem readBy_arr {items : List Json} (plain : ∀ item ∈ items, Plain depth item)
    (all : ∀ item ∈ items, ReadBy (readValue depth) item) :
    ReadBy (readValue (depth + 1)) (.arr items) := by
  intro rest _
  rw [chars, List.cons_append, List.append_assoc, List.singleton_append, readValue.eq_def]
  simp only [skipSpace_cons (show isSpace '[' = false by decide)]
  cases items with
  | nil => rfl
  | cons first items =>
    obtain ⟨c, more, text, visible, other⟩ := (plain first List.mem_cons_self).head
    obtain ⟨others, front⟩ :
      ∃ others, itemChars (first :: items) = chars first ++ others := by
      cases items with
      | nil => exact ⟨[], (List.append_nil _).symm⟩
      | cons second items => exact ⟨_, itemChars_cons_cons first second items⟩
    have read := readItems_itemChars all rest
    rw [front, text, List.cons_append, List.cons_append] at read ⊢
    rw [skipSpace_cons visible, read]
    split
    · next closed => exact absurd (by cases closed; rfl) other
    · rfl

/-- An object with its keys in order is read back if its fields are. -/
theorem readBy_obj {fields : List (String × Json)} (ordered : InOrder fields)
    (all : ∀ field ∈ fields, ReadBy (readValue depth) field.2) :
    ReadBy (readValue (depth + 1)) (.obj fields) := by
  intro rest _
  rw [chars, List.cons_append, List.append_assoc, List.singleton_append, readValue.eq_def]
  simp only [skipSpace_cons (show isSpace '{' = false by decide)]
  cases fields with
  | nil => rfl
  | cons first fields =>
    obtain ⟨more, front⟩ : ∃ more, fieldChars (first :: fields) = '"' :: more := by
      cases fields with
      | nil => exact ⟨_, rfl⟩
      | cons second fields => exact ⟨_, fieldChars_cons_cons first.1 first.2 second fields⟩
    have read := readFields_fieldChars all rest
    rw [front, List.cons_append] at read ⊢
    rw [skipSpace_cons (by decide), read]
    simp only [Option.map_some, ofFields, ordered.orderFields]
    rfl

/-- A plain value is read back from its text, and what comes after it is left. -/
theorem readValue_chars {value : Json} (plain : Plain depth value) :
    ReadBy (readValue depth) value := by
  induction plain with
  | null =>
    intro rest _
    rw [chars, readValue.eq_def]
    rfl
  | bool value =>
    intro rest _
    cases value <;> rw [chars, readValue.eq_def] <;> rfl
  | @int _ n long =>
    intro rest ends
    have read := readNumber_intDigits long ends
    obtain ⟨c, more, digits, start⟩ := intDigits_cons n
    rw [digits] at read
    rw [chars, digits, List.cons_append, readValue_number start]
    exact read
  | str s =>
    intro rest _
    have text := readString_escapeChars s.toList rest
    rw [chars, stringChars, List.cons_append, List.append_assoc, List.singleton_append,
      readValue.eq_def]
    simp only [skipSpace_cons (show isSpace '"' = false by decide), text, Option.map_some,
      String.ofList_toList]
  | arr all ih => exact readBy_arr all ih
  | obj ordered _ ih => exact readBy_obj ordered ih

/-- An object that is built from plain fields is plain. -/
theorem Plain.ofFields {fields : List (String × Json)}
    (all : ∀ field ∈ fields, Plain depth field.2) : Plain (depth + 1) (ofFields fields) :=
  .obj (inOrder_orderFields fields) fun field member => all field (mem_orderFields member)

/-! ## Texts -/

/-- A plain value is read back from its text. -/
theorem parse?_render {value : Json} (plain : Plain maxDepth value) :
    parse? (render value) = some value := by
  have read : readValue maxDepth (chars value) = some (value, []) := by
    have whole := readValue_chars plain [] nofun
    rwa [List.append_nil] at whole
  rw [parse?, parseFirst?, render, String.toList_ofList, read]
  rfl

/-- A plain value is read back from its bytes. -/
theorem ofBytes?_toBytes {value : Json} (plain : Plain maxDepth value) :
    ofBytes? (toBytes value) = some value := by
  rw [ofBytes?, toBytes, fromUTF8?_toUTF8]
  exact parse?_render plain

end Json

end Tether
