import Mathlib.Data.List.TakeWhile
import Tether.Text.Blank

/-!
# Words and the blanks around them

A text is spaced into words if they stand in it one after the other, with at least one blank between
any two of them and nothing but blanks around them (`Spaced`). Splitting such a text gives its words
(`words_of_spaced`). A text can be trimmed in one way only (`trims_iff`), and has the same words
afterwards (`words_trim`).
-/

namespace Tether

namespace Text

def Blanks (gap : List Char) : Prop :=
  ∀ c ∈ gap, isBlank c = true

/-- A stretch of characters without a blank. -/
structure Word (word : List Char) : Prop where
  nonempty : word ≠ []
  solid : ∀ c ∈ word, isBlank c = false

/-- Some words make up a text with blanks between and around them. -/
inductive Spaced : List (List Char) → List Char → Prop
  | blanks {gap : List Char} (blank : Blanks gap) : Spaced [] gap
  | last {gap word : List Char} (blank : Blanks gap) (solid : Word word) :
      Spaced [word] (gap ++ word)
  | word {gap word rest : List Char} {words : List (List Char)} {c : Char} (blank : Blanks gap)
      (solid : Word word) (ends : isBlank c = true) (spaced : Spaced words rest) :
      Spaced (word :: words) (gap ++ (word ++ c :: rest))

section Reading

variable {gap word : List Char}

theorem words_blanks_append (blank : Blanks gap) (rest : List Char) :
    words (gap ++ rest) = words rest := by
  induction gap with
  | nil => rfl
  | cons c gap ih =>
    rw [List.cons_append, words, wordsFrom, if_pos (blank c List.mem_cons_self), if_pos rfl]
    exact ih fun other member => blank other (List.mem_cons_of_mem c member)

theorem wordsFrom_solid (solid : ∀ c ∈ word, isBlank c = false) (current rest : List Char) :
    wordsFrom current (word ++ rest) = wordsFrom (word.reverse ++ current) rest := by
  induction word generalizing current with
  | nil => rfl
  | cons c word ih =>
    rw [List.cons_append, wordsFrom, solid c List.mem_cons_self, if_neg Bool.false_ne_true,
      ih fun other member => solid other (List.mem_cons_of_mem c member), List.reverse_cons,
      List.append_assoc]
    rfl

theorem words_blanks (blank : Blanks gap) : words gap = [] := by
  have read := words_blanks_append blank []
  rwa [List.append_nil] at read

/-- A blank ends the word before it. -/
theorem words_word (solid : Word word) {c : Char} (ends : isBlank c = true) (rest : List Char) :
    words (word ++ c :: rest) = word :: words rest := by
  rw [words, wordsFrom_solid solid.solid, List.append_nil, wordsFrom, if_pos ends,
    if_neg (List.reverse_ne_nil_iff.mpr solid.nonempty), List.reverse_reverse]
  rfl

theorem words_last (solid : Word word) : words word = [word] := by
  have read := wordsFrom_solid solid.solid [] []
  rw [List.append_nil, List.append_nil] at read
  rw [words, read, wordsFrom, if_neg (List.reverse_ne_nil_iff.mpr solid.nonempty),
    List.reverse_reverse]

end Reading

theorem words_of_spaced {found : List (List Char)} {text : List Char}
    (spaced : Spaced found text) : words text = found := by
  induction spaced with
  | blanks blank => exact words_blanks blank
  | last blank solid => rw [words_blanks_append blank, words_last solid]
  | word blank solid ends _ ih => rw [words_blanks_append blank, words_word solid ends, ih]

/-- A text parts in front of the first character that is not of a kind. -/
theorem exists_front (kind : Char → Bool) (text : List Char) :
    ∃ front back, text = front ++ back ∧ (∀ c ∈ front, kind c = true) ∧
      ∀ c ∈ back.head?, kind c = false := by
  refine ⟨text.takeWhile kind, text.dropWhile kind, List.takeWhile_append_dropWhile.symm,
    fun _ member => List.mem_takeWhile_imp member, fun c first => ?_⟩
  have other := List.head?_dropWhile_not kind text
  rwa [first] at other

theorem exists_spaced (text : List Char) : ∃ found, Spaced found text := by
  induction size : text.length using Nat.strongRecOn generalizing text with
  | ind size ih =>
    subst size
    obtain ⟨gap, inner, rfl, blank, solid⟩ := exists_front isBlank text
    obtain ⟨word, rest, rfl, all, ends⟩ := exists_front (fun c => !isBlank c) inner
    simp only [Bool.not_eq_true', Bool.not_eq_false'] at all ends
    cases word with
    | nil =>
      cases rest with
      | nil =>
        rw [List.nil_append, List.append_nil]
        exact ⟨[], .blanks blank⟩
      | cons c rest => exact absurd ((ends c rfl).symm.trans (solid c rfl)) (by decide)
    | cons c word =>
      have isWord : Word (c :: word) := ⟨List.cons_ne_nil c word, all⟩
      cases rest with
      | nil =>
        rw [List.append_nil]
        exact ⟨_, .last blank isWord⟩
      | cons d rest =>
        obtain ⟨found, spaced⟩ := ih rest.length (by simp; omega) rest rfl
        exact ⟨_, .word blank isWord (ends d rfl) spaced⟩

/-- A text is spaced into its words, and into nothing else. -/
theorem spaced_iff {found : List (List Char)} {text : List Char} :
    Spaced found text ↔ words text = found := by
  constructor
  · exact words_of_spaced
  · rintro rfl
    obtain ⟨found, spaced⟩ := exists_spaced text
    exact words_of_spaced spaced ▸ spaced

/-! ## Trimming -/

/-- A text without the blanks around it. -/
structure Trims (text kept : List Char) : Prop where
  around : ∃ front back, Blanks front ∧ Blanks back ∧ text = front ++ (kept ++ back)
  head : ∀ c ∈ kept.head?, isBlank c = false
  last : ∀ c ∈ kept.getLast?, isBlank c = false

section Trimming

variable {text kept gap : List Char}

theorem trimHead_blanks_append (blank : Blanks gap) (rest : List Char) :
    trimHead (gap ++ rest) = trimHead rest :=
  List.dropWhile_append_of_pos blank

theorem trimHead_blanks (blank : Blanks gap) : trimHead gap = [] := by
  have dropped := trimHead_blanks_append blank []
  rwa [List.append_nil] at dropped

theorem trimHead_of_head (text : List Char) (solid : ∀ c ∈ text.head?, isBlank c = false) :
    trimHead text = text := by
  cases text with
  | nil => rfl
  | cons c rest => exact List.dropWhile_cons_of_neg (by simp [solid c rfl])

theorem Blanks.reverse (blank : Blanks gap) : Blanks gap.reverse :=
  fun c member => blank c (List.mem_reverse.mp member)

theorem Trims.trim_eq (trims : Trims text kept) : trim text = kept := by
  obtain ⟨⟨front, back, before, after, rfl⟩, head, last⟩ := trims
  rw [trim, trimHead_blanks_append before]
  cases kept with
  | nil => rw [List.nil_append, trimHead_blanks after]; rfl
  | cons c rest =>
    have lastSolid : trimHead (c :: rest).reverse = (c :: rest).reverse :=
      trimHead_of_head _ (List.head?_reverse ▸ last)
    rw [trimHead_of_head (c :: rest ++ back) head, List.reverse_append,
      trimHead_blanks_append after.reverse, lastSolid, List.reverse_reverse]

theorem exists_trims (text : List Char) : ∃ kept, Trims text kept := by
  obtain ⟨front, inner, rfl, before, head⟩ := exists_front isBlank text
  obtain ⟨back, kept, parts, after, last⟩ := exists_front isBlank inner.reverse
  have whole : inner = kept.reverse ++ back.reverse := by
    rw [← List.reverse_append, ← parts, List.reverse_reverse]
  refine ⟨kept.reverse, ⟨front, back.reverse, before, Blanks.reverse after, whole ▸ rfl⟩,
    fun c first => head c ?_, ?_⟩
  · rw [whole, List.head?_append, first]
    rfl
  · rwa [List.getLast?_reverse]

/-- There is one way only to trim a text. -/
theorem trims_iff : Trims text kept ↔ trim text = kept := by
  constructor
  · exact Trims.trim_eq
  · rintro rfl
    obtain ⟨kept, trims⟩ := exists_trims text
    exact trims.trim_eq ▸ trims

theorem wordsFrom_concat_blank {c : Char} (ends : isBlank c = true) (current text : List Char) :
    wordsFrom current (text ++ [c]) = wordsFrom current text := by
  induction text generalizing current with
  | nil =>
    rw [List.nil_append, wordsFrom, wordsFrom, if_pos ends]
    rfl
  | cons first rest ih => rw [List.cons_append, wordsFrom, wordsFrom, ih, ih]

theorem words_append_blanks (blank : Blanks gap) (text : List Char) :
    words (text ++ gap) = words text := by
  induction gap generalizing text with
  | nil => rw [List.append_nil]
  | cons c gap ih =>
    have rest : Blanks gap := fun other member => blank other (List.mem_cons_of_mem c member)
    calc
      words (text ++ c :: gap) = words (text ++ [c] ++ gap) := by rw [List.append_assoc]; rfl
      _ = words (text ++ [c]) := ih rest _
      _ = words text := wordsFrom_concat_blank (blank c List.mem_cons_self) [] text

theorem words_trim (text : List Char) : words (trim text) = words text := by
  obtain ⟨⟨front, back, before, after, whole⟩, -, -⟩ := trims_iff.mpr (Eq.refl (trim text))
  conv => rhs; rw [whole, words_blanks_append before, words_append_blanks after]

end Trimming

end Text

end Tether
