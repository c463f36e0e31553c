import Tether.Json.Number

/-!
# Integers in JSON text

The digits of an integer of 64 bits are read back as that integer, if what follows them does not go
on with the number (`readNumber_intDigits`).
-/

namespace Tether

namespace Json

open Text

/-! ## Digits -/

theorem digit_ofNat {n : Nat} (small : n < 10) :
    isDigit (Char.ofNat (48 + n)) = true ∧ digitValue (Char.ofNat (48 + n)) = n ∧
      (Char.ofNat (48 + n) = '0' → n = 0) := by
  have all : ∀ n < 10, isDigit (Char.ofNat (48 + n)) = true ∧
      digitValue (Char.ofNat (48 + n)) = n ∧ (Char.ofNat (48 + n) = '0' → n = 0) := by
    decide
  exact all n small

theorem isDigit_of_mem {n : Nat} {c : Char} (member : c ∈ natDigits n) : isDigit c = true := by
  fun_induction natDigits n with
  | case1 n small =>
    rw [List.mem_singleton.mp member]
    exact (digit_ofNat small).1
  | case2 n large ih =>
    rcases List.mem_append.mp member with higher | last
    · exact ih higher
    · rw [List.mem_singleton.mp last]
      exact (digit_ofNat (Nat.mod_lt n (by decide))).1

/-- There is a first digit, and it is not zero unless the number is. -/
theorem natDigits_cons (n : Nat) :
    ∃ first rest, natDigits n = first :: rest ∧ isDigit first = true ∧
      (first = '0' → n = 0) := by
  fun_induction natDigits n with
  | case1 n small =>
    obtain ⟨digit, -, zero⟩ := digit_ofNat small
    exact ⟨_, [], rfl, digit, zero⟩
  | case2 n large ih =>
    obtain ⟨first, rest, higher, digit, zero⟩ := ih
    refine ⟨first, rest ++ [Char.ofNat (48 + n % 10)], by rw [higher]; rfl, digit,
      fun start => ?_⟩
    have := zero start
    omega

/-- The significand of the digits of a number is the number. -/
theorem extendSignificand_natDigits {n : Nat} (fits : n ≤ maxSignificand) (more : List Char) :
    extendSignificand 0 (natDigits n ++ more) = extendSignificand n more := by
  induction n using Nat.strongRecOn generalizing more with
  | ind n ih =>
    rw [natDigits]
    split
    · next small =>
      rw [List.singleton_append, extendSignificand, (digit_ofNat small).2.1]
      simp only [Nat.zero_mul, Nat.zero_add, if_pos fits]
    · next large =>
      have last := (digit_ofNat (Nat.mod_lt n (show 0 < 10 by decide))).2.1
      have whole : n / 10 * 10 + n % 10 = n := Nat.div_add_mod' n 10
      rw [List.append_assoc, ih (n / 10) (by omega) (by omega), List.singleton_append,
        extendSignificand, last]
      simp only [whole, if_pos fits]

theorem splitDigits_append {digit : Char → Bool} {digits rest : List Char}
    (all : ∀ c ∈ digits, digit c = true) (ends : ∀ c ∈ rest.head?, digit c = false) :
    splitDigits digit (digits ++ rest) = (digits, rest) := by
  have stop : rest.takeWhile digit = [] ∧ rest.dropWhile digit = rest := by
    cases rest with
    | nil => exact ⟨rfl, rfl⟩
    | cons c rest =>
      have other : digit c = false := ends c rfl
      simp [other]
  rw [splitDigits, List.takeWhile_append_of_pos all, List.dropWhile_append_of_pos all, stop.1,
    stop.2, List.append_nil]

/-! ## Whole numbers -/

/-- What follows a number does not go on with it. -/
def EndsNumber (rest : List Char) : Prop :=
  ∀ c ∈ rest.head?, isDigit c = false ∧ c ≠ '.' ∧ c ≠ 'e' ∧ c ≠ 'E'

theorem endsNumber_cons {c : Char}
    (other : isDigit c = false ∧ c ≠ '.' ∧ c ≠ 'e' ∧ c ≠ 'E')
    (rest : List Char) : EndsNumber (c :: rest) := by
  rintro _ ⟨⟩
  exact other

variable {rest : List Char}

theorem readWhole_natDigits (n : Nat) (ends : EndsNumber rest) :
    readWhole (natDigits n ++ rest) = some (natDigits n, rest) := by
  have split : splitDigits isDigit (natDigits n ++ rest) = (natDigits n, rest) :=
    splitDigits_append (fun _ => isDigit_of_mem) fun c found => (ends c found).1
  obtain ⟨first, more, digits, -, zero⟩ := natDigits_cons n
  rw [readWhole, split]
  by_cases leading : first = '0'
  · cases zero leading
    have single : natDigits 0 = ['0'] := by rw [natDigits]; rfl
    rw [single]
    rfl
  · rw [digits]
    split
    · next none => cases none
    · next single => exact absurd (by cases single; rfl) leading
    · next zeros => exact absurd (by cases zeros; rfl) leading
    · next whole => cases whole; rfl

theorem readFraction_none (ends : EndsNumber rest) : readFraction rest = some ([], rest) := by
  unfold readFraction
  split
  · next after => exact absurd rfl (ends '.' rfl).2.1
  · rfl

theorem readExponent_none (ends : EndsNumber rest) : readExponent rest = some (none, rest) := by
  unfold readExponent
  split
  · next c more =>
    obtain ⟨-, -, lower, upper⟩ := ends c rfl
    rw [if_neg (not_or.mpr ⟨lower, upper⟩)]
  · rfl

/-- The parts of the text of an integer. -/
theorem readNumberText_intDigits (n : Int) (ends : EndsNumber rest) :
    readNumberText (intDigits n ++ rest) =
      some (⟨decide (n < 0), natDigits n.natAbs, [], none⟩, rest) := by
  have parts := readWhole_natDigits n.natAbs ends
  by_cases negative : n < 0
  · rw [intDigits, if_pos negative, List.cons_append, readNumberText, decide_eq_true negative]
    simp only [parts, readFraction_none ends, readExponent_none ends]
  · obtain ⟨first, more, digits, digit, -⟩ := natDigits_cons n.natAbs
    have unsigned : ∀ later, natDigits n.natAbs ++ rest = '-' :: later → False := by
      intro later sign
      rw [digits] at sign
      cases sign
      cases digit
    rw [intDigits, if_neg negative, readNumberText, decide_eq_false negative]
    · simp only [parts, readFraction_none ends, readExponent_none ends]
    · exact unsigned

/-- The text of an integer starts with a sign or a digit. -/
theorem intDigits_cons (n : Int) :
    ∃ first rest, intDigits n = first :: rest ∧ (first = '-' ∨ isDigit first = true) := by
  rw [intDigits]
  split
  · exact ⟨_, _, rfl, Or.inl rfl⟩
  · obtain ⟨first, rest, digits, digit, -⟩ := natDigits_cons n.natAbs
    exact ⟨first, rest, digits, Or.inr digit⟩

/-- An integer of 64 bits, with or without a sign. -/
def IsLong (n : Int) : Prop :=
  -9223372036854775808 ≤ n ∧ n ≤ 18446744073709551615

theorem value?_intDigits {n : Int} (long : IsLong n) :
    (NumberText.mk (decide (n < 0)) (natDigits n.natAbs) [] none).value? = some (.int n) := by
  have fits : n.natAbs ≤ maxSignificand := by
    have max : maxSignificand = 18446744073709551615 := by decide
    obtain ⟨low, high⟩ := long
    omega
  have read : extendSignificand 0 (natDigits n.natAbs) = (n.natAbs, 0) := by
    have digits := extendSignificand_natDigits fits []
    rwa [List.append_nil] at digits
  rw [NumberText.value?, read]
  simp only [and_self, if_true]
  by_cases negative : n < 0
  · have low : n.natAbs ≤ Nat.pow 2 63 := by
      have power : Nat.pow 2 63 = 9223372036854775808 := by decide
      obtain ⟨low, high⟩ := long
      omega
    have same : -(n.natAbs : Int) = n := by omega
    rw [decide_eq_true negative, if_neg (by decide), if_pos ⟨by omega, low⟩, same]
  · have same : (n.natAbs : Int) = n := by omega
    rw [decide_eq_false negative, if_pos (by decide), same]

/-- An integer is read back from its digits. -/
theorem readNumber_intDigits {n : Int} (long : IsLong n) (ends : EndsNumber rest) :
    readNumber (intDigits n ++ rest) = some (.int n, rest) := by
  rw [readNumber, readNumberText_intDigits n ends]
  simp only [value?_intDigits long, Option.map_some]

end Json

end Tether
