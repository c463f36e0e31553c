import Tether.Json.Parser
import Tether.Json.Printer

/-!
# Strings in JSON text

Any text is read back from its escaped form (`readString_escapeChars`), and from its bytes in UTF-8
(`fromUTF8?_toUTF8`).
-/

namespace Tether

namespace Json

theorem hexValue?_hexDigit {n : Nat} (small : n < 16) :
    hexValue? (Text.hexDigit n) = some n := by
  have all : ∀ n < 16, hexValue? (Text.hexDigit n) = some n := by decide
  exact all n small

/-- A control character is read back from its number in four digits. -/
theorem readUnicode?_control {c : Char} (control : c.toNat < 32) (rest : List Char) :
    readUnicode?
      ('0' :: '0' :: Text.hexDigit (c.toNat / 16) :: Text.hexDigit (c.toNat % 16) :: rest) =
      some (c, 4) := by
  have zero : hexValue? '0' = some 0 := by decide
  have high := hexValue?_hexDigit (show c.toNat / 16 < 16 by omega)
  have low := hexValue?_hexDigit (Nat.mod_lt c.toNat (show 0 < 16 by decide))
  have unit : readUnit?
      ('0' :: '0' :: Text.hexDigit (c.toNat / 16) :: Text.hexDigit (c.toNat % 16) :: rest) =
      some c.toNat := by
    simp only [readUnit?, zero, high, low, Option.bind_eq_bind, Option.bind_some]
    congr 1
    omega
  rw [readUnicode?, unit]
  simp only [if_neg (show ¬(0xDC00 ≤ c.toNat ∧ c.toNat ≤ 0xDFFF) by omega),
    if_neg (show ¬(0xD800 ≤ c.toNat ∧ c.toNat ≤ 0xDBFF) by omega), Char.ofNat_toNat]

theorem readString_simple {c letter : Char} (rest : List Char) (other : letter ≠ 'u')
    (stands : simpleEscape? letter = some c) :
    readString ('\\' :: letter :: rest) =
      (readString rest).map fun (text, rest) => (c :: text, rest) := by
  rw [readString, if_neg (by decide), if_pos rfl]
  simp only [if_neg other, stands]

/-- A character is read back from its escaped form. -/
theorem readString_escapeChar (c : Char) (rest : List Char) :
    readString (escapeChar c ++ rest) =
      (readString rest).map fun (text, rest) => (c :: text, rest) := by
  have of_number {n : Nat} (number : c.toNat = n) : Char.ofNat n = c :=
    number ▸ Char.ofNat_toNat c
  unfold escapeChar
  split
  · next quote => exact readString_simple rest (by decide) (by rw [quote]; rfl)
  split
  · next backslash => exact readString_simple rest (by decide) (by rw [backslash]; rfl)
  split
  · next number => exact readString_simple rest (by decide) (congrArg some (of_number number))
  split
  · next number => exact readString_simple rest (by decide) (congrArg some (of_number number))
  split
  · next number => exact readString_simple rest (by decide) (congrArg some (of_number number))
  split
  · next number => exact readString_simple rest (by decide) (congrArg some (of_number number))
  split
  · next number => exact readString_simple rest (by decide) (congrArg some (of_number number))
  split
  · next control =>
    simp only [List.cons_append, List.nil_append]
    rw [readString, if_neg (by decide), if_pos rfl]
    simp only [if_true, readUnicode?_control control, List.drop_succ_cons, List.drop_zero]
  · next quote backslash _ _ _ _ _ plain =>
    rw [List.singleton_append, readString.eq_def]
    simp only [if_neg quote, if_neg backslash, if_neg plain]

/-- A text is read back from its escaped form. -/
theorem readString_escapeChars (cs rest : List Char) :
    readString (escapeChars cs ++ '"' :: rest) = some (cs, rest) := by
  induction cs with
  | nil =>
    rw [escapeChars, List.flatMap_nil, List.nil_append, readString.eq_def]
    rfl
  | cons c cs ih =>
    rw [escapeChars, List.flatMap_cons, List.append_assoc, readString_escapeChar]
    change (readString (escapeChars cs ++ '"' :: rest)).map _ = _
    rw [ih]
    rfl

/-- A text is read back from its bytes. -/
theorem fromUTF8?_toUTF8 (s : String) :
    String.fromUTF8? (ByteArray.mk s.toUTF8.data.toList.toArray) = some s := by
  have same : ByteArray.mk s.toUTF8.data.toList.toArray = s.toByteArray := rfl
  rw [same, String.fromUTF8?, dif_pos s.isValidUTF8]
  rfl

end Json

end Tether
