import Tether.Proofs.Frame.Delivery

/-!
# What the header of a frame promises

A header is honest if it says how many bytes follow, and if the frame is refused only because its
body is too long (`Honest`). Four bytes cannot say every length: a body beyond `maxHeader` counts as
one of that length. Every limit below `maxHeader` refuses such a body all the same, but the greatest
limit lets it pass, and its frame promises fewer bytes than it has. That is the only way in which a
header is not honest (`honest_iff`).
-/

namespace Tether

namespace Frame

variable {max : Nat} {value : Json}

/-- A value has a frame whose header says the length of its body, which is not too long; or it has
none, and its text is too long. -/
def Honest (max : Nat) (value : Json) : Prop :=
  match encode max value with
  | .ok frame =>
      headerValue (frame.take Limits.frameHeader) = (frame.drop Limits.frameHeader).length ∧
        (frame.drop Limits.frameHeader).length ≤ max
  | .error e => (∃ length, e = .oversized length max) ∧ max < value.toBytes.length

theorem encode_of_fits (limit : max ≤ maxHeader) (fits : Fits max value) :
    encode max value = .ok (framed value.toBytes) :=
  ofBody_ok limit fits

/-- The greatest limit refuses nothing. -/
theorem encode_saturated (long : maxHeader < value.toBytes.length) :
    encode maxHeader value = .ok (header maxHeader ++ value.toBytes) := by
  rw [encode, ofBody, Nat.min_eq_right (Nat.le_of_lt long)]
  exact if_neg (Nat.lt_irrefl maxHeader)

theorem honest_of_fits (limit : max ≤ maxHeader) (fits : Fits max value) : Honest max value := by
  rw [Honest, encode_of_fits limit fits]
  exact ⟨headerValue_header (Nat.le_trans fits limit), fits⟩

theorem honest_of_exceeds (limit : max < maxHeader) (exceeds : max < value.toBytes.length) :
    Honest max value := by
  obtain ⟨length, refused⟩ := ofBody_oversized limit exceeds
  rw [Honest, encode, refused]
  exact ⟨⟨length, rfl⟩, exceeds⟩

theorem not_honest_of_saturated (long : maxHeader < value.toBytes.length) :
    ¬Honest maxHeader value := by
  rw [Honest, encode_saturated long]
  rintro ⟨-, fits⟩
  exact Nat.not_le_of_lt long fits

/-- A header is honest unless the limit is the greatest one and the text is longer still. -/
theorem honest_iff (limit : UInt32) (value : Json) :
    Honest limit.toNat value ↔
      ¬(limit.toNat = maxHeader ∧ maxHeader < value.toBytes.length) := by
  have within : limit.toNat ≤ maxHeader := Nat.le_pred_of_lt limit.toNat_lt
  constructor
  · rintro honest ⟨greatest, long⟩
    rw [greatest] at honest
    exact not_honest_of_saturated long honest
  · intro expressible
    by_cases fits : Fits limit.toNat value
    · exact honest_of_fits within fits
    · have exceeds := Nat.not_le.mp fits
      refine honest_of_exceeds (Nat.lt_of_le_of_ne within fun greatest => ?_) exceeds
      exact expressible ⟨greatest, greatest ▸ exceeds⟩

/-! ## Long texts -/

theorem length_le_flatMap {α β : Type} {f : α → List β} (positive : ∀ x, 0 < (f x).length)
    (items : List α) : items.length ≤ (items.flatMap f).length := by
  induction items with
  | nil => exact Nat.le_refl 0
  | cons item items ih =>
    rw [List.flatMap_cons, List.length_append, List.length_cons, Nat.add_comm]
    exact Nat.add_le_add (positive item) ih

theorem escapeChar_length_pos (c : Char) : 0 < (Json.escapeChar c).length := by
  unfold Json.escapeChar
  repeat' split
  all_goals exact Nat.succ_pos _

theorem utf8EncodeChar_length_pos (c : Char) : 0 < (String.utf8EncodeChar c).length := by
  rw [String.length_utf8EncodeChar]
  exact c.utf8Size_pos

/-- The text of a string is longer than the string. -/
theorem lt_toBytes_str (chars : List Char) :
    chars.length < (Json.str (String.ofList chars)).toBytes.length := by
  have quoted : (Json.str (String.ofList chars)).chars =
      '"' :: (Json.escapeChars chars ++ ['"']) := by
    rw [Json.chars, Json.stringChars, String.toList_ofList]
  have encoded : (Json.str (String.ofList chars)).toBytes =
      (Json.str (String.ofList chars)).chars.flatMap String.utf8EncodeChar := by
    simp [Json.toBytes, Json.render, String.toUTF8, List.utf8Encode]
  calc chars.length
      ≤ (Json.escapeChars chars).length := length_le_flatMap escapeChar_length_pos chars
    _ < (Json.str (String.ofList chars)).chars.length := by
        rw [quoted, List.length_cons, List.length_append]
        omega
    _ ≤ (Json.str (String.ofList chars)).toBytes.length := by
        rw [encoded]
        exact length_le_flatMap utf8EncodeChar_length_pos _

/-- The frame of a string of 2³² letters promises the greatest length; the string is longer. -/
theorem not_honest_long :
    ¬Honest (UInt32.ofNat maxHeader).toNat
      (.str (String.ofList (List.replicate (Nat.pow 2 32) 'a'))) := by
  have greatest : (UInt32.ofNat maxHeader).toNat = maxHeader := by decide
  have long := lt_toBytes_str (List.replicate (Nat.pow 2 32) 'a')
  rw [List.length_replicate] at long
  rw [greatest]
  exact not_honest_of_saturated (Nat.lt_of_le_of_lt (Nat.sub_le _ 1) long)

end Frame

end Tether
