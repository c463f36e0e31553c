import Tether.Frame.Basic

/-!
# How a byte string splits into frames

`Splits` says what the frames of a byte string are without reading it: their bodies, in their order,
and the error of framing that the string ends with, if it does not end with a frame. Every string
splits in exactly one way, and `Frame.split` finds it (`splits_iff`).

Only the end of a string can be out of order: whole frames may be put before any string
(`Splits.append`).
-/

namespace Tether

namespace Frame

/-- The bodies of the frames of a byte string, and the error that it ends with. -/
inductive Splits (max : Nat) : List UInt8 → List (List UInt8) → Option FrameError → Prop where
  | done : Splits max [] [] none
  | frame {head body rest : List UInt8} {bodies : List (List UInt8)} {ending : Option FrameError}
      (whole : head.length = Limits.frameHeader) (length : headerValue head = body.length)
      (fits : body.length ≤ max) (later : Splits max rest bodies ending) :
      Splits max (head ++ (body ++ rest)) (body :: bodies) ending
  /-- The string ends inside a header. -/
  | cutHeader {bytes : List UInt8} (nonempty : bytes ≠ [])
      (short : bytes.length < Limits.frameHeader) :
      Splits max bytes [] (some (.truncated Limits.frameHeader bytes.length))
  /-- A header announces a body that is too long. -/
  | oversized {head rest : List UInt8} (whole : head.length = Limits.frameHeader)
      (exceeds : max < headerValue head) :
      Splits max (head ++ rest) [] (some (.oversized (headerValue head) max))
  /-- The string ends inside a body. -/
  | cutBody {head rest : List UInt8} (whole : head.length = Limits.frameHeader)
      (fits : headerValue head ≤ max) (short : rest.length < headerValue head) :
      Splits max (head ++ rest) [] (some (.truncated (headerValue head) rest.length))

variable {max : Nat} {bytes head body rest : List UInt8} {bodies : List (List UInt8)}
  {ending : Option FrameError}

/-! ## The first frame -/

theorem next_nil (max : Nat) : next max [] = .ok none := by
  rw [next, if_pos rfl]

theorem next_cutHeader (nonempty : bytes ≠ []) (short : bytes.length < Limits.frameHeader) :
    next max bytes = .error (.truncated Limits.frameHeader bytes.length) := by
  rw [next, if_neg nonempty, if_pos short]

/-- After a whole header only the length that it announces matters. -/
theorem next_header (whole : head.length = Limits.frameHeader) :
    next max (head ++ rest) =
      if max < headerValue head then .error (.oversized (headerValue head) max)
      else if rest.length < headerValue head then
        .error (.truncated (headerValue head) rest.length)
      else .ok (some (rest.take (headerValue head), rest.drop (headerValue head))) := by
  have nonempty : head ++ rest ≠ [] := by
    intro empty
    rw [(List.append_eq_nil_iff.mp empty).1] at whole
    cases whole
  have long : ¬ (head ++ rest).length < Limits.frameHeader := by
    rw [List.length_append, whole]
    omega
  rw [next, if_neg nonempty, if_neg long]
  simp only [List.take_left' whole, List.drop_left' whole]

theorem next_oversized (whole : head.length = Limits.frameHeader)
    (exceeds : max < headerValue head) :
    next max (head ++ rest) = .error (.oversized (headerValue head) max) := by
  rw [next_header whole, if_pos exceeds]

theorem next_cutBody (whole : head.length = Limits.frameHeader) (fits : headerValue head ≤ max)
    (short : rest.length < headerValue head) :
    next max (head ++ rest) = .error (.truncated (headerValue head) rest.length) := by
  rw [next_header whole, if_neg (Nat.not_lt.mpr fits), if_pos short]

theorem next_frame (whole : head.length = Limits.frameHeader)
    (length : headerValue head = body.length) (fits : body.length ≤ max) :
    next max (head ++ (body ++ rest)) = .ok (some (body, rest)) := by
  have enough : ¬ (body ++ rest).length < body.length := by
    rw [List.length_append]
    omega
  rw [next_header whole, length, if_neg (Nat.not_lt.mpr fits), if_neg enough,
    List.take_left, List.drop_left]

/-! ## All frames -/

/-- A string that is long enough parts after so many bytes. -/
theorem exists_append {length : Nat} (enough : length ≤ bytes.length) :
    ∃ front back, bytes = front ++ back ∧ front.length = length :=
  ⟨bytes.take length, bytes.drop length, (List.take_append_drop length bytes).symm,
    List.length_take_of_le enough⟩

theorem exists_splits (max : Nat) (bytes : List UInt8) :
    ∃ bodies ending, Splits max bytes bodies ending := by
  induction size : bytes.length using Nat.strongRecOn generalizing bytes with
  | ind size ih =>
    subst size
    by_cases empty : bytes = []
    · exact ⟨[], none, empty ▸ .done⟩
    by_cases short : bytes.length < Limits.frameHeader
    · exact ⟨[], _, .cutHeader empty short⟩
    obtain ⟨head, rest, rfl, whole⟩ := exists_append (Nat.not_lt.mp short)
    by_cases exceeds : max < headerValue head
    · exact ⟨[], _, .oversized whole exceeds⟩
    by_cases cut : rest.length < headerValue head
    · exact ⟨[], _, .cutBody whole (Nat.not_lt.mp exceeds) cut⟩
    obtain ⟨body, rest, rfl, length⟩ := exists_append (Nat.not_lt.mp cut)
    have shorter : rest.length < (head ++ (body ++ rest)).length := by
      have header : 0 < Limits.frameHeader := by decide
      rw [List.length_append, List.length_append, whole]
      omega
    obtain ⟨bodies, ending, later⟩ := ih rest.length shorter rest rfl
    refine ⟨body :: bodies, ending, .frame whole length.symm ?_ later⟩
    rw [length]
    exact Nat.not_lt.mp exceeds

theorem splitUpTo_of_splits (splits : Splits max bytes bodies ending) {limit : Nat}
    (enough : bytes.length < limit) : splitUpTo max limit bytes = (bodies, ending) := by
  obtain ⟨limit, rfl⟩ := Nat.exists_eq_add_one_of_ne_zero (Nat.ne_zero_of_lt enough)
  induction splits generalizing limit with
  | done => rw [splitUpTo, next_nil]
  | frame whole length fits _ ih =>
    have header : 0 < Limits.frameHeader := by decide
    rw [List.length_append, List.length_append, whole] at enough
    obtain ⟨before, rfl⟩ := Nat.exists_eq_add_one_of_ne_zero (show limit ≠ 0 by omega)
    rw [splitUpTo, next_frame whole length fits]
    dsimp only
    rw [ih before (by omega)]
  | cutHeader nonempty short => rw [splitUpTo, next_cutHeader nonempty short]
  | oversized whole exceeds => rw [splitUpTo, next_oversized whole exceeds]
  | cutBody whole fits short => rw [splitUpTo, next_cutBody whole fits short]

/-- Every byte string splits in the way that is computed, and in no other one. -/
theorem splits_iff : Splits max bytes bodies ending ↔ split max bytes = (bodies, ending) := by
  constructor
  · intro splits
    exact splitUpTo_of_splits splits (Nat.lt_succ_self _)
  · intro computed
    obtain ⟨others, last, splits⟩ := exists_splits max bytes
    have same : split max bytes = (others, last) :=
      splitUpTo_of_splits splits (Nat.lt_succ_self _)
    rw [computed] at same
    cases same
    exact splits

/-! ## Strings one after the other -/

namespace Splits

/-- Whole frames do not matter for what comes after them. -/
theorem append {front back : List UInt8} {others : List (List UInt8)}
    (first : Splits max front bodies none) (second : Splits max back others ending) :
    Splits max (front ++ back) (bodies ++ others) ending := by
  generalize clean : none = last at first
  induction first with
  | done => exact second
  | frame whole length fits _ ih =>
    rw [List.append_assoc, List.append_assoc]
    exact .frame whole length fits (ih clean)
  | cutHeader => cases clean
  | oversized => cases clean
  | cutBody => cases clean

/-- A string has no more frames than bytes. -/
theorem length_le (splits : Splits max bytes bodies ending) : bodies.length ≤ bytes.length := by
  induction splits with
  | frame whole _ _ _ ih =>
    have header : 0 < Limits.frameHeader := by decide
    rw [List.length_cons, List.length_append, List.length_append, whole]
    omega
  | done | cutHeader | oversized | cutBody => exact Nat.zero_le _

/-- Behind a header that announces too much nothing matters any more. -/
theorem append_of_oversized {length limit : Nat}
    (splits : Splits max bytes [] (some (.oversized length limit))) (more : List UInt8) :
    Splits max (bytes ++ more) [] (some (.oversized length limit)) := by
  cases splits with
  | oversized whole exceeds =>
    rw [List.append_assoc]
    exact .oversized whole exceeds

end Splits

end Frame

end Tether
