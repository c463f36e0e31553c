import Tether.Frame.Writer
import Tether.Proofs.Frame.Split

/-!
# Writing what can be read back

The header of a length says that length again (`headerValue_header`), so the frame of a body that is
not too long splits into that body alone (`splits_frame`). A sink that does not fail takes all the
bytes of a frame, in however many writes (`Sink.taken_of_writeAll`). So writing a value adds its
frame to what the sink has taken, or nothing if the value is too long (`write_cases`), and a sink
without limits never fails (`write_unlimited`).
-/

namespace Tether

/-! ## Sinks -/

namespace Sink

variable {sink later : Sink} {bytes : List UInt8} {writes : Nat}

theorem taken_of_writeUpTo (written : writeUpTo writes bytes sink = (true, later)) :
    later.taken = sink.taken ++ bytes := by
  induction writes generalizing bytes sink with
  | zero =>
    rw [writeUpTo] at written
    cases bytes with
    | nil =>
      cases written
      exact (List.append_nil _).symm
    | cons byte more => cases written
  | succ writes ih =>
    rw [writeUpTo] at written
    split at written
    · next empty =>
      cases written
      rw [empty, List.append_nil]
    split at written
    · rw [ih written]
    dsimp only at written
    split at written
    · cases written
    · rw [ih written, take, List.append_assoc, List.take_append_drop]

/-- A sink that does not fail takes all bytes, however many writes it needs. -/
theorem taken_of_writeAll (written : sink.writeAll bytes = (true, later)) :
    later.taken = sink.taken ++ bytes :=
  taken_of_writeUpTo written

@[simp]
theorem flush_taken (sink : Sink) : sink.flush.2.taken = sink.taken := by
  unfold flush
  split <;> rfl

theorem portion_le (sink : Sink) (length : Nat) : sink.portion length ≤ length := by
  unfold portion
  split <;> omega

theorem portion_pos (sink : Sink) {length : Nat} (positive : 0 < length) :
    0 < sink.portion length := by
  unfold portion
  split <;> omega

/-- A sink that never fails. -/
structure IsUnlimited (sink : Sink) : Prop where
  room : sink.room = none
  flushable : sink.flushable = none

theorem IsUnlimited.accepts_pos (unlimited : sink.IsUnlimited) {length : Nat}
    (positive : 0 < length) : 0 < sink.accepts length := by
  rw [accepts, unlimited.room]
  exact sink.portion_pos positive

theorem IsUnlimited.take (unlimited : sink.IsUnlimited) (bytes : List UInt8) :
    (sink.take bytes).IsUnlimited :=
  ⟨congrArg (Option.map (· - bytes.length)) unlimited.room, unlimited.flushable⟩

theorem writeUpTo_unlimited (unlimited : sink.IsUnlimited)
    (enough : bytes.length + sink.portions.length ≤ writes) :
    ∃ later, writeUpTo writes bytes sink = (true, later) ∧ later.IsUnlimited := by
  induction writes generalizing bytes sink with
  | zero =>
    obtain rfl : bytes = [] := List.length_eq_zero_iff.mp (by omega)
    exact ⟨sink, rfl, unlimited⟩
  | succ writes ih =>
    rw [writeUpTo]
    split
    · exact ⟨sink, rfl, unlimited⟩
    next nonempty =>
    have positive : 0 < bytes.length := List.length_pos_iff.mpr nonempty
    split
    · next rest portions =>
      rw [portions, List.length_cons] at enough
      exact ih ⟨unlimited.room, unlimited.flushable⟩ (by dsimp only; omega)
    · have some := unlimited.accepts_pos positive
      dsimp only
      rw [if_neg (Nat.ne_of_gt some)]
      refine ih (unlimited.take _) ?_
      simp only [Sink.take, List.length_drop]
      omega

/-- A sink without a limit does not fail. -/
theorem writeAll_unlimited (unlimited : sink.IsUnlimited) (bytes : List UInt8) :
    ∃ later, sink.writeAll bytes = (true, later) ∧ later.IsUnlimited :=
  writeUpTo_unlimited unlimited (Nat.le_refl _)

theorem flush_unlimited (unlimited : sink.IsUnlimited) :
    ∃ later, sink.flush = (true, later) ∧ later.IsUnlimited := by
  unfold flush
  rw [unlimited.flushable]
  exact ⟨_, rfl, unlimited.room, rfl⟩

end Sink

namespace Frame

variable {max : Nat} {body : List UInt8} {value : Json} {sink : Sink}

/-! ## Frames -/

theorem header_length (n : Nat) : (header n).length = Limits.frameHeader := rfl

/-- A length is read back from its header. -/
theorem headerValue_header {n : Nat} (small : n ≤ maxHeader) : headerValue (header n) = n := by
  have max : maxHeader = 4294967295 := by decide
  simp only [header, headerValue, List.foldl_cons, List.foldl_nil, UInt8.toNat_ofNat']
  omega

/-- The frame of a body. -/
def framed (body : List UInt8) : List UInt8 :=
  header body.length ++ body

/-- A body that is not too long has its frame. -/
theorem ofBody_ok (limit : max ≤ maxHeader) (fits : body.length ≤ max) :
    ofBody max body = .ok (framed body) := by
  rw [ofBody, Nat.min_eq_left (Nat.le_trans fits limit)]
  exact if_neg (Nat.not_lt.mpr fits)

/-- A body that is too long has no frame, also if its length does not fit a header. -/
theorem ofBody_oversized (limit : max < maxHeader) (exceeds : max < body.length) :
    ∃ length, ofBody max body = .error (.oversized length max) := by
  rw [ofBody]
  exact ⟨_, if_pos (Nat.lt_min.mpr ⟨exceeds, limit⟩)⟩

/-- A frame splits into its body. -/
theorem splits_frame (limit : max ≤ maxHeader) (fits : body.length ≤ max) :
    Splits max (framed body) [body] none := by
  have length := headerValue_header (Nat.le_trans fits limit)
  have alone := Splits.frame (header_length body.length) length fits .done
  rwa [List.append_nil] at alone

/-! ## Values -/

/-- Whether the text of a value is not too long for a frame. -/
def Fits (max : Nat) (value : Json) : Prop :=
  value.toBytes.length ≤ max

instance : Decidable (Fits max value) :=
  inferInstanceAs (Decidable (_ ≤ _))

/-- What becomes of a value: it fits and its frame is added to what the sink has taken, or it fits
and the sink fails, or it does not fit and nothing is written. -/
theorem write_cases (limit : max < maxHeader) (value : Json) (sink : Sink) :
    (Fits max value ∧ ∃ later, write max sink value = (.ok (), later) ∧
        later.taken = sink.taken ++ framed value.toBytes) ∨
      (Fits max value ∧ ∃ text later, write max sink value = (.error (.io text), later)) ∨
      (¬Fits max value ∧
        ∃ length, write max sink value = (.error (.oversized length max), sink)) := by
  rw [write, encode]
  by_cases fits : Fits max value
  · rw [ofBody_ok (Nat.le_of_lt limit) fits]
    rcases writing : sink.writeAll (framed value.toBytes) with ⟨whole, written⟩
    cases whole with
    | false =>
      exact Or.inr (Or.inl ⟨fits, written.writeFailure, written, by simp only [writing]⟩)
    | true =>
      have taken := Sink.taken_of_writeAll writing
      rcases flushing : written.flush with ⟨done, later⟩
      have same : later.taken = written.taken := by rw [← written.flush_taken, flushing]
      cases done with
      | true => exact Or.inl ⟨fits, later, by simp only [writing, flushing], same.trans taken⟩
      | false =>
        refine Or.inr (Or.inl ⟨fits, later.flushFailure, later, ?_⟩)
        simp only [writing, flushing]
  · obtain ⟨length, refused⟩ := ofBody_oversized limit (Nat.not_le.mp fits)
    rw [refused]
    exact Or.inr (Or.inr ⟨fits, length, rfl⟩)

/-- A sink without a limit does not fail, so a value is written or refused. -/
theorem write_unlimited (limit : max < maxHeader) (unlimited : sink.IsUnlimited) (value : Json) :
    (∃ later, write max sink value = (.ok (), later) ∧ later.IsUnlimited) ∨
      ∃ length, write max sink value = (.error (.oversized length max), sink) := by
  rw [write, encode]
  by_cases fits : Fits max value
  · obtain ⟨written, all, still⟩ := Sink.writeAll_unlimited unlimited (framed value.toBytes)
    obtain ⟨later, flushed, last⟩ := Sink.flush_unlimited still
    rw [ofBody_ok (Nat.le_of_lt limit) fits]
    dsimp only
    rw [all]
    dsimp only
    rw [flushed]
    exact Or.inl ⟨later, rfl, last⟩
  · obtain ⟨length, refused⟩ := ofBody_oversized limit (Nat.not_le.mp fits)
    rw [refused]
    exact Or.inr ⟨length, rfl⟩

end Frame

end Tether
