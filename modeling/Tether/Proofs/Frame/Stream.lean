import Tether.Frame.Reader
import Tether.Proofs.Frame.Split

/-!
# Reading what a stream hands out

A stream hands out a byte string in pieces of any size, with any number of interruptions, and then
stops: a read finds nothing, or it fails (`Hands`). The readers find in it what the string tells,
whatever the pieces are: `fill` its first bytes (`fill_within`), `read` its first frame
(`read_frame`) or why there is none.

Each step leaves a stream that hands out the rest of the string, unless it has met the end. So one
read after the other finds how the string splits into frames (`reads_exactly`). Only where the
string ends it matters how the stream stops: a read that fails is reported as such, at a boundary
between frames as well as inside a frame. Nothing is known about a stream after its end: it may hand
out more, but nobody reads that.

A stream that does not fail delivers its string (`Delivers`), and `readAll` finds what the string
tells (`readAll_of_splits`).
-/

namespace Tether

namespace Frame

/-- What a stream hands out up to its end. -/
inductive Delivers : List Chunk → List UInt8 → Prop where
  | ended : Delivers [] []
  /-- A read that finds nothing is the end, whatever follows. -/
  | closed {rest : List Chunk} : Delivers (.bytes [] :: rest) []
  | interrupted {rest : List Chunk} {bytes : List UInt8} (later : Delivers rest bytes) :
      Delivers (.interrupted :: rest) bytes
  | piece {rest : List Chunk} {bytes : List UInt8} (byte : UInt8) (more : List UInt8)
      (later : Delivers rest bytes) :
      Delivers (.bytes (byte :: more) :: rest) (byte :: more ++ bytes)

/-- How a stream stops. -/
inductive Stop where
  /-- A read finds nothing. -/
  | closed
  /-- A read fails. -/
  | failed (text : String)
deriving DecidableEq

/-- A stream hands out some bytes and then stops, and there is more of it after that. -/
inductive Hands : List Chunk → List UInt8 → Stop → List Chunk → Prop where
  | ended : Hands [] [] .closed []
  | closed (after : List Chunk) : Hands (.bytes [] :: after) [] .closed after
  | failed (text : String) (after : List Chunk) :
      Hands (.failure text :: after) [] (.failed text) after
  | interrupted {rest after : List Chunk} {bytes : List UInt8} {stop : Stop}
      (later : Hands rest bytes stop after) : Hands (.interrupted :: rest) bytes stop after
  | piece {rest after : List Chunk} {bytes : List UInt8} {stop : Stop} (byte : UInt8)
      (more : List UInt8) (later : Hands rest bytes stop after) :
      Hands (.bytes (byte :: more) :: rest) (byte :: more ++ bytes) stop after

namespace Stop

/-- What a reader answers that meets the end of a stream, where `answer` is for a read that finds
nothing. -/
def answer {α : Type} : Stop → Except FrameError α → Except FrameError α
  | .closed, answer => answer
  | .failed text, _ => .error (.io text)

/-- The error that reading ends with, where `ending` is the one that the bytes end with. Whoever has
refused a body does not read on to the end of the stream. -/
def ending : Stop → Option FrameError → Option FrameError
  | .closed, ending => ending
  | .failed _, some (.oversized length max) => some (.oversized length max)
  | .failed text, _ => some (.io text)

end Stop

/-- Every byte string is delivered by some stream, if only byte by byte. -/
theorem delivers_bytewise (bytes : List UInt8) :
    Delivers (bytes.map fun byte => .bytes [byte]) bytes := by
  induction bytes with
  | nil => exact .ended
  | cons byte more ih => exact .piece byte [] ih

variable {source after : List Chunk} {bytes : List UInt8} {stop : Stop}

theorem Delivers.hands (delivers : Delivers source bytes) :
    ∃ after, Hands source bytes .closed after := by
  induction delivers with
  | ended => exact ⟨_, .ended⟩
  | closed => exact ⟨_, .closed _⟩
  | interrupted _ ih =>
    obtain ⟨after, later⟩ := ih
    exact ⟨after, .interrupted later⟩
  | piece byte more _ ih =>
    obtain ⟨after, later⟩ := ih
    exact ⟨after, .piece byte more later⟩

/-- A stream serves no fewer reads than it has bytes. -/
theorem Hands.length_le (hands : Hands source bytes stop after) :
    bytes.length ≤ sourceSize source := by
  induction hands with
  | ended | closed | failed => exact Nat.zero_le _
  | interrupted _ ih =>
    simp only [sourceSize]
    omega
  | piece byte more _ ih =>
    rw [sourceSize, List.length_append]
    omega

/-! ## Filling a buffer -/

theorem fill_zero (source : List Chunk) : fill source 0 = (.ok [], source) := by
  rw [fill]

/-- A buffer that is not too large is filled with the bytes that come first. -/
theorem fill_within (hands : Hands source bytes stop after) {wanted : Nat}
    (enough : wanted ≤ bytes.length) :
    ∃ rest, fill source wanted = (.ok (bytes.take wanted), rest) ∧
      Hands rest (bytes.drop wanted) stop after := by
  induction hands generalizing wanted with
  | ended | closed | failed =>
    obtain rfl := Nat.le_zero.mp enough
    exact ⟨_, fill_zero _, by constructor⟩
  | interrupted later ih =>
    cases wanted with
    | zero => exact ⟨_, fill_zero _, .interrupted later⟩
    | succ wanted =>
      rw [fill]
      exact ih enough
  | @piece rest after bytes stop byte more later ih =>
    cases wanted with
    | zero => exact ⟨_, fill_zero _, .piece byte more later⟩
    | succ wanted =>
      rw [fill]
      split
      · next within =>
        -- What the buffer has no room for stays in the stream.
        have short : wanted + 1 ≤ (byte :: more).length := Nat.le_of_lt within
        refine ⟨_, by rw [List.take_append_of_le_length short], ?_⟩
        rw [List.drop_append_of_le_length short]
        cases left : (byte :: more).drop (wanted + 1) with
        | nil =>
          rw [List.drop_eq_nil_iff] at left
          omega
        | cons next others => exact .piece next others later
      · next beyond =>
        have long : (byte :: more).length ≤ wanted + 1 := Nat.not_lt.mp beyond
        rw [List.length_append] at enough
        obtain ⟨left, filled, handed⟩ :=
          ih (show wanted + 1 - (byte :: more).length ≤ bytes.length by omega)
        rw [filled]
        refine ⟨left, by rw [List.take_append, List.take_of_length_le long], ?_⟩
        rw [List.drop_append, List.drop_of_length_le long, List.nil_append]
        exact handed

theorem fill_whole {front back : List UInt8} (hands : Hands source (front ++ back) stop after) :
    ∃ rest, fill source front.length = (.ok front, rest) ∧ Hands rest back stop after := by
  have enough : front.length ≤ (front ++ back).length := by
    rw [List.length_append]
    omega
  obtain ⟨rest, filled, handed⟩ := fill_within hands enough
  rw [List.take_left] at filled
  rw [List.drop_left] at handed
  exact ⟨rest, filled, handed⟩

/-- Where the bytes do not fill a buffer the end of the stream is met: all bytes have been found, or
the read has failed. -/
theorem fill_short (hands : Hands source bytes stop after) {wanted : Nat}
    (short : bytes.length < wanted) : fill source wanted = (stop.answer (.ok bytes), after) := by
  obtain ⟨wanted, rfl⟩ := Nat.exists_eq_add_one_of_ne_zero (Nat.ne_zero_of_lt short)
  induction hands generalizing wanted with
  | ended | closed | failed => rw [fill, Stop.answer]
  | interrupted _ ih =>
    rw [fill]
    exact ih wanted short
  | @piece rest after bytes stop byte more _ ih =>
    rw [List.length_append] at short
    obtain ⟨left, equal⟩ := Nat.exists_eq_add_one_of_ne_zero
      (show wanted + 1 - (byte :: more).length ≠ 0 by omega)
    have handed := ih left (by omega)
    rw [fill, if_neg (by omega), equal, handed]
    cases stop with
    | closed => rfl
    | failed text => rfl

/-! ## The first frame -/

variable {max : Nat} {head body rest : List UInt8}

theorem read_done (hands : Hands source [] stop after) :
    read max source = (stop.answer (.ok none), after) := by
  have filled := fill_short hands (show 0 < Limits.frameHeader by decide)
  rw [read, filled]
  cases stop <;> rfl

theorem read_cutHeader (hands : Hands source bytes stop after) (nonempty : bytes ≠ [])
    (short : bytes.length < Limits.frameHeader) :
    read max source =
      (stop.answer (.error (.truncated Limits.frameHeader bytes.length)), after) := by
  rw [read, fill_short hands short]
  cases stop with
  | closed =>
    dsimp only [Stop.answer]
    rw [if_neg nonempty, if_pos short]
  | failed text => rfl

/-- After a whole header the body is read. -/
theorem read_header (hands : Hands source (head ++ rest) stop after)
    (whole : head.length = Limits.frameHeader) :
    ∃ left, read max source = readBody max (headerValue head) left ∧
      Hands left rest stop after := by
  obtain ⟨left, filled, handed⟩ := fill_whole hands
  refine ⟨left, ?_, handed⟩
  have nonempty : head ≠ [] := by
    rintro rfl
    cases whole
  rw [whole] at filled
  rw [read, filled]
  dsimp only
  rw [if_neg nonempty, if_neg (by omega)]

/-- Nothing of a body that is too long is read. -/
theorem read_oversized (hands : Hands source (head ++ rest) stop after)
    (whole : head.length = Limits.frameHeader) (exceeds : max < headerValue head) :
    ∃ left, read max source = (.error (.oversized (headerValue head) max), left) ∧
      Hands left rest stop after := by
  obtain ⟨left, found, handed⟩ := read_header hands whole
  refine ⟨left, ?_, handed⟩
  rw [found, readBody, if_pos exceeds]

theorem read_cutBody (hands : Hands source (head ++ rest) stop after)
    (whole : head.length = Limits.frameHeader) (fits : headerValue head ≤ max)
    (short : rest.length < headerValue head) :
    read max source =
      (stop.answer (.error (.truncated (headerValue head) rest.length)), after) := by
  obtain ⟨afterHeader, found, handed⟩ := read_header hands whole
  rw [found, readBody, if_neg (Nat.not_lt.mpr fits), fill_short handed short]
  cases stop with
  | closed =>
    dsimp only [Stop.answer]
    rw [if_pos short]
  | failed text => rfl

theorem read_frame (hands : Hands source (head ++ (body ++ rest)) stop after)
    (whole : head.length = Limits.frameHeader) (length : headerValue head = body.length)
    (fits : body.length ≤ max) :
    ∃ left, read max source = (.ok (some body), left) ∧ Hands left rest stop after := by
  obtain ⟨afterHeader, found, handed⟩ := read_header hands whole
  obtain ⟨left, filled, later⟩ := fill_whole handed
  refine ⟨left, ?_, later⟩
  rw [found, length, readBody, if_neg (Nat.not_lt.mpr fits), filled]
  dsimp only
  rw [if_neg (Nat.lt_irrefl _)]

/-! ## All frames -/

/-- One read after the other, up to the first that finds no frame: the bodies, the error of the last
read if it failed, and what is left of the stream. -/
inductive Reads (max : Nat) :
    List Chunk → List (List UInt8) → Option FrameError → List Chunk → Prop where
  | done {source left : List Chunk} (found : read max source = (.ok none, left)) :
      Reads max source [] none left
  | failed {source left : List Chunk} {error : FrameError}
      (found : read max source = (.error error, left)) : Reads max source [] (some error) left
  | frame {source middle left : List Chunk} {body : List UInt8} {bodies : List (List UInt8)}
      {ending : Option FrameError} (found : read max source = (.ok (some body), middle))
      (later : Reads max middle bodies ending left) :
      Reads max source (body :: bodies) ending left

/-- What is left of a stream when its frames have been read: what comes after its end, but behind a
header that announces a body that is too long all that the stream has still to hand out. -/
def Leaves (max : Nat) (bytes : List UInt8) (bodies : List (List UInt8)) (stop : Stop)
    (after : List Chunk) (ending : Option FrameError) (left : List Chunk) : Prop :=
  match ending with
  | some (.oversized length _) =>
      ∃ frames head unread,
        bytes = frames ++ (head ++ unread) ∧ Splits max frames bodies none ∧
        head.length = Limits.frameHeader ∧ headerValue head = length ∧
        Hands left unread stop after
  | _ => left = after

variable {bodies : List (List UInt8)} {ending : Option FrameError}

theorem Reads.unique {left : List Chunk} (reads : Reads max source bodies ending left)
    {others : List (List UInt8)} {last : Option FrameError} {rest : List Chunk}
    (again : Reads max source others last rest) :
    others = bodies ∧ last = ending ∧ rest = left := by
  induction reads generalizing others last rest with
  | done found =>
    cases again with
    | done same => cases found.symm.trans same; exact ⟨rfl, rfl, rfl⟩
    | failed same | frame same _ => cases found.symm.trans same
  | failed found =>
    cases again with
    | failed same => cases found.symm.trans same; exact ⟨rfl, rfl, rfl⟩
    | done same | frame same _ => cases found.symm.trans same
  | frame found _ ih =>
    cases again with
    | frame same later =>
      cases found.symm.trans same
      obtain ⟨rfl, rfl, rfl⟩ := ih later
      exact ⟨rfl, rfl, rfl⟩
    | done same | failed same => cases found.symm.trans same

/-- The last read meets the end of the stream. -/
theorem Reads.of_stop {found : Except FrameError (Option (List UInt8))}
    (last : read max source = (stop.answer found, after))
    (ends : found = match ending with | none => .ok none | some error => .error error)
    (met : ∀ length limit, ending ≠ some (.oversized length limit)) :
    Reads max source [] (stop.ending ending) after := by
  subst ends
  cases stop with
  | closed =>
    cases ending with
    | none => exact .done last
    | some error => exact .failed last
  | failed text =>
    have failed : (Stop.failed text).ending ending = some (.io text) := by
      unfold Stop.ending
      split
      · next equal => cases equal
      · exact absurd rfl (met _ _)
      · next equal _ => cases equal; rfl
    rw [failed]
    exact .failed last

theorem reads_of_splits (splits : Splits max bytes bodies ending)
    (hands : Hands source bytes stop after) :
    ∃ left, Reads max source bodies (stop.ending ending) left ∧
      Leaves max bytes bodies stop after ending left := by
  induction splits generalizing source with
  | done => exact ⟨after, .of_stop (read_done hands) rfl fun _ _ => nofun, rfl⟩
  | @frame head body rest bodies ending whole length fits _ ih =>
    obtain ⟨middle, found, handed⟩ := read_frame hands whole length fits
    obtain ⟨left, reads, leaves⟩ := ih handed
    refine ⟨left, .frame found reads, ?_⟩
    unfold Leaves at leaves ⊢
    split at leaves
    · obtain ⟨frames, next, unread, rfl, clean, others⟩ := leaves
      refine ⟨head ++ (body ++ frames), next, unread, ?_,
        .frame whole length fits clean, others⟩
      simp only [List.append_assoc]
    · exact leaves
  | cutHeader nonempty short =>
    exact ⟨after, .of_stop (read_cutHeader hands nonempty short) rfl fun _ _ => nofun, rfl⟩
  | @oversized head rest whole exceeds =>
    obtain ⟨left, found, handed⟩ := read_oversized hands whole exceeds
    refine ⟨left, ?_, [], head, rest, rfl, .done, whole, rfl, handed⟩
    cases stop <;> exact .failed found
  | cutBody whole fits short =>
    exact ⟨after, .of_stop (read_cutBody hands whole fits short) rfl fun _ _ => nofun, rfl⟩

/-- Reads that are not too many for a limit are all made. -/
theorem readUpTo_of_reads {left : List Chunk} (reads : Reads max source bodies ending left)
    {limit : Nat} (enough : bodies.length < limit) :
    readUpTo max limit source = (bodies, ending) := by
  obtain ⟨limit, rfl⟩ := Nat.exists_eq_add_one_of_ne_zero (Nat.ne_zero_of_lt enough)
  induction reads generalizing limit with
  | done found => rw [readUpTo, found]
  | failed found => rw [readUpTo, found]
  | @frame source middle left body bodies ending found _ ih =>
    rw [List.length_cons] at enough
    obtain ⟨before, rfl⟩ := Nat.exists_eq_add_one_of_ne_zero (show limit ≠ 0 by omega)
    rw [readUpTo, found]
    dsimp only
    rw [ih before (by omega)]

/-- Reading a stream to its end finds how the bytes that it delivers split into frames. -/
theorem readAll_of_splits (splits : Splits max bytes bodies ending)
    (delivers : Delivers source bytes) : readAll max source = (bodies, ending) := by
  obtain ⟨after, hands⟩ := delivers.hands
  obtain ⟨left, reads, -⟩ := reads_of_splits splits hands
  exact readUpTo_of_reads reads
    (Nat.lt_succ_of_le (Nat.le_trans splits.length_le hands.length_le))

/-- However a stream is cut, what is read is what the bytes tell that it delivers. -/
theorem readAll_eq_split (max : Nat) (delivers : Delivers source bytes) :
    readAll max source = split max bytes := by
  obtain ⟨bodies, ending, splits⟩ := exists_splits max bytes
  rw [readAll_of_splits splits delivers, splits_iff.mp splits]

/-- However a stream is cut, reading one frame after the other finds how the bytes that it hands out
split into frames, and nothing else: the bodies of the whole frames, and then that there are no
more, or the error that the bytes end with. If the stream fails, that is what is found at its end
instead; and of a body that is too long nothing is read. -/
theorem reads_exactly (hands : Hands source bytes stop after) (max : Nat) :
    ∃ bodies ending left, Splits max bytes bodies ending ∧
      Reads max source bodies (stop.ending ending) left ∧
      Leaves max bytes bodies stop after ending left ∧
      ∀ others last rest, Reads max source others last rest →
        others = bodies ∧ last = stop.ending ending ∧ rest = left := by
  obtain ⟨bodies, ending, splits⟩ := exists_splits max bytes
  obtain ⟨left, reads, leaves⟩ := reads_of_splits splits hands
  exact ⟨bodies, ending, left, splits, reads, leaves, fun _ _ _ again => reads.unique again⟩

/-- A stream that fails inside the second of two frames, the first of which is empty. -/
theorem reads_exactly_interrupted :
    let source := [.interrupted, .bytes [0, 0], .bytes [0, 0, 0, 0, 0], .interrupted,
      .bytes [2, 7], .failure "reset", .bytes [8]]
    Hands source [0, 0, 0, 0, 0, 0, 0, 2, 7] (.failed "reset") [.bytes [8]] ∧
      Reads 5 source [[]] (some (.io "reset")) [.bytes [8]] := by
  intro source
  have hands : Hands source [0, 0, 0, 0, 0, 0, 0, 2, 7] (.failed "reset") [.bytes [8]] :=
    .interrupted (.piece 0 [0] (.piece 0 [0, 0, 0, 0] (.interrupted (.piece 2 [7]
      (.failed "reset" [.bytes [8]])))))
  have cut : Splits 5 ([0, 0, 0, 2] ++ [7]) [] (some (.truncated 2 1)) :=
    .cutBody rfl (by decide) (by decide)
  have actual : Splits 5 ([0, 0, 0, 0] ++ ([] ++ ([0, 0, 0, 2] ++ [7]))) [[]]
      (some (.truncated 2 1)) := .frame rfl rfl (Nat.zero_le 5) cut
  obtain ⟨bodies, ending, left, splits, reads, leaves, -⟩ := reads_exactly hands 5
  cases (splits_iff.mp splits).symm.trans (splits_iff.mp actual)
  cases (leaves : left = [.bytes [8]])
  exact ⟨hands, reads⟩

end Frame

end Tether
