import Mathlib.Data.List.Induction
import Tether.Proofs.Frame.Delivery

/-!
# Only whole frames in a stream that does not fail

A sink with room for a number of bytes takes just as many of the bytes that it is given, in whatever
portions it takes them (`Sink.writeUpTo_eq`). So it takes from the frames of values what there is
room for, and is flushed after each frame that it has taken as a whole (`Keeps`). Values are written
as long as it has room for the frames of all that fit, and can be flushed after each of them
(`Survives`). A value that does not fit leaves no trace, and only the last frame in the sink can be
torn, which then was answered with the failure of a write (`write_orderly`).
-/

namespace Tether

/-! ## What a sink takes -/

namespace Sink

/-- Whether there is room for so many bytes. -/
def Holds (room : Option Nat) (length : Nat) : Prop :=
  ∀ limit ∈ room, length ≤ limit

instance (room : Option Nat) (length : Nat) : Decidable (Holds room length) :=
  match room with
  | none => isTrue (fun _ impossible => nomatch impossible)
  | some limit => decidable_of_iff (length ≤ limit) (by simp [Holds])

/-- The bytes of a string that there is room for. -/
def within (room : Option Nat) (bytes : List UInt8) : List UInt8 :=
  match room with
  | none => bytes
  | some limit => bytes.take limit

variable {room : Option Nat} {sink : Sink} {bytes more : List UInt8} {writes : Nat}

theorem Holds.of_le {length shorter : Nat} (holds : Holds room length) (le : shorter ≤ length) :
    Holds room shorter :=
  fun limit known => Nat.le_trans le (holds limit known)

/-- Room for a sum is room for the first part, and for the second in what the first leaves. -/
theorem holds_add (room : Option Nat) (length more : Nat) :
    Holds room (length + more) ↔ Holds room length ∧ Holds (room.map (· - length)) more := by
  cases room with
  | none => simp [Holds]
  | some limit =>
    simp only [Holds, Option.map_some, Option.mem_some_iff, forall_eq']
    omega

/-- What room is left for, after some bytes, there was room for behind these bytes. -/
theorem holds_sub_iff {length more : Nat} (positive : 0 < more) :
    Holds (room.map (· - length)) more ↔ Holds room (length + more) := by
  cases room with
  | none => simp [Holds]
  | some limit =>
    simp only [Holds, Option.map_some, Option.mem_some_iff, forall_eq']
    omega

theorem within_of_holds (holds : Holds room bytes.length) : within room bytes = bytes := by
  cases room with
  | none => rfl
  | some limit => exact List.take_of_length_le (holds limit rfl)

theorem within_append (room : Option Nat) (bytes more : List UInt8) :
    within room (bytes ++ more) =
      within room bytes ++ within (room.map (· - bytes.length)) more := by
  cases room with
  | none => rfl
  | some limit => exact List.take_append

@[simp]
theorem within_full (bytes : List UInt8) : within (some 0) bytes = [] := rfl

theorem within_isPrefix (room : Option Nat) (bytes : List UInt8) : within room bytes <+: bytes := by
  cases room with
  | none => exact List.prefix_rfl
  | some limit => exact List.take_prefix limit bytes

/-- A sink that some bytes have been given to, of which it has taken those that it has room for. -/
def given (sink : Sink) (portions : List Portion) (bytes : List UInt8) : Sink :=
  { sink with
    room := sink.room.map (· - bytes.length)
    portions := portions
    taken := sink.taken ++ within sink.room bytes }

theorem given_nil (sink : Sink) : sink.given sink.portions [] = sink := by
  obtain ⟨room, flushable, portions, taken, flushes, write, flush⟩ := sink
  cases room <;> simp [given, within]

theorem given_given (sink : Sink) (first last : List Portion) (bytes more : List UInt8) :
    (sink.given first bytes).given last more = sink.given last (bytes ++ more) := by
  obtain ⟨room, flushable, portions, taken, flushes, write, flush⟩ := sink
  simp only [given, within_append, List.append_assoc, List.length_append, Option.map_map,
    Sink.mk.injEq, and_true]
  congr 1
  funext limit
  exact Nat.sub_sub limit bytes.length more.length

theorem take_eq_given (holds : Holds sink.room bytes.length) :
    sink.take bytes = sink.given (sink.portions.drop 1) bytes := by
  rw [take, given, within_of_holds holds]

theorem given_of_full (full : sink.room = some 0) (bytes : List UInt8) :
    sink.given sink.portions bytes = sink := by
  obtain ⟨room, flushable, portions, taken, flushes, write, flush⟩ := sink
  obtain rfl : room = some 0 := full
  simp [given]

/-- One write takes at most what there is of the bytes and what there is room for. -/
theorem accepts_le (sink : Sink) (length : Nat) :
    sink.accepts length ≤ length ∧ Holds sink.room (sink.accepts length) := by
  have le := sink.portion_le length
  unfold accepts
  constructor
  · split <;> omega
  · intro limit known
    rw [Option.mem_def.mp known]
    exact Nat.min_le_right _ _

/-- A write that takes nothing of some bytes has met the end of the room. -/
theorem room_of_accepts_zero {length : Nat} (positive : 0 < length)
    (nothing : sink.accepts length = 0) : sink.room = some 0 := by
  have some := sink.portion_pos positive
  unfold accepts at nothing
  split at nothing
  · exact absurd nothing (Nat.ne_of_gt some)
  · next limit known => rw [known, show limit = 0 by omega]

/-- Whatever it takes at a time, a sink takes the bytes that it has room for, and it fails unless
these are all. -/
theorem writeUpTo_eq (sink : Sink) (enough : bytes.length + sink.portions.length ≤ writes) :
    ∃ portions, writeUpTo writes bytes sink =
      (decide (Holds sink.room bytes.length), sink.given portions bytes) := by
  have done (sink : Sink) : (true, sink) =
      (decide (Holds sink.room 0), sink.given sink.portions []) := by
    have holds : Holds sink.room 0 := fun limit _ => Nat.zero_le limit
    rw [decide_eq_true holds, given_nil]
  induction writes generalizing bytes sink with
  | zero =>
    obtain rfl : bytes = [] := List.length_eq_zero_iff.mp (by omega)
    exact ⟨sink.portions, done sink⟩
  | succ writes ih =>
    rw [writeUpTo]
    split
    · next empty =>
      subst empty
      exact ⟨sink.portions, done sink⟩
    next nonempty =>
    have positive : 0 < bytes.length := List.length_pos_iff.mpr nonempty
    split
    · next rest portions =>
      rw [portions, List.length_cons] at enough
      exact ih { sink with portions := rest } (Nat.le_of_succ_le_succ enough)
    dsimp only
    split
    · next nothing =>
      have full := room_of_accepts_zero positive nothing
      have fails : ¬Holds sink.room bytes.length := fun holds =>
        Nat.not_le.mpr positive (holds 0 full)
      exact ⟨sink.portions, by rw [decide_eq_false fails, given_of_full full]⟩
    · next something =>
      -- The first write takes a part that there is room for; the others are given the rest.
      obtain ⟨le, holds⟩ := sink.accepts_le bytes.length
      generalize sink.accepts bytes.length = count at something le holds ⊢
      have length : (bytes.take count).length = count := List.length_take_of_le le
      have whole := List.take_append_drop count bytes
      rw [← length] at holds
      have fewer : (bytes.drop count).length + (sink.take (bytes.take count)).portions.length ≤
          writes := by
        simp only [take, List.length_drop]
        omega
      obtain ⟨portions, later⟩ := ih (sink.take (bytes.take count)) fewer
      refine ⟨portions, ?_⟩
      rw [later, take_eq_given holds, given_given, whole]
      congr 1
      have both := holds_add sink.room (bytes.take count).length (bytes.drop count).length
      rw [← List.length_append, whole] at both
      exact decide_eq_decide.mpr (by rw [both, and_iff_right holds]; rfl)

/-- While bytes are written, a sink has taken the first ones of those that it has room for. -/
theorem taken_while_writing (sink : Sink) (bytes : List UInt8) (writes : Nat) :
    ∃ cut, cut <+: within sink.room bytes ∧
      (writeUpTo writes bytes sink).2.taken = sink.taken ++ cut := by
  have nothing (sink : Sink) (bytes : List UInt8) :
      ∃ cut, cut <+: within sink.room bytes ∧ sink.taken = sink.taken ++ cut :=
    ⟨[], List.nil_prefix, (List.append_nil _).symm⟩
  induction writes generalizing bytes sink with
  | zero => exact nothing sink bytes
  | succ writes ih =>
    rw [writeUpTo]
    split
    · exact nothing sink bytes
    split
    · next rest _ => exact ih { sink with portions := rest } bytes
    dsimp only
    split
    · exact nothing sink bytes
    · obtain ⟨le, holds⟩ := sink.accepts_le bytes.length
      generalize sink.accepts bytes.length = count at le holds ⊢
      rw [← List.length_take_of_le le] at holds
      obtain ⟨cut, begins, taken⟩ := ih (sink.take (bytes.take count)) (bytes.drop count)
      refine ⟨bytes.take count ++ cut, ?_, by rw [taken, take, List.append_assoc]⟩
      have parts := within_append sink.room (bytes.take count) (bytes.drop count)
      rw [List.take_append_drop, within_of_holds holds] at parts
      rw [parts]
      exact (List.prefix_append_right_inj _).mpr begins

/-- A flush succeeds as long as there is one left, and fails from then on. -/
theorem flush_eq (sink : Sink) :
    sink.flush =
      (decide (Holds sink.flushable 1),
        { sink with
          flushable := sink.flushable.map (· - 1)
          flushes := if Holds sink.flushable 1 then sink.flushes + 1 else sink.flushes }) := by
  obtain ⟨room, flushable, portions, taken, flushes, write, flush⟩ := sink
  unfold Sink.flush
  match flushable with
  | none => simp [Holds]
  | some 0 => simp [Holds]
  | some (left + 1) => simp [Holds]

end Sink

namespace Frame

variable {max : Nat} {value : Json} {values : List Json} {sink start : Sink}

/-! ## Writing one value -/

/-- A value that does not fit is refused, and the sink is not touched. -/
theorem write_refused (limit : max < maxHeader) (long : ¬Fits max value) (sink : Sink) :
    write max sink value =
      (.error (.oversized (min value.toBytes.length maxHeader) max), sink) := by
  have exceeds : max < min value.toBytes.length maxHeader :=
    Nat.lt_min.mpr ⟨Nat.not_le.mp long, limit⟩
  rw [write, encode, ofBody, if_pos exceeds]

/-- A value that fits is written if there is room for its frame, and then flushed if that is still
possible. -/
theorem write_fitting (limit : max < maxHeader) (fits : Fits max value) (sink : Sink) :
    ∃ portions,
      let given := sink.given portions (framed value.toBytes)
      write max sink value =
        if Sink.Holds sink.room (framed value.toBytes).length then
          (if Sink.Holds sink.flushable 1 then .ok () else .error (.io sink.flushFailure),
            given.flush.2)
        else (.error (.io sink.writeFailure), given) := by
  obtain ⟨portions, taken⟩ := sink.writeUpTo_eq (Nat.le_refl (_ + _))
  refine ⟨portions, ?_⟩
  have flushed := (sink.given portions (framed value.toBytes)).flush_eq
  rw [write, encode, ofBody_ok (Nat.le_of_lt limit) fits]
  dsimp only
  rw [Sink.writeAll, taken]
  by_cases holds : Sink.Holds sink.room (framed value.toBytes).length
  · rw [decide_eq_true holds, if_pos holds]
    dsimp only
    rw [flushed, show (sink.given portions _).flushable = sink.flushable from rfl]
    by_cases flushes : Sink.Holds sink.flushable 1
    · rw [decide_eq_true flushes, if_pos flushes, if_pos flushes]
    · rw [decide_eq_false flushes, if_neg flushes, if_neg flushes]
      rfl
  · rw [decide_eq_false holds, if_neg holds]
    rfl

/-! ## Writing values one after the other -/

/-- The values that fit a frame. -/
def fitting (max : Nat) (values : List Json) : List Json :=
  values.filter fun value => decide (Fits max value)

/-- The frames of the values that fit, in their order. -/
def frames (max : Nat) (values : List Json) : List UInt8 :=
  (fitting max values).flatMap fun value => framed value.toBytes

theorem fitting_append (values more : List Json) :
    fitting max (values ++ more) = fitting max values ++ fitting max more :=
  List.filter_append values more

theorem frames_append (values more : List Json) :
    frames max (values ++ more) = frames max values ++ frames max more := by
  rw [frames, fitting_append, List.flatMap_append]
  rfl

theorem fitting_concat_of_fits (fits : Fits max value) :
    fitting max (values ++ [value]) = fitting max values ++ [value] := by
  simp [fitting, fits]

theorem fitting_concat_of_long (long : ¬Fits max value) :
    fitting max (values ++ [value]) = fitting max values := by
  simp [fitting, long]

theorem frames_concat_of_fits (fits : Fits max value) :
    frames max (values ++ [value]) = frames max values ++ framed value.toBytes := by
  simp [frames, fitting_concat_of_fits fits]

/-- The sink after some values have been written to it. -/
def sinkAfter (max : Nat) (start : Sink) (values : List Json) : Sink :=
  (writeEach max values start).2

/-- What has been answered to some values. -/
def answers (max : Nat) (start : Sink) (values : List Json) : List (Except FrameError Unit) :=
  (writeEach max values start).1

theorem writeEach_append (values more : List Json) (start : Sink) :
    writeEach max (values ++ more) start =
      (answers max start values ++ answers max (sinkAfter max start values) more,
        sinkAfter max (sinkAfter max start values) more) := by
  induction values generalizing start with
  | nil => rfl
  | cons value values ih =>
    rw [List.cons_append, writeEach]
    dsimp only
    rw [ih]
    rfl

theorem answers_length (max : Nat) (values : List Json) (start : Sink) :
    (answers max start values).length = values.length := by
  induction values generalizing start with
  | nil => rfl
  | cons value values ih => exact congrArg (· + 1) (ih _)

/-- What is answered to a value does not depend on those that follow. -/
theorem answers_at (before : List Json) (value : Json) (after : List Json) :
    (answers max start (before ++ value :: after))[before.length]? =
      some (write max (sinkAfter max start before) value).1 := by
  have length := answers_length max before start
  rw [answers, writeEach_append, List.getElem?_append_right (Nat.le_of_eq length), length,
    Nat.sub_self]
  rfl

theorem sinkAfter_append (values more : List Json) :
    sinkAfter max start (values ++ more) = sinkAfter max (sinkAfter max start values) more := by
  rw [sinkAfter, writeEach_append]

theorem sinkAfter_concat (values : List Json) (value : Json) :
    sinkAfter max start (values ++ [value]) = (write max (sinkAfter max start values) value).2 :=
  sinkAfter_append values [value]

/-! ## What the sink holds -/

/-- Whether a sink does not fail while some values are written to it: it has room for the frames of
those that fit, and can be flushed after each of them. -/
def Survives (max : Nat) (start : Sink) (values : List Json) : Prop :=
  Sink.Holds start.room (frames max values).length ∧
    Sink.Holds start.flushable (fitting max values).length

instance : Decidable (Survives max start values) :=
  inferInstanceAs (Decidable (_ ∧ _))

theorem Survives.of_append {more : List Json} (survives : Survives max start (values ++ more)) :
    Survives max start values := by
  obtain ⟨room, flushable⟩ := survives
  rw [frames_append, List.length_append] at room
  rw [fitting_append, List.length_append] at flushable
  exact ⟨room.of_le (Nat.le_add_right _ _), flushable.of_le (Nat.le_add_right _ _)⟩

/-- A sink that some values have been written to. It has taken what there is room for of their
frames. As long as that is all of them, it has been told to flush after each one. -/
structure Keeps (max : Nat) (start : Sink) (values : List Json) (sink : Sink) : Prop where
  room : sink.room = start.room.map (· - (frames max values).length)
  flushable (whole : Sink.Holds start.room (frames max values).length) :
    sink.flushable = start.flushable.map (· - (fitting max values).length)
  taken : sink.taken = start.taken ++ Sink.within start.room (frames max values)
  writeFailure : sink.writeFailure = start.writeFailure
  flushFailure : sink.flushFailure = start.flushFailure

/-- A value that does not fit makes no difference. -/
theorem Keeps.refused (keeps : Keeps max start values sink) (long : ¬Fits max value) :
    Keeps max start (values ++ [value]) sink := by
  have fitting := @fitting_concat_of_long max value values long
  have frames : frames max (values ++ [value]) = frames max values := by
    rw [Frame.frames, fitting]
    rfl
  refine ⟨?_, ?_, ?_, keeps.writeFailure, keeps.flushFailure⟩
  · rw [frames]
    exact keeps.room
  · rw [frames, fitting]
    exact keeps.flushable
  · rw [frames]
    exact keeps.taken

/-- Of one more frame the sink takes what there is room for behind the others. -/
theorem Keeps.taken_concat (keeps : Keeps max start values sink) (fits : Fits max value) :
    Sink.within start.room (frames max (values ++ [value])) =
      Sink.within start.room (frames max values) ++
        Sink.within sink.room (framed value.toBytes) := by
  rw [frames_concat_of_fits fits, Sink.within_append, keeps.room]

/-- What a value that fits is answered, and what it leaves. -/
structure Answered (max : Nat) (start : Sink) (values : List Json) (value : Json) (sink : Sink)
    (result : Except FrameError Unit × Sink) : Prop where
  keeps : Keeps max start (values ++ [value]) result.2
  answer : result.1 =
    if Survives max start (values ++ [value]) then .ok ()
    else if Sink.Holds start.room (frames max (values ++ [value])).length then
      .error (.io start.flushFailure)
    else .error (.io start.writeFailure)
  flushes : result.2.flushes =
    if Survives max start (values ++ [value]) then sink.flushes + 1 else sink.flushes

theorem framed_length_pos (body : List UInt8) : 0 < (framed body).length :=
  List.length_pos_iff.mpr nofun

/-- One more value that fits meets a failure of the write, a failure of the flush, or none. -/
theorem Keeps.answered (keeps : Keeps max start values sink) (limit : max < maxHeader)
    (fits : Fits max value) : Answered max start values value sink (write max sink value) := by
  have length : (frames max (values ++ [value])).length =
      (frames max values).length + (framed value.toBytes).length := by
    rw [frames_concat_of_fits fits, List.length_append]
  have room : Sink.Holds sink.room (framed value.toBytes).length ↔
      Sink.Holds start.room (frames max (values ++ [value])).length := by
    rw [keeps.room, Sink.holds_sub_iff (framed_length_pos _), length]
  have left : sink.room.map (· - (framed value.toBytes).length) =
      start.room.map (· - (frames max (values ++ [value])).length) := by
    rw [keeps.room, Option.map_map, length]
    congr 1
    funext limit
    exact Nat.sub_sub limit _ _
  have taken : sink.taken ++ Sink.within sink.room (framed value.toBytes) =
      start.taken ++ Sink.within start.room (frames max (values ++ [value])) := by
    rw [keeps.taken_concat fits, keeps.taken, List.append_assoc]
  obtain ⟨portions, written⟩ := write_fitting limit fits sink
  rw [written]
  by_cases whole : Sink.Holds start.room (frames max (values ++ [value])).length
  · have before := keeps.flushable (whole.of_le (length ▸ Nat.le_add_right _ _))
    have count : (fitting max (values ++ [value])).length = (fitting max values).length + 1 := by
      rw [fitting_concat_of_fits fits, List.length_append, List.length_singleton]
    have flushes : Sink.Holds sink.flushable 1 ↔ Survives max start (values ++ [value]) := by
      rw [before, Sink.holds_sub_iff Nat.one_pos, ← count]
      exact (and_iff_right whole).symm
    rw [if_pos (room.mpr whole), Sink.flush_eq]
    refine ⟨⟨left, fun _ => ?_, taken, keeps.writeFailure, keeps.flushFailure⟩, ?_, ?_⟩
    · show sink.flushable.map _ = _
      rw [before, Option.map_map, count]
      rfl
    · simp only [flushes, if_pos whole, keeps.flushFailure]
    · exact if_congr flushes rfl rfl
  · have fails : ¬Survives max start (values ++ [value]) := fun survives => whole survives.1
    rw [if_neg fun holds => whole (room.mp holds)]
    refine ⟨⟨left, fun holds => absurd holds whole, taken, keeps.writeFailure,
      keeps.flushFailure⟩, ?_, ?_⟩
    · rw [if_neg fails, if_neg whole, keeps.writeFailure]
    · rw [if_neg fails]
      rfl

/-- One more value is written. -/
theorem Keeps.next (keeps : Keeps max start values sink) (limit : max < maxHeader) (value : Json) :
    Keeps max start (values ++ [value]) (write max sink value).2 := by
  by_cases fits : Fits max value
  · exact (keeps.answered limit fits).keeps
  · rw [write_refused limit fits]
    exact keeps.refused fits

theorem keeps_start (max : Nat) (start : Sink) : Keeps max start [] start where
  room := by simp [frames, fitting]
  flushable _ := by simp [fitting]
  taken := by
    have nothing : Sink.within start.room [] = [] := List.prefix_nil.mp (Sink.within_isPrefix _ _)
    rw [show frames max [] = [] from rfl, nothing, List.append_nil]
  writeFailure := rfl
  flushFailure := rfl

/-- What a sink holds when some values have been written to it. -/
theorem keeps_sinkAfter (limit : max < maxHeader) (start : Sink) (values : List Json) :
    Keeps max start values (sinkAfter max start values) := by
  induction values using List.reverseRecOn with
  | nil => exact keeps_start max start
  | append_singleton values value ih =>
    rw [sinkAfter_concat]
    exact ih.next limit value

/-! ## The whole stream -/

theorem frames_isPrefix (values more : List Json) :
    frames max values <+: frames max (values ++ more) := by
  rw [frames_append]
  exact List.prefix_append _ _

theorem Keeps.taken_isPrefix (keeps : Keeps max start values sink) (fresh : start.taken = [])
    (more : List Json) : sink.taken <+: frames max (values ++ more) := by
  rw [keeps.taken, fresh]
  exact (Sink.within_isPrefix _ _).trans (frames_isPrefix values more)

/-- While the frame of a value is written, it follows the frames of the values before it. -/
theorem Keeps.continues (keeps : Keeps max start values sink) (fresh : start.taken = [])
    (fits : Fits max value) (writes : Nat) (more : List Json) :
    (sink.writeUpTo writes (framed value.toBytes)).2.taken <+:
      frames max (values ++ [value] ++ more) := by
  obtain ⟨cut, begins, taken⟩ := sink.taken_while_writing (framed value.toBytes) writes
  have inside : Sink.within start.room (frames max values) ++ cut <+:
      Sink.within start.room (frames max (values ++ [value])) := by
    rw [keeps.taken_concat fits]
    exact (List.prefix_append_right_inj _).mpr begins
  rw [taken, keeps.taken, fresh]
  exact (inside.trans (Sink.within_isPrefix _ _)).trans (frames_isPrefix _ more)

/-- A value that is written has its whole frame in the sink. -/
theorem Keeps.written (keeps : Keeps max start values sink) (limit : max < maxHeader)
    (fresh : start.taken = []) (accepted : (write max sink value).1 = .ok ()) :
    Fits max value ∧
      (write max sink value).2.taken = frames max values ++ framed value.toBytes ∧
      (write max sink value).2.flushes = sink.flushes + 1 := by
  by_cases fits : Fits max value
  · obtain ⟨after, answer, flushes⟩ := keeps.answered limit fits
    have survives : Survives max start (values ++ [value]) := by
      by_contra fails
      rw [accepted, if_neg fails] at answer
      split at answer <;> cases answer
    rw [if_pos survives] at flushes
    refine ⟨fits, ?_, flushes⟩
    rw [after.taken, fresh, Sink.within_of_holds survives.1, frames_concat_of_fits fits]
    rfl
  · rw [write_refused limit fits] at accepted
    cases accepted

/-- A value that meets a failure of the sink has not been survived. -/
theorem Keeps.failed (keeps : Keeps max start values sink) (limit : max < maxHeader)
    {text : String} (fails : (write max sink value).1 = .error (.io text)) :
    (write max sink value).2.flushes = sink.flushes ∧
      ¬Survives max start (values ++ [value]) := by
  by_cases fits : Fits max value
  · obtain ⟨-, answer, flushes⟩ := keeps.answered limit fits
    by_cases survives : Survives max start (values ++ [value])
    · rw [fails, if_pos survives] at answer
      cases answer
    · rw [if_neg survives] at flushes
      exact ⟨flushes, survives⟩
  · rw [write_refused limit fits] at fails
    cases fails

/-- What a sink has not survived ends all writing to it. -/
theorem Keeps.fails_of_not_survives {more : List Json}
    (keeps : Keeps max start (values ++ more) sink) (limit : max < maxHeader)
    (fails : ¬Survives max start values) (fits : Fits max value) :
    ∃ text, (write max sink value).1 = .error (.io text) := by
  have after : ¬Survives max start (values ++ more ++ [value]) :=
    fun survives => fails survives.of_append.of_append
  rw [(keeps.answered limit fits).answer, if_neg after]
  split
  · exact ⟨_, rfl⟩
  · exact ⟨_, rfl⟩

/-- What holds of a sink, fresh at the start, when a value is written to it after some others and
before some more. -/
structure Orderly (max : Nat) (start : Sink) (before : List Json) (value : Json)
    (after : List Json) : Prop where
  /-- The answer does not depend on what is written later. -/
  answer : (answers max start (before ++ value :: after))[before.length]? =
    some (write max (sinkAfter max start before) value).1
  /-- Before the value is written, the sink holds a beginning of the frames of all values. -/
  begins : (sinkAfter max start before).taken <+: frames max (before ++ value :: after)
  /-- So it does after each of the writes that the frame takes. -/
  continues (writes : Nat) (fits : Fits max value) :
    ((sinkAfter max start before).writeUpTo writes (framed value.toBytes)).2.taken <+:
      frames max (before ++ value :: after)
  /-- And so it does when the value has been answered. -/
  ends : (sinkAfter max start (before ++ [value])).taken <+: frames max (before ++ value :: after)
  /-- A value that does not fit leaves the sink as it is. -/
  refused (long : ¬Fits max value) :
    write max (sinkAfter max start before) value =
      (.error (.oversized (min value.toBytes.length maxHeader) max), sinkAfter max start before)
  /-- A value that fits is written if the sink survives it. Otherwise a write fails if there is no
  room for the frame behind those of the others, and the flush fails if there is. -/
  answered (fits : Fits max value) :
    (write max (sinkAfter max start before) value).1 =
      if Survives max start (before ++ [value]) then .ok ()
      else if Sink.Holds start.room (frames max (before ++ [value])).length then
        .error (.io start.flushFailure)
      else .error (.io start.writeFailure)
  /-- A value that is written has its frame in the sink, behind those of the others, and is
  flushed. -/
  written (accepted : (write max (sinkAfter max start before) value).1 = .ok ()) :
    Fits max value ∧
      (sinkAfter max start (before ++ [value])).taken =
        frames max before ++ framed value.toBytes ∧
      (sinkAfter max start (before ++ [value])).flushes = (sinkAfter max start before).flushes + 1
  /-- A value that meets a failure of the sink is not flushed, and all later ones that fit meet a
  failure too. -/
  failed {text : String}
    (fails : (write max (sinkAfter max start before) value).1 = .error (.io text)) :
    (sinkAfter max start (before ++ [value])).flushes = (sinkAfter max start before).flushes ∧
      ∀ between next, Fits max next →
        ∃ text, (write max (sinkAfter max start (before ++ value :: between)) next).1 =
          .error (.io text)

/-- Whatever portions a sink takes and wherever it fails, in a write or in a flush: it holds a
beginning of the frames of the values that fit, whole frames except perhaps for the last one.
Nothing of the other values is in it, and they do not disturb those that follow. -/
theorem write_orderly (limit : max ≤ Limits.maxFrame) (fresh : start.taken = [])
    (before : List Json) (value : Json) (after : List Json) :
    Orderly max start before value after := by
  have limit : max < maxHeader := Nat.lt_of_le_of_lt limit (by decide)
  have keeps := keeps_sinkAfter limit start before
  have more (between : List Json) :
      before ++ value :: between = before ++ [value] ++ between := by
    rw [List.append_assoc, List.singleton_append]
  refine ⟨answers_at before value after, keeps.taken_isPrefix fresh _, fun writes fits => ?_, ?_,
    fun long => write_refused limit long _, fun fits => (keeps.answered limit fits).answer,
    fun accepted => ?_, fun fails => ?_⟩
  · rw [more]
    exact keeps.continues fresh fits writes after
  · rw [more after]
    exact (keeps_sinkAfter limit start _).taken_isPrefix fresh after
  · rw [sinkAfter_concat]
    exact keeps.written limit fresh accepted
  · obtain ⟨flushed, lost⟩ := keeps.failed limit fails
    rw [sinkAfter_concat]
    refine ⟨flushed, fun between next fits => ?_⟩
    rw [more]
    exact (keeps_sinkAfter limit start _).fails_of_not_survives limit lost fits

/-- The second of four values is too long. One sink has room for eleven bytes, takes them in
portions of one, three and then as they come, and is interrupted in between: the frame of the third
value is torn. Another sink can be flushed once: it takes all frames, but the third value and the
fourth are answered with the failure of the flush. -/
theorem write_orderly_failures :
    let values := [Json.null, .str "long", .bool true, .null]
    let small : Sink := ⟨some 11, none, [.upTo 0, .interrupted, .upTo 2], [], 0,
      "reset", "closed"⟩
    let brittle : Sink := ⟨none, some 1, [], [], 0, "reset", "closed"⟩
    (writeEach 4 values small =
        ([.ok (), .error (.oversized 6 4), .error (.io "reset"), .error (.io "reset")],
          ⟨some 0, none, [], [0, 0, 0, 4, 110, 117, 108, 108, 0, 0, 0], 1,
            "reset", "closed"⟩) ∧
      Orderly 4 small [.null, .str "long"] (.bool true) [.null]) ∧
    writeEach 4 values brittle =
        ([.ok (), .error (.oversized 6 4), .error (.io "closed"), .error (.io "closed")],
          ⟨none, some 0, [],
            [0, 0, 0, 4, 110, 117, 108, 108, 0, 0, 0, 4, 116, 114, 117, 101,
              0, 0, 0, 4, 110, 117, 108, 108], 1, "reset", "closed"⟩) ∧
      Orderly 4 brittle [.null, .str "long"] (.bool true) [.null] := by
  intro values small brittle
  exact ⟨⟨by decide, write_orderly (by decide) rfl _ _ _⟩, by decide,
    write_orderly (by decide) rfl _ _ _⟩

end Frame

end Tether
