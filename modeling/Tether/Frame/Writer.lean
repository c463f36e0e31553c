import Tether.Frame.Basic

/-!
# Writing frames to a stream

A sink takes the bytes of a write in part or as a whole. A write can be interrupted, which means
nothing. Writes fail once the sink has no room left, and flushes once it cannot be flushed any more;
neither comes back. A value whose frame would be longer than agreed is refused before a byte of it
is written.
-/

namespace Tether

/-- What a write to a sink meets. -/
inductive Portion where
  | interrupted
  /-- At most so many bytes more than one are taken. -/
  | upTo (more : Nat)
deriving DecidableEq, Repr

/-- A stream that bytes are written to. -/
structure Sink where
  /-- How many more bytes it takes before its writes fail; without a number there is no limit. -/
  room : Option Nat
  /-- How many more flushes succeed before they fail; without a number there is no limit. -/
  flushable : Option Nat
  /-- What the next writes meet. The writes after them are taken as a whole. -/
  portions : List Portion
  /-- What has been taken. -/
  taken : List UInt8
  /-- How many flushes have succeeded. -/
  flushes : Nat
  /-- What a write fails with. -/
  writeFailure : String
  /-- What a flush fails with. -/
  flushFailure : String
deriving DecidableEq, Repr

namespace Sink

/-- A sink with room for some bytes that takes every write as a whole as long as there is room. -/
def ofRoom (room : Option Nat) (failure : String) : Sink :=
  ⟨room, none, [], [], 0, failure, failure⟩

/-- A sink that takes everything. -/
def unlimited : Sink := ofRoom none ""

/-- How many bytes of a write of `length` bytes the sink takes if there is room for them. -/
def portion (sink : Sink) (length : Nat) : Nat :=
  match sink.portions with
  | .upTo more :: _ => min length (more + 1)
  | _ => length

/-- How many bytes of a write of `length` bytes the sink takes. -/
def accepts (sink : Sink) (length : Nat) : Nat :=
  match sink.room with
  | none => sink.portion length
  | some room => min (sink.portion length) room

/-- The sink after it took some bytes. -/
def take (sink : Sink) (bytes : List UInt8) : Sink :=
  { sink with
    room := sink.room.map (· - bytes.length)
    portions := sink.portions.drop 1
    taken := sink.taken ++ bytes }

/-- Writes bytes until all are taken or the sink fails, with at most `writes` writes. -/
def writeUpTo : Nat → List UInt8 → Sink → Bool × Sink
  | 0, bytes, sink => (bytes.isEmpty, sink)
  | writes + 1, bytes, sink =>
      if bytes = [] then (true, sink)
      else
        match sink.portions with
        | .interrupted :: rest => writeUpTo writes bytes { sink with portions := rest }
        | _ =>
            let count := sink.accepts bytes.length
            if count = 0 then (false, sink)
            else writeUpTo writes (bytes.drop count) (sink.take (bytes.take count))

/-- Writes bytes until all are taken or the sink fails; the result says which. -/
def writeAll (sink : Sink) (bytes : List UInt8) : Bool × Sink :=
  writeUpTo (bytes.length + sink.portions.length) bytes sink

/-- Flushes the sink; the result says whether that succeeds. -/
def flush (sink : Sink) : Bool × Sink :=
  match sink.flushable with
  | some 0 => (false, sink)
  | flushable =>
      (true, { sink with flushable := flushable.map (· - 1), flushes := sink.flushes + 1 })

end Sink

namespace Frame

/-- Writes the frame of a value and flushes the sink. -/
def write (max : Nat) (sink : Sink) (value : Json) : Except FrameError Unit × Sink :=
  match encode max value with
  | .error e => (.error e, sink)
  | .ok frame =>
      match sink.writeAll frame with
      | (false, sink) => (.error (.io sink.writeFailure), sink)
      | (true, sink) =>
          match sink.flush with
          | (false, sink) => (.error (.io sink.flushFailure), sink)
          | (true, sink) => (.ok (), sink)

/-- Writes values one after the other, whatever becomes of each; the results are in their order. -/
def writeEach (max : Nat) : List Json → Sink → List (Except FrameError Unit) × Sink
  | [], sink => ([], sink)
  | value :: rest, sink =>
      let (result, sink) := write max sink value
      let (results, sink) := writeEach max rest sink
      (result :: results, sink)

end Frame

end Tether
