import Tether.Frame.Basic

/-!
# Reading frames from a stream

A stream hands out its bytes in pieces. A read can be interrupted, which means nothing, or fail; a
read that hands out no bytes is the end of the stream as far as the reader is concerned, even if
later reads would find more.
-/

namespace Tether

/-- What one read of a stream finds. -/
inductive Chunk where
  | bytes (bytes : List UInt8)
  | interrupted
  | failure (text : String)
deriving DecidableEq, Repr

namespace Frame

/-- Reads until `wanted` bytes have been found or the stream ends. Bytes of a piece that are not
wanted stay in the stream. -/
def fill : List Chunk → Nat → Except FrameError (List UInt8) × List Chunk
  | source, 0 => (.ok [], source)
  | [], _ + 1 => (.ok [], [])
  | .interrupted :: rest, wanted + 1 => fill rest (wanted + 1)
  | .failure text :: rest, _ + 1 => (.error (.io text), rest)
  | .bytes [] :: rest, _ + 1 => (.ok [], rest)
  | .bytes (byte :: more) :: rest, wanted + 1 =>
      let bytes := byte :: more
      if wanted + 1 < bytes.length then
        (.ok (bytes.take (wanted + 1)), .bytes (bytes.drop (wanted + 1)) :: rest)
      else
        match fill rest (wanted + 1 - bytes.length) with
        | (.ok later, rest) => (.ok (bytes ++ later), rest)
        | (.error e, rest) => (.error e, rest)

/-- Reads a body whose length the header gives. -/
def readBody (max length : Nat) (source : List Chunk) :
    Except FrameError (Option (List UInt8)) × List Chunk :=
  if max < length then (.error (.oversized length max), source)
  else
    match fill source length with
    | (.error e, source) => (.error e, source)
    | (.ok body, source) =>
        if body.length < length then (.error (.truncated length body.length), source)
        else (.ok (some body), source)

/-- Reads the body of the next frame; nothing if the stream ends before the frame. -/
def read (max : Nat) (source : List Chunk) :
    Except FrameError (Option (List UInt8)) × List Chunk :=
  match fill source Limits.frameHeader with
  | (.error e, source) => (.error e, source)
  | (.ok header, source) =>
      if header = [] then (.ok none, source)
      else if header.length < Limits.frameHeader then
        (.error (.truncated Limits.frameHeader header.length), source)
      else readBody max (headerValue header) source

/-- How many reads a stream can serve at most before it is at its end. -/
def sourceSize : List Chunk → Nat
  | [] => 0
  | .bytes bytes :: rest => bytes.length + 1 + sourceSize rest
  | _ :: rest => 1 + sourceSize rest

/-- Reads frames until the stream ends or an error occurs, at most `limit` frames; the result is
their bodies and the error. -/
def readUpTo (max : Nat) : Nat → List Chunk → List (List UInt8) × Option FrameError
  | 0, _ => ([], none)
  | limit + 1, source =>
      match read max source with
      | (.error e, _) => ([], some e)
      | (.ok none, _) => ([], none)
      | (.ok (some body), source) =>
          let (bodies, ending) := readUpTo max limit source
          (body :: bodies, ending)

def readAll (max : Nat) (source : List Chunk) : List (List UInt8) × Option FrameError :=
  readUpTo max (sourceSize source + 1) source

end Frame

end Tether
