import Tether.Json.Parser
import Tether.Json.Printer
import Tether.Limits

/-!
# Frames

A frame is the length of its body in four bytes, the highest first, followed by the body: the
compact JSON text of one value. Both sides agree on the greatest length of a body.

`Frame.next` and `Frame.split` read frames from a byte string that is known as a whole; they say
what every reader of the stream has to find.
-/

namespace Tether

/-- What can go wrong with a frame. -/
inductive FrameError where
  /-- The stream failed. -/
  | io (text : String)
  /-- The body is longer than agreed. -/
  | oversized (length max : Nat)
  /-- The stream ended inside a frame. -/
  | truncated (expected got : Nat)
  /-- The body is no JSON text. -/
  | malformed
deriving DecidableEq, Repr

def FrameError.message : FrameError → String
  | .io text => "io error: " ++ text
  | .oversized length max =>
      "frame too large: max " ++ toString max ++ " got " ++ toString length
  | .truncated expected got =>
      "connection closed mid-frame: expected " ++ toString expected ++ " bytes, got "
        ++ toString got
  | .malformed => "malformed frame body"

namespace Frame

/-- The greatest number that four bytes can hold. -/
def maxHeader : Nat := Nat.pow 2 32 - 1

/-- A number below 2³² in four bytes, the highest first. -/
def header (n : Nat) : List UInt8 :=
  [UInt8.ofNat (n / 16777216), UInt8.ofNat (n / 65536), UInt8.ofNat (n / 256), UInt8.ofNat n]

/-- The number in some bytes, the highest first. -/
def headerValue (bytes : List UInt8) : Nat :=
  bytes.foldl (fun n byte => 256 * n + byte.toNat) 0

/-- The frame of a body. A length that four bytes cannot hold counts as the greatest one. -/
def ofBody (max : Nat) (body : List UInt8) : Except FrameError (List UInt8) :=
  let length := min body.length maxHeader
  if max < length then .error (.oversized length max) else .ok (header length ++ body)

def encode (max : Nat) (value : Json) : Except FrameError (List UInt8) :=
  ofBody max value.toBytes

def decodeBody (body : List UInt8) : Except FrameError Json :=
  match Json.ofBytes? body with
  | some value => .ok value
  | none => .error .malformed

/-- The body of the first frame of a byte string and what follows the frame; nothing if the string
is empty. -/
def next (max : Nat) (bytes : List UInt8) :
    Except FrameError (Option (List UInt8 × List UInt8)) :=
  if bytes = [] then .ok none
  else if bytes.length < Limits.frameHeader then
    .error (.truncated Limits.frameHeader bytes.length)
  else
    let length := headerValue (bytes.take Limits.frameHeader)
    let rest := bytes.drop Limits.frameHeader
    if max < length then .error (.oversized length max)
    else if rest.length < length then .error (.truncated length rest.length)
    else .ok (some (rest.take length, rest.drop length))

/-- The bodies of the frames at the head of a byte string, at most `limit` of them, and the error
that ends them. -/
def splitUpTo (max : Nat) : Nat → List UInt8 → List (List UInt8) × Option FrameError
  | 0, _ => ([], none)
  | limit + 1, bytes =>
      match next max bytes with
      | .error e => ([], some e)
      | .ok none => ([], none)
      | .ok (some (body, rest)) =>
          let (bodies, ending) := splitUpTo max limit rest
          (body :: bodies, ending)

/-- The bodies of all frames of a byte string, and the error that ends them if the string does not
end with a frame. -/
def split (max : Nat) (bytes : List UInt8) : List (List UInt8) × Option FrameError :=
  splitUpTo max (bytes.length + 1) bytes

end Frame

end Tether
