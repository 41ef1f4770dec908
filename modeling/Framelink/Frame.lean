import Framelink.Checksum

/-!
# Frames

A frame is a payload followed by a trailer of two octets, the payload's
checksum in little-endian order.  A frame is read back with `split?`, built
with `append` or, where room for the trailer is reserved, with `seal?`, and
tested with `accepts`.
-/

namespace Framelink
namespace Frame

open Checksum

/-- Number of octets in a trailer. -/
def trailerLength : Nat := 2

/-- The trailer that holds a checksum, low octet first. -/
def trailer (checksum : UInt16) : Bytes :=
  [checksum.toUInt8, (checksum >>> 8).toUInt8]

@[simp] theorem length_trailer (checksum : UInt16) :
    (trailer checksum).length = trailerLength := rfl

/-- The checksum whose trailer has these two octets. -/
def trailerValue (low high : UInt8) : UInt16 :=
  low.toUInt16 ||| (high.toUInt16 <<< 8)

/-- Payload and trailer value of a frame; nothing shorter than a trailer has them. -/
def split? (frame : Bytes) : Option (Bytes × UInt16) :=
  match frame.drop (frame.length - trailerLength) with
  | [low, high] => some (frame.take (frame.length - trailerLength), trailerValue low high)
  | _ => none

/-- The payload with its trailer behind it. -/
def append (engine : Engine) (payload : Bytes) : Bytes :=
  payload ++ trailer (engine.checksum payload)

/-- The frame with its last two octets replaced by the trailer of the rest, or
nothing if there is no room for a trailer. -/
def seal? (engine : Engine) (frame : Bytes) : Option Bytes :=
  if frame.length < trailerLength then none
  else some (append engine (frame.take (frame.length - trailerLength)))

/-- Seal a buffer where it is; says whether there is room for a trailer, without which
the buffer stays as it is. -/
def sealInPlace (engine : Engine) (buffer : Bytes) : Bool × Bytes :=
  match seal? engine buffer with
  | some frame => (true, frame)
  | none => (false, buffer)

/-- Whether the last two octets are the trailer of the rest. -/
def accepts (engine : Engine) (frame : Bytes) : Bool :=
  match split? frame with
  | some (payload, value) => engine.checksum payload == value
  | none => false

/-- A checksum that was expected and the one that was found instead. -/
structure Mismatch where
  expected : UInt16
  actual : UInt16
  deriving DecidableEq, Repr

/-- Accept a frame or say how its trailer differs.  What is too short for a
trailer never passes: it counts as payload whose trailer reads zero. -/
def check (engine : Engine) (frame : Bytes) : Except Mismatch Unit :=
  match split? frame with
  | some (payload, value) =>
      if engine.checksum payload = value then .ok ()
      else .error ⟨engine.checksum payload, value⟩
  | none => .error ⟨engine.checksum frame, 0⟩

end Frame
end Framelink
