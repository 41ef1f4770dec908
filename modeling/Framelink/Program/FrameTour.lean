import Framelink.Frame

/-!
# Programs, and a tour of frames

A program leaves an exit code behind and the lines that it printed.  The tour
appends a trailer to a payload and checks it, shows that a flipped bit is caught,
and seals a frame in place.
-/

namespace Framelink
namespace Program

/-- What a program leaves behind. -/
structure Outcome where
  exitCode : Nat
  lines : List String
  deriving DecidableEq, Repr

namespace Outcome

/-- The program came to its end. -/
def success (lines : List String) : Outcome := ⟨0, lines⟩

/-- The program gave up. -/
def failure (lines : List String) : Outcome := ⟨1, lines⟩

end Outcome

namespace FrameTour

/-- The payload whose trailer is appended. -/
def payload : String := "123456789"

/-- The payload with its trailer. -/
def frame : Bytes := Frame.append Checksum.shared (Bytes.ofText payload)

/-- The frame with one bit of its fifth octet flipped. -/
def damaged : Bytes := frame.modify 4 (· ^^^ 0x10)

/-- Six octets of which the last two are made the trailer of the others. -/
def sealedFrame : Bytes :=
  (Frame.seal? Checksum.shared (Bytes.ofText "ping" ++ [0, 0])).getD []

/-- Whether a frame is accepted, in words. -/
def verdict (frame : Bytes) : String :=
  if Frame.accepts Checksum.shared frame then "true" else "false"

/-- The lines of the tour. -/
def run : Outcome :=
  .success
    ["CRC of \"" ++ payload ++ "\": " ++
        Hex.word (Checksum.shared.checksum (Bytes.ofText payload)),
      "Frame: " ++ Hex.listing frame,
      "Valid: " ++ verdict frame,
      "After bit flip, valid: " ++ verdict damaged,
      "Sealed in place: " ++ Hex.listing sealedFrame]

end FrameTour
end Program
end Framelink
