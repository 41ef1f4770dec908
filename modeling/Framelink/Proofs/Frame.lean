import Framelink.LinkError

/-!
# Reading frames back

A trailer tells the checksum that it was made of, so a frame that was put together
splits into the payload and the checksum that went into it, and passes the check.
-/

namespace Framelink
namespace Frame

open Checksum

/-- The two octets of a trailer put together again give its checksum. -/
theorem trailerValue_trailer (checksum : UInt16) :
    trailerValue checksum.toUInt8 (checksum >>> 8).toUInt8 = checksum := by
  apply UInt16.toBitVec_inj.mp
  ext index inside
  simp only [trailerValue, UInt16.toBitVec_or, UInt16.toBitVec_shiftLeft,
    UInt8.toBitVec_toUInt16, UInt16.toBitVec_toUInt8, UInt16.toBitVec_shiftRight,
    UInt16.toBitVec_ofNat]
  -- The low octet holds the first eight bits, the high octet all others.
  by_cases low : index < 8
  · simp [low, BitVec.getLsbD_eq_getElem inside]
  · have position : 8 + (index - 8) = index := by omega
    have high : index - 8 < 8 := by omega
    simp [low, high, position, BitVec.getLsbD_eq_getElem inside]

/-- A payload with a trailer behind it splits into the two. -/
theorem split?_trailer (payload : Bytes) (checksum : UInt16) :
    split? (payload ++ trailer checksum) = some (payload, checksum) := by
  have before :
      (payload ++ trailer checksum).length - trailerLength = payload.length := by
    simp
  rw [split?, before, List.drop_left, List.take_left]
  simp [trailer, trailerValue_trailer]

@[simp] theorem length_append (engine : Engine) (payload : Bytes) :
    (append engine payload).length = payload.length + trailerLength := by
  simp [append]

/-- What was made a frame passes the check. -/
theorem check_append (engine : Engine) (payload : Bytes) :
    check engine (append engine payload) = .ok () := by
  rw [check, append, split?_trailer]
  simp

/-- A frame of the shared engine is accepted. -/
theorem verify_append (payload : Bytes) :
    verify (append shared payload) = .ok () := by
  rw [verify, check_append]
  rfl

end Frame
end Framelink
