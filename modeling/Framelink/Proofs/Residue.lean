import Framelink.Proofs.Codewords

/-!
# The checksum of a whole frame

Behind the trailer of an accepted frame the register of an engine is back at zero, where
it began.  If the polynomial is odd this is the only way back for data that has room for a
trailer, so the checksum of the frame as a whole decides whether it is accepted.
-/

namespace Framelink
namespace Checksum

open Polynomial

namespace Engine

variable {engine : Engine} {data : Bytes}

/-- The checksum is zero where the register is. -/
theorem checksum_eq_zero_iff : engine.checksum data = 0 ↔ engine.remainder data = 0 := by
  have known := swapOctets_injective.eq_iff (a := engine.remainder data) (b := 0)
  rwa [show swapOctets 0 = 0 by decide] at known

/-- The register is at zero behind the data that, moved up by the sixteen places of the
register, the divisor divides. -/
theorem remainder_eq_zero_iff_dvd :
    engine.remainder data = 0 ↔ divisor engine.polynomial ∣ ofBits (bits data) * X ^ 16 := by
  have vanishes : residue engine.polynomial (ofWord 0) = 0 := by
    rw [ofWord_zero, map_zero]
  have known := (residue_ofWord_injective engine.polynomial).eq_iff
    (a := engine.remainder data) (b := 0)
  rw [← known, vanishes, residue_remainder]
  exact AdjoinRoot.mk_eq_zero

end Engine
end Checksum

namespace Frame

open Checksum

variable {engine : Engine} {frame : Bytes}

/-- Behind an accepted frame the register is at zero. -/
theorem remainder_of_accepts (accepted : accepts engine frame) : engine.remainder frame = 0 := by
  rw [Engine.remainder_eq_zero_iff_dvd]
  exact (accepts_iff_dvd.1 accepted).2.mul_right _

/-- The checksum of every accepted frame, taken over payload and trailer together, is zero.
An engine with an odd polynomial accepts whatever has room for a trailer and the checksum
zero. -/
theorem accepted_exactly_if_checksum_is_zero (polynomial : UInt16) (frame : Bytes) :
    (accepts (Engine.ofPolynomial polynomial) frame = true →
      (Engine.ofPolynomial polynomial).checksum frame = 0) ∧
    (polynomial % 2 = 1 → trailerLength ≤ frame.length →
      (accepts (Engine.ofPolynomial polynomial) frame = true ↔
        (Engine.ofPolynomial polynomial).checksum frame = 0)) := by
  refine ⟨fun accepted => ?_, fun odd room => ?_⟩
  · exact Engine.checksum_eq_zero_iff.2 (remainder_of_accepts accepted)
  · rw [Engine.checksum_eq_zero_iff, Engine.remainder_eq_zero_iff_dvd, accepts_iff_dvd,
      and_iff_right room]
    exact (divisor_dvd_mul_X_pow_iff odd).symm

/-- The polynomial `x¹⁶ + x¹⁵ + x² + 1` on a frame of it and on the same frame damaged. -/
theorem accepted_exactly_if_checksum_is_zero_of_frame :
    let engine := Engine.ofPolynomial 0x8005
    let frame := append engine [0x31, 0x32, 0x33]
    let damaged := List.zipWith (· ^^^ ·) frame [0x80, 0x00, 0x00, 0x01, 0x40]
    accepts engine frame = true ∧ engine.checksum frame = 0 ∧
      engine.checksum damaged ≠ 0 ∧ accepts engine damaged = false := by
  intro engine frame damaged
  have accepted : accepts engine frame = true := by decide +kernel
  have left : engine.checksum damaged ≠ 0 := by decide +kernel
  refine ⟨accepted, ?_, left, ?_⟩
  · exact (accepted_exactly_if_checksum_is_zero 0x8005 frame).1 accepted
  · rw [← Bool.not_eq_true,
      (accepted_exactly_if_checksum_is_zero 0x8005 damaged).2 (by decide) (by decide +kernel)]
    exact left

/-- An even polynomial may leave nothing of a frame that it rejects. -/
example :
    (Engine.ofPolynomial 0).checksum [1, 1] = 0 ∧
      accepts (Engine.ofPolynomial 0) [1, 1] = false := by
  decide +kernel

end Frame
end Framelink
