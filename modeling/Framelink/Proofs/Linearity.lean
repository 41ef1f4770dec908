import Framelink.Proofs.Codewords

/-!
# Checksums are linear

Adding two byte strings of one length, bit by bit and modulo two, adds their polynomials.
Taking the remainder of a division respects sums, and so does exchanging octets: the
checksum of a sum is the sum of the checksums, whatever the polynomial of the engine.
Damage is something added to a frame, so whether it is caught depends on the damage alone.
-/

namespace Framelink

namespace Bytes

/-- The sum of two byte strings: their octets added bit by bit, modulo two. -/
def xor (left right : Bytes) : Bytes := List.zipWith (· ^^^ ·) left right

theorem length_xor {left right : Bytes} (sameLength : left.length = right.length) :
    (left.xor right).length = right.length := by
  rw [xor, List.length_zipWith, sameLength, min_self]

end Bytes

namespace Checksum

open Polynomial

variable {left right : Bytes}

/-- The polynomial of a sum is the sum of the polynomials. -/
theorem ofBits_xor (sameLength : left.length = right.length) :
    ofBits (bits (left.xor right)) = ofBits (bits left) + ofBits (bits right) := by
  induction left generalizing right with
  | nil =>
      obtain rfl := List.eq_nil_of_length_eq_zero sameLength.symm
      simp [Bytes.xor, bits, ofBits]
  | cons octet left inductionHypothesis =>
      cases right with
      | nil => cases sameLength
      | cons other right =>
          have rest : left.length = right.length := Nat.succ.inj sameLength
          have first (octet : UInt8) (data : Bytes) : ofBits (bits (octet :: data)) =
              ofWord octet.toUInt16 * X ^ (bits data).length + ofBits (bits data) := by
            rw [bits, List.flatMap_cons, ← bits, ofBits_append, ofBits_octetBits]
          rw [Bytes.xor, List.zipWith_cons_cons, ← Bytes.xor, first, first, first,
            inductionHypothesis rest, UInt8.toUInt16_xor, ofWord_xor, length_bits, length_bits,
            length_bits, Bytes.length_xor rest, rest]
          ring

/-- The remainder of a sum is the sum of the remainders. -/
theorem Engine.remainder_xor (engine : Engine) (sameLength : left.length = right.length) :
    engine.remainder (left.xor right) = engine.remainder left ^^^ engine.remainder right := by
  apply residue_ofWord_injective engine.polynomial
  dsimp only
  calc residue engine.polynomial (ofWord (engine.remainder (left.xor right)))
      = residue engine.polynomial ((ofBits (bits left) + ofBits (bits right)) * X ^ 16) := by
        rw [residue_remainder, ofBits_xor sameLength]
    _ = residue engine.polynomial (ofBits (bits left) * X ^ 16) +
          residue engine.polynomial (ofBits (bits right) * X ^ 16) := by
        rw [add_mul, map_add]
    _ = residue engine.polynomial (ofWord (engine.remainder left ^^^ engine.remainder right)) := by
        rw [ofWord_xor, map_add, residue_remainder, residue_remainder]

theorem swapOctets_xor (left right : UInt16) :
    swapOctets (left ^^^ right) = swapOctets left ^^^ swapOctets right := by
  apply UInt16.toBitVec_inj.mp
  ext place inside
  by_cases low : place < 8
  · simp [swapOctets, low]
  · simp [swapOctets, low, BitVec.getLsbD_of_ge _ (8 + place) (by omega : 16 ≤ 8 + place)]

end Checksum

namespace Frame

open Checksum

/-- Damage to an accepted frame is accepted exactly if it is accepted as a frame itself. -/
theorem accepts_xor {engine : Engine} {frame damage : Bytes}
    (sameLength : frame.length = damage.length) (accepted : accepts engine frame) :
    accepts engine (frame.xor damage) = accepts engine damage := by
  obtain ⟨-, divides⟩ := accepts_iff_dvd.1 accepted
  rw [Bool.eq_iff_iff, accepts_iff_dvd, accepts_iff_dvd, Bytes.length_xor sameLength,
    ofBits_xor sameLength, dvd_add_right divides]

/-- Whatever the polynomial of an engine, the checksum of a sum of two byte strings of one
length is the sum of their checksums.  So an accepted frame with damage added to it is
accepted exactly if the damage alone is, and what becomes of the damage is the same for all
accepted frames of its length. -/
theorem checksums_are_linear (polynomial : UInt16) :
    let engine : Engine := .ofPolynomial polynomial
    (∀ left right : Bytes, left.length = right.length →
      engine.checksum (left.xor right) = engine.checksum left ^^^ engine.checksum right) ∧
    (∀ frame damage : Bytes, frame.length = damage.length → accepts engine frame = true →
      accepts engine (frame.xor damage) = accepts engine damage) ∧
    (∀ frame other damage : Bytes, frame.length = damage.length →
      other.length = damage.length → accepts engine frame = true →
      accepts engine other = true →
        accepts engine (frame.xor damage) = accepts engine (other.xor damage)) := by
  intro engine
  refine ⟨?sum, fun _ _ => accepts_xor, ?frames⟩
  case sum =>
    intro left right sameLength
    rw [Engine.checksum, engine.remainder_xor sameLength, swapOctets_xor]
    rfl
  case frames =>
    intro frame other damage first second accepted acceptedOther
    rw [accepts_xor first accepted, accepts_xor second acceptedOther]

/-- The even polynomial `x¹⁶ + x` on two frames of it, with damage that it misses in both and
damage that it catches. -/
theorem checksums_are_linear_of_damage :
    let engine := Engine.ofPolynomial 0x0002
    let frame := append engine [0x31, 0x32]
    let other := append engine [0xff, 0x00]
    let missed : Bytes := [0x80, 0x01, 0x00, 0x00]
    let caught : Bytes := [0x00, 0x01, 0x00, 0x00]
    engine.checksum (frame.xor caught) = engine.checksum frame ^^^ engine.checksum caught ∧
      accepts engine frame = true ∧ accepts engine other = true ∧
      accepts engine (frame.xor caught) = false ∧
      accepts engine (frame.xor missed) = true ∧ accepts engine (other.xor missed) = true := by
  intro engine frame other missed caught
  obtain ⟨sum, alone, same⟩ := checksums_are_linear 0x0002
  have accepted : accepts engine frame = true := by decide +kernel
  have acceptedOther : accepts engine other = true := by decide +kernel
  have slips : accepts engine (frame.xor missed) = true := by
    rw [alone frame missed (by decide +kernel) accepted]
    decide +kernel
  refine ⟨sum frame caught (by decide +kernel), accepted, acceptedOther, ?_, slips, ?_⟩
  · rw [alone frame caught (by decide +kernel) accepted]
    decide +kernel
  · rw [← same frame other missed (by decide +kernel) (by decide +kernel) accepted acceptedOther]
    exact slips

end Frame
end Framelink
