import Framelink.Proofs.Division
import Framelink.Proofs.ValidFrames

/-!
# Accepted frames are the multiples of the divisor

A frame is a polynomial like every string of bits.  Its trailer stands for the
remainder of the payload, moved up by the sixteen places that the trailer takes, so the
divisor of the engine divides the whole frame; and it divides no frame with another
trailer.  What an engine makes of damage to an accepted frame depends on the damage
alone: on the polynomial that has a coefficient for every bit that differs.
-/

namespace Framelink
namespace Checksum

open Polynomial

/-! ## Strings of bits -/

@[simp] theorem length_bits (data : Bytes) : (bits data).length = 8 * data.length := by
  induction data with
  | nil => rfl
  | cons octet data inductionHypothesis =>
      rw [bits, List.flatMap_cons, List.length_append, length_octetBits, ← bits,
        inductionHypothesis, List.length_cons]
      ring

theorem bits_append (front back : Bytes) : bits (front ++ back) = bits front ++ bits back :=
  List.flatMap_append

theorem octetBits_injective : Function.Injective octetBits := by
  intro left right same
  have words : left.toUInt16 = right.toUInt16 := by
    apply ofWord_injective
    rw [← ofBits_octetBits, ← ofBits_octetBits, same]
  exact UInt8.toUInt16_inj.1 words

/-- A byte string is known by its bits. -/
theorem bits_injective : Function.Injective bits := by
  intro left
  induction left with
  | nil =>
      intro right same
      have length := congrArg List.length same
      rw [length_bits, length_bits] at length
      exact (List.eq_nil_of_length_eq_zero (by simpa using length.symm)).symm
  | cons octet left inductionHypothesis =>
      intro right same
      cases right with
      | nil =>
          have length := congrArg List.length same
          simp at length
      | cons other right =>
          rw [bits, bits, List.flatMap_cons, List.flatMap_cons] at same
          obtain ⟨first, rest⟩ := List.append_inj same (by simp)
          rw [octetBits_injective first, inductionHypothesis rest]

/-- The bit at a position of a string, counted from its first, is the coefficient of the
place as far from the end. -/
theorem coeff_ofBits_of_lt {row : List Bool} {position : Nat} (inside : position < row.length) :
    (ofBits row).coeff (row.length - 1 - position) = coefficient row[position] := by
  rw [coeff_ofBits, List.getElem?_reverse (by omega)]
  simp [(by omega : row.length - 1 - (row.length - 1 - position) = position), inside]

/-- Octets of zero stand for zero. -/
theorem ofBits_zeros (count : Nat) : ofBits (bits (List.replicate count 0)) = 0 := by
  induction count with
  | zero => simp [bits, ofBits]
  | succ count inductionHypothesis =>
      rw [List.replicate_succ, bits, List.flatMap_cons, ← bits, ofBits_append, ofBits_octetBits,
        inductionHypothesis]
      simp

/-- Different words have different residues. -/
theorem residue_ofWord_injective (polynomial : UInt16) :
    Function.Injective fun word => residue polynomial (ofWord word) := by
  intro left right same
  apply ofWord_injective
  rw [ofWord_eq_modByMonic same, ← ofWord_eq_modByMonic rfl]

/-- The octets of a word, the high one first, have the bits of the word. -/
theorem ofBits_octets (word : UInt16) :
    ofBits (bits [(word >>> 8).toUInt8, word.toUInt8]) = ofWord word := by
  have split : bits [(word >>> 8).toUInt8, word.toUInt8] =
      octetBits (word >>> 8).toUInt8 ++ octetBits word.toUInt8 := by
    simp [bits]
  rw [split, ofBits_append, ofBits_octetBits, ofBits_octetBits, length_octetBits]
  ext place
  rw [coeff_add, coeff_mul_X_pow', coeff_ofWord, coeff_ofWord, coeff_ofWord, getLsbD_highOctet,
    UInt8.toBitVec_toUInt16, UInt16.toBitVec_toUInt8]
  by_cases low : place < 8
  · rw [if_neg (by omega)]
    simp [low, (by omega : place < 16)]
  · rw [if_pos (by omega)]
    have position : 8 + (place - 8) = place := by omega
    by_cases inside : place < 16
    · simp [low, position, (by omega : place - 8 < 8)]
    · rw [BitVec.getLsbD_of_ge word.toBitVec place (by omega), position,
        BitVec.getLsbD_of_ge word.toBitVec place (by omega)]
      simp [low]

/-- Exchanging the octets of a word loses nothing. -/
theorem swapOctets_injective : Function.Injective swapOctets := by
  intro left right same
  have octets := congrArg Frame.trailer same
  rw [trailer_swapOctets, trailer_swapOctets] at octets
  apply ofWord_injective
  rw [← ofBits_octets, ← ofBits_octets, octets]

/-- The polynomial of a frame: that of its payload moved up, and that of its last octets. -/
theorem ofBits_frame (payload : Bytes) (word : UInt16) :
    ofBits (bits (payload ++ [(word >>> 8).toUInt8, word.toUInt8])) =
      ofBits (bits payload) * X ^ 16 + ofWord word := by
  rw [bits_append, ofBits_append, ofBits_octets, length_bits]
  rfl

/-! ## Odd polynomials -/

/-- The constant term of the divisor of an odd polynomial is one. -/
theorem coeff_zero_divisor {polynomial : UInt16} (odd : polynomial % 2 = 1) :
    (divisor polynomial).coeff 0 = 1 := by
  have lowest : polynomial.toBitVec.getLsbD 0 = true := by
    have parity := congrArg UInt16.toNat odd
    rw [UInt16.toNat_mod] at parity
    simpa [BitVec.getLsbD, Nat.testBit_zero] using parity
  rw [divisor, coeff_add, coeff_X_pow, coeff_ofWord, lowest]
  rfl

/-- The divisor of an odd polynomial has nothing in common with a power of `X`. -/
theorem isCoprime_divisor_X_pow {polynomial : UInt16} (odd : polynomial % 2 = 1) (count : Nat) :
    IsCoprime (divisor polynomial) (X ^ count) := by
  have undivided : ¬ X ∣ divisor polynomial := by
    rw [X_dvd_iff, coeff_zero_divisor odd]
    exact one_ne_zero
  exact ((irreducible_X.coprime_iff_not_dvd).2 undivided).symm.pow_right

/-- Moving up does not help an odd divisor to divide. -/
theorem divisor_dvd_mul_X_pow_iff {polynomial : UInt16} (odd : polynomial % 2 = 1)
    {dividend : (ZMod 2)[X]} {count : Nat} :
    divisor polynomial ∣ dividend * X ^ count ↔ divisor polynomial ∣ dividend :=
  ⟨(isCoprime_divisor_X_pow odd count).dvd_of_dvd_mul_right, fun divides => divides.mul_right _⟩

end Checksum

namespace Frame

open Checksum Polynomial

variable {engine : Engine} {frame payload : Bytes}

/-! ## Accepted frames -/

/-- Whatever has room for a trailer is a payload with a word behind it. -/
theorem exists_word (room : trailerLength ≤ frame.length) :
    ∃ (payload : Bytes) (word : UInt16),
      frame = payload ++ [(word >>> 8).toUInt8, word.toUInt8] := by
  obtain ⟨payload, high, low, rfl⟩ := exists_payload room
  have octets := trailer_trailerValue low high
  rw [trailer] at octets
  obtain ⟨sameLow, rest⟩ := List.cons.inj octets
  obtain ⟨sameHigh, -⟩ := List.cons.inj rest
  exact ⟨payload, trailerValue low high, by rw [sameLow, sameHigh]⟩

/-- A payload with a word behind it is accepted if the word is its remainder. -/
theorem accepts_word_iff (payload : Bytes) (word : UInt16) :
    accepts engine (payload ++ [(word >>> 8).toUInt8, word.toUInt8]) ↔
      engine.remainder payload = word := by
  rw [← trailer_swapOctets, accepts, split?_trailer, beq_iff_eq, Engine.checksum]
  exact swapOctets_injective.eq_iff

/-- An engine accepts exactly the frames with room for a trailer that its divisor divides. -/
theorem accepts_iff_dvd :
    accepts engine frame ↔
      trailerLength ≤ frame.length ∧ divisor engine.polynomial ∣ ofBits (bits frame) := by
  by_cases room : trailerLength ≤ frame.length
  · obtain ⟨payload, word, rfl⟩ := exists_word room
    rw [accepts_word_iff, and_iff_right room, ofBits_frame, ← CharTwo.sub_eq_add,
      ← AdjoinRoot.mk_eq_mk]
    change _ ↔ residue engine.polynomial _ = residue engine.polynomial _
    rw [← residue_remainder]
    exact (residue_ofWord_injective engine.polynomial).eq_iff.symm
  · refine iff_of_false ?_ fun held => room held.1
    rw [accepts, split?_short (Nat.lt_of_not_le room)]
    exact Bool.false_ne_true

/-- Zeros with room for a trailer are accepted. -/
theorem accepts_zeros {count : Nat} (room : trailerLength ≤ count) :
    accepts engine (List.replicate count 0) := by
  rw [accepts_iff_dvd, List.length_replicate, ofBits_zeros]
  exact ⟨room, dvd_zero _⟩

/-- An accepted frame is accepted after damage exactly if the divisor divides the damage. -/
theorem accepts_damaged_iff {damaged : Bytes} (accepted : accepts engine frame)
    (sameLength : damaged.length = frame.length) :
    accepts engine damaged ↔
      divisor engine.polynomial ∣ ofBits (bits damaged) - ofBits (bits frame) := by
  obtain ⟨room, divides⟩ := accepts_iff_dvd.1 accepted
  rw [accepts_iff_dvd, sameLength, and_iff_right room, dvd_sub_left divides]

end Frame
end Framelink
