import Framelink.Proofs.Flips

/-!
# Odd numbers of flipped bits are caught

The value of a polynomial at one is its number of terms, modulo two.  The divisor of a
polynomial with an odd number of terms has an even number of them, with the leading one, so
its value at one is zero, and so is that of all its multiples: every accepted frame has an
even number of bits set, which an odd number of flips makes odd.
-/

namespace Framelink
namespace Checksum

open Polynomial

variable {polynomial : UInt16}

theorem coefficient_eq_toNat (bit : Bool) : coefficient bit = bit.toNat := by
  cases bit <;> rfl

/-- Counting the bits that are set adds them up. -/
theorem cpopNatRec_eq_sum {width : Nat} (word : BitVec width) (count : Nat) :
    word.cpopNatRec count 0 = ∑ place ∈ Finset.range count, (word.getLsbD place).toNat := by
  induction count with
  | zero => rfl
  | succ count inductionHypothesis =>
      rw [BitVec.cpopNatRec_succ, BitVec.cpopNatRec_add, inductionHypothesis,
        Finset.sum_range_succ]

/-- The value of a word at one is the number of its bits that are set. -/
theorem eval_one_ofWord (word : UInt16) :
    (ofWord word).eval 1 = (word.toBitVec.cpop.toNat : ZMod 2) := by
  have degree : (ofWord word).natDegree < 16 := Polynomial.ofFn_natDegree_lt (by decide) _
  rw [BitVec.toNat_cpop, cpopNatRec_eq_sum, Nat.cast_sum, Polynomial.eval_eq_sum_range' degree]
  simp only [coeff_ofWord, coefficient_eq_toNat, one_pow, mul_one]

/-- The value of a row of bits at one is the number of those that are set. -/
theorem eval_one_ofBits (row : List Bool) :
    (ofBits row).eval 1 = (row.count true : ZMod 2) := by
  induction row using List.reverseRecOn with
  | nil => simp [ofBits]
  | append_singleton row bit inductionHypothesis =>
      rw [ofBits_concat, eval_add, eval_mul, eval_X, eval_C, mul_one, inductionHypothesis,
        List.count_append, Nat.cast_add]
      cases bit <;> simp

/-- The value of the damage at one is the number of flips. -/
theorem eval_one_damage (length : Nat) (positions : List Nat) :
    (damage length positions).eval 1 = (positions.length : ZMod 2) := by
  induction positions with
  | nil => simp [damage]
  | cons position positions inductionHypothesis =>
      rw [damage, List.map_cons, List.sum_cons, ← damage, eval_add, inductionHypothesis]
      simp [add_comm]

/-- The divisor of a polynomial of odd weight has one for a root. -/
theorem eval_one_divisor (odd : Odd polynomial.toBitVec.cpop.toNat) :
    (divisor polynomial).eval 1 = 0 := by
  rw [divisor, eval_add, eval_pow, eval_X, one_pow, eval_one_ofWord,
    ZMod.natCast_eq_one_iff_odd.2 odd]
  decide

/-- So has everything that it divides. -/
theorem eval_one_of_divisor_dvd (odd : Odd polynomial.toBitVec.cpop.toNat) {multiple : (ZMod 2)[X]}
    (divides : divisor polynomial ∣ multiple) : multiple.eval 1 = 0 := by
  obtain ⟨quotient, rfl⟩ := divides
  rw [eval_mul, eval_one_divisor odd, zero_mul]

end Checksum

namespace Frame

open Checksum Bytes

/-- An engine whose polynomial has an odd number of bits set accepts only frames with an even
number of bits set, payload and trailer taken together; it rejects every accepted frame in
which an odd number of bits was flipped, wherever they are. -/
theorem odd_flips_are_caught (polynomial : UInt16)
    (oddWeight : Odd polynomial.toBitVec.cpop.toNat) (frame : Bytes)
    (accepted : accepts (Engine.ofPolynomial polynomial) frame = true) :
    Even ((bits frame).count true) ∧
      ∀ positions : List Nat, (∀ position ∈ positions, position < 8 * frame.length) →
        Odd positions.length →
          accepts (Engine.ofPolynomial polynomial) (flipBits positions frame) = false := by
  refine ⟨?_, fun positions inside odd => ?_⟩
  · have root := eval_one_of_divisor_dvd oddWeight (accepts_iff_dvd.1 accepted).2
    rwa [eval_one_ofBits, ZMod.natCast_eq_zero_iff_even] at root
  · rw [← Bool.not_eq_true, accepts_flipBits_iff accepted inside]
    intro divides
    have root := eval_one_of_divisor_dvd oddWeight divides
    rw [eval_one_damage, ZMod.natCast_eq_zero_iff_even] at root
    exact Nat.not_even_iff_odd.2 odd root

/-- Three bits of a frame of the shared engine, two of the payload and one of the trailer. -/
theorem odd_flips_are_caught_across_trailer :
    let frame := append shared [0x31, 0x32]
    Odd sharedPolynomial.toBitVec.cpop.toNat ∧ accepts shared frame = true ∧
      Even ((bits frame).count true) ∧
      accepts shared (flipBits [0, 13, 30] frame) = false := by
  intro frame
  have odd : Odd sharedPolynomial.toBitVec.cpop.toNat := by decide
  have accepted : accepts shared frame = true := by decide +kernel
  obtain ⟨even, caught⟩ := odd_flips_are_caught sharedPolynomial odd frame accepted
  exact ⟨odd, accepted, even, caught [0, 13, 30] (by decide +kernel) (by decide)⟩

end Frame
end Framelink
