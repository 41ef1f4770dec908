import Framelink.Proofs.Codewords

/-!
# Bursts are caught

A burst is damage that lies within a few bits in a row.  Its polynomial is a power of `X`
times one of low degree.  An odd divisor has nothing in common with a power of `X`, so it
divides no burst of at most sixteen bits: wherever the burst lies, across octets or into
the trailer, the frame is not accepted any more.
-/

namespace Framelink
namespace Checksum

open Polynomial

/-- Two rows of bits differ in no other positions than so many in a row from one on. -/
def DifferWithin (start width : Nat) (left right : List Bool) : Prop :=
  ∀ position, left[position]? ≠ right[position]? →
    start ≤ position ∧ position < start + width

theorem differWithin_iff {start width : Nat} {left right : List Bool} :
    DifferWithin start width left right ↔
      ∀ position < max left.length right.length, left[position]? ≠ right[position]? →
        start ≤ position ∧ position < start + width := by
  refine ⟨fun within position _ => within position, fun within position differ => ?_⟩
  refine within position ?_ differ
  by_contra outside
  rw [not_lt, max_le_iff] at outside
  exact differ ((List.getElem?_eq_none outside.1).trans (List.getElem?_eq_none outside.2).symm)

instance (start width : Nat) (left right : List Bool) :
    Decidable (DifferWithin start width left right) :=
  decidable_of_iff _ differWithin_iff.symm

/-- The divisor of an odd polynomial divides nothing whose terms stand in sixteen places in
a row, but zero. -/
theorem eq_zero_of_divisor_dvd {polynomial : UInt16} (odd : polynomial % 2 = 1)
    {damage : (ZMod 2)[X]} {lowest : Nat}
    (within : ∀ place, damage.coeff place ≠ 0 → lowest ≤ place ∧ place < lowest + 16)
    (divides : divisor polynomial ∣ damage) : damage = 0 := by
  obtain ⟨burst, rfl⟩ : X ^ lowest ∣ damage := by
    rw [X_pow_dvd_iff]
    intro place below
    by_contra present
    have inside := within place present
    omega
  have divisorDegree := (isMonicOfDegree_divisor polynomial).natDegree_eq
  have small : burst.degree < (divisor polynomial).degree := by
    rw [degree_eq_natDegree (isMonicOfDegree_divisor polynomial).monic.ne_zero, divisorDegree,
      degree_lt_iff_coeff_zero]
    intro place above
    by_contra present
    have inside := within (place + lowest) (by rwa [coeff_X_pow_mul])
    omega
  have dividesBurst : divisor polynomial ∣ burst :=
    (isCoprime_divisor_X_pow odd lowest).dvd_of_dvd_mul_left divides
  rw [eq_zero_of_dvd_of_degree_lt dividesBurst small, mul_zero]

/-- The terms in which two rows of bits differ stand where the bits do. -/
theorem coeff_sub_within {start width : Nat} {left right : List Bool}
    (sameLength : left.length = right.length) (within : DifferWithin start width left right)
    (place : Nat) (present : (ofBits left - ofBits right).coeff place ≠ 0) :
    left.length - (start + width) ≤ place ∧ place < left.length - (start + width) + width := by
  rw [coeff_sub, sub_ne_zero, coeff_ofBits, coeff_ofBits] at present
  by_cases inside : place < left.length
  · have differ : left[left.length - 1 - place]? ≠ right[left.length - 1 - place]? := by
      intro same
      rw [List.getElem?_reverse inside, List.getElem?_reverse (sameLength ▸ inside), ← sameLength,
        same] at present
      exact present rfl
    have position := within _ differ
    omega
  · rw [List.getElem?_eq_none (by simpa using inside),
      List.getElem?_eq_none (by simpa [sameLength] using inside)] at present
    exact absurd rfl present

/-- Rows of bits of one length are known by their polynomials. -/
theorem eq_of_ofBits_eq {left right : List Bool} (sameLength : left.length = right.length)
    (same : ofBits left = ofBits right) : left = right := by
  refine List.ext_getElem sameLength fun position inLeft inRight => ?_
  apply coefficient_injective
  rw [← coeff_ofBits_of_lt inLeft, ← coeff_ofBits_of_lt inRight, same, sameLength]

end Checksum

namespace Frame

open Checksum Polynomial

/-- An engine with an odd polynomial rejects every accepted frame in which at least one bit
was flipped, and none outside of sixteen positions in a row. -/
theorem burst_is_caught (polynomial : UInt16) (odd : polynomial % 2 = 1) (frame damaged : Bytes)
    (accepted : accepts (Engine.ofPolynomial polynomial) frame = true)
    (sameLength : damaged.length = frame.length) (differs : damaged ≠ frame) (start : Nat)
    (within : DifferWithin start 16 (bits damaged) (bits frame)) :
    accepts (Engine.ofPolynomial polynomial) damaged = false := by
  rw [← Bool.not_eq_true, accepts_damaged_iff accepted sameLength]
  intro divides
  have sameBits : (bits damaged).length = (bits frame).length := by
    rw [length_bits, length_bits, sameLength]
  have vanishes : ofBits (bits damaged) - ofBits (bits frame) = 0 :=
    eq_zero_of_divisor_dvd odd (coeff_sub_within sameBits within) divides
  exact differs (bits_injective (eq_of_ofBits_eq sameBits (sub_eq_zero.1 vanishes)))

/-- Sixteen positions in a row that begin in the payload and end in the trailer. -/
theorem burst_is_caught_across_trailer :
    let frame := append shared [0x31, 0x32]
    let damaged := List.zipWith (· ^^^ ·) frame [0x00, 0x0b, 0x5a, 0x90]
    accepts shared frame = true ∧ DifferWithin 12 16 (bits damaged) (bits frame) ∧
      accepts shared damaged = false := by
  intro frame damaged
  have accepted : accepts shared frame = true := by decide +kernel
  have within : DifferWithin 12 16 (bits damaged) (bits frame) := by decide +kernel
  exact ⟨accepted, within, burst_is_caught sharedPolynomial (by decide) frame damaged accepted
    (by decide +kernel) (by decide +kernel) 12 within⟩

end Frame
end Framelink
