import Framelink.Proofs.Flips

/-!
# Two flipped bits

Two flips add two powers of `X`, and an odd divisor divides their sum if it divides `X` to
the distance of the flips plus one: if the distance is a multiple of the order of `X` among
the residues.  For the shared divisor that order is 32767, the product of 7, 31 and 151.  It
is enough to know what `X` leaves to this power and to the three that come of it by dividing
by one of the primes, which words compute by squaring.
-/

namespace Framelink
namespace Checksum

open Polynomial

variable {polynomial : UInt16}

/-! ## Products of words -/

/-- The product of two words, reduced by the polynomial: the register takes the bits of the
left word, and adds the right one for each that is set. -/
def product (polynomial left right : UInt16) : UInt16 :=
  (bits [(left >>> 8).toUInt8, left.toUInt8]).foldl
    (fun sum bit => if bit then shift polynomial sum ^^^ right else shift polynomial sum) 0

/-- What `X` leaves to the power that has these binary digits, the lowest one first. -/
def power (polynomial : UInt16) : List Bool → UInt16
  | [] => 1
  | digit :: higher =>
      let square := product polynomial (power polynomial higher) (power polynomial higher)
      if digit then shift polynomial square else square

theorem residue_shift (polynomial register : UInt16) :
    residue polynomial (ofWord (shift polynomial register)) =
      residue polynomial (ofWord register) * residue polynomial X := by
  rw [← map_mul, ← pow_one X]
  exact residue_shifts polynomial register 1

theorem residue_product (polynomial left right : UInt16) :
    residue polynomial (ofWord (product polynomial left right)) =
      residue polynomial (ofWord left) * residue polynomial (ofWord right) := by
  rw [product, ← ofBits_octets left]
  generalize bits [(left >>> 8).toUInt8, left.toUInt8] = row
  induction row using List.reverseRecOn with
  | nil => simp [ofBits]
  | append_singleton row bit inductionHypothesis =>
      rw [List.foldl_concat, ofBits_concat, map_add, map_mul, add_mul, mul_right_comm,
        ← inductionHypothesis, ← residue_shift]
      cases bit with
      | false => simp
      | true => simp [ofWord_xor]

theorem ofWord_one : ofWord 1 = 1 := by
  ext place
  rw [coeff_ofWord, coeff_one]
  cases place with
  | zero => rfl
  | succ place => simp

theorem residue_power (polynomial : UInt16) (digits : List Bool) :
    residue polynomial (ofWord (power polynomial digits)) =
      residue polynomial X ^ Nat.ofDigits 2 (digits.map Bool.toNat) := by
  induction digits with
  | nil => simp [power, ofWord_one]
  | cons digit higher inductionHypothesis =>
      have square := residue_product polynomial (power polynomial higher) (power polynomial higher)
      rw [inductionHypothesis, ← pow_add, ← two_mul] at square
      rw [List.map_cons, Nat.ofDigits_cons, power]
      cases digit with
      | false => simpa using square
      | true => simp [residue_shift, square, pow_add, mul_comm]

/-! ## The order of `X` -/

/-- A power of `X` leaves one if the word that is computed for it is one. -/
theorem residue_X_pow_eq_one_iff {exponent : Nat} (digits : List Bool)
    (value : Nat.ofDigits 2 (digits.map Bool.toNat) = exponent) :
    residue polynomial X ^ exponent = 1 ↔ power polynomial digits = 1 := by
  rw [← value, ← residue_power, ← map_one (residue polynomial), ← ofWord_one]
  exact (residue_ofWord_injective polynomial).eq_iff

theorem orderOf_residue_X : orderOf (residue sharedPolynomial X) = 32767 := by
  refine orderOf_eq_of_pow_and_pow_div_prime (by decide) ?whole ?sooner
  case whole =>
    rw [residue_X_pow_eq_one_iff (List.replicate 15 true) (by decide)]
    decide +kernel
  case sooner =>
    intro prime isPrime divides
    rw [show 32767 = 7 * (31 * 151) by decide, isPrime.dvd_mul, isPrime.dvd_mul,
      Nat.prime_dvd_prime_iff_eq isPrime (by norm_num),
      Nat.prime_dvd_prime_iff_eq isPrime (by norm_num),
      Nat.prime_dvd_prime_iff_eq isPrime (by norm_num)] at divides
    -- The exponents are 4681, 1057 and 217, given by their binary digits.
    rcases divides with rfl | rfl | rfl
    · rw [Ne, residue_X_pow_eq_one_iff [true, false, false, true, false, false, true, false,
        false, true, false, false, true] (by decide)]
      decide +kernel
    · rw [Ne, residue_X_pow_eq_one_iff [true, false, false, false, false, true, false, false,
        false, false, true] (by decide)]
      decide +kernel
    · rw [Ne, residue_X_pow_eq_one_iff [true, false, false, true, true, false, true, true]
        (by decide)]
      decide +kernel

/-- An odd divisor divides the sum of two powers of `X` if the order of `X` divides the
distance of their exponents. -/
theorem divisor_dvd_X_pow_add_X_pow_iff (odd : polynomial % 2 = 1) (distance low : Nat) :
    divisor polynomial ∣ X ^ (distance + low) + X ^ low ↔
      orderOf (residue polynomial X) ∣ distance := by
  have factored : (X ^ (distance + low) + X ^ low : (ZMod 2)[X]) =
      (X ^ distance - 1) * X ^ low := by
    rw [CharTwo.sub_eq_add, pow_add]
    ring
  rw [factored, divisor_dvd_mul_X_pow_iff odd, orderOf_dvd_iff_pow_eq_one,
    ← AdjoinRoot.mk_eq_mk, ← map_pow, ← map_one (residue polynomial)]
  rfl

theorem damage_pair (length first second : Nat) :
    damage length [first, second] = X ^ (length - 1 - first) + X ^ (length - 1 - second) := by
  simp [damage]

end Checksum

namespace Frame

open Checksum Bytes

/-- The shared engine accepts an accepted frame with two bits flipped exactly if the distance
of the two is a multiple of 32767, so it catches every two flips in a frame of at most 4095
octets. -/
theorem two_flips_pass_only_a_period_apart (frame : Bytes)
    (accepted : accepts shared frame = true) (first second : Nat) (ordered : first < second)
    (inside : second < 8 * frame.length) :
    (accepts shared (flipBits [first, second] frame) = true ↔ 32767 ∣ second - first) ∧
      (frame.length ≤ 4095 → accepts shared (flipBits [first, second] frame) = false) := by
  have within : ∀ position ∈ [first, second], position < 8 * frame.length := by
    simp only [List.forall_mem_cons]
    exact ⟨Nat.lt_trans ordered inside, inside, List.forall_mem_nil _⟩
  have exponents :
      8 * frame.length - 1 - first = second - first + (8 * frame.length - 1 - second) := by
    omega
  have passes : accepts shared (flipBits [first, second] frame) = true ↔
      32767 ∣ second - first := by
    rw [accepts_flipBits_iff accepted within, damage_pair, exponents, ← orderOf_residue_X]
    exact divisor_dvd_X_pow_add_X_pow_iff (by decide) _ _
  refine ⟨passes, fun short => ?_⟩
  rw [← Bool.not_eq_true, passes]
  intro divides
  have far := Nat.le_of_dvd (Nat.sub_pos_of_lt ordered) divides
  omega

/-- A period fits into 4096 octets, from the first bit to the last one, and not into less. -/
theorem two_flips_pass_only_a_period_apart_in_zeros :
    let zeros (count : Nat) : Bytes := List.replicate count 0
    accepts shared (zeros 4096) = true ∧ accepts shared (zeros 4095) = true ∧
      accepts shared (flipBits [0, 32767] (zeros 4096)) = true ∧
      accepts shared (flipBits [0, 32766] (zeros 4096)) = false ∧
      accepts shared (flipBits [0, 32759] (zeros 4095)) = false := by
  intro zeros
  have room (count : Nat) : (zeros count).length = count := List.length_replicate
  have long : accepts shared (zeros 4096) = true := accepts_zeros (by decide)
  have short : accepts shared (zeros 4095) = true := accepts_zeros (by decide)
  refine ⟨long, short, ?_, ?_, ?_⟩
  · exact (two_flips_pass_only_a_period_apart _ long 0 32767 (by decide)
      (by rw [room]; decide)).1.2 (by decide)
  · rw [← Bool.not_eq_true, (two_flips_pass_only_a_period_apart _ long 0 32766 (by decide)
      (by rw [room]; decide)).1]
    decide
  · exact (two_flips_pass_only_a_period_apart _ short 0 32759 (by decide)
      (by rw [room]; decide)).2 (by rw [room])

end Frame
end Framelink
