import Framelink.Frame
import Mathlib

/-!
# Checksums are remainders

Over the field of two elements a string of bits is a polynomial, its first bit the
leading coefficient.  The table engine computes what a register computes that takes
one bit after the other, and that is a remainder: of the data, moved up by sixteen
places, on division by `X ^ 16` plus the polynomial of the engine.  Residues modulo
that divisor carry the proof: a step of either register multiplies the residue by a
power of `X` and adds what comes in, and a word is known by its residue.
-/

namespace Framelink
namespace Checksum

open Polynomial

/-! ## The register that takes one bit at a time -/

/-- The bits of an octet, most significant first. -/
def octetBits (octet : UInt8) : List Bool := (List.range 8).map octet.toBitVec.getMsbD

@[simp] theorem length_octetBits (octet : UInt8) : (octetBits octet).length = 8 := by
  simp [octetBits]

/-- The bits of a byte string, in the order in which they are taken. -/
def bits (data : Bytes) : List Bool := data.flatMap octetBits

/-- Take one bit: move the register up by one, and subtract the polynomial if the bit
differs from the one that fell out at the top. -/
def absorbBit (polynomial register : UInt16) (bit : Bool) : UInt16 :=
  if register.toBitVec.msb ^^ bit then (register <<< 1) ^^^ polynomial else register <<< 1

/-- The register after a row of bits, from an empty register. -/
def serialRemainder (polynomial : UInt16) (bits : List Bool) : UInt16 :=
  bits.foldl (absorbBit polynomial) 0

/-! ## Polynomials over the field of two elements -/

/-- A bit as a coefficient. -/
def coefficient (bit : Bool) : ZMod 2 := if bit then 1 else 0

@[simp] theorem coefficient_false : coefficient false = 0 := rfl

@[simp] theorem coefficient_true : coefficient true = 1 := rfl

@[simp] theorem coefficient_xor (left right : Bool) :
    coefficient (left ^^ right) = coefficient left + coefficient right := by
  cases left <;> cases right <;> decide

theorem coefficient_injective : Function.Injective coefficient := by
  decide

/-- The polynomial of a row of bits, the first of which leads. -/
noncomputable def ofBits (bits : List Bool) : (ZMod 2)[X] :=
  bits.foldl (fun sum bit => sum * X + C (coefficient bit)) 0

theorem ofBits_concat (bits : List Bool) (bit : Bool) :
    ofBits (bits ++ [bit]) = ofBits bits * X + C (coefficient bit) := by
  simp [ofBits]

/-- The last bit is the constant term. -/
theorem coeff_ofBits (bits : List Bool) (place : Nat) :
    (ofBits bits).coeff place = coefficient (bits.reverse[place]?.getD false) := by
  induction bits using List.reverseRecOn generalizing place with
  | nil => simp [ofBits]
  | append_singleton bits bit inductionHypothesis =>
      rw [ofBits_concat, List.reverse_concat]
      cases place with
      | zero => simp
      | succ place => simp [inductionHypothesis]

theorem ofBits_append (front back : List Bool) :
    ofBits (front ++ back) = ofBits front * X ^ back.length + ofBits back := by
  induction back using List.reverseRecOn with
  | nil => simp [ofBits]
  | append_singleton back bit inductionHypothesis =>
      rw [← List.append_assoc, ofBits_concat, ofBits_concat, inductionHypothesis,
        List.length_append, List.length_singleton, pow_succ]
      ring

/-- The polynomial of a word: its lowest bit is the constant term. -/
noncomputable def ofWord (word : UInt16) : (ZMod 2)[X] :=
  Polynomial.ofFn 16 fun place => coefficient (word.toBitVec.getLsbD place)

@[simp] theorem coeff_ofWord (word : UInt16) (place : Nat) :
    (ofWord word).coeff place = coefficient (word.toBitVec.getLsbD place) := by
  by_cases inside : place < 16
  · exact Polynomial.ofFn_coeff_eq_val_of_lt _ inside
  · rw [BitVec.getLsbD_of_ge _ _ (Nat.le_of_not_lt inside)]
    exact Polynomial.ofFn_coeff_eq_zero_of_ge _ (Nat.le_of_not_lt inside)

theorem degree_ofWord (word : UInt16) : (ofWord word).degree < 16 :=
  Polynomial.ofFn_degree_lt _

theorem ofWord_injective : Function.Injective ofWord := by
  intro left right same
  apply UInt16.toBitVec_inj.mp
  apply BitVec.eq_of_getLsbD_eq
  intro place _
  apply coefficient_injective
  rw [← coeff_ofWord, ← coeff_ofWord, same]

theorem ofWord_xor (left right : UInt16) :
    ofWord (left ^^^ right) = ofWord left + ofWord right := by
  ext place
  simp

@[simp] theorem ofWord_zero : ofWord 0 = 0 := by
  ext place
  simp

/-- Moving a word up loses what its highest bit stands for. -/
theorem ofWord_shiftLeft_one (word : UInt16) :
    ofWord (word <<< 1) =
      ofWord word * X + C (coefficient word.toBitVec.msb) * X ^ 16 := by
  ext place
  cases place with
  | zero => simp
  | succ place =>
      rw [coeff_add, coeff_mul_X, coeff_C_mul, coeff_X_pow, coeff_ofWord, coeff_ofWord]
      rcases Nat.lt_trichotomy place 15 with inside | rfl | outside
      · have low : place + 1 < 16 := by omega
        simp [low, inside.ne, BitVec.getLsbD_eq_getElem (by omega : place < 16)]
      · rw [BitVec.getLsbD_of_ge _ _ (by decide), ← BitVec.msb_eq_getLsbD_last]
        cases word.toBitVec.msb <;> decide
      · rw [BitVec.getLsbD_of_ge _ _ (by omega), BitVec.getLsbD_of_ge _ _ (by omega)]
        simp [outside.ne']

theorem getLsbD_highOctet (word : UInt16) (place : Nat) :
    (word >>> 8).toUInt8.toUInt16.toBitVec.getLsbD place =
      (decide (place < 8) && word.toBitVec.getLsbD (8 + place)) := by
  simp only [UInt8.toBitVec_toUInt16, UInt16.toBitVec_toUInt8, UInt16.toBitVec_shiftRight,
    UInt16.toBitVec_ofNat]
  by_cases inside : place < 8
  · simp [inside, (by omega : place < 16)]
  · simp [inside]

/-- Moving a word up by an octet loses what its high octet stands for. -/
theorem ofWord_shiftLeft_eight (word : UInt16) :
    ofWord (word <<< 8) + ofWord (word >>> 8).toUInt8.toUInt16 * X ^ 16 =
      ofWord word * X ^ 8 := by
  ext place
  rw [coeff_add, coeff_mul_X_pow', coeff_mul_X_pow', coeff_ofWord, coeff_ofWord, coeff_ofWord,
    getLsbD_highOctet]
  by_cases low : place < 8
  · rw [if_neg (by omega), if_neg (by omega)]
    simp [low]
  · rw [if_pos (by omega : 8 ≤ place)]
    by_cases inside : place < 16
    · rw [if_neg (by omega)]
      simp [low, inside, BitVec.getLsbD_eq_getElem (by omega : place - 8 < 16)]
    · have position : 8 + (place - 16) = place - 8 := by omega
      rw [if_pos (by omega), position]
      by_cases high : place - 16 < 8
      · simp [inside, high]
      · rw [BitVec.getLsbD_of_ge word.toBitVec (place - 8) (by omega)]
        simp [inside]

/-! ## Residues -/

/-- The divisor that the polynomial of an engine stands for, with its leading term. -/
noncomputable def divisor (polynomial : UInt16) : (ZMod 2)[X] := X ^ 16 + ofWord polynomial

theorem isMonicOfDegree_divisor (polynomial : UInt16) :
    IsMonicOfDegree (divisor polynomial) 16 := by
  refine (isMonicOfDegree_X_pow (ZMod 2) 16).add_right ?_
  exact Polynomial.ofFn_natDegree_lt (by decide) _

/-- The residue of a polynomial modulo the divisor of an engine. -/
noncomputable def residue (polynomial : UInt16) :
    (ZMod 2)[X] →+* AdjoinRoot (divisor polynomial) :=
  AdjoinRoot.mk (divisor polynomial)

/-- A word is the remainder of every polynomial of its residue. -/
theorem ofWord_eq_modByMonic {polynomial word : UInt16} {dividend : (ZMod 2)[X]}
    (same : residue polynomial (ofWord word) = residue polynomial dividend) :
    ofWord word = dividend %ₘ divisor polynomial := by
  have monic := (isMonicOfDegree_divisor polynomial).monic
  have small : (ofWord word).degree < (divisor polynomial).degree := by
    rw [degree_eq_natDegree monic.ne_zero, (isMonicOfDegree_divisor polynomial).natDegree_eq]
    exact degree_ofWord word
  rw [← (modByMonic_eq_self_iff monic).2 small]
  exact modByMonic_eq_of_dvd_sub monic (AdjoinRoot.mk_eq_mk.1 same)

/-- Subtracting the polynomial when a bit falls out at the top keeps the residue. -/
theorem residue_reduced (polynomial register : UInt16) (bit : Bool) :
    residue polynomial (ofWord (if bit then register ^^^ polynomial else register)) =
      residue polynomial (ofWord register + C (coefficient bit) * X ^ 16) := by
  cases bit with
  | false => simp
  | true =>
      rw [if_pos rfl, ofWord_xor]
      refine AdjoinRoot.mk_eq_mk.2 ⟨1, ?_⟩
      have twice : (X ^ 16 + X ^ 16 : (ZMod 2)[X]) = 0 := CharTwo.add_self_eq_zero _
      rw [divisor, coefficient_true, C_1]
      linear_combination -twice

/-! ## One bit -/

/-- One bit multiplies the residue by `X` and adds the bit, sixteen places up. -/
theorem residue_absorbBit (polynomial register : UInt16) (bit : Bool) :
    residue polynomial (ofWord (absorbBit polynomial register bit)) =
      residue polynomial (ofWord register * X + C (coefficient bit) * X ^ 16) := by
  have twice :
      C (coefficient register.toBitVec.msb) + C (coefficient register.toBitVec.msb) = 0 :=
    CharTwo.add_self_eq_zero _
  rw [absorbBit, residue_reduced, ofWord_shiftLeft_one, coefficient_xor, C_add]
  refine congrArg (residue polynomial) ?_
  linear_combination X ^ 16 * twice

/-- The register holds the remainder of the bits so far, moved up by sixteen places. -/
theorem residue_serialRemainder (polynomial : UInt16) (bits : List Bool) :
    residue polynomial (ofWord (serialRemainder polynomial bits)) =
      residue polynomial (ofBits bits * X ^ 16) := by
  induction bits using List.reverseRecOn with
  | nil =>
      rw [serialRemainder, List.foldl_nil, ofWord_zero, ofBits, List.foldl_nil, zero_mul]
  | append_singleton bits bit inductionHypothesis =>
      have step : serialRemainder polynomial (bits ++ [bit]) =
          absorbBit polynomial (serialRemainder polynomial bits) bit := by
        simp [serialRemainder]
      rw [step, residue_absorbBit, map_add, map_mul, inductionHypothesis, ← map_mul, ← map_add,
        ofBits_concat]
      refine congrArg (residue polynomial) ?_
      ring

/-! ## One octet -/

/-- The mask picks the highest bit. -/
theorem and_top_eq_zero_iff (register : UInt16) :
    register &&& 0x8000 = 0 ↔ register.toBitVec.msb = false := by
  rw [← UInt16.toBitVec_inj, UInt16.toBitVec_and,
    show UInt16.toBitVec 0x8000 = BitVec.twoPow 16 15 by decide, BitVec.and_twoPow,
    BitVec.msb_eq_getLsbD_last]
  cases register.toBitVec.getLsbD (16 - 1) with
  | false => simp
  | true => simp

/-- A shift is the step of the register on a bit that is not set. -/
theorem shift_eq_absorbBit (polynomial register : UInt16) :
    shift polynomial register = absorbBit polynomial register false := by
  rw [shift, absorbBit, Bool.xor_false]
  cases top : register.toBitVec.msb with
  | false => exact if_pos ((and_top_eq_zero_iff register).2 top)
  | true =>
      refine if_neg fun clear => ?_
      cases top.symm.trans ((and_top_eq_zero_iff register).1 clear)

theorem residue_shifts (polynomial register : UInt16) (count : Nat) :
    residue polynomial (ofWord (Nat.repeat (shift polynomial) count register)) =
      residue polynomial (ofWord register * X ^ count) := by
  induction count with
  | zero => simp [Nat.repeat]
  | succ count inductionHypothesis =>
      rw [Nat.repeat, shift_eq_absorbBit, residue_absorbBit, coefficient_false, C_0, zero_mul,
        add_zero, map_mul, inductionHypothesis, ← map_mul, pow_succ, mul_assoc]

/-- A table entry stands for its octet, sixteen places up. -/
theorem residue_tableEntry (polynomial : UInt16) (octet : UInt8) :
    residue polynomial (ofWord (tableEntry polynomial octet)) =
      residue polynomial (ofWord octet.toUInt16 * X ^ 16) := by
  have moved : ofWord (octet.toUInt16 <<< 8) = ofWord octet.toUInt16 * X ^ 8 := by
    have clear : octet.toUInt16 >>> 8 = 0 := by
      apply UInt16.toNat_inj.mp
      simp [Nat.shiftRight_eq_div_pow, Nat.div_eq_of_lt octet.toNat_lt]
    rw [← ofWord_shiftLeft_eight, clear]
    simp
  rw [tableEntry, residue_shifts, moved, mul_assoc, ← pow_add]

/-- One octet multiplies the residue by `X ^ 8` and adds the octet, sixteen places up. -/
theorem residue_absorb (engine : Engine) (register : UInt16) (octet : UInt8) :
    residue engine.polynomial (ofWord (engine.absorb register octet)) =
      residue engine.polynomial (ofWord register * X ^ 8 + ofWord octet.toUInt16 * X ^ 16) := by
  have index : ((register >>> 8).toUInt8 ^^^ octet).toUInt16 =
      (register >>> 8).toUInt8.toUInt16 ^^^ octet.toUInt16 :=
    UInt8.toUInt16_xor _ _
  rw [Engine.absorb, Engine.entry_eq, ofWord_xor, map_add, residue_tableEntry, index, ofWord_xor,
    ← map_add, ← ofWord_shiftLeft_eight]
  refine congrArg (residue engine.polynomial) ?_
  ring

theorem ofBits_octetBits (octet : UInt8) : ofBits (octetBits octet) = ofWord octet.toUInt16 := by
  have reversed : (octetBits octet).reverse = (List.range 8).map octet.toBitVec.getLsbD := rfl
  ext place
  rw [coeff_ofBits, reversed, coeff_ofWord, UInt8.toBitVec_toUInt16]
  by_cases inside : place < 8
  · simp [inside, (by omega : place < 16)]
  · simp [inside, BitVec.getLsbD_of_ge octet.toBitVec place (by omega)]

/-- The engine's remainder has the residue of the data, moved up by sixteen places. -/
theorem residue_remainder (engine : Engine) (data : Bytes) :
    residue engine.polynomial (ofWord (engine.remainder data)) =
      residue engine.polynomial (ofBits (bits data) * X ^ 16) := by
  induction data using List.reverseRecOn with
  | nil =>
      rw [Engine.remainder_nil, ofWord_zero, bits, List.flatMap_nil, ofBits, List.foldl_nil,
        zero_mul]
  | append_singleton data octet inductionHypothesis =>
      have split : bits (data ++ [octet]) = bits data ++ octetBits octet := by
        simp [bits]
      rw [Engine.remainder_concat, residue_absorb, map_add, map_mul, inductionHypothesis, ← map_mul,
        ← map_add, split, ofBits_append, ofBits_octetBits, length_octetBits]
      refine congrArg (residue engine.polynomial) ?_
      ring

/-- The table engine computes what the register computes that takes one bit at a time. -/
theorem remainder_eq_serialRemainder (engine : Engine) (data : Bytes) :
    engine.remainder data = serialRemainder engine.polynomial (bits data) := by
  apply ofWord_injective
  rw [ofWord_eq_modByMonic (residue_remainder engine data),
    ofWord_eq_modByMonic (residue_serialRemainder engine.polynomial (bits data))]

theorem trailer_swapOctets (word : UInt16) :
    Frame.trailer (swapOctets word) = [(word >>> 8).toUInt8, word.toUInt8] := by
  have low : (swapOctets word).toUInt8 = (word >>> 8).toUInt8 := by
    apply UInt8.toBitVec_inj.mp
    apply BitVec.eq_of_getLsbD_eq
    intro place inside
    simp [swapOctets, inside]
  have high : (swapOctets word >>> 8).toUInt8 = word.toUInt8 := by
    apply UInt8.toBitVec_inj.mp
    apply BitVec.eq_of_getLsbD_eq
    intro place inside
    have outside := BitVec.getLsbD_of_ge word.toBitVec (8 + (8 + place)) (by omega)
    simp [swapOctets, inside, outside, (by omega : 8 + place < 16),
      BitVec.getLsbD_eq_getElem (by omega : place < 16)]
  rw [Frame.trailer, low, high]

/-! ## The checksum -/

/-- The checksum of an engine is the remainder of its data, moved up by sixteen places, on
division by the engine's divisor, with the octets exchanged: the same that comes of one
bit at a time.  A trailer sends the remainder's high octet first. -/
theorem checksum_is_remainder_of_division (polynomial : UInt16) (data : Bytes) :
    let engine := Engine.ofPolynomial polynomial
    let remainder := serialRemainder polynomial (bits data)
    engine.checksum data = swapOctets remainder ∧
      ofWord remainder = (ofBits (bits data) * X ^ 16) %ₘ (X ^ 16 + ofWord polynomial) ∧
      Frame.trailer (engine.checksum data) = [(remainder >>> 8).toUInt8, remainder.toUInt8] := by
  intro engine remainder
  have serial : engine.remainder data = remainder :=
    remainder_eq_serialRemainder engine data
  have checksum : engine.checksum data = swapOctets remainder :=
    congrArg swapOctets serial
  refine ⟨checksum, ?_, ?_⟩
  · exact ofWord_eq_modByMonic (residue_serialRemainder polynomial (bits data))
  · rw [checksum, trailer_swapOctets]

example : (Engine.ofPolynomial 0x1021).checksum (Bytes.ofText "123456789") = 0xc331 := by
  decide +kernel

end Checksum
end Framelink
