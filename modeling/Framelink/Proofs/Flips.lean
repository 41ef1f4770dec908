import Framelink.Proofs.Codewords

/-!
# Flipped bits

Flipping a bit of a string adds to its polynomial the power of `X` that the bit stands for.
So what becomes of an accepted frame when bits of it are flipped depends on a sum of powers
alone, one for each flip.
-/

namespace Framelink

namespace Bytes

/-- The octet whose only bit is the one at a place, the most significant one being first. -/
def mask (place : Nat) : UInt8 := 0x80 >>> UInt8.ofNat place

/-- The data with the bit at a position flipped.  Positions count from the most significant
bit of the first octet. -/
def flipBit (position : Nat) (data : Bytes) : Bytes :=
  data.modify (position / 8) (· ^^^ mask (position % 8))

/-- The data with a bit flipped for each of some positions. -/
def flipBits (positions : List Nat) (data : Bytes) : Bytes :=
  positions.foldr flipBit data

@[simp] theorem length_flipBit (position : Nat) (data : Bytes) :
    (flipBit position data).length = data.length :=
  List.length_modify ..

@[simp] theorem flipBits_nil (data : Bytes) : flipBits [] data = data := rfl

@[simp] theorem flipBits_cons (position : Nat) (positions : List Nat) (data : Bytes) :
    flipBits (position :: positions) data = flipBit position (flipBits positions data) := rfl

@[simp] theorem length_flipBits (positions : List Nat) (data : Bytes) :
    (flipBits positions data).length = data.length := by
  induction positions with
  | nil => rfl
  | cons position positions inductionHypothesis =>
      rw [flipBits_cons, length_flipBit, inductionHypothesis]

end Bytes

namespace Checksum

open Polynomial Bytes

/-! ## One bit -/

theorem getMsbD_mask {place : Nat} (inside : place < 8) (other : Nat) :
    (mask place).toBitVec.getMsbD other = decide (place = other) := by
  have amount : ((UInt8.ofNat place).toBitVec % 8).toNat = place := by
    simp [Nat.mod_eq_of_lt inside, Nat.mod_eq_of_lt (Nat.lt_trans inside (by decide : 8 < 256))]
  rw [mask, UInt8.toBitVec_shiftRight, BitVec.ushiftRight_eq', amount,
    BitVec.getMsbD_ushiftRight, show UInt8.toBitVec 0x80 = BitVec.twoPow 8 7 by decide,
    BitVec.getMsbD_twoPow]
  simp only [← Bool.decide_and, ← decide_not]
  apply decide_eq_decide.2
  omega

/-- A mask flips the bit at its place, and no other. -/
theorem getMsbD_xor_mask (octet : UInt8) {place : Nat} (inside : place < 8) (other : Nat) :
    (octet ^^^ mask place).toBitVec.getMsbD other =
      if place = other then !octet.toBitVec.getMsbD other else octet.toBitVec.getMsbD other := by
  rw [UInt8.toBitVec_xor, BitVec.getMsbD_xor, getMsbD_mask inside]
  split
  · next here => rw [decide_eq_true here, Bool.xor_true]
  · next apart => rw [decide_eq_false apart, Bool.xor_false]

/-- Where the bits of a string stand in its octets. -/
theorem getElem?_bits (data : Bytes) (position : Nat) :
    (bits data)[position]? = data[position / 8]?.map (·.toBitVec.getMsbD (position % 8)) := by
  induction data generalizing position with
  | nil => rfl
  | cons octet data inductionHypothesis =>
      rw [bits, List.flatMap_cons, ← bits, List.getElem?_append, length_octetBits]
      split
      · next inside =>
          rw [Nat.div_eq_of_lt inside, Nat.mod_eq_of_lt inside]
          simp [octetBits, inside]
      · next outside =>
          obtain ⟨left, rfl⟩ := Nat.exists_eq_add_of_le (Nat.le_of_not_lt outside)
          rw [Nat.add_sub_cancel_left, inductionHypothesis, Nat.add_mod_left,
            Nat.add_div_left left (by decide), List.getElem?_cons_succ]

/-- One bit of the string is flipped, and no other. -/
theorem bits_flipBit (position : Nat) (data : Bytes) :
    bits (flipBit position data) = (bits data).modify position (!·) := by
  apply List.ext_getElem?
  intro other
  rw [flipBit, List.getElem?_modify, getElem?_bits, getElem?_bits, List.getElem?_modify,
    Option.map_eq_map, Option.map_eq_map, Option.map_map, Option.map_map]
  apply congrArg (Option.map · data[other / 8]?)
  funext octet
  dsimp only [Function.comp_apply]
  by_cases sameOctet : position / 8 = other / 8
  · have samePlace : position % 8 = other % 8 ↔ position = other := by omega
    rw [if_pos sameOctet, getMsbD_xor_mask octet (Nat.mod_lt position (by decide))]
    simp only [samePlace]
  · have apart : position ≠ other := by
      rintro rfl
      exact sameOctet rfl
    rw [if_neg sameOctet, if_neg apart]

/-! ## Its polynomial -/

theorem coefficient_not (bit : Bool) : coefficient (!bit) = coefficient bit + 1 := by
  cases bit <;> decide

/-- The first bit leads. -/
theorem ofBits_cons (bit : Bool) (row : List Bool) :
    ofBits (bit :: row) = C (coefficient bit) * X ^ row.length + ofBits row := by
  rw [← List.singleton_append, ofBits_append]
  simp [ofBits]

/-- Flipping a bit adds the power of `X` that it stands for. -/
theorem ofBits_modify {row : List Bool} {position : Nat} (inside : position < row.length) :
    ofBits (row.modify position (!·)) = ofBits row + X ^ (row.length - 1 - position) := by
  have behind : (row.drop (position + 1)).length = row.length - 1 - position := by
    rw [List.length_drop]
    omega
  have apart :
      ofBits row = ofBits (row.take position ++ row[position] :: row.drop (position + 1)) := by
    rw [← List.drop_eq_getElem_cons inside, List.take_append_drop]
  rw [apart, List.modify_eq_take_cons_drop inside, ofBits_append, ofBits_append, ofBits_cons,
    ofBits_cons, coefficient_not, C_add, C_1, List.length_cons, List.length_cons, behind]
  ring

/-- The powers of `X` that flipping bits of a string of some length adds to it. -/
noncomputable def damage (length : Nat) (positions : List Nat) : (ZMod 2)[X] :=
  (positions.map fun position => X ^ (length - 1 - position)).sum

theorem ofBits_flipBits {positions : List Nat} {data : Bytes}
    (inside : ∀ position ∈ positions, position < 8 * data.length) :
    ofBits (bits (flipBits positions data)) =
      ofBits (bits data) + damage (8 * data.length) positions := by
  induction positions with
  | nil => simp [damage]
  | cons position positions inductionHypothesis =>
      obtain ⟨first, others⟩ := List.forall_mem_cons.1 inside
      have length : (bits (flipBits positions data)).length = 8 * data.length := by
        rw [length_bits, length_flipBits]
      rw [flipBits_cons, bits_flipBit, ofBits_modify (by rwa [length]), length,
        inductionHypothesis others, damage, damage, List.map_cons, List.sum_cons]
      ring

end Checksum

namespace Frame

open Checksum Bytes

/-- An accepted frame is accepted with some of its bits flipped exactly if the divisor
divides the sum of what the flips add. -/
theorem accepts_flipBits_iff {engine : Engine} {frame : Bytes} {positions : List Nat}
    (accepted : accepts engine frame)
    (inside : ∀ position ∈ positions, position < 8 * frame.length) :
    accepts engine (flipBits positions frame) ↔
      divisor engine.polynomial ∣ damage (8 * frame.length) positions := by
  rw [accepts_damaged_iff accepted (length_flipBits positions frame), ofBits_flipBits inside,
    add_sub_cancel_left]

end Frame
end Framelink
