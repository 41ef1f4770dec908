import Framelink.Proofs.Frame
import Mathlib.Data.List.Basic
import Mathlib.Tactic.TFAE

/-!
# Valid frames

Whatever is long enough to hold a trailer falls apart in exactly one way, and putting
a payload and a trailer together is the inverse of taking them apart.  So there is one
set of valid frames: what is accepted, what passes the check, what was put together
and what sealing leaves alone are the same.
-/

namespace Framelink
namespace Frame

open Checksum

variable {engine : Engine} {frame payload : Bytes}

/-- The two octets of a trailer as a number, low octet first. -/
theorem toNat_trailerValue (low high : UInt8) :
    (trailerValue low high).toNat = low.toNat + 256 * high.toNat := by
  have below : low.toNat < 2 ^ 8 := low.toNat_lt
  have fits : high.toNat * 2 ^ 8 < 2 ^ 16 := by
    have := high.toNat_lt
    omega
  have apart : high.toNat * 2 ^ 8 ||| low.toNat = high.toNat * 2 ^ 8 + low.toNat := by
    rw [Nat.mul_comm, Nat.two_pow_add_eq_or_of_lt below]
  simp only [trailerValue, UInt16.toNat_or, UInt16.toNat_shiftLeft, UInt8.toNat_toUInt16]
  rw [show (8 : UInt16).toNat % 16 = 8 from rfl, Nat.shiftLeft_eq, Nat.mod_eq_of_lt fits,
    Nat.or_comm, apart]
  omega

/-- The trailer of a trailer value is the two octets it was read from. -/
theorem trailer_trailerValue (low high : UInt8) :
    trailer (trailerValue low high) = [low, high] := by
  have value := toNat_trailerValue low high
  have lowOctet : (trailerValue low high).toUInt8 = low := by
    apply UInt8.toNat_inj.mp
    have := low.toNat_lt
    rw [UInt16.toNat_toUInt8, value]
    omega
  have highOctet : (trailerValue low high >>> 8).toUInt8 = high := by
    apply UInt8.toNat_inj.mp
    have := low.toNat_lt
    have := high.toNat_lt
    rw [UInt16.toNat_toUInt8, UInt16.toNat_shiftRight, value,
      show (8 : UInt16).toNat % 16 = 8 from rfl, Nat.shiftRight_eq_div_pow]
    omega
  rw [trailer, lowOctet, highOctet]

/-- Whatever has room for a trailer is a payload with two octets behind it. -/
theorem exists_payload (room : trailerLength ≤ frame.length) :
    ∃ payload low high, frame = payload ++ [low, high] := by
  have two : (frame.drop (frame.length - trailerLength)).length = 2 := by
    rw [List.length_drop]
    unfold trailerLength at *
    omega
  obtain ⟨low, high, last⟩ := List.length_eq_two.mp two
  refine ⟨frame.take (frame.length - trailerLength), low, high, ?_⟩
  rw [← last, List.take_append_drop]

/-- A payload with two octets behind it splits into the payload and their value. -/
theorem split?_octets (payload : Bytes) (low high : UInt8) :
    split? (payload ++ [low, high]) = some (payload, trailerValue low high) := by
  rw [← trailer_trailerValue, split?_trailer]

/-- Nothing splits that has no room for a trailer. -/
theorem split?_short (short : frame.length < trailerLength) : split? frame = none := by
  cases read : split? frame with
  | none => rfl
  | some parts =>
      rw [split?, Nat.sub_eq_zero_of_le (Nat.le_of_lt short), List.drop_zero] at read
      split at read
      · simp [trailerLength] at short
      · cases read

/-- Taking a frame apart is the inverse of putting it together. -/
theorem split?_eq_some_iff {value : UInt16} :
    split? frame = some (payload, value) ↔ frame = payload ++ trailer value := by
  constructor
  · intro read
    by_cases short : frame.length < trailerLength
    · rw [split?_short short] at read
      cases read
    · obtain ⟨front, low, high, rfl⟩ := exists_payload (Nat.le_of_not_lt short)
      rw [split?_octets] at read
      cases read
      rw [trailer_trailerValue]
  · rintro rfl
    exact split?_trailer payload value

/-- Accepted is what was put together, and nothing else. -/
theorem accepts_iff : accepts engine frame ↔ ∃ payload, frame = append engine payload := by
  rw [accepts]
  split
  case h_1 payload value read =>
    rw [split?_eq_some_iff] at read
    subst read
    rw [beq_iff_eq]
    constructor
    · rintro rfl
      exact ⟨payload, rfl⟩
    · rintro ⟨other, same⟩
      have read := congrArg split? same
      rw [append, split?_trailer, split?_trailer] at read
      cases read
      rfl
  case h_2 read =>
    refine iff_of_false Bool.false_ne_true ?_
    rintro ⟨payload, rfl⟩
    rw [append, split?_trailer] at read
    cases read

/-- What is accepted passes the check, and nothing else does. -/
theorem check_eq_ok_iff : check engine frame = .ok () ↔ accepts engine frame := by
  rw [check, accepts]
  split <;> simp

/-- The shared engine verifies what it accepts. -/
theorem verify_eq_ok_iff : verify frame = .ok () ↔ accepts shared frame := by
  rw [← check_eq_ok_iff, verify]
  cases check shared frame <;> simp [Except.mapError]

/-- Sealing makes the frame of what stands before the last two octets. -/
theorem seal?_octets (payload : Bytes) (low high : UInt8) :
    seal? engine (payload ++ [low, high]) = some (append engine payload) := by
  have before : (payload ++ [low, high]).length - trailerLength = payload.length := by
    simp [trailerLength]
  rw [seal?, if_neg (by simp [trailerLength]), before, List.take_left]

/-- Sealing refuses what has no room for a trailer. -/
theorem seal?_short (short : frame.length < trailerLength) : seal? engine frame = none :=
  if_pos short

/-- Sealing leaves alone what was put together, and nothing else. -/
theorem seal?_eq_self_iff :
    seal? engine frame = some frame ↔ ∃ payload, frame = append engine payload := by
  constructor
  · intro unchanged
    by_cases short : frame.length < trailerLength
    · rw [seal?_short short] at unchanged
      cases unchanged
    · obtain ⟨payload, low, high, rfl⟩ := exists_payload (Nat.le_of_not_lt short)
      rw [seal?_octets] at unchanged
      exact ⟨payload, (Option.some.inj unchanged).symm⟩
  · rintro ⟨payload, rfl⟩
    rw [append, trailer, seal?_octets, append, trailer]

/-- A sealed buffer is unchanged if it was put together, and only then. -/
theorem sealInPlace_eq_self_iff :
    sealInPlace engine frame = (true, frame) ↔ ∃ payload, frame = append engine payload := by
  rw [← seal?_eq_self_iff, sealInPlace]
  split <;> simp_all

/-- The verdict on a payload with two octets behind it. -/
theorem verify_octets (payload : Bytes) (low high : UInt8) :
    verify (payload ++ [low, high]) =
      if shared.checksum payload = trailerValue low high then .ok ()
      else .error (.checksumMismatch ⟨shared.checksum payload, trailerValue low high⟩) := by
  rw [verify, check, split?_octets]
  dsimp only
  split <;> rfl

/-- There is one set of valid frames.  The test, the check, the two ways to build a frame and
the splitter agree on every buffer: the check passes what the test accepts, which is what was
put together, which is what sealing leaves as it is; the splitter gives back what a frame was
put together from.  A buffer with room for a trailer is sealed into the frame of its payload,
and rejected for the checksum of its payload if that differs from the trailer; without room it
is neither sealed nor touched nor ever valid. -/
theorem frame_helpers_agree (buffer : Bytes) :
    List.TFAE
      [accepts shared buffer = true,
        verify buffer = .ok (),
        ∃ payload, buffer = append shared payload,
        sealInPlace shared buffer = (true, buffer)] ∧
    (∀ payload, buffer = append shared payload →
      split? buffer = some (payload, shared.checksum payload)) ∧
    ((∃ payload low high,
        buffer = payload ++ [low, high] ∧
        split? buffer = some (payload, trailerValue low high) ∧
        (trailerValue low high).toNat = low.toNat + 256 * high.toNat ∧
        sealInPlace shared buffer = (true, append shared payload) ∧
        (append shared payload).length = buffer.length ∧
        payload <+: append shared payload ∧
        (verify buffer = .ok () ∨
          verify buffer =
              .error (.checksumMismatch ⟨shared.checksum payload, trailerValue low high⟩) ∧
            shared.checksum payload ≠ trailerValue low high)) ∨
      (buffer.length < trailerLength ∧
        sealInPlace shared buffer = (false, buffer) ∧
        accepts shared buffer = false ∧
        ∃ error, verify buffer = .error error)) := by
  refine ⟨?oneSet, ?unique, ?shapes⟩
  case oneSet =>
    tfae_have 1 ↔ 2 := verify_eq_ok_iff.symm
    tfae_have 1 ↔ 3 := accepts_iff
    tfae_have 4 ↔ 3 := sealInPlace_eq_self_iff
    tfae_finish
  case unique =>
    rintro payload rfl
    exact split?_trailer payload _
  case shapes =>
    by_cases short : buffer.length < trailerLength
    · right
      have split := split?_short short
      refine ⟨short, ?_, ?_, ⟨.checksumMismatch ⟨shared.checksum buffer, 0⟩, ?_⟩⟩
      · rw [sealInPlace, seal?_short short]
      · rw [accepts, split]
      · rw [verify, check, split]
        rfl
    · left
      obtain ⟨payload, low, high, rfl⟩ := exists_payload (Nat.le_of_not_lt short)
      refine ⟨payload, low, high, rfl, split?_octets payload low high,
        toNat_trailerValue low high, ?_, ?_, List.prefix_append payload _, ?_⟩
      · rw [sealInPlace, seal?_octets]
      · rw [length_append, List.length_append]
        rfl
      · rw [verify_octets]
        by_cases same : shared.checksum payload = trailerValue low high
        · exact .inl (if_pos same)
        · exact .inr ⟨if_neg same, same⟩

end Frame
end Framelink
