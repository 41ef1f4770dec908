import Framelink.Proofs.Reading.Course
import Framelink.Proofs.ValidFrames

/-!
# Checked reads

A read that checks the trailer of what it reads is the read that does not, followed by a
look at the bytes that it has put into the buffer.  The check receives nothing and changes
nothing; all that it can do is to turn a count into a mismatch.
-/

namespace Framelink
namespace Link

open Checksum Framelink.Frame

/-- One reading is what a check of its frame makes of another. -/
structure Reading.Filtered (buffer : Bytes) (plain checked : Reading) : Prop where
  /-- The check leaves the buffer as it is, also when it fails. -/
  fill : checked.fill buffer = plain.fill buffer
  waits : checked.result = none ↔ plain.result = none
  accepted : ∀ count, checked.result = some (.ok count) ↔
    plain.result = some (.ok count) ∧
      accepts shared ((plain.fill buffer).take count) = true
  /-- What has no room for a trailer is never accepted. -/
  whole : ∀ count, checked.result = some (.ok count) → trailerLength ≤ count
  rejected : ∀ count payload low high, plain.result = some (.ok count) →
    (plain.fill buffer).take count = payload ++ [low, high] →
      shared.checksum payload ≠ trailerValue low high →
        checked.result =
          some (.error (.checksumMismatch ⟨shared.checksum payload, trailerValue low high⟩))
  /-- What has no room for a trailer is taken for a payload whose trailer reads zero. -/
  tooShort : ∀ count, plain.result = some (.ok count) → count < trailerLength →
    checked.result =
      some (.error (.checksumMismatch
        ⟨shared.checksum ((plain.fill buffer).take count), 0⟩))
  failed : ∀ error, plain.result = some (.error error) →
    checked.result = some (.error error)

/-- A reading that failed is what a check makes of it. -/
theorem Reading.filtered_error (buffer got : Bytes) (error : LinkError) :
    Reading.Filtered buffer ⟨got, some (.error error)⟩ ⟨got, some (.error error)⟩ where
  fill := rfl
  waits := Iff.rfl
  accepted := fun _ => ⟨nofun, nofun⟩
  whole := nofun
  rejected := nofun
  tooShort := nofun
  failed := fun _ same => same

/-- What is too short for a trailer is taken for a payload whose trailer reads zero. -/
theorem verify_short {frame : Bytes} (short : frame.length < trailerLength) :
    verify frame = .error (.checksumMismatch ⟨shared.checksum frame, 0⟩) := by
  rw [verify, check, split?_short short]
  rfl

theorem trailerLength_le_of_accepts {frame : Bytes} (accepted : accepts shared frame = true) :
    trailerLength ≤ frame.length := by
  obtain ⟨payload, rfl⟩ := accepts_iff.mp accepted
  rw [length_append]
  exact Nat.le_add_left _ _

/-- The check of a reading that is over looks at its bytes. -/
theorem Reading.filtered_verify (buffer got : Bytes) :
    Reading.Filtered buffer ⟨got, some (.ok got.length)⟩
      ⟨got, some ((verify got).map fun _ => got.length)⟩ := by
  have front : (Reading.fill ⟨got, some (.ok got.length)⟩ buffer).take got.length = got :=
    List.take_left
  have passes : ∀ count, ((verify got).map fun _ => got.length) = .ok count ↔
      got.length = count ∧ accepts shared got = true := by
    intro count
    rw [← verify_eq_ok_iff]
    cases verify got <;> simp [Except.map]
  refine ⟨rfl, ?waits, ?accepted, ?whole, ?rejected, ?tooShort, nofun⟩
  case waits => exact iff_of_false nofun nofun
  case accepted =>
    intro count
    rw [Option.some.injEq, Option.some.injEq, passes, Except.ok.injEq]
    constructor
    · rintro ⟨rfl, accepted⟩
      exact ⟨rfl, front.symm ▸ accepted⟩
    · rintro ⟨rfl, accepted⟩
      exact ⟨rfl, front ▸ accepted⟩
  case whole =>
    intro count returned
    obtain ⟨rfl, accepted⟩ := (passes count).mp (Option.some.inj returned)
    exact trailerLength_le_of_accepts accepted
  case rejected =>
    rintro count payload low high ⟨⟩ split differs
    have read : got = payload ++ [low, high] := front.symm.trans split
    dsimp only
    rw [read, verify_octets, if_neg differs]
    rfl
  case tooShort =>
    rintro count ⟨⟩ short
    rw [front]
    dsimp only
    rw [verify_short short]
    rfl

/-- The result with a check is what the check makes of the result without. -/
theorem filtered_readResult (buffer : Bytes) (progress : ReadProgress) :
    Reading.Filtered buffer ⟨progress.got, readResult false progress⟩
      ⟨progress.got, readResult true progress⟩ := by
  obtain ⟨got, state⟩ := progress
  cases state with
  | waiting => exact ⟨rfl, Iff.rfl, fun _ => ⟨nofun, nofun⟩, nofun, nofun, nofun, nofun⟩
  | finished => exact Reading.filtered_verify buffer got
  | failed failure => exact Reading.filtered_error buffer got (.exchange failure)

variable {Handle World : Type}

/-- Neither the link nor the world depends on whether a read checks a trailer. -/
theorem later_read (link : Link Handle) (world : World)
    (receive : Nat → Handle × World → Receipt × (Handle × World)) (policy : ReadPolicy)
    (size patience : Nat) :
    (link.read world receive policy true size patience).2 =
      (link.read world receive policy false size patience).2 := by
  rw [read, read]
  cases link.handle <;> rfl

/-- A read with a check makes the same receives as the read without, and leaves the same
buffer, link and world.  It returns a count exactly if the read without does and the bytes
are an accepted frame; it reports the checksum of the payload and the trailer that was found
if they are not, and the failure of the read without if that failed. -/
theorem check_only_filters_result (link : Link Handle) (world : World)
    (receive : Nat → Handle × World → Receipt × (Handle × World)) (policy : ReadPolicy)
    (buffer : Bytes) (patience : Nat) :
    let plain := link.read world receive policy false buffer.length patience
    let checked := link.read world receive policy true buffer.length patience
    link.attempts world receive policy true buffer.length patience =
        link.attempts world receive policy false buffer.length patience ∧
      checked.2 = plain.2 ∧ checked.2.1.isConnected = plain.2.1.isConnected ∧
      Reading.Filtered buffer plain.1 checked.1 := by
  have later := later_read link world receive policy buffer.length patience
  have noted := later_read link (world, []) (recorded receive) policy buffer.length patience
  refine ⟨congrArg (·.2.2) noted, later, congrArg (·.1.isConnected) later, ?_⟩
  rw [read, read]
  cases link.handle with
  | none => exact Reading.filtered_error buffer [] .notConnected
  | some handle => exact filtered_readResult buffer _

end Link
end Framelink
