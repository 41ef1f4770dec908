import Framelink.Proofs.Datagrams
import Framelink.Proofs.Delivery
import Framelink.Proofs.Residue
import Framelink.Udp.Client

/-!
# Frames that run together

Whatever leaves the register at zero cannot be seen from behind: an engine accepts data with
it in front exactly if it accepts the data.  Accepted frames leave the register at zero, and
so do zeros.  So accepted frames one behind the other are accepted as one frame, and a read
that gathers datagrams until its buffer is full finds nothing wrong with them.
-/

namespace Framelink
namespace Checksum
namespace Engine

variable {engine : Engine} {front : Bytes}

/-- Data that leaves the register at zero is as good as none. -/
theorem remainder_append (clear : engine.remainder front = 0) (back : Bytes) :
    engine.remainder (front ++ back) = engine.remainder back := by
  rw [remainder, List.foldl_append, ← remainder, clear, remainder]

theorem remainder_zeros (engine : Engine) (count : Nat) :
    engine.remainder (List.replicate count 0) = 0 := by
  rw [remainder_eq_zero_iff_dvd, ofBits_zeros, zero_mul]
  exact dvd_zero _

end Engine
end Checksum

namespace Frame

open Checksum

variable {engine : Engine} {front : Bytes}

/-- What leaves the register at zero makes no difference to what is behind it. -/
theorem accepts_append_iff (clear : engine.remainder front = 0) {back : Bytes}
    (room : trailerLength ≤ back.length) :
    accepts engine (front ++ back) ↔ accepts engine back := by
  obtain ⟨payload, word, rfl⟩ := exists_word room
  rw [← List.append_assoc, accepts_word_iff, accepts_word_iff, Engine.remainder_append clear]

/-- Accepted frames, at least one, are accepted when they run together. -/
theorem accepts_flatten {frames : List Bytes} (nonempty : frames ≠ [])
    (accepted : ∀ frame ∈ frames, accepts engine frame) : accepts engine frames.flatten := by
  induction frames with
  | nil => exact absurd rfl nonempty
  | cons frame frames inductionHypothesis =>
      obtain ⟨first, others⟩ := List.forall_mem_cons.1 accepted
      rw [List.flatten_cons]
      by_cases last : frames = []
      · rw [last, List.flatten_nil, List.append_nil]
        exact first
      · have behind := inductionHypothesis last others
        exact (accepts_append_iff (remainder_of_accepts first) (accepts_iff_dvd.1 behind).1).2
          behind

end Frame

/-! ## Datagrams that run together -/

/-- A read that has put an accepted frame into its buffer returns all of it. -/
theorem Link.readResult_of_accepts {got : Bytes} (accepted : Frame.accepts Checksum.shared got) :
    readResult true ⟨got, .finished⟩ = some (.ok got.length) := by
  rw [readResult]
  dsimp only
  rw [if_pos rfl, Frame.verify_eq_ok_iff.2 accepted]
  rfl

namespace Udp
namespace Client

variable {client : Client} {socket : Socket} {network : Network}
  {datagrams waiting : List Datagram}

theorem length_gathered_pos (nonempty : datagrams ≠ [])
    (present : ∀ datagram ∈ datagrams, datagram.payload ≠ []) :
    0 < (datagrams.flatMap Datagram.payload).length := by
  obtain ⟨datagram, others, rfl⟩ := List.exists_cons_of_ne_nil nonempty
  have first := List.length_pos_iff.2 (present datagram List.mem_cons_self)
  rw [List.flatMap_cons, List.length_append]
  omega

/-- Datagrams are gathered one by one until they fill the buffer. -/
theorem loop_gathers (got : Bytes) {size patience : Nat} (untroubled : network.Untroubled)
    (waits : network.pending socket.bound.port = some (datagrams ++ waiting))
    (nonempty : datagrams ≠ []) (present : ∀ datagram ∈ datagrams, datagram.payload ≠ [])
    (full : got.length + (datagrams.flatMap Datagram.payload).length = size)
    (patient : datagrams.length ≤ patience) :
    ∃ later, ReadPolicy.loop ⟨true, .quiet⟩ receive size patience got (socket, network) =
      (⟨got ++ datagrams.flatMap Datagram.payload, .finished⟩, socket, later) := by
  induction datagrams generalizing got patience network with
  | nil => exact absurd rfl nonempty
  | cons datagram datagrams inductionHypothesis =>
      cases patience with
      | zero => exact absurd patient (Nat.not_succ_le_zero _)
      | succ patience =>
          obtain ⟨first, others⟩ := List.forall_mem_cons.1 present
          rw [List.flatMap_cons, List.length_append] at full
          have fits : datagram.payload.length ≤ size - got.length := by omega
          obtain ⟨later, received, untroubledLater, left⟩ :=
            receive_takes_first untroubled waits fits
          have taken : (got ++ datagram.payload).length +
              (datagrams.flatMap Datagram.payload).length = size := by
            rw [List.length_append]
            omega
          rw [ReadPolicy.loop, received, List.flatMap_cons, ← List.append_assoc]
          dsimp only
          -- The last datagram ends the read, and no other does.
          cases datagrams with
          | nil =>
              rw [ReadPolicy.turn_piece_finished first taken, List.flatMap_nil, List.append_nil]
              exact ⟨later, rfl⟩
          | cons next datagrams =>
              have more := length_gathered_pos (List.cons_ne_nil next datagrams) others
              have short : (got ++ datagram.payload).length < size := by omega
              rw [ReadPolicy.turn_piece_waiting first short]
              exact inductionHypothesis _ untroubledLater left (List.cons_ne_nil _ _) others taken
                (Nat.le_of_succ_le_succ patient)

/-- A read that carries on until its buffer is full takes the datagrams that fill it. -/
theorem read_gathers (opened : client.handle = some socket) (untroubled : network.Untroubled)
    (waits : network.pending socket.bound.port = some (datagrams ++ waiting))
    (nonempty : datagrams ≠ []) (present : ∀ datagram ∈ datagrams, datagram.payload ≠ [])
    (checked : Bool) :
    let gathered := datagrams.flatMap Datagram.payload
    (client.read network gathered.length checked true).1 =
      ⟨gathered, Link.readResult checked ⟨gathered, .finished⟩⟩ := by
  intro gathered
  have occupied : gathered.length ≠ 0 := (length_gathered_pos nonempty present).ne'
  have queued : (network.mailbox? socket.bound.port).map (fun mailbox => mailbox.waiting.length) =
      some (datagrams.length + waiting.length) := by
    have lengths := congrArg (Option.map List.length) waits
    rwa [Network.pending, Option.map_map, Option.map_some, List.length_append] at lengths
  have patient : datagrams.length ≤ patience network client := by
    rw [patience, opened]
    dsimp only [Option.bind_some]
    rw [queued, Option.getD_some]
    omega
  obtain ⟨later, looped⟩ :=
    loop_gathers [] untroubled waits nonempty present (Nat.zero_add gathered.length) patient
  rw [read, Link.read, opened]
  dsimp only
  rw [ReadPolicy.run, if_neg occupied, looped]
  rfl

end Client
end Udp

/-! ## Accepted behind accepted -/

namespace Frame

open Checksum

/-- A frame that is accepted hides nothing of what is behind it: the two together are accepted
exactly if the second is, as far as it has room for a trailer.  So accepted frames one behind
the other, at least one, are accepted as one frame, and so is an accepted frame with zeros in
front.  A datagram client that reads until its buffer is full takes accepted frames that wait
for it, and just fill the buffer, for one frame and finds its trailer right. -/
theorem frames_run_together (polynomial : UInt16) :
    let accepted (frame : Bytes) : Prop := accepts (Engine.ofPolynomial polynomial) frame = true
    (∀ frame, accepted frame → ∀ later : Bytes, trailerLength ≤ later.length →
      (accepted (frame ++ later) ↔ accepted later)) ∧
    (∀ frames : List Bytes, frames ≠ [] → (∀ frame ∈ frames, accepted frame) →
      accepted frames.flatten) ∧
    (∀ frame, accepted frame → ∀ count, accepted (List.replicate count 0 ++ frame)) ∧
    ∀ (client : Udp.Client) (socket : Udp.Socket) (network : Network)
      (datagrams waiting : List Datagram),
      client.handle = some socket → network.Untroubled →
      network.pending socket.bound.port = some (datagrams ++ waiting) → datagrams ≠ [] →
      (∀ datagram ∈ datagrams, accepts shared datagram.payload = true) →
      let frame := datagrams.flatMap Datagram.payload
      (client.read network frame.length true true).1 = ⟨frame, some (.ok frame.length)⟩ := by
  intro accepted
  refine ⟨?one, ?many, ?zeros, ?read⟩
  case one =>
    exact fun frame first later room => accepts_append_iff (remainder_of_accepts first) room
  case many =>
    exact fun frames nonempty all => accepts_flatten nonempty all
  case zeros =>
    intro frame last count
    exact (accepts_append_iff (Engine.remainder_zeros _ count) (accepts_iff_dvd.1 last).1).2 last
  case read =>
    intro client socket network datagrams waiting opened untroubled waits nonempty all frame
    have present : ∀ datagram ∈ datagrams, datagram.payload ≠ [] := by
      intro datagram within empty
      have room := (accepts_iff_dvd.1 (all datagram within)).1
      rw [empty] at room
      exact absurd room (by decide)
    have whole : accepts shared frame := by
      change accepts shared (datagrams.map Datagram.payload).flatten
      refine accepts_flatten ?_ (List.forall_mem_map.2 all)
      rwa [Ne, List.map_eq_nil_iff]
    rw [Udp.Client.read_gathers opened untroubled waits nonempty present true,
      Link.readResult_of_accepts whole]

/-- Two frames and a datagram of somebody else that wait for a client, who reads into a buffer
with room for the frames. -/
theorem frames_run_together_in_one_buffer :
    let frames := [append shared [1, 2, 3], append shared [4]]
    let socket : Udp.Socket := ⟨⟨.unspecified4, 40001, 0⟩, ⟨.loopback4, 40000, 0⟩⟩
    let datagrams := frames.map fun frame => (⟨socket.peer, frame⟩ : Datagram)
    let network : Network :=
      { Network.idle false with
        mailboxes := [⟨socket.bound, false, datagrams ++ [⟨⟨.loopback4, 5000, 0⟩, [7]⟩]⟩] }
    let client : Udp.Client := (Link.closed .udp).install socket ""
    (∀ frame ∈ frames, accepts shared frame = true) ∧
      accepts shared (append shared [4] ++ [5, 6]) = false ∧
      accepts shared frames.flatten = true ∧
      accepts shared ([0, 0, 0] ++ append shared [4]) = true ∧
      (client.read network 8 true true).1 =
        ⟨[1, 2, 3, 97, 49, 4, 64, 132], some (.ok 8)⟩ := by
  intro frames socket datagrams network client
  obtain ⟨one, many, zeros, read⟩ := frames_run_together sharedPolynomial
  have accepted : ∀ frame ∈ frames, accepts shared frame = true := by decide +kernel
  have last : accepts shared (append shared [4]) = true := by decide +kernel
  refine ⟨accepted, ?_, ?_, ?_, ?_⟩
  · have rejected : ¬ accepts shared [5, 6] = true := by decide +kernel
    rw [← Bool.not_eq_true]
    exact fun both => rejected ((one _ last [5, 6] (by decide)).1 both)
  · exact many frames (by decide) accepted
  · exact zeros _ last 3
  · have gathered : datagrams.flatMap Datagram.payload = [1, 2, 3, 97, 49, 4, 64, 132] := by
      decide +kernel
    have whole := read client socket network datagrams [⟨⟨.loopback4, 5000, 0⟩, [7]⟩] rfl
      ⟨rfl, rfl, rfl⟩ rfl (List.cons_ne_nil _ _) (List.forall_mem_map.2 accepted)
    rwa [gathered] at whole

end Frame
end Framelink
