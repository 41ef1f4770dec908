import Framelink.Proofs.Faults
import Framelink.Udp.Client

/-!
# Datagrams on a network without trouble

On a network that is not isolated and has no fault waiting for a send or a receive, a
datagram that may be sent is put behind those that wait at the port of its target and
nowhere else, and a receive takes the first of those that wait at its own port.
-/

namespace Framelink

namespace Network

/-- The datagrams that wait at a port, if it is bound. -/
def pending (network : Network) (port : UInt16) : Option (List Datagram) :=
  (network.mailbox? port).map Mailbox.waiting

/-- Datagrams can be sent and received: no fault is in the way. -/
structure Untroubled (network : Network) : Prop where
  connected : network.isolated = false
  sends : Fault.awaits .send network.faults = false
  receives : Fault.awaits .receive network.faults = false

variable {network : Network} {port : UInt16} {source target : SocketAddress}
  {datagram : Datagram} {waiting : List Datagram}

/-! ## Mailboxes -/

/-- A change of all mailboxes that leaves their addresses alone is seen at each port. -/
theorem mailbox?_map (network : Network) (change : Mailbox → Mailbox)
    (stays : ∀ mailbox, (change mailbox).address = mailbox.address) (port : UInt16) :
    { network with mailboxes := network.mailboxes.map change }.mailbox? port =
      (network.mailbox? port).map change := by
  have same : ((fun mailbox : Mailbox => mailbox.address.port == port) ∘ change) =
      fun mailbox => mailbox.address.port == port := by
    funext mailbox
    rw [Function.comp_apply, stays]
  rw [mailbox?, List.find?_map, same, mailbox?]

theorem port_of_mailbox? {mailbox : Mailbox} (found : network.mailbox? port = some mailbox) :
    mailbox.address.port = port := by
  have named := List.find?_some found
  exact beq_iff_eq.mp named

/-- A datagram to one host waits behind the others at its target, and nowhere else. -/
theorem pending_deliver (network : Network) (single : target.ip ≠ .broadcast4)
    (datagram : Datagram) (port : UInt16) :
    (network.deliver target datagram).pending port =
      (network.pending port).map fun waiting =>
        if port = target.port then waiting ++ [datagram] else waiting := by
  have toOne : (target.ip == .broadcast4) = false := beq_false_of_ne single
  rw [pending, deliver, mailbox?_map, pending, Option.map_map, Option.map_map]
  · cases found : network.mailbox? port with
    | none => rfl
    | some mailbox =>
        have here := port_of_mailbox? found
        simp only [Option.map_some, Function.comp_apply, toOne, Bool.not_false, Bool.true_or,
          Bool.and_true, beq_iff_eq, here]
        split <;> rfl
  · intro mailbox
    split <;> rfl

/-- What is sent to a port is not found at any other, whomever it is sent to. -/
theorem pending_deliver_elsewhere (network : Network) (datagram : Datagram)
    (apart : target.port ≠ port) :
    (network.deliver target datagram).pending port = network.pending port := by
  rw [pending, deliver, mailbox?_map, pending]
  · cases found : network.mailbox? port with
    | none => rfl
    | some mailbox =>
        have elsewhere : (mailbox.address.port == target.port) = false := by
          rw [port_of_mailbox? found]
          exact beq_false_of_ne apart.symm
        simp only [Option.map_some, elsewhere, Bool.false_and, Bool.false_eq_true, if_false]
  · intro mailbox
    split <;> rfl

/-- The first of the datagrams that wait at a port is taken, and the others stay. -/
theorem takeDatagram_of_pending (waits : network.pending port = some (datagram :: waiting)) :
    ∃ later, network.takeDatagram port = (some datagram, later) ∧
      (network.Untroubled → later.Untroubled) ∧
      later.pending port = some waiting ∧
      ∀ other, other ≠ port → later.pending other = network.pending other := by
  have found : (network.mailbox? port).map (·.waiting) = some (datagram :: waiting) := waits
  refine ⟨_, by rw [takeDatagram, found], fun untroubled => ?_, ?_, ?_⟩
  · exact ⟨untroubled.connected, untroubled.sends, untroubled.receives⟩
  · rw [pending, mailbox?_map]
    · cases held : network.mailbox? port with
      | none =>
          rw [held] at found
          cases found
      | some mailbox =>
          simp only [Option.map_some, port_of_mailbox? held, beq_self_eq_true, if_true]
    · intro mailbox
      split <;> rfl
  · intro other apart
    rw [pending, mailbox?_map, pending]
    · cases held : network.mailbox? other with
      | none => rfl
      | some mailbox =>
          have elsewhere : (mailbox.address.port == port) = false := by
            rw [port_of_mailbox? held]
            exact beq_false_of_ne apart
          simp only [Option.map_some, elsewhere, Bool.false_eq_true, if_false]
    · intro mailbox
      split <;> rfl

/-! ## Receiving -/

/-- A receive takes the first of the datagrams that wait, as far as there is room. -/
theorem Untroubled.receiveDatagram (untroubled : network.Untroubled)
    (waits : network.pending port = some (datagram :: waiting)) (room : Nat) :
    ∃ later, network.receiveDatagram port room =
        (.ok { datagram with payload := datagram.payload.take room }, later) ∧
      later.Untroubled ∧ later.pending port = some waiting ∧
      ∀ other, other ≠ port → later.pending other = network.pending other := by
  obtain ⟨later, taken, stays, left, elsewhere⟩ := takeDatagram_of_pending waits
  refine ⟨later, ?_, stays untroubled, left, elsewhere⟩
  rw [Network.receiveDatagram, consult_of_spared untroubled.receives]
  dsimp only
  rw [taken]

/-- Where nothing waits, a receive changes nothing. -/
theorem Untroubled.receiveDatagram_of_none (untroubled : network.Untroubled)
    (empty : network.pending port = some []) (room : Nat) :
    network.receiveDatagram port room =
      (.error (.system Failure.Code.wouldBlock), network) := by
  have found : (network.mailbox? port).map (·.waiting) = some [] := empty
  rw [Network.receiveDatagram, consult_of_spared untroubled.receives]
  dsimp only
  rw [takeDatagram, found]

/-! ## Sending -/

theorem not_broadcast_of_reachable {address : IpAddress}
    (reachable : isReachable address = true) : address ≠ .broadcast4 := by
  rintro rfl
  exact absurd reachable (by decide)

/-- Nothing stands in the way of a datagram to an address of this host, of the family it is
sent from, that is not too long. -/
theorem datagramObstacle?_eq_none (connected : network.isolated = false)
    (family : source.ip.isV4 = target.ip.isV4) (reachable : isReachable target.ip = true)
    {length : Nat} (short : length ≤ longestDatagram) :
    network.datagramObstacle? source target false length = none := by
  have single : (target.ip == .broadcast4) = false :=
    beq_false_of_ne (not_broadcast_of_reachable reachable)
  rw [datagramObstacle?, family, connected, single, reachable]
  simp [Nat.not_lt.mpr short]

/-- A datagram that may be sent is sent whole. -/
theorem Untroubled.sendDatagram (untroubled : network.Untroubled)
    (family : source.ip.isV4 = target.ip.isV4) (reachable : isReachable target.ip = true)
    {payload : Bytes} (short : payload.length ≤ longestDatagram) :
    network.sendDatagram source target false payload =
      (.ok payload.length, network.deliver target ⟨shownSource source, payload⟩) := by
  rw [Network.sendDatagram, consult_of_spared untroubled.sends]
  dsimp only
  rw [post, datagramObstacle?_eq_none untroubled.connected family reachable short]

/-- A delivery leaves the faults alone. -/
theorem Untroubled.deliver (untroubled : network.Untroubled) (target : SocketAddress)
    (datagram : Datagram) : (network.deliver target datagram).Untroubled :=
  ⟨untroubled.connected, untroubled.sends, untroubled.receives⟩

/-- Whatever becomes of a datagram to another port, nothing else comes of sending it. -/
theorem Untroubled.sendDatagram_elsewhere (untroubled : network.Untroubled)
    (source target : SocketAddress) (mayBroadcast : Bool) (payload : Bytes) :
    (network.sendDatagram source target mayBroadcast payload).2.Untroubled ∧
      ∀ port, target.port ≠ port →
        (network.sendDatagram source target mayBroadcast payload).2.pending port =
          network.pending port := by
  rw [Network.sendDatagram, consult_of_spared untroubled.sends]
  dsimp only
  rw [post]
  split
  · exact ⟨untroubled, fun _ _ => rfl⟩
  · exact ⟨untroubled.deliver target _,
      fun port apart => pending_deliver_elsewhere network _ apart⟩

/-- The address that a socket of this host shows can be reached, by its own family. -/
theorem shownSource_reachable (bound : SocketAddress) (own : isReachable bound.ip = true) :
    isReachable (shownSource bound).ip = true ∧
      (shownSource bound).ip.isV4 = bound.ip.isV4 ∧
      (shownSource bound).port = bound.port := by
  rw [shownSource]
  split
  · next unspecified =>
      dsimp only
      split
      · next older => exact ⟨by decide, by rw [older]; rfl, rfl⟩
      · next newer => exact ⟨by decide, by rw [Bool.eq_false_iff.mpr newer]; rfl, rfl⟩
  · exact ⟨own, rfl, rfl⟩

end Network

/-- A client's receive takes the first of the datagrams that wait for it, if there is room. -/
theorem Udp.Client.receive_takes_first {socket : Socket} {network : Network}
    (untroubled : network.Untroubled) {datagram : Datagram} {waiting : List Datagram}
    (waits : network.pending socket.bound.port = some (datagram :: waiting)) {room : Nat}
    (fits : datagram.payload.length ≤ room) :
    ∃ later, receive room (socket, network) = (.ok datagram.payload, socket, later) ∧
      later.Untroubled ∧ later.pending socket.bound.port = some waiting := by
  obtain ⟨later, received, stays, left, _⟩ := untroubled.receiveDatagram waits room
  refine ⟨later, ?_, stays, left⟩
  rw [receive]
  dsimp only
  rw [received, List.take_of_length_le fits]
  rfl

end Framelink
