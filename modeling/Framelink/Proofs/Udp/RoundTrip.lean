import Framelink.Proofs.Datagrams
import Framelink.Proofs.Frame
import Framelink.Proofs.Udp.Echo
import Framelink.Udp.Client

/-!
# A frame goes to a server and back

A client sends a frame to a server that has no data callback.  When the rounds of the
server have come to it, the server holds the frame for the client, and the frame is all
that waits for the client, whose next read returns it and finds its trailer right.
-/

namespace Framelink

namespace Udp

open Checksum

/-- What a socket sends arrives at a door of the same host, and an answer comes back. -/
structure Socket.Reaches (socket : Socket) (door : SocketAddress) : Prop where
  port : socket.peer.port = door.port
  peer : Network.isReachable socket.peer.ip = true
  own : Network.isReachable socket.bound.ip = true
  family : socket.bound.ip.isV4 = socket.peer.ip.isV4
  sameFamily : door.ip.isV4 = socket.peer.ip.isV4
  apart : socket.bound.port ≠ door.port

/-- The address that a server sees a socket by. -/
def Socket.shown (socket : Socket) : SocketAddress := Network.shownSource socket.bound

variable {socket : Socket} {door : SocketAddress} {ahead : List Datagram} {frame : Bytes}

theorem Socket.Reaches.shown (reaches : socket.Reaches door) :
    Network.isReachable socket.shown.ip = true ∧
      socket.shown.ip.isV4 = socket.bound.ip.isV4 ∧ socket.shown.port = socket.bound.port :=
  Network.shownSource_reachable socket.bound reaches.own

/-! ## The client -/

namespace Client

variable {client : Client} {network : Network}

/-- A payload that is not too long is sent in one datagram with its trailer. -/
theorem write_delivers (opened : client.handle = some socket) (untroubled : network.Untroubled)
    (reaches : socket.Reaches door) {payload : Bytes}
    (fits : payload.length + Frame.trailerLength ≤ Network.longestDatagram) :
    client.write network payload true =
      (.ok (payload.length + Frame.trailerLength), client,
        network.deliver socket.peer ⟨socket.shown, Frame.append shared payload⟩) := by
  have short : (Frame.append shared payload).length ≤ Network.longestDatagram := by
    rw [Frame.length_append]
    exact fits
  have same : { client with handle := some socket } = client := by
    rw [← opened]
  have sent := untroubled.sendDatagram reaches.family reaches.peer short
  rw [write, writeWith, Link.write, Link.withHandle, opened]
  dsimp only [Link.outgoing, if_true]
  rw [if_pos rfl, Link.sendThrough, postFitting, if_neg (Nat.not_lt.mpr short)]
  dsimp only [post]
  rw [sent, Frame.length_append, same]
  rfl

/-- A read takes the first datagram that waits, if there is room for it. -/
theorem read_takes_first (opened : client.handle = some socket)
    (untroubled : network.Untroubled) {datagram : Datagram} {waiting : List Datagram}
    (waits : network.pending socket.bound.port = some (datagram :: waiting))
    {size : Nat} (positive : size ≠ 0) (room : datagram.payload.length ≤ size)
    (checked : Bool) :
    (client.read network size checked false).1 =
      ⟨datagram.payload, Link.readResult checked ⟨datagram.payload, .finished⟩⟩ := by
  obtain ⟨later, receipt, _⟩ := receive_takes_first untroubled waits room
  obtain ⟨spare, enough⟩ : ∃ spare, patience network client = spare + 1 := ⟨_, rfl⟩
  have looped : ReadPolicy.run ⟨false, .quiet⟩ receive size (patience network client)
      (socket, network) = (⟨datagram.payload, .finished⟩, socket, later) := by
    rw [ReadPolicy.run, if_neg positive, enough, ReadPolicy.loop, List.length_nil, Nat.sub_zero,
      receipt]
    have quiet : (Silence.quiet == Silence.endOfStream) = false := rfl
    simp only [ReadPolicy.turn, quiet, Bool.and_false, Bool.false_and, Bool.false_eq_true,
      if_false, List.nil_append]
  rw [read, Link.read, opened]
  dsimp only
  rw [looped]

end Client

/-! ## The rounds of the server -/

namespace Server

/-- A number of rounds of the receiver of a socket. -/
def rounds (bound : SocketAddress) : Nat → Server → Server
  | 0, server => server
  | count + 1, server => rounds bound count (server.receiverRound .live bound)

variable {server : Server} {before : Option Bytes}

/-- A server without a data callback at whose door a frame of a socket waits behind the
datagrams of others, while nothing waits for the socket. -/
structure Awaits (server : Server) (socket : Socket) (door : SocketAddress)
    (ahead : List Datagram) (frame : Bytes) (before : Option Bytes) : Prop where
  running : server.running = true
  free : server.onData = none
  untroubled : server.network.Untroubled
  queued : server.network.pending door.port = some (ahead ++ [⟨socket.shown, frame⟩])
  nothing : server.network.pending socket.bound.port = some []
  others : ∀ datagram ∈ ahead,
    datagram.source.port ≠ socket.bound.port ∧ datagram.source.port ≠ door.port
  calm : server.Calm (ahead.map Datagram.source ++ [socket.shown])
  held : server.held socket.shown = before

/-- A server that has kept a frame of a socket and sent it back, and has nothing more to do. -/
structure HasAnswered (server : Server) (socket : Socket) (door : SocketAddress)
    (frame : Bytes) (before : Option Bytes) : Prop where
  running : server.running = true
  untroubled : server.network.Untroubled
  idle : server.network.pending door.port = some []
  answered : server.network.pending socket.bound.port = some [⟨Network.shownSource door, frame⟩]
  held : server.held socket.shown = some (before.getD [] ++ frame)

/-- A datagram of somebody else is handled without anything coming of it for the socket. -/
theorem Awaits.round_other (reaches : socket.Reaches door) {datagram : Datagram}
    (awaits : server.Awaits socket door (datagram :: ahead) frame before) :
    Awaits (server.receiverRound .live door) socket door ahead frame before := by
  obtain ⟨away, apart⟩ := awaits.others datagram List.mem_cons_self
  obtain ⟨network, received, untroubled, left, elsewhere⟩ :=
    awaits.untroubled.receiveDatagram awaits.queued bufferSize
  obtain ⟨echoed, calm⟩ := receiverRound_echoes awaits.running awaits.free received awaits.calm
  obtain ⟨sends, unseen⟩ := untroubled.sendDatagram_elsewhere door datagram.source false
    (datagram.payload.take bufferSize)
  have stranger : socket.shown ≠ datagram.source := by
    intro same
    rw [← same, reaches.shown.2.2] at away
    exact away rfl
  refine ⟨echoed.running, echoed.free, ?_, ?_, ?_, ?_, calm, ?_⟩
  · rw [echoed.network]
    exact sends
  · rw [echoed.network, unseen door.port apart]
    exact left
  · rw [echoed.network, unseen socket.bound.port away, elsewhere _ reaches.apart]
    exact awaits.nothing
  · exact fun other within => awaits.others other (List.mem_cons_of_mem datagram within)
  · rw [echoed.others socket.shown stranger]
    exact awaits.held

/-- The frame itself is kept for the socket and sent back to it. -/
theorem Awaits.round_own (reaches : socket.Reaches door)
    (fits : frame.length ≤ Network.longestDatagram)
    (awaits : server.Awaits socket door [] frame before) :
    HasAnswered (server.receiverRound .live door) socket door frame before := by
  obtain ⟨network, received, untroubled, left, elsewhere⟩ :=
    awaits.untroubled.receiveDatagram awaits.queued bufferSize
  have whole : frame.take bufferSize = frame := List.take_of_length_le fits
  rw [whole] at received
  obtain ⟨echoed, _⟩ := receiverRound_echoes awaits.running awaits.free received awaits.calm
  obtain ⟨reachable, family, port⟩ := reaches.shown
  have sameFamily : door.ip.isV4 = socket.shown.ip.isV4 := by
    rw [reaches.sameFamily, ← reaches.family, family]
  have sent := echoed.network
  rw [untroubled.sendDatagram sameFamily reachable fits] at sent
  dsimp only at sent
  have single := Network.not_broadcast_of_reachable reachable
  refine ⟨echoed.running, ?_, ?_, ?_, ?_⟩
  · rw [sent]
    exact untroubled.deliver _ _
  · rw [sent, Network.pending_deliver network single, left, Option.map_some, if_neg]
    rw [port]
    exact reaches.apart.symm
  · rw [sent, Network.pending_deliver network single, elsewhere _ reaches.apart, awaits.nothing,
      Option.map_some, if_pos port.symm]
    rfl
  · rw [echoed.kept, awaits.held]

/-- Nothing comes of a round when nothing waits. -/
theorem HasAnswered.round (answered : server.HasAnswered socket door frame before) :
    server.receiverRound .live door = server := by
  rw [receiverRound, if_pos answered.running,
    answered.untroubled.receiveDatagram_of_none answered.idle]
  rfl

theorem HasAnswered.rounds (answered : server.HasAnswered socket door frame before)
    (count : Nat) : rounds door count server = server := by
  induction count with
  | zero => rfl
  | succ count unchanged => rw [Server.rounds, answered.round, unchanged]

/-- The frame is answered when one round more has been made than there were datagrams
ahead of it, and stays so. -/
theorem Awaits.rounds (reaches : socket.Reaches door)
    (fits : frame.length ≤ Network.longestDatagram)
    (awaits : server.Awaits socket door ahead frame before) {count : Nat}
    (enough : ahead.length < count) :
    HasAnswered (rounds door count server) socket door frame before := by
  induction ahead generalizing server count with
  | nil =>
      obtain ⟨more, rfl⟩ := Nat.exists_eq_add_of_lt enough
      have answered := awaits.round_own reaches fits
      rw [List.length_nil, Nat.zero_add, Server.rounds, answered.rounds]
      exact answered
  | cons datagram ahead answers =>
      obtain ⟨more, rfl⟩ := Nat.exists_eq_add_of_lt enough
      rw [Server.rounds]
      refine answers (awaits.round_other reaches) ?_
      rw [List.length_cons]
      omega

end Server

/-! ## There and back -/

/-- A client with a socket that reaches the door of a server: the server runs and has no data
callback, nothing is in the way of a datagram, nothing waits for the client, and what waits
at the door came from others. -/
structure Linked (client : Client) (server : Server) (socket : Socket) (door : SocketAddress)
    (ahead : List Datagram) : Prop where
  opened : client.handle = some socket
  reaches : socket.Reaches door
  running : server.running = true
  receives : door ∈ server.service.receivers
  free : server.onData = none
  untroubled : server.network.Untroubled
  nothing : server.network.pending socket.bound.port = some []
  queued : server.network.pending door.port = some ahead
  others : ∀ datagram ∈ ahead,
    datagram.source.port ≠ socket.bound.port ∧ datagram.source.port ≠ door.port

/-- What comes of writing a payload as a frame and then reading into a buffer, when the
receiver of a door has made a number of rounds in between: the write sends the whole frame,
the read returns it, and the server holds it for the client behind what it held before. -/
def ComesBack (client : Client) (server : Server) (socket : Socket) (door : SocketAddress)
    (payload buffer : Bytes) (count : Nat) : Prop :=
  let written := client.write server.network payload true
  let answered := (server.withNetwork written.2.2).rounds door count
  let reading := (written.2.1.read answered.network buffer.length true false).1
  written.1 = .ok (payload.length + 2) ∧
    reading.result = some (.ok (payload.length + 2)) ∧
    reading.fill buffer =
      payload ++ Frame.trailer (shared.checksum payload) ++ buffer.drop (payload.length + 2) ∧
    answered.held socket.shown =
      some ((server.held socket.shown).getD [] ++
        (payload ++ Frame.trailer (shared.checksum payload)))

variable {client : Client} {server : Server}

/-- What was written stands at the door, behind all others. -/
theorem Linked.awaits (linked : Linked client server socket door ahead)
    (calm : server.Calm (ahead.map Datagram.source ++ [socket.shown])) (frame : Bytes) :
    (server.withNetwork (server.network.deliver socket.peer ⟨socket.shown, frame⟩)).Awaits
      socket door ahead frame (server.held socket.shown) := by
  have reaches := linked.reaches
  have arrives := Network.pending_deliver server.network
    (Network.not_broadcast_of_reachable reaches.peer) ⟨socket.shown, frame⟩
  refine ⟨linked.running, linked.free, linked.untroubled.deliver _ _, ?_, ?_, linked.others,
    calm, rfl⟩
  · change (server.network.deliver _ _).pending door.port = _
    rw [arrives, linked.queued, Option.map_some, if_pos reaches.port.symm]
  · change (server.network.deliver _ _).pending socket.bound.port = _
    rw [arrives, linked.nothing, Option.map_some, if_neg]
    rw [reaches.port]
    exact reaches.apart

/-- A frame that a client writes to a server without a data callback comes back: the write
reports all of it, the read into any buffer with room for it returns it with its trailer
found right and leaves the rest of the buffer alone, and the server holds exactly its bytes
more for the client. -/
theorem written_frame_comes_back (linked : Linked client server socket door ahead)
    (calm : server.Calm (ahead.map Datagram.source ++ [socket.shown]))
    {payload buffer : Bytes} (fits : payload.length + 2 ≤ 65507)
    (room : payload.length + 2 ≤ buffer.length) {count : Nat} (enough : ahead.length < count) :
    ComesBack client server socket door payload buffer count := by
  have reaches := linked.reaches
  have length : (Frame.append shared payload).length = payload.length + 2 :=
    Frame.length_append shared payload
  have written : client.write server.network payload true = _ :=
    Client.write_delivers linked.opened linked.untroubled reaches fits
  have answered := (linked.awaits calm (Frame.append shared payload)).rounds reaches
    (Nat.le_trans (Nat.le_of_eq length) fits) enough
  have occupied : buffer.length ≠ 0 := by omega
  have holds : (Frame.append shared payload).length ≤ buffer.length :=
    Nat.le_trans (Nat.le_of_eq length) room
  have reading := Client.read_takes_first linked.opened answered.untroubled answered.answered
    occupied holds true
  rw [ComesBack, written]
  dsimp only
  rw [reading]
  refine ⟨rfl, ?_, ?_, answered.held⟩
  · rw [Link.readResult]
    dsimp only
    rw [if_pos rfl, Frame.verify_append, ← length]
    rfl
  · rw [Link.Reading.fill, length, Frame.append]

/-! ## Two exchanges -/

/-- A server with the standard settings that was started with a new-peer callback. -/
def openHouse (callback : Reaction) : Server :=
  (Framelink.Server.start
    { Server.stopped .standard (.idle false) with onNewPeer := some callback }).2

/-- A client that was connected to this server, and the network afterwards. -/
def visit (callback : Reaction) : Client × Network :=
  (Client.closed.connectAmong (openHouse callback).network "localhost" 40000
    [{ ip := .loopback4 }]).2

/-- The socket of the client. -/
def visitor : Socket := ⟨⟨.unspecified4, 40001, 0⟩, ⟨.loopback4, 40000, 0⟩⟩

/-- Where the server receives. -/
def entrance : SocketAddress := ⟨.unspecified4, 40000, 0⟩

/-- Datagrams of somebody else wait at the door, or none. -/
def crowd (payloads : List Bytes) : List Datagram :=
  payloads.map fun payload => ⟨⟨.loopback4, 5000, 0⟩, payload⟩

/-- The server while these wait. -/
def crowdedHouse (callback : Reaction) (payloads : List Bytes) : Server :=
  (openHouse callback).withNetwork
    ((crowd payloads).foldl (fun network datagram => network.deliver entrance datagram)
      (visit callback).2)

theorem linked_visit :
    Linked (visit .log).1 (crowdedHouse .log [[7]]) visitor entrance (crowd [[7]]) :=
  ⟨rfl, ⟨rfl, rfl, rfl, rfl, rfl, by decide⟩, rfl, List.mem_cons_self, rfl, ⟨rfl, rfl, rfl⟩,
    rfl, rfl, by decide⟩

/-- A frame comes back to a client that the server has not heard of, behind the datagram of
somebody else. -/
theorem written_frame_comes_back_from_crowd :
    ComesBack (visit .log).1 (crowdedHouse .log [[7]]) visitor entrance [1, 2, 3]
      (List.replicate 8 9) 2 :=
  written_frame_comes_back linked_visit (.inl rfl) (by decide) (by decide) (by decide)

/-- A frame does not come back if a greeting comes before it. -/
theorem greeting_comes_before_frame :
    ¬ ∀ client server socket door ahead payload buffer count,
      Linked client server socket door ahead → payload.length + 2 ≤ 65507 →
        payload.length + 2 ≤ buffer.length → ahead.length < count →
          ComesBack client server socket door payload buffer count := by
  intro all
  have linked : Linked (visit .greet).1 (crowdedHouse .greet []) visitor entrance [] :=
    ⟨rfl, ⟨rfl, rfl, rfl, rfl, rfl, by decide⟩, rfl, List.mem_cons_self, rfl, ⟨rfl, rfl, rfl⟩,
      rfl, rfl, by decide⟩
  obtain ⟨_, _, filled, _⟩ := all _ _ _ _ _ [1] [0, 0, 0] 1 linked (by decide) (by decide)
    (by decide)
  -- The buffer holds the front of the greeting instead.
  exact absurd filled (by decide +kernel)

end Udp
end Framelink
