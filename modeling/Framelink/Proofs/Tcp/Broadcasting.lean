import Framelink.Proofs.Client.Writing
import Framelink.Proofs.Tcp.Runs
import Framelink.Proofs.Tcp.Table

/-!
# Sending to everybody

A broadcast sends its bytes once on the wire of every tracked peer that is open.  It does so
whatever becomes of each send, and in whatever order it comes upon the peers: what the system
makes of a send is a parameter here, and so is the order of the table.  What was sent is
written down by a system that notes each send and otherwise does as it did.
-/

namespace Framelink

open Link (Sent noted)

namespace Tcp

variable {World : Type}

/-! ## Sends through any system -/

/-- How a stream server sends to a tracked peer, given what the system makes of a send: one
send, on the wire that is still held. -/
def transmitThrough (put : Nat → Bytes → World → Except Failure Nat × World) :
    Transmission UInt64 Line World := fun _ peer bytes server =>
  if peer.line.writable then
    let (sent, service) := put peer.line.wire bytes server.service
    (sent.mapError .exchange, { server with service })
  else (.error .notConnected, server)

/-- What the network makes of a send. -/
def Service.put (wire : Nat) (bytes : Bytes) (service : Service) : Except Failure Nat × Service :=
  let (sent, network) := service.network.sendStream wire bytes
  (sent, { service with network })

/-- A stream server sends through its network. -/
theorem transmit_eq_transmitThrough : Server.transmit = transmitThrough Service.put := rfl

/-- The wires of the peers of a table that are open. -/
def openWires (table : PeerTable UInt64 Line) : List Nat :=
  (table.filter fun entry => entry.2.isOpen).map fun entry => entry.2.line.wire

theorem openWires_cons (id : UInt64) (peer : Peer Line) (rest : PeerTable UInt64 Line) :
    openWires ((id, peer) :: rest) =
      if peer.isOpen then peer.line.wire :: openWires rest else openWires rest := by
  rw [openWires, List.filter_cons]
  cases peer.isOpen <;> rfl

/-- The system after bytes were sent on wires, one after the other. -/
def sendOnAll (put : Nat → Bytes → World → Except Failure Nat × World) (bytes : Bytes)
    (world : World) (wires : List Nat) : World :=
  wires.foldl (fun world wire => (put wire bytes world).2) world

/-- Sending to the peers of a table sends on the wires of those that are open, and that is
all it does. -/
theorem sendToEach_eq (put : Nat → Bytes → World → Except Failure Nat × World) (bytes : Bytes)
    (server : Framelink.Server UInt64 Line World) {table : PeerTable UInt64 Line}
    (writable : ∀ entry ∈ table, entry.2.isOpen = true → entry.2.line.writable = true) :
    server.sendToEach (transmitThrough put) bytes table =
      { server with service := sendOnAll put bytes server.service (openWires table) } := by
  unfold Framelink.Server.sendToEach
  induction table generalizing server with
  | nil => rfl
  | cons entry rest inductionHypothesis =>
      have others : ∀ entry ∈ rest, entry.2.isOpen = true → entry.2.line.writable = true :=
        fun entry listed => writable entry (List.mem_cons_of_mem _ listed)
      obtain ⟨id, peer⟩ := entry
      rw [List.foldl_cons, inductionHypothesis _ others, openWires_cons]
      dsimp only
      cases isOpen : peer.isOpen with
      | false => rfl
      | true =>
          have held : peer.line.writable = true := writable (id, peer) List.mem_cons_self isOpen
          rw [if_pos rfl, if_pos rfl, transmitThrough, if_pos held]
          rfl

/-! ## Sends that are written down -/

/-- What was sent on a wire. -/
def sentOn (wire : Nat) (log : List (Sent Nat)) : List Bytes :=
  (log.filter fun sent => sent.handle == wire).map Sent.bytes

/-- A system that notes its sends does as it did, and notes each in its turn. -/
theorem sendOnAll_noted (put : Nat → Bytes → World → Except Failure Nat × World) (bytes : Bytes)
    (world : World) (log : List (Sent Nat)) (wires : List Nat) :
    ∃ sends : List (Sent Nat), sends.map (fun sent => (sent.handle, sent.bytes)) =
        wires.map (fun wire => (wire, bytes)) ∧
      sendOnAll (noted put) bytes (world, log) wires =
        (sendOnAll put bytes world wires, log ++ sends) := by
  induction wires generalizing world log with
  | nil => exact ⟨[], rfl, by rw [List.append_nil]; rfl⟩
  | cons wire rest inductionHypothesis =>
      obtain ⟨sends, each, after⟩ := inductionHypothesis (put wire bytes world).2
        (log ++ [⟨wire, bytes, (put wire bytes world).1⟩])
      refine ⟨⟨wire, bytes, (put wire bytes world).1⟩ :: sends, ?_, ?_⟩
      · rw [List.map_cons, List.map_cons, each]
      · rw [List.append_assoc] at after
        exact after

/-- What was sent on one of several wires depends on how often it is among them. -/
theorem sentOn_eq {sends : List (Sent Nat)} {wires : List Nat} {bytes : Bytes}
    (each : sends.map (fun sent => (sent.handle, sent.bytes)) =
      wires.map (fun wire => (wire, bytes))) (wire : Nat) :
    sentOn wire sends = List.replicate (wires.count wire) bytes := by
  have paired : sentOn wire sends = ((sends.map fun sent => (sent.handle, sent.bytes)).filter
      fun pair => pair.1 == wire).map Prod.snd := by
    rw [List.filter_map, List.map_map]
    rfl
  rw [paired, each, List.filter_map, List.map_map, List.eq_replicate_iff]
  constructor
  · rw [List.length_map, List.count_eq_length_filter]
    rfl
  · intro other listed
    obtain ⟨_, _, rfl⟩ := List.mem_map.1 listed
    rfl

/-! ## Tracked peers -/

namespace Server

/-- A server as it goes through its table in some order, on another system. -/
def goingThrough (server : Server) (order : PeerTable UInt64 Line) (world : World) :
    Framelink.Server UInt64 Line World where
  settings := server.settings
  running := server.running
  localAddress := server.localAddress
  peers := order
  onData := server.onData
  onNewPeer := server.onNewPeer
  reports := server.reports
  service := world

/-- The wires of the peers that are open are different. -/
theorem nodup_openWires {server : Server} (distinct : server.Distinct)
    {order : PeerTable UInt64 Line} (permuted : order.Perm server.peers) :
    (openWires order).Nodup := by
  have wires : (order.map fun entry => entry.2.line.wire).Nodup :=
    (permuted.map _).nodup_iff.2 distinct.wires
  exact wires.sublist (List.filter_sublist.map _)

/-- The wire of a tracked peer is among those of the open peers if the peer is open. -/
theorem mem_openWires {server : Server} (distinct : server.Distinct)
    {order : PeerTable UInt64 Line} (permuted : order.Perm server.peers) {id : UInt64}
    {peer : Peer Line} (tracked : server.peer? id = some peer) :
    peer.line.wire ∈ openWires order ↔ peer.isOpen = true := by
  rw [openWires, List.mem_map]
  constructor
  · rintro ⟨entry, listed, same⟩
    obtain ⟨member, isOpen⟩ := List.mem_filter.1 listed
    have one : entry = (id, peer) := List.inj_on_of_nodup_map distinct.wires
      (permuted.mem_iff.1 member) (mem_of_peer? tracked) same
    rw [one] at isOpen
    exact isOpen
  · intro isOpen
    exact ⟨(id, peer), List.mem_filter.2 ⟨permuted.mem_iff.2 (mem_of_peer? tracked), isOpen⟩, rfl⟩

/-- Whether a peer is open is whether its wire can be sent on. -/
def Holding (server : Server) : Prop :=
  ∀ id peer, server.peer? id = some peer → peer.isOpen = peer.line.writable

end Server

/-! ## Broadcasts -/

theorem sendOnAll_servicePut (bytes : Bytes) (service : Service) (wires : List Nat) :
    sendOnAll Service.put bytes service wires =
      { service with
        network := sendOnAll (fun wire bytes network => Network.sendStream network wire bytes)
          bytes service.network wires } := by
  induction wires generalizing service with
  | nil => rfl
  | cons wire rest inductionHypothesis => exact inductionHypothesis _

/-- A broadcast, with its sends written down, by a server that comes upon its peers in some
order. -/
def broadcastNoted (put : Nat → Bytes → World → Except Failure Nat × World) (world : World)
    (bytes : Bytes) (server : Server) (order : PeerTable UInt64 Line) :
    Except LinkError Unit × Framelink.Server UInt64 Line (World × List (Sent Nat)) :=
  Framelink.Server.sendToOpen (transmitThrough (noted put)) bytes
    (server.goingThrough order (world, []))

theorem writable_of_open {server : Server} (distinct : server.Distinct) (holding : server.Holding)
    (entry : UInt64 × Peer Line) (listed : entry ∈ server.peers) (isOpen : entry.2.isOpen = true) :
    entry.2.line.writable = true :=
  (holding entry.1 entry.2 (Server.peer?_of_mem distinct listed)).symm.trans isOpen

/-- A broadcast sends on the wires of the open peers, one after the other. -/
theorem broadcastNoted_eq (put : Nat → Bytes → World → Except Failure Nat × World) (world : World)
    (bytes : Bytes) {server : Server} (distinct : server.Distinct) (holding : server.Holding)
    {order : PeerTable UInt64 Line} (permuted : order.Perm server.peers) :
    ∃ sends, broadcastNoted put world bytes server order =
        (.ok (), server.goingThrough order (sendOnAll put bytes world (openWires order), sends)) ∧
      sends.map (fun sent => (sent.handle, sent.bytes)) =
        (openWires order).map (fun wire => (wire, bytes)) := by
  obtain ⟨sends, each, after⟩ := sendOnAll_noted put bytes world [] (openWires order)
  refine ⟨sends, ?_, each⟩
  have sent := sendToEach_eq (noted put) bytes (server.goingThrough order (world, []))
    fun entry listed => writable_of_open distinct holding entry (permuted.mem_iff.1 listed)
  rw [show (server.goingThrough order (world, [])).service = (world, []) from rfl, after] at sent
  exact congrArg (Prod.mk (Except.ok ())) sent

section Reach

variable {server : Server} (distinct : server.Distinct) {order : PeerTable UInt64 Line}
  (permuted : order.Perm server.peers) {sends : List (Sent Nat)} {bytes : Bytes}
  (each : sends.map (fun sent => (sent.handle, sent.bytes)) =
    (openWires order).map (fun wire => (wire, bytes)))

include distinct permuted each

/-- A tracked peer was sent the bytes once if it is open, and nothing otherwise. -/
theorem sentOn_tracked {id : UInt64} {peer : Peer Line} (tracked : server.peer? id = some peer) :
    sentOn peer.line.wire sends = if peer.isOpen then [bytes] else [] := by
  have reached := Server.mem_openWires distinct permuted tracked
  rw [sentOn_eq each, (Server.nodup_openWires distinct permuted).count]
  cases isOpen : peer.isOpen with
  | true =>
      rw [if_pos (reached.2 isOpen)]
      rfl
  | false =>
      rw [if_neg fun listed => Bool.false_ne_true (isOpen.symm.trans (reached.1 listed))]
      rfl

/-- Whatever was sent went to a tracked peer that is open. -/
theorem tracked_of_sent {sent : Sent Nat} (listed : sent ∈ sends) :
    ∃ id peer, server.peer? id = some peer ∧ peer.isOpen = true ∧
      peer.line.wire = sent.handle := by
  have paired : (sent.handle, sent.bytes) ∈ (openWires order).map fun wire => (wire, bytes) :=
    each ▸ List.mem_map_of_mem (f := fun sent => (sent.handle, sent.bytes)) listed
  obtain ⟨wire, reached, same⟩ := List.mem_map.1 paired
  obtain rfl : wire = sent.handle := (Prod.mk.inj same).1
  obtain ⟨⟨id, peer⟩, kept, own⟩ := List.mem_map.1 reached
  obtain ⟨member, isOpen⟩ := List.mem_filter.1 kept
  exact ⟨id, peer, Server.peer?_of_mem distinct (permuted.mem_iff.1 member), isOpen, own⟩

end Reach

/-! ## Runs -/

namespace Situation

/-- In every run the wires of the peers that are open are held, and no others. -/
theorem holding_run (settings : Settings) (isolated : Bool) (moves : List Move) :
    ((initial settings isolated).run moves).server.Holding := by
  refine run_keeps settings isolated (fun situation => situation.server.Holding) nofun ?_ moves
  intro situation _ holding move id peer tracked
  rw [Framelink.Server.peer?, peers_after] at tracked
  rcases Edit.of_find?_perform tracked with ⟨before, known, _, rfl⟩ | enters
  · obtain ⟨inbox, isOpen, same⟩ := Edit.touch_eq (situation.edit move) id before
    rw [same]
    exact congrArg (· && isOpen) (holding id before known)
  · have edits := situation.edits_edit move
    rw [enters] at edits
    cases edits
    rfl

/-- In every run, whatever becomes of each send and in whatever order the peers come: a
broadcast succeeds and changes nothing of the server and its peers, an open peer is sent the
bytes once, and nobody else is sent anything.  The system is left as these sends leave it,
and so is the network by the server itself. -/
theorem broadcast_sends_once_to_every_open_peer (settings : Settings) (isolated : Bool)
    (moves : List Move) (put : Nat → Bytes → World → Except Failure Nat × World) (world : World)
    (bytes : Bytes) (order : PeerTable UInt64 Line)
    (permuted : order.Perm ((initial settings isolated).run moves).server.peers) :
    let server := ((initial settings isolated).run moves).server
    ∃ sends, broadcastNoted put world bytes server order =
        (.ok (), server.goingThrough order (sendOnAll put bytes world (openWires order), sends)) ∧
      (∀ id peer, server.peer? id = some peer →
        sentOn peer.line.wire sends = if peer.isOpen then [bytes] else []) ∧
      (∀ sent ∈ sends, ∃ id peer, server.peer? id = some peer ∧ peer.isOpen = true ∧
        peer.line.wire = sent.handle) ∧
      Serving.broadcast bytes server = (.ok (), server.withNetwork
        (sendOnAll (fun wire bytes network => Network.sendStream network wire bytes) bytes
          server.network (openWires server.peers))) := by
  intro server
  have distinct : server.Distinct := (sound_run settings isolated moves).ordered.distinct
  have holding : server.Holding := holding_run settings isolated moves
  obtain ⟨sends, outcome, each⟩ := broadcastNoted_eq put world bytes distinct holding permuted
  refine ⟨sends, outcome, fun id peer => sentOn_tracked distinct permuted each,
    fun sent => tracked_of_sent distinct permuted each, ?_⟩
  have sent := sendToEach_eq Service.put bytes server (writable_of_open distinct holding)
  rw [sendOnAll_servicePut] at sent
  exact congrArg (Prod.mk (Except.ok ())) sent

/-- Three peers are admitted, and the far end of the second closes. -/
def company : List Move :=
  let comer : List Move := .connect 40000 ⟨.loopback4, 50000, 0⟩ ::
    List.replicate 7 (.step (.acceptor 40000) .heard)
  admission 7 ++ comer ++ comer ++ .depart 1 :: List.replicate 3 (.step (.worker 1) .heard)

/-- A system that fails on the last wire and takes next to nothing on the others. -/
def begrudging (wire : Nat) (_ : Bytes) (count : Nat) : Except Failure Nat × Nat :=
  (if wire = 2 then .error (.system Failure.Code.brokenPipe) else .ok 1, count + 1)

theorem broadcast_sends_once_to_every_open_peer_of_company :
    let server := ((initial .standard false).run company).server
    server.peers.reverse.Perm server.peers ∧
      server.peers.map (fun entry => entry.2.isOpen) = [true, false, true] ∧
      ∃ sends, broadcastNoted begrudging 0 [7, 8] server server.peers.reverse =
          (.ok (), server.goingThrough server.peers.reverse (2, sends)) ∧
        sends.map Sent.handle = [2, 0] ∧ sentOn 0 sends = [[7, 8]] ∧ sentOn 1 sends = [] := by
  intro server
  have permuted : server.peers.reverse.Perm server.peers := List.reverse_perm _
  obtain ⟨sends, outcome, _⟩ := broadcast_sends_once_to_every_open_peer .standard false company
    begrudging 0 [7, 8] server.peers.reverse permuted
  have noted : sends =
      (broadcastNoted begrudging 0 [7, 8] server server.peers.reverse).2.service.2 := by
    rw [outcome]
    rfl
  have count : sendOnAll begrudging [7, 8] 0 (openWires server.peers.reverse) = 2 := by
    decide +kernel
  rw [count] at outcome
  refine ⟨permuted, by decide +kernel, sends, outcome, ?_⟩
  rw [noted]
  decide +kernel

end Situation
end Tcp
end Framelink
