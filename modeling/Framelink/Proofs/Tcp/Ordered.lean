import Framelink.Proofs.Tcp.Lookup

/-!
# What holds of a server as a whole

A server that runs has one listener with one acceptor, or neither any more; the
wires that wait for the acceptor are all different, and so are the numbers and the
wires of the tracked peers.  An acceptor lives only while the server runs or the
call that stops it still waits for the acceptor.  It has a local address from the end
of a start that succeeded to the end of the next stop.
-/

namespace Framelink
namespace Tcp

/-- What the order of a server depends on. -/
structure Outline where
  listeners : List Listener
  acceptors : List Acceptor
  /-- The numbers of the tracked peers and their wires. -/
  tracked : List (UInt64 × Nat)
  running : Bool
  localAddress : Option SocketAddress

/-- The outline of a server. -/
def Server.outline (server : Server) : Outline where
  listeners := server.network.listeners
  acceptors := server.service.acceptors
  tracked := server.peers.map fun entry => (entry.1, entry.2.line.wire)
  running := server.running
  localAddress := server.localAddress

namespace Outline

/-- There is one listener with its acceptor, or there is neither. -/
inductive Door (outline : Outline) : Prop
  | shut (listeners : outline.listeners = []) (acceptors : outline.acceptors = [])
  | ajar (listener : Listener) (phase : Acceptor.Phase)
      (listeners : outline.listeners = [listener])
      (acceptors : outline.acceptors = [⟨listener.address.port, phase⟩])
      (backlog : listener.waiting.Nodup)

/-- A server is in order. -/
structure Ordered (outline : Outline) (control : Control Stopping) : Prop where
  door : outline.Door
  handles : (outline.tracked.map Prod.fst).Nodup
  wires : (outline.tracked.map Prod.snd).Nodup
  admitting : outline.acceptors ≠ [] →
    control = .idle ∧ outline.running = true ∨ control = .stopping .awaitingAcceptor
  starting : control = .starting → outline.running = true
  stopping : ∀ phase, control = .stopping phase → outline.running = false
  lodged : outline.localAddress.isSome = control.bound outline.running

theorem Door.congr {outline later : Outline} (door : outline.Door)
    (listeners : later.listeners = outline.listeners)
    (acceptors : later.acceptors = outline.acceptors) : later.Door := by
  cases door with
  | shut none nobody => exact .shut (listeners.trans none) (acceptors.trans nobody)
  | ajar listener phase one only backlog =>
      exact .ajar listener phase (listeners.trans one) (acceptors.trans only) backlog

end Outline

/-- The server of a situation is in order. -/
def Situation.Ordered (situation : Situation) : Prop :=
  situation.server.outline.Ordered situation.control

theorem Situation.Ordered.distinct {situation : Situation} (ordered : situation.Ordered) :
    situation.server.Distinct := by
  have handles := ordered.handles
  have wires := ordered.wires
  unfold Server.outline at handles wires
  rw [List.map_map] at handles wires
  exact ⟨handles, wires⟩

theorem Server.Distinct.outline {server : Server} (distinct : server.Distinct) :
    (server.outline.tracked.map Prod.fst).Nodup ∧ (server.outline.tracked.map Prod.snd).Nodup := by
  unfold Server.outline
  rw [List.map_map, List.map_map]
  exact ⟨distinct.handles, distinct.wires⟩

/-- Where a server admits connections, calls that stop it have not got past the
acceptor. -/
theorem Situation.Ordered.serving {situation : Situation} (ordered : situation.Ordered)
    (acceptors : situation.server.service.acceptors ≠ []) (wire : Nat) :
    situation.call wire = .serving := by
  unfold Situation.call
  rcases ordered.admitting acceptors with ⟨control, running⟩ | control
  · have up : situation.server.running = true := running
    rw [control]
    simp [up]
  · rw [control]

/-- A situation with the same outline is in order too. -/
theorem Situation.Ordered.of_outline {situation later : Situation} (ordered : situation.Ordered)
    (outline : later.server.outline = situation.server.outline)
    (control : later.control = situation.control) : later.Ordered := by
  unfold Situation.Ordered at ordered ⊢
  rw [outline, control]
  exact ordered

/-! ## The acceptor of a server in order -/

theorem Outline.Door.admits_iff {server : Server} (door : server.outline.Door) (wire : Nat) :
    (server.service.acceptors.any fun acceptor => acceptor.admits? == some wire) = true ↔
      server.stage wire = .greeting := by
  cases door with
  | shut listeners acceptors =>
      have none : server.service.acceptors = [] := acceptors
      simp [Server.stage, none]
  | ajar listener phase listeners acceptors backlog =>
      have one : server.service.acceptors = [⟨listener.address.port, phase⟩] := acceptors
      unfold Server.stage
      rw [one]
      cases phase with
      | greeting id admission | spawning id admission =>
          by_cases here : admission.wire = wire
          · simp [Acceptor.admits?, Acceptor.Phase.stage, here]
          · simp [Acceptor.admits?, Acceptor.Phase.stage, here]
      | configuring admission | registering admission =>
          by_cases here : admission.wire = wire
          · simp [Acceptor.admits?, Acceptor.Phase.stage, here]
          · simp [Acceptor.admits?, Acceptor.Phase.stage, here]
      | storing other =>
          by_cases here : other = wire
          · simp [Acceptor.admits?, Acceptor.Phase.stage, here]
          · simp [Acceptor.admits?, Acceptor.Phase.stage, here]
      | looking | accepting => simp [Acceptor.admits?, Acceptor.Phase.stage]

theorem Outline.Door.awaits_iff {server : Server} (door : server.outline.Door) (wire : Nat) :
    (server.service.acceptors.any fun acceptor => acceptor.awaits? == some wire) = true ↔
      server.stage wire = .greeting ∨ server.stage wire = .storing := by
  cases door with
  | shut listeners acceptors =>
      have none : server.service.acceptors = [] := acceptors
      simp [Server.stage, none]
  | ajar listener phase listeners acceptors backlog =>
      have one : server.service.acceptors = [⟨listener.address.port, phase⟩] := acceptors
      unfold Server.stage
      rw [one]
      cases phase with
      | greeting id admission | spawning id admission =>
          by_cases here : admission.wire = wire
          · simp [Acceptor.awaits?, Acceptor.Phase.stage, here]
          · simp [Acceptor.awaits?, Acceptor.Phase.stage, here]
      | configuring admission | registering admission =>
          by_cases here : admission.wire = wire
          · simp [Acceptor.awaits?, Acceptor.Phase.stage, here]
          · simp [Acceptor.awaits?, Acceptor.Phase.stage, here]
      | storing other =>
          by_cases here : other = wire
          · simp [Acceptor.awaits?, Acceptor.Phase.stage, here]
          · simp [Acceptor.awaits?, Acceptor.Phase.stage, here]
      | looking | accepting => simp [Acceptor.awaits?, Acceptor.Phase.stage]

/-- A wire that is given up is closed if nobody serves it, now or later. -/
theorem Outline.Door.forsaken {server : Server} (door : server.outline.Door) {index : Nat}
    {wire : Wire} (found : server.network.wire? index = some wire) :
    ∃ later, (server.forsake index).network.wire? index = some later ∧
      Connection.ForsakenAs wire later
        ((server.worker? index).isSome ∨ server.stage index = .greeting) := by
  unfold Server.forsake
  by_cases held : ((server.worker? index).isSome ||
      server.service.acceptors.any (·.admits? == some index)) = true
  · rw [if_pos held]
    exact ⟨wire, found, Or.inl rfl⟩
  · rw [if_neg held]
    refine ⟨wire.closeNear, ?_, Or.inr ⟨?_, rfl⟩⟩
    · have dropped := Network.wire?_modifyWire server.network index index Wire.closeNear
      rw [if_pos rfl, found] at dropped
      exact dropped
    · intro serves
      rw [Bool.or_eq_true] at held
      rcases serves with alive | greeting
      · exact held (Or.inl alive)
      · exact held (Or.inr ((door.admits_iff index).2 greeting))

namespace Server

/-! ## Operations that keep the outline -/

variable (server : Server)

theorem outline_withNetwork {network : Network}
    (listeners : network.listeners = server.network.listeners) :
    (server.withNetwork network).outline = server.outline := by
  unfold outline
  rw [show (server.withNetwork network).network.listeners = server.network.listeners from
    listeners]
  rfl

theorem outline_modifyWire (index : Nat) (change : Wire → Wire) :
    (server.modifyNetwork (·.modifyWire index change)).outline = server.outline := rfl

theorem outline_addWorker (worker : Worker) :
    (server.addWorker worker).outline = server.outline := rfl

theorem outline_modifySession (index : Nat) (change : Peer Line → Peer Line)
    (keeps : ∀ peer, (change peer).line.wire = peer.line.wire) :
    (server.modifySession index change).outline = server.outline := by
  have tracked : ((server.modifySession index change).peers.map fun entry =>
      (entry.1, entry.2.line.wire)) = server.peers.map fun entry =>
        (entry.1, entry.2.line.wire) := by
    unfold modifySession
    rw [List.map_map]
    refine List.map_congr_left fun entry _ => ?_
    by_cases here : entry.2.line.wire = index
    · simp [here, keeps]
    · simp [here]
  unfold outline
  rw [tracked]
  rfl

theorem outline_modifyPeer (id : UInt64) (change : Peer Line → Peer Line)
    (keeps : ∀ peer, (change peer).line.wire = peer.line.wire) :
    Server.outline (Framelink.Server.modifyPeer server id change) = server.outline := by
  have tracked : ((Framelink.Server.modifyPeer server id change).peers.map fun entry =>
      (entry.1, entry.2.line.wire)) = server.peers.map fun entry =>
        (entry.1, entry.2.line.wire) := by
    unfold Framelink.Server.modifyPeer PeerTable.modify
    rw [List.map_map]
    refine List.map_congr_left fun entry _ => ?_
    by_cases here : entry.1 = id
    · simp [here, keeps]
    · simp [here]
  unfold outline
  rw [tracked]
  rfl

theorem outline_moveAcceptor {server : Server} {port : UInt16} {old : Acceptor.Phase}
    (acceptors : server.service.acceptors = [⟨port, old⟩]) (later : Acceptor.Phase) :
    (server.moveAcceptor port later).outline =
      { server.outline with acceptors := [⟨port, later⟩] } := by
  unfold outline moveAcceptor
  rw [acceptors]
  simp [network]

theorem outline_endAcceptor {server : Server} {port : UInt16} {phase : Acceptor.Phase}
    {listener : Listener} (acceptors : server.service.acceptors = [⟨port, phase⟩])
    (listeners : server.network.listeners = [listener]) (here : listener.address.port = port) :
    (server.endAcceptor port).outline =
      { server.outline with listeners := [], acceptors := [] } := by
  have none : (server.network.removeListener port).listeners = [] := by
    unfold Network.removeListener
    rw [listeners]
    simp [here]
  unfold outline endAcceptor
  rw [acceptors]
  simp [network]
  exact none

theorem outline_forsake (index : Nat) : (server.forsake index).outline = server.outline := by
  unfold forsake
  split
  · rfl
  · exact server.outline_modifyWire index Wire.closeNear

end Server
end Tcp
end Framelink
