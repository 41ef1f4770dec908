import Framelink.Proofs.Tcp.Streams
import Framelink.Proofs.Tcp.Table

/-!
# The addresses of far ends

A wire keeps the address of its far end, whatever is sent and received on it and whoever
closes it, and new wires stand behind the old ones.  So the address that a peer was tracked
with is that of the far end of its wire for good.
-/

namespace Framelink

namespace Wire

@[simp] theorem farAddress_receive (wire : Wire) (room : Nat) :
    (wire.receive room).2.farAddress = wire.farAddress := by
  unfold receive
  split
  · rfl
  · split
    · rfl
    · split <;> rfl

@[simp] theorem farAddress_send (wire : Wire) (bytes : Bytes) :
    (wire.send bytes).2.farAddress = wire.farAddress := by
  unfold send
  split
  · rfl
  · cases wire.far.delivery bytes with
    | mk sent far => cases sent <;> rfl

@[simp] theorem farAddress_shutNear (wire : Wire) : wire.shutNear.farAddress = wire.farAddress := by
  unfold shutNear
  split <;> rfl

@[simp] theorem farAddress_closeNear (wire : Wire) :
    wire.closeNear.farAddress = wire.farAddress := by
  unfold closeNear
  split <;> rfl

@[simp] theorem farAddress_farSend (wire : Wire) (bytes : Bytes) :
    (wire.farSend bytes).2.farAddress = wire.farAddress := by
  unfold farSend
  split
  · rfl
  · split
    · cases wire.near.delivery bytes with
      | mk sent near => cases sent <;> rfl
    · rfl
    · rfl

@[simp] theorem farAddress_farReceive (wire : Wire) (wanted : Nat) :
    (wire.farReceive wanted).2.2.farAddress = wire.farAddress := by
  unfold farReceive
  dsimp only
  split
  · rfl
  · split <;> rfl

@[simp] theorem farAddress_farFinish (wire : Wire) :
    wire.farFinish.farAddress = wire.farAddress := by
  unfold farFinish
  split <;> rfl

end Wire

namespace Network

/-- The addresses of the far ends, in the order in which their wires were established. -/
def farAddresses (network : Network) : List SocketAddress := network.wires.map Wire.farAddress

theorem farAddresses_modifyWire (network : Network) (index : Nat) {change : Wire → Wire}
    (keeps : ∀ wire, network.wire? index = some wire →
      (change wire).farAddress = wire.farAddress) :
    (network.modifyWire index change).farAddresses = network.farAddresses := by
  refine List.ext_getElem? fun other => ?_
  have changed := network.wire?_modifyWire index other change
  rw [wire?, wire?] at changed
  rw [farAddresses, farAddresses, List.getElem?_map, List.getElem?_map, changed]
  by_cases same : other = index
  · subst same
    rw [if_pos rfl]
    cases found : network.wires[other]? with
    | none => rfl
    | some wire => exact congrArg some (keeps wire found)
  · rw [if_neg same]

theorem farAddresses_steady {network later : Network} (steady : network.Steady later) :
    later.farAddresses = network.farAddresses :=
  congrArg (List.map Wire.farAddress) steady.wires

theorem farAddresses_tried {network later : Network} (tried : network.Tried later) :
    later.farAddresses = network.farAddresses :=
  farAddresses_steady tried.steady

theorem farAddresses_removeListener (network : Network) (port : UInt16) :
    (network.removeListener port).farAddresses = network.farAddresses := by
  refine List.ext_getElem? fun index => ?_
  rw [farAddresses, farAddresses, removeListener, List.getElem?_map, List.getElem?_map,
    List.getElem?_mapIdx]
  cases network.wires[index]? with
  | none => rfl
  | some wire =>
      dsimp only [Option.map_some]
      split
      · rw [Wire.farAddress_closeNear]
      · rfl

theorem farAddresses_takeWaiting (network : Network) (port : UInt16) :
    (network.takeWaiting port).2.farAddresses = network.farAddresses := by
  unfold takeWaiting
  split <;> rfl

theorem farAddresses_sendStream (network : Network) (index : Nat) (bytes : Bytes) :
    (network.sendStream index bytes).2.farAddresses = network.farAddresses := by
  have deliver (network : Network) (bytes : Bytes) {wire : Wire}
      (found : network.wire? index = some wire) :
      (network.modifyWire index fun _ => (wire.send bytes).2).farAddresses =
        network.farAddresses := by
    refine network.farAddresses_modifyWire index fun same present => ?_
    cases found.symm.trans present
    exact wire.farAddress_send bytes
  have steady := farAddresses_steady (network.tried_consult .send).steady
  unfold sendStream
  dsimp only
  split
  · next fault later struck =>
      rw [struck] at steady
      split
      · split
        · exact steady
        · next wire found => exact (deliver later _ found).trans steady
      · exact steady
  · next later spared =>
      rw [spared] at steady
      split
      · exact steady
      · next wire found => exact (deliver later _ found).trans steady

theorem Sends.farAddresses {network later : Network} (sends : network.Sends later) :
    later.farAddresses = network.farAddresses := by
  induction sends with
  | refl => rfl
  | @tail before _ _ sent same =>
      obtain ⟨index, bytes, rfl⟩ := sent
      exact (before.farAddresses_sendStream index bytes).trans same

end Network

namespace Tcp

namespace Server

theorem farAddress_eq (server : Server) (wire : Nat) :
    server.farAddress wire = (server.network.farAddresses[wire]?).getD ⟨.unspecified4, 0, 0⟩ := by
  rw [Network.farAddresses, List.getElem?_map]
  rfl

/-! ## Steps of service threads -/

theorem farAddresses_forsake (server : Server) (wire : Nat) :
    (server.forsake wire).network.farAddresses = server.network.farAddresses := by
  unfold forsake
  split
  · rfl
  · exact server.network.farAddresses_modifyWire wire fun wire _ => wire.farAddress_closeNear

variable {delivery : Delivery} {server later : Server}

theorem AcceptorStep.farAddresses {acceptor : Acceptor}
    (step : AcceptorStep delivery server acceptor later) :
    later.network.farAddresses = server.network.farAddresses := by
  have ended (network : Network) :
      (network.removeListener acceptor.port).farAddresses = network.farAddresses :=
    network.farAddresses_removeListener acceptor.port
  have closed (network : Network) (wire : Nat) :
      (network.modifyWire wire Wire.closeNear).farAddresses = network.farAddresses :=
    network.farAddresses_modifyWire wire fun wire _ => wire.farAddress_closeNear
  cases step with
  | looked | greeted | stored => rfl
  | ended | startled => exact ended server.network
  | retried _ _ _ struck => exact Network.farAddresses_tried (.of_consult struck)
  | gaveUp _ _ network struck =>
      exact (ended network).trans (Network.farAddresses_tried (.of_consult struck))
  | took _ network _ _ spared taken =>
      have same := network.farAddresses_takeWaiting acceptor.port
      rw [taken] at same
      exact same.trans (Network.farAddresses_tried (.of_consult spared))
  | idled _ _ spared => exact Network.farAddresses_tried (.of_consult spared)
  | configured _ _ _ made => exact Network.farAddresses_tried (.of_attemptAll made)
  | refused admission _ _ network failed =>
      exact (closed network admission.wire).trans
        (Network.farAddresses_tried (.of_attemptAll failed))
  | registered admission =>
      rw [Situation.register_eq]
      cases server.peer? server.service.nextId with
      | none => rfl
      | some old => exact farAddresses_forsake _ old.line.wire
  | deserted _ admission => exact (ended _).trans (closed server.network admission.wire)
  | unserved _ admission _ _ network failed =>
      exact (network.farAddresses_modifyWire admission.wire
        fun wire _ => wire.farAddress_shutNear).trans
          (Network.farAddresses_tried (.of_attempt failed))
  | spawned _ _ _ _ made => exact Network.farAddresses_tried (.of_attempt made)

theorem farAddresses_receive (server : Server) (worker : Worker) :
    (server.receive worker).network.farAddresses = server.network.farAddresses := by
  unfold receive
  split
  · rfl
  · next wire found =>
      refine server.network.farAddresses_modifyWire worker.wire fun same present => ?_
      cases found.symm.trans present
      exact wire.farAddress_receive worker.chunk

theorem WorkerStep.farAddresses {worker : Worker}
    (step : WorkerStep delivery server worker later) :
    later.network.farAddresses = server.network.farAddresses := by
  cases step with
  | struck _ _ _ struck => exact Network.farAddresses_tried (.of_consult struck)
  | received _ network spared =>
      exact ((server.withNetwork network).farAddresses_receive worker).trans
        (Network.farAddresses_tried (.of_consult spared))
  | paused _ _ spared => exact Network.farAddresses_tried (.of_consult spared)
  | resumed => exact server.farAddresses_receive worker
  | deserted =>
      exact server.network.farAddresses_modifyWire worker.wire
        fun wire _ => wire.farAddress_closeNear
  | left =>
      exact server.network.farAddresses_modifyWire worker.wire
        fun wire _ => wire.farAddress_shutNear
  | _ => rfl

theorem farAddresses_step (delivery : Delivery) (server : Server) (thread : Thread) :
    (server.step (.answering delivery) thread).network.farAddresses =
      server.network.farAddresses := by
  have stepped := server.threadStep delivery thread
  generalize server.step (.answering delivery) thread = later at stepped ⊢
  cases stepped with
  | noAcceptor | noWorker => rfl
  | acceptor _ _ _ _ step => exact step.farAddresses
  | worker _ _ _ _ step => exact step.farAddresses

end Server

namespace Situation

/-! ## Moves -/

theorem Leads.farAddresses {situation later : Situation} {move : Move}
    (leads : situation.Leads move later) :
    situation.server.network.farAddresses <+: later.server.network.farAddresses := by
  have still {network : Network}
      (same : network.farAddresses = situation.server.network.farAddresses) :
      situation.server.network.farAddresses <+: network.farAddresses := same ▸ List.prefix_rfl
  have modified (wire : Nat) {change : Wire → Wire}
      (keeps : ∀ wire, (change wire).farAddress = wire.farAddress) :
      situation.server.network.farAddresses <+:
        (situation.server.network.modifyWire wire change).farAddresses :=
    still (Network.farAddresses_modifyWire _ wire fun wire _ => keeps wire)
  cases leads with
  | connected port address =>
      refine ⟨[address], ?_⟩
      have appended : (situation.server.network.wires ++ [Wire.fresh address]).map
          Wire.farAddress = _ := List.map_append
      exact appended.symm
  | carried wire | lost wire => exact modified wire fun wire => wire.farAddress_farSend _
  | finished wire => exact modified wire Wire.farAddress_farFinish
  | departed wire | aborted wire => exact modified wire fun _ => rfl
  | heard wire wanted => exact modified wire fun wire => wire.farAddress_farReceive wanted
  | stepped thread delivery =>
      exact still (Server.farAddresses_step delivery situation.server thread)
  | transmitted _ _ _ sends | broadcast _ _ sends => exact still sends.farAddresses
  | kept wire => exact still (Server.farAddresses_forsake (situation.server.detach wire) wire)
  | setUpFailed _ _ _ tried => exact still (Network.farAddresses_tried tried)
  | setUpMade _ _ _ tried =>
      have established := still (Network.farAddresses_tried tried)
      exact established
  | _ => exact List.prefix_rfl

/-- A move establishes a wire behind the others at most. -/
theorem farAddresses_after (situation : Situation) (move : Move) :
    situation.server.network.farAddresses <+:
      (situation.after move).server.network.farAddresses :=
  (situation.leads_after move).farAddresses

variable {situation : Situation}

/-- A wire that was established keeps the address of its far end. -/
theorem farAddress_after {wire : Nat} (made : situation.server.network.wire? wire ≠ none)
    (move : Move) :
    (situation.after move).server.farAddress wire = situation.server.farAddress wire := by
  obtain ⟨others, more⟩ := situation.farAddresses_after move
  have listed : wire < situation.server.network.farAddresses.length := by
    rw [Network.farAddresses, List.length_map]
    exact (List.getElem?_eq_some_iff.1 (Option.some_get (Option.isSome_iff_ne_none.2 made)).symm).1
  rw [Server.farAddress_eq, Server.farAddress_eq, ← more, List.getElem?_append_left listed]

/-! ## Runs -/

/-- Every tracked peer has the address of the far end of its wire. -/
def Addressed (situation : Situation) : Prop :=
  ∀ id peer, situation.server.peer? id = some peer →
    peer.address = situation.server.farAddress peer.line.wire

theorem Addressed.after (addressed : situation.Addressed) (sound : situation.Sound) (move : Move) :
    (situation.after move).Addressed := by
  intro id later tracked
  rw [Framelink.Server.peer?, peers_after] at tracked
  rcases Edit.of_find?_perform tracked with ⟨peer, before, _, rfl⟩ | enters
  · obtain ⟨_, wire, found⟩ := sound.tracked before
    have made : situation.server.network.wire? peer.line.wire ≠ none := fun none =>
      nomatch none.symm.trans found
    rw [Edit.address_touch, Edit.wire_touch, farAddress_after made]
    exact addressed id peer before
  · have edits := situation.edits_edit move
    rw [enters] at edits
    cases edits with
    | registered acceptor at' delivery admission here registers =>
        obtain ⟨listener, phase, admits, rfl, rfl⟩ := sound.admits here
        obtain rfl : phase = .registering admission := registers
        have preparing : (situation.connection admission.wire).stage = .preparing :=
          (admits.stage admission.wire).trans (if_pos rfl)
        have made : situation.server.network.wire? admission.wire ≠ none :=
          (sound.connections admission.wire).placed.made fun absent =>
            nomatch preparing.symm.trans absent
        exact (farAddress_after made _).symm

/-- In every run the tracked peers have the addresses of the far ends of their wires. -/
theorem addressed_run (settings : Settings) (isolated : Bool) (moves : List Move) :
    ((initial settings isolated).run moves).Addressed :=
  run_keeps settings isolated Addressed (fun _ _ untracked => nomatch untracked)
    (fun sound addressed move => addressed.after sound move) moves

end Situation
end Tcp
end Framelink
