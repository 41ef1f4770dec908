import Framelink.Proofs.Tcp.Keeping
import Framelink.Proofs.Tcp.Turns.Acceptors

/-!
# The numbers of peers

A peer gets its number when its connection is registered, and nothing else adds a peer.
The numbers are given out in order, so one that a peer still has is given out again only
after all of them were.
-/

namespace Framelink
namespace Tcp

/-- Whether the next step of an acceptor registers a connection. -/
def Acceptor.registers (acceptor : Acceptor) : Bool :=
  match acceptor.phase with
  | .registering _ => true
  | _ => false

namespace Server

/-- Nobody is admitted, and the callbacks stay in place. -/
structure Undisturbed (server later : Server) : Prop where
  nextId : later.service.nextId = server.service.nextId
  handles : ∀ id ∈ later.peers.handles, id ∈ server.peers.handles
  callbacks : (later.onData, later.onNewPeer) = (server.onData, server.onNewPeer)

namespace Undisturbed

variable {server later : Server}

/-- The tracked peers have the numbers that they had. -/
theorem of_handles (nextId : later.service.nextId = server.service.nextId)
    (handles : later.peers.handles = server.peers.handles)
    (callbacks : later.bearing.2 = server.bearing.2) : server.Undisturbed later where
  nextId := nextId
  handles := by
    intro id given
    rw [← handles]
    exact given
  callbacks := callbacks

theorem refl (server : Server) : server.Undisturbed server := .of_handles rfl rfl rfl

theorem withNetwork (server : Server) (network : Network) :
    server.Undisturbed (server.withNetwork network) := .of_handles rfl rfl rfl

theorem modifyPeer (server : Server) (id : UInt64) (change : Peer Line → Peer Line) :
    server.Undisturbed (Framelink.Server.modifyPeer server id change) :=
  .of_handles rfl (PeerTable.handles_modify server.peers id change) rfl

theorem forsake (server : Server) (wire : Nat) : server.Undisturbed (server.forsake wire) := by
  rw [Server.forsake]
  split
  · exact .refl server
  · exact .withNetwork server _

end Undisturbed

/-- Changing the peer on a wire leaves the numbers as they are. -/
theorem handles_modifySession (server : Server) (wire : Nat) (change : Peer Line → Peer Line) :
    (server.modifySession wire change).peers.handles = server.peers.handles := by
  unfold modifySession PeerTable.handles
  rw [List.map_map]
  rfl

theorem handles_pushSession (server : Server) (wire : Nat) (bytes : Bytes) :
    (server.pushSession wire bytes).peers.handles = server.peers.handles :=
  server.handles_modifySession wire (pushedPeer bytes)

theorem handles_closeSession (server : Server) (wire : Nat) :
    (server.closeSession wire).peers.handles = server.peers.handles :=
  server.handles_modifySession wire closedPeer

/-! ## Steps of service threads -/

theorem undisturbed_receive (server : Server) (worker : Worker) :
    server.Undisturbed (server.receive worker) := by
  rw [receive]
  split <;> exact .of_handles rfl rfl rfl

variable {delivery : Delivery} {server later : Server}

theorem WorkerStep.undisturbed {worker : Worker} (step : WorkerStep delivery server worker later) :
    server.Undisturbed later := by
  cases step with
  | received _ network =>
      obtain ⟨nextId, handles, callbacks⟩ :=
        undisturbed_receive (server.withNetwork network) worker
      exact ⟨nextId, handles, callbacks⟩
  | resumed => exact undisturbed_receive server worker
  | queued chunk => exact .of_handles rfl (server.handles_pushSession worker.wire chunk) rfl
  | left => exact .of_handles rfl (server.handles_closeSession worker.wire) rfl
  | _ => exact .of_handles rfl rfl rfl

/-- An acceptor registers a connection, or it admits nobody. -/
theorem AcceptorStep.undisturbed_or_registers {acceptor : Acceptor}
    (step : AcceptorStep delivery server acceptor later) :
    server.Undisturbed later ∨ ∃ admission, acceptor.phase = .registering admission ∧
      later = server.register acceptor.port admission := by
  cases step with
  | registered admission phase => exact Or.inr ⟨admission, phase, rfl⟩
  | unserved _ admission _ _ network =>
      exact Or.inl (.of_handles rfl
        ((server.withNetwork network).handles_closeSession admission.wire) rfl)
  | _ => exact Or.inl (.of_handles rfl rfl rfl)

/-! ## The numbers given out -/

/-- So many numbers were given out, and the tracked peers have some of them. -/
structure Numbered (server : Server) (count : Nat) : Prop where
  next : server.service.nextId = UInt64.ofNat (count + 1)
  given : ∀ id ∈ server.peers.handles, ∃ earlier < count, id = UInt64.ofNat (earlier + 1)

/-- While there are numbers left, no tracked peer has the next one. -/
theorem Numbered.next_free {server : Server} {count : Nat} (numbered : server.Numbered count)
    (left : count < UInt64.size) : Framelink.Server.peer? server server.service.nextId = none := by
  cases known : Framelink.Server.peer? server server.service.nextId with
  | none => rfl
  | some peer =>
      have tracked : server.peers.tracks server.service.nextId = true :=
        congrArg Option.isSome known
      obtain ⟨earlier, before, same⟩ :=
        numbered.given _ ((server.peers.tracks_iff_mem _).mp tracked)
      have values := congrArg UInt64.toNat (numbered.next.symm.trans same)
      rw [UInt64.toNat_ofNat', UInt64.toNat_ofNat'] at values
      rw [UInt64.size] at left
      omega

/-- A peer that is tracked adds no number but its own. -/
theorem mem_handles_track {server : Server} {id given : UInt64} {peer : Peer Line}
    (member : given ∈ (Framelink.Server.track server id peer).peers.handles) :
    given ∈ server.peers.handles ∨ given = id := by
  rw [Framelink.Server.track, PeerTable.insert] at member
  dsimp only at member
  split at member
  · rw [PeerTable.handles_modify] at member
    exact Or.inl member
  · rw [PeerTable.handles, List.map_append, List.mem_append] at member
    exact member.imp_right List.mem_singleton.mp

theorem nextId_register (server : Server) (port : UInt16) (admission : Admission) :
    (server.register port admission).service.nextId = server.service.nextId + 1 := by
  rw [Situation.register_eq]
  cases server.peer? server.service.nextId with
  | none => rfl
  | some old => exact (Undisturbed.forsake _ old.line.wire).nextId

/-- Registering a connection gives one number out. -/
theorem Numbered.register {server : Server} {count : Nat} (numbered : server.Numbered count)
    (port : UInt16) (admission : Admission) :
    (server.register port admission).Numbered (count + 1) where
  next := by
    rw [nextId_register, numbered.next]
    exact (UInt64.ofNat_add (count + 1) 1).symm
  given := by
    intro id given
    rw [peers_register] at given
    rcases mem_handles_track given with before | own
    · obtain ⟨earlier, less, same⟩ := numbered.given id before
      exact ⟨earlier, Nat.lt_succ_of_lt less, same⟩
    · exact ⟨count, Nat.lt_succ_self count, own.trans numbered.next⟩

end Server

namespace Situation

/-- What the application, the far ends and the surroundings do admits nobody, and replaces the
callbacks only where it is meant to. -/
theorem Leads.undisturbed {situation later : Situation} {move : Move}
    (leads : situation.Leads move later)
    (unforced : ∀ thread delivery, move ≠ .step thread delivery)
    (stays : ∀ onData onNewPeer, move ≠ .replace onData onNewPeer) :
    situation.server.Undisturbed later.server := by
  cases leads with
  | stepped thread delivery => exact absurd rfl (unforced thread delivery)
  | replaced onData onNewPeer => exact absurd rfl (stays onData onNewPeer)
  | read id | cleared id => exact Server.Undisturbed.modifyPeer situation.server id _
  | removed =>
      exact ⟨rfl, fun _ member => (List.filter_sublist.map Prod.fst).subset member, rfl⟩
  | kept wire =>
      obtain ⟨nextId, handles, callbacks⟩ :=
        Server.Undisturbed.forsake (situation.server.detach wire) wire
      exact ⟨nextId, handles, callbacks⟩
  | _ => exact .of_handles rfl rfl rfl

/-- A move registers a connection, or it gives no number out and adds no peer. -/
theorem admits_nobody_or_registers (situation : Situation) (move : Move) :
    ((situation.after move).server.service.nextId = situation.server.service.nextId ∧
        ∀ id ∈ (situation.after move).server.peers.handles, id ∈ situation.server.peers.handles) ∨
      ∃ acceptor delivery admission, situation.server.acceptor? acceptor.port = some acceptor ∧
        acceptor.phase = .registering admission ∧
          move = .step (.acceptor acceptor.port) delivery ∧
            (situation.after move).server = situation.server.register acceptor.port admission := by
  have still {later : Server} (undisturbed : situation.server.Undisturbed later) :
      later.service.nextId = situation.server.service.nextId ∧
        ∀ id ∈ later.peers.handles, id ∈ situation.server.peers.handles :=
    ⟨undisturbed.nextId, undisturbed.handles⟩
  cases move with
  | step thread delivery =>
      have stepped := situation.server.threadStep delivery thread
      rw [show (situation.after (.step thread delivery)).server =
        situation.server.step (.answering delivery) thread from rfl]
      generalize situation.server.step (.answering delivery) thread = later at stepped ⊢
      cases stepped with
      | noAcceptor | noWorker => exact Or.inl (still (.refl situation.server))
      | acceptor port acceptor _ here step =>
          obtain rfl : acceptor.port = port := by simpa using List.find?_some here
          rcases step.undisturbed_or_registers with undisturbed | ⟨admission, phase, registered⟩
          · exact Or.inl (still undisturbed)
          · exact Or.inr ⟨acceptor, delivery, admission, here, phase, rfl, registered⟩
      | worker _ _ _ _ step => exact Or.inl (still step.undisturbed)
  | replace onData onNewPeer => exact Or.inl ⟨rfl, fun _ member => member⟩
  | _ => exact Or.inl (still ((situation.leads_after _).undisturbed (by simp) (by simp)))

/-- Each move gives out one number at most. -/
theorem numbered_after (situation : Situation) {count : Nat}
    (numbered : situation.server.Numbered count) (move : Move) :
    ∃ given ≤ count + 1, (situation.after move).server.Numbered given := by
  rcases situation.admits_nobody_or_registers move with
    ⟨nextId, handles⟩ | ⟨acceptor, _, admission, _, _, _, registered⟩
  · exact ⟨count, Nat.le_succ count, nextId.trans numbered.next,
      fun id given => numbered.given id (handles id given)⟩
  · rw [registered]
    exact ⟨count + 1, Nat.le_refl _, numbered.register acceptor.port admission⟩

end Situation
end Tcp
end Framelink
