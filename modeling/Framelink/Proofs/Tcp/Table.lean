import Framelink.Proofs.Tcp.Lookup
import Framelink.Proofs.Tcp.Moves

/-!
# What becomes of the table of peers

A move changes the table of tracked peers in one way at most.  The application draws
from an inbox or gives a peer up, the acceptor enters a peer under the next number, and a
worker fills the inbox of the peer on its wire; a peer is closed when its worker leaves or
cannot be started.  Whatever holds of the tracked peers in every run is shown for these
edits.
-/

namespace Framelink
namespace Tcp

/-- What a move does to the table of peers. -/
inductive Edit
  | nothing
  /-- The application reads or clears the inbox of a peer. -/
  | draw (id : UInt64) (change : Inbox → Inbox)
  /-- The application gives a peer up. -/
  | drop (id : UInt64)
  /-- A connection is registered. -/
  | enter (id : UInt64) (peer : Peer Line)
  /-- A worker puts a chunk into the inbox of the peer on its wire. -/
  | fill (wire : Nat) (chunk : Bytes)
  /-- The peer on a wire is closed for good. -/
  | close (wire : Nat)

/-- Change the peer on a wire in a table. -/
def changeOnWire (table : PeerTable UInt64 Line) (wire : Nat) (change : Peer Line → Peer Line) :
    PeerTable UInt64 Line :=
  table.map fun (id, peer) => (id, if peer.line.wire == wire then change peer else peer)

/-- A peer with a change made to its inbox. -/
def drawnPeer (change : Inbox → Inbox) (peer : Peer Line) : Peer Line :=
  { peer with inbox := change peer.inbox }

namespace Edit

/-- The table after an edit. -/
def perform (table : PeerTable UInt64 Line) : Edit → PeerTable UInt64 Line
  | .nothing => table
  | .draw id change => table.modify id (drawnPeer change)
  | .drop id => table.erase id
  | .enter id peer => table.insert id peer
  | .fill wire chunk => changeOnWire table wire (pushedPeer chunk)
  | .close wire => changeOnWire table wire closedPeer

/-- What an edit makes of a peer that it leaves tracked. -/
def touch (id : UInt64) (peer : Peer Line) : Edit → Peer Line
  | .draw other change => if id = other then drawnPeer change peer else peer
  | .fill wire chunk => if peer.line.wire == wire then pushedPeer chunk peer else peer
  | .close wire => if peer.line.wire == wire then closedPeer peer else peer
  | _ => peer

/-- Whether an edit puts an end to the peer of a number: the peer is given up, or another
is entered in its place. -/
def ends (id : UInt64) : Edit → Bool
  | .drop other | .enter other _ => other == id
  | _ => false

theorem find?_changeOnWire (table : PeerTable UInt64 Line) (wire : Nat)
    (change : Peer Line → Peer Line) (id : UInt64) :
    (changeOnWire table wire change).find? id =
      (table.find? id).map fun peer => if peer.line.wire == wire then change peer else peer := by
  induction table with
  | nil => rfl
  | cons entry rest inductionHypothesis =>
      obtain ⟨other, peer⟩ := entry
      rw [changeOnWire, List.map_cons, PeerTable.find?_cons, PeerTable.find?_cons]
      by_cases same : id = other
      · rw [if_pos same, if_pos same]
        rfl
      · rw [if_neg same, if_neg same]
        exact inductionHypothesis

variable {table : PeerTable UInt64 Line} {edit : Edit} {id : UInt64}

/-- What an edit makes of the peer of a number that it puts no end to. -/
theorem find?_perform (lasts : edit.ends id = false) :
    (edit.perform table).find? id = (table.find? id).map fun peer => edit.touch id peer := by
  cases edit with
  | nothing => exact Option.map_id'.symm
  | draw other change =>
      rw [perform, PeerTable.find?_modify]
      by_cases same : id = other
      · simp [touch, same]
      · simp [touch, same]
  | drop other =>
      have apart : id ≠ other := fun same => by simp [ends, same] at lasts
      rw [perform, PeerTable.find?_erase, if_neg apart]
      exact Option.map_id'.symm
  | enter other peer =>
      have apart : id ≠ other := fun same => by simp [ends, same] at lasts
      rw [perform, PeerTable.find?_insert, if_neg apart]
      exact Option.map_id'.symm
  | fill wire chunk | close wire => exact find?_changeOnWire table wire _ id

/-- Where a peer that is found after an edit comes from: it was there before, or is entered
now. -/
theorem of_find?_perform {later : Peer Line} (found : (edit.perform table).find? id = some later) :
    (∃ peer, table.find? id = some peer ∧ edit.ends id = false ∧ later = edit.touch id peer) ∨
      edit = .enter id later := by
  cases lasts : edit.ends id with
  | false =>
      rw [find?_perform lasts] at found
      obtain ⟨peer, before, rfl⟩ := Option.map_eq_some_iff.1 found
      exact Or.inl ⟨peer, before, rfl, rfl⟩
  | true =>
      cases edit with
      | drop other =>
          obtain rfl : other = id := by simpa [ends] using lasts
          rw [perform, PeerTable.find?_erase, if_pos rfl] at found
          cases found
      | enter other peer =>
          obtain rfl : other = id := by simpa [ends] using lasts
          rw [perform, PeerTable.find?_insert, if_pos rfl] at found
          cases found
          exact Or.inr rfl
      | _ => cases lasts

/-- An edit changes nothing of a peer but its inbox, and whether it is open and can be sent
to; once it is closed it stays so. -/
theorem touch_eq (edit : Edit) (id : UInt64) (peer : Peer Line) :
    ∃ inbox isOpen, edit.touch id peer =
      ⟨peer.address, inbox, peer.isOpen && isOpen,
        ⟨peer.line.wire, peer.line.writable && isOpen⟩⟩ := by
  have still : ∃ inbox isOpen, peer =
      ⟨peer.address, inbox, peer.isOpen && isOpen,
        ⟨peer.line.wire, peer.line.writable && isOpen⟩⟩ :=
    ⟨peer.inbox, true, by rw [Bool.and_true, Bool.and_true]⟩
  unfold touch
  split
  · split
    · exact ⟨_, true, by rw [Bool.and_true, Bool.and_true]; rfl⟩
    · exact still
  · split
    · exact ⟨_, true, by rw [Bool.and_true, Bool.and_true]; rfl⟩
    · exact still
  · split
    · exact ⟨_, false, by rw [Bool.and_false, Bool.and_false]; rfl⟩
    · exact still
  · exact still

@[simp] theorem wire_touch (edit : Edit) (id : UInt64) (peer : Peer Line) :
    (edit.touch id peer).line.wire = peer.line.wire := by
  obtain ⟨inbox, isOpen, same⟩ := edit.touch_eq id peer
  rw [same]

@[simp] theorem address_touch (edit : Edit) (id : UInt64) (peer : Peer Line) :
    (edit.touch id peer).address = peer.address := by
  obtain ⟨inbox, isOpen, same⟩ := edit.touch_eq id peer
  rw [same]

end Edit

namespace Server

/-! ## Steps of service threads -/

/-- What the next step of an acceptor does to the table. -/
def acceptorEdit (server : Server) (acceptor : Acceptor) : Edit :=
  match acceptor.phase with
  | .registering admission =>
      .enter server.service.nextId
        (freshPeer (server.farAddress admission.wire) admission.wire)
  | .spawning _ admission =>
      match (server.network.attempt .thread).1 with
      | .error _ => .close admission.wire
      | .ok () => .nothing
  | _ => .nothing

/-- A connection that is registered is tracked under the next number. -/
theorem peers_register (server : Server) (port : UInt16) (admission : Admission) :
    (server.register port admission).peers =
      (Framelink.Server.track server server.service.nextId
        (freshPeer (server.farAddress admission.wire) admission.wire)).peers := by
  unfold register
  dsimp only
  split
  · unfold forsake
    split <;> rfl
  · rfl

theorem AcceptorStep.peers {delivery : Delivery} {server later : Server} {acceptor : Acceptor}
    (step : AcceptorStep delivery server acceptor later) :
    later.peers = (server.acceptorEdit acceptor).perform server.peers := by
  unfold acceptorEdit
  cases step with
  | registered admission phase =>
      rw [phase]
      exact server.peers_register acceptor.port admission
  | unserved _ _ phase _ _ failed =>
      rw [phase]
      dsimp only
      rw [failed]
      rfl
  | spawned _ _ phase _ made =>
      rw [phase]
      dsimp only
      rw [made]
      rfl
  | _ =>
      rw [‹acceptor.phase = _›]
      rfl

end Server

/-- What the next step of a worker does to the table. -/
def Worker.edit (worker : Worker) : Edit :=
  match worker.phase with
  | .queueing chunk => .fill worker.wire chunk
  | .leaving => .close worker.wire
  | _ => .nothing

namespace Server

theorem peers_receive (server : Server) (worker : Worker) :
    (server.receive worker).peers = server.peers := by
  unfold receive
  split <;> rfl

theorem WorkerStep.peers {delivery : Delivery} {server later : Server} {worker : Worker}
    (step : WorkerStep delivery server worker later) :
    later.peers = worker.edit.perform server.peers := by
  unfold Worker.edit
  cases step with
  | received phase network =>
      rw [phase]
      exact (server.withNetwork network).peers_receive worker
  | resumed phase =>
      rw [phase]
      exact server.peers_receive worker
  | _ =>
      rw [‹worker.phase = _›]
      rfl

end Server

namespace Situation

/-! ## Moves -/

/-- What a move does to the table. -/
def edit (situation : Situation) : Move → Edit
  | .step (.acceptor port) _ =>
      ((situation.server.acceptor? port).map situation.server.acceptorEdit).getD .nothing
  | .step (.worker wire) _ =>
      ((situation.server.worker? wire).map Worker.edit).getD .nothing
  | .read id size erase =>
      match situation.server.peer? id with
      | some peer => .draw id fun _ => (peer.inbox.read size erase).2
      | none => .nothing
  | .clear id =>
      match situation.server.peer? id with
      | some _ => .draw id Inbox.clear
      | none => .nothing
  | .remove id =>
      match situation.server.peer? id with
      | some _ => .drop id
      | none => .nothing
  | _ => .nothing

/-- A call with a number that no peer has edits nothing. -/
theorem edit_of_unknown (situation : Situation) {move : Move}
    (waits : ∀ thread delivery, move ≠ .step thread delivery)
    (unknown : ∀ id, move.handled? = some id → situation.server.peer? id = none) :
    situation.edit move = .nothing := by
  cases move with
  | step thread delivery => exact absurd rfl (waits thread delivery)
  | read id | clear id | remove id => rw [edit, unknown id rfl]
  | _ => rfl

theorem Leads.peers {situation later : Situation} {move : Move}
    (leads : situation.Leads move later) :
    later.server.peers = (situation.edit move).perform situation.server.peers := by
  cases leads with
  | nothing _ waits unknown =>
      rw [situation.edit_of_unknown waits unknown]
      rfl
  | stepped thread delivery =>
      have stepped := situation.server.threadStep delivery thread
      change (situation.server.step (.answering delivery) thread).peers = _
      generalize situation.server.step (.answering delivery) thread = server at stepped ⊢
      cases stepped with
      | noAcceptor _ gone | noWorker _ gone =>
          rw [edit, gone]
          rfl
      | acceptor _ _ _ here step =>
          rw [edit, here]
          exact step.peers
      | worker _ _ _ alive step =>
          rw [edit, alive]
          exact step.peers
  | read _ _ _ _ tracked | cleared _ _ tracked | removed _ _ tracked =>
      rw [edit, tracked]
      rfl
  | kept wire =>
      dsimp only [keep, Server.forsake]
      split <;> rfl
  | _ => rfl

/-- A move edits the table, and nothing else changes it. -/
theorem peers_after (situation : Situation) (move : Move) :
    (situation.after move).server.peers =
      (situation.edit move).perform situation.server.peers :=
  (situation.leads_after move).peers

/-! ## Which moves make which edits -/

/-- How a move comes to an edit. -/
inductive Edits (situation : Situation) : Move → Edit → Prop
  | nothing (move : Move)
      (idle : ∀ id, move.handled? = some id → situation.server.peer? id = none) :
      Edits situation move .nothing
  | read (id : UInt64) (size : Nat) (erase : Bool) (peer : Peer Line)
      (tracked : situation.server.peer? id = some peer) :
      Edits situation (.read id size erase) (.draw id fun _ => (peer.inbox.read size erase).2)
  | cleared (id : UInt64) (peer : Peer Line) (tracked : situation.server.peer? id = some peer) :
      Edits situation (.clear id) (.draw id Inbox.clear)
  | removed (id : UInt64) (peer : Peer Line) (tracked : situation.server.peer? id = some peer) :
      Edits situation (.remove id) (.drop id)
  | registered (acceptor : Acceptor) (port : UInt16) (delivery : Delivery) (admission : Admission)
      (here : situation.server.acceptor? port = some acceptor)
      (phase : acceptor.phase = .registering admission) :
      Edits situation (.step (.acceptor port) delivery)
        (.enter situation.server.service.nextId
          (Server.freshPeer (situation.server.farAddress admission.wire) admission.wire))
  | unserved (acceptor : Acceptor) (port : UInt16) (delivery : Delivery) (id : UInt64)
      (admission : Admission) (here : situation.server.acceptor? port = some acceptor)
      (phase : acceptor.phase = .spawning id admission) :
      Edits situation (.step (.acceptor port) delivery) (.close admission.wire)
  | queued (worker : Worker) (wire : Nat) (chunk : Bytes) (delivery : Delivery)
      (alive : situation.server.worker? wire = some worker)
      (phase : worker.phase = .queueing chunk) :
      Edits situation (.step (.worker wire) delivery) (.fill worker.wire chunk)
  | left (worker : Worker) (wire : Nat) (delivery : Delivery)
      (alive : situation.server.worker? wire = some worker) (phase : worker.phase = .leaving) :
      Edits situation (.step (.worker wire) delivery) (.close worker.wire)

theorem edits_edit (situation : Situation) (move : Move) :
    situation.Edits move (situation.edit move) := by
  have idle {move : Move} (nobody : move.handled? = none) : situation.Edits move .nothing :=
    .nothing move fun id handled => nomatch nobody.symm.trans handled
  have unknown {move : Move} {id : UInt64} (handled : move.handled? = some id)
      (untracked : situation.server.peer? id = none) : situation.Edits move .nothing := by
    refine .nothing move fun other same => ?_
    cases handled.symm.trans same
    exact untracked
  cases move with
  | step thread delivery =>
      cases thread with
      | acceptor port =>
          rw [edit]
          cases here : situation.server.acceptor? port with
          | none => exact idle rfl
          | some acceptor =>
              rw [Option.map_some, Option.getD_some, Server.acceptorEdit]
              split
              · next admission phase =>
                  exact .registered acceptor port delivery admission here phase
              · next id admission phase =>
                  split
                  · exact .unserved acceptor port delivery id admission here phase
                  · exact idle rfl
              · exact idle rfl
      | worker wire =>
          rw [edit]
          cases alive : situation.server.worker? wire with
          | none => exact idle rfl
          | some worker =>
              rw [Option.map_some, Option.getD_some, Worker.edit]
              split
              · next chunk phase => exact .queued worker wire chunk delivery alive phase
              · next phase => exact .left worker wire delivery alive phase
              · exact idle rfl
  | read id size erase =>
      rw [edit]
      cases tracked : situation.server.peer? id with
      | none => exact unknown rfl tracked
      | some peer => exact .read id size erase peer tracked
  | clear id =>
      rw [edit]
      cases tracked : situation.server.peer? id with
      | none => exact unknown rfl tracked
      | some peer => exact .cleared id peer tracked
  | remove id =>
      rw [edit]
      cases tracked : situation.server.peer? id with
      | none => exact unknown rfl tracked
      | some peer => exact .removed id peer tracked
  | _ => exact idle rfl

end Situation
end Tcp
end Framelink
