import Framelink.Proofs.Tcp.Admissions
import Framelink.Proofs.Tcp.Broadcasting
import Framelink.Proofs.Tcp.Retired
import Framelink.Server.BlockingRead

/-!
# What remains of a peer that was closed

A worker that ends closes its peer, unless a callback panicked in it.  The peer is then closed
for good, whatever becomes of the server: nothing is sent to it and nobody waits for it, while
its address stays and its inbox changes by what the application takes only.  Once it is given
up there is nothing left of it, and its number names nobody until it is given out again.
-/

namespace Framelink
namespace Tcp

/-! ## Giving a peer up -/

namespace Situation

/-- Whether a move gives a number to the next connection. -/
def assigns (situation : Situation) (id : UInt64) : Move → Bool
  | .step (.acceptor port) _ =>
      ((situation.server.acceptor? port).map Acceptor.registers).getD false &&
        situation.server.service.nextId == id
  | _ => false

/-- A number is given to no connection in a row of moves. -/
def Withholds (situation : Situation) (id : UInt64) (moves : List Move) : Prop :=
  ∀ early move late, early ++ move :: late = moves → (situation.run early).assigns id move = false

variable {situation : Situation} {id : UInt64}

theorem Withholds.first {move : Move} {rest : List Move}
    (withholds : situation.Withholds id (move :: rest)) : situation.assigns id move = false :=
  withholds [] move rest rfl

theorem Withholds.rest {move : Move} {rest : List Move}
    (withholds : situation.Withholds id (move :: rest)) :
    (situation.after move).Withholds id rest := by
  rintro early next late rfl
  exact withholds (move :: early) next late rfl

theorem Withholds.later {early late : List Move}
    (withholds : situation.Withholds id (early ++ late)) :
    (situation.run early).Withholds id late := by
  rintro middle move rest rfl
  have kept := withholds (early ++ middle) move rest (List.append_assoc _ _ _)
  rwa [run_append] at kept

theorem Withholds.earlier {early late : List Move}
    (withholds : situation.Withholds id (early ++ late)) : situation.Withholds id early := by
  rintro before move after rfl
  exact withholds before move (after ++ late) (by simp)

/-- A connection is entered under a number when that is assigned. -/
theorem assigns_of_enter {move : Move} {peer : Peer Line}
    (enters : situation.edit move = .enter id peer) : situation.assigns id move = true := by
  have edits := situation.edits_edit move
  rw [enters] at edits
  cases edits with
  | registered acceptor port delivery admission here registers =>
      simp [assigns, here, Acceptor.registers, registers]

/-- The peer of a number comes to its end when the application gives it up, or when the number
is assigned again. -/
theorem ends_edit {move : Move} (kept : move ≠ .remove id)
    (withheld : situation.assigns id move = false) : (situation.edit move).ends id = false := by
  cases ends : (situation.edit move).ends id with
  | false => rfl
  | true =>
      have edits := situation.edits_edit move
      cases edited : situation.edit move with
      | enter other peer =>
          rw [edited] at ends
          obtain rfl : other = id := by simpa [Edit.ends] using ends
          cases withheld.symm.trans (assigns_of_enter edited)
      | drop other =>
          rw [edited] at ends edits
          obtain rfl : other = id := by simpa [Edit.ends] using ends
          cases edits
          exact absurd rfl kept
      | _ =>
          rw [edited] at ends
          cases ends

end Situation

/-! ## Closed peers -/

/-- What a move of the application makes of the inbox of a peer. -/
def Move.draw (id : UInt64) (inbox : Inbox) : Move → Inbox
  | .read other size erase => if id = other then (inbox.read size erase).2 else inbox
  | .clear other => if id = other then inbox.clear else inbox
  | _ => inbox

/-- A peer with what a row of moves of the application leaves in its inbox. -/
def drawn (id : UInt64) (peer : Peer Line) (moves : List Move) : Peer Line :=
  { peer with inbox := moves.foldl (Move.draw id) peer.inbox }

namespace Situation

open Connection

/-- The peer of a number is closed for good, and nobody serves it. -/
structure Remains (situation : Situation) (id : UInt64) (peer : Peer Line) : Prop where
  tracked : situation.server.peer? id = some peer
  closed : peer.isOpen = false
  released : peer.line.writable = false
  finished : (situation.connection peer.line.wire).Over

variable {situation : Situation} {id : UInt64} {peer : Peer Line}

/-- Closing a closed peer changes nothing. -/
theorem Remains.closedPeer_eq (remains : situation.Remains id peer) : closedPeer peer = peer := by
  obtain ⟨address, inbox, isOpen, wire, writable⟩ := peer
  obtain ⟨_, rfl, rfl, _⟩ := remains
  rfl

/-- Nobody but the application makes anything of a peer that is closed for good. -/
theorem Remains.touch (remains : situation.Remains id peer) (move : Move) :
    (situation.edit move).touch id peer = drawn id peer [move] := by
  have closes (wire : Nat) : (Edit.close wire).touch id peer = peer := by
    rw [Edit.touch, remains.closedPeer_eq, ite_self]
  have edits := situation.edits_edit move
  generalize situation.edit move = edit at edits
  cases edits with
  | nothing move idle =>
      have apart {other : UInt64} (handled : move.handled? = some other) : id ≠ other := by
        rintro rfl
        cases (idle id handled).symm.trans remains.tracked
      cases move with
      | read other | clear other => simp [drawn, Move.draw, Edit.touch, apart rfl]
      | _ => rfl
  | read other size erase known tracked =>
      by_cases same : id = other
      · subst same
        cases remains.tracked.symm.trans tracked
        simp [drawn, Move.draw, Edit.touch, drawnPeer]
      · simp [drawn, Move.draw, Edit.touch, same]
  | cleared other known tracked =>
      by_cases same : id = other
      · simp [drawn, Move.draw, Edit.touch, drawnPeer, same]
      · simp [drawn, Move.draw, Edit.touch, same]
  | removed | registered => rfl
  | unserved => exact closes _
  | left => exact closes _
  | queued worker wire chunk delivery alive phase =>
      have elsewhere : (peer.line.wire == worker.wire) = false := by
        rw [Server.wire_of_worker? alive, beq_eq_false_iff_ne]
        rintro rfl
        cases remains.finished.unserved.symm.trans alive
      rw [Edit.touch, elsewhere]
      rfl

/-- A peer that is closed for good remains, as long as it is not given up. -/
theorem Remains.after (remains : situation.Remains id peer) (sound : situation.Sound) {move : Move}
    (kept : move ≠ .remove id) (withheld : situation.assigns id move = false) :
    (situation.after move).Remains id (drawn id peer [move]) where
  tracked := by
    rw [Framelink.Server.peer?, peers_after, Edit.find?_perform (ends_edit kept withheld),
      show situation.server.peers.find? id = some peer from remains.tracked, Option.map_some,
      remains.touch]
  closed := remains.closed
  released := remains.released
  finished := ((turns_after sound move).turn peer.line.wire).stays_over remains.finished

theorem Remains.run (remains : situation.Remains id peer) (sound : situation.Sound)
    {moves : List Move} (kept : .remove id ∉ moves) (withholds : situation.Withholds id moves) :
    (situation.run moves).Remains id (drawn id peer moves) := by
  induction moves generalizing situation peer with
  | nil => exact remains
  | cons move rest inductionHypothesis =>
      obtain ⟨other, others⟩ := not_or.1 (List.mem_cons.not.1 kept)
      exact inductionHypothesis (remains.after sound (Ne.symm other) withholds.first)
        (sound.after move) others withholds.rest

/-! ## Workers that end -/

/-- A peer whose worker is gone is closed for good, unless a callback panicked in the worker:
the near end of its wire would be open otherwise, with nobody to close it. -/
theorem Sound.remains (sound : situation.Sound) (holding : situation.server.Holding)
    (tracked : situation.server.peer? id = some peer)
    (beyond : (situation.connection peer.line.wire).Beyond)
    (gone : situation.server.worker? peer.line.wire = none)
    (calm : (situation.record peer.line.wire).panicked = false) : situation.Remains id peer := by
  have unserved : (situation.connection peer.line.wire).worker = none := gone
  have closed : peer.isOpen = false := by
    cases isOpen : peer.isOpen with
    | false => rfl
    | true =>
        obtain ⟨session, wire, found⟩ := sound.tracked tracked
        have held := (sound.connections peer.line.wire).held
        rcases held.bound wire found (held.peer wire peer found session isOpen) with
          waits | stage | stage | alive | panicked
        · cases beyond.waits.symm.trans waits
        · exact absurd stage beyond.prepared
        · exact absurd stage beyond.greeted
        · rw [unserved] at alive
          cases alive
        · cases calm.symm.trans panicked
  exact ⟨tracked, closed, (holding id peer tracked).symm.trans closed, beyond.made, beyond.waits,
    beyond.prepared, beyond.greeted, unserved⟩

end Situation

/-! ## What the application gets -/

/-- The caller's buffer after a read: what was copied stands at its front. -/
def filled (buffer : Bytes) : Except LinkError Bytes → Bytes
  | .ok copied => copied ++ buffer.drop copied.length
  | .error _ => buffer

namespace Server

/-- What the application gets of a closed peer: it can take what there is, and that is all. -/
structure Closed (server : Server) (id : UInt64) (peer : Peer Line) : Prop where
  isOpen : server.isPeerOpen id = false
  released : peer.line.writable = false
  /-- Nothing is sent to it. -/
  transmit : ∀ bytes,
    Framelink.Server.transmit server id bytes = (.error .notConnected, server)
  /-- A broadcast passes it over. -/
  broadcast : ∀ (World : Type) (put : Nat → Bytes → World → Except Failure Nat × World)
    (world : World) (bytes : Bytes) (order : PeerTable UInt64 Line), order.Perm server.peers →
      sentOn peer.line.wire (broadcastNoted put world bytes server order).2.service.2 = []
  /-- A blocking read is over after two looks, whether the server runs or not. -/
  prompt : ∀ size running later,
    (ReadPhase.counting.next size peer running).next size peer later = .copying
  blocking : ∀ size erase, server.readBlocking id size erase = some (server.read id size erase)
  read : ∀ size erase, (server.read id size erase).1 = .ok (peer.inbox.read size erase).1
  available : server.available id = .ok peer.inbox.size
  tally : server.tally id = .ok peer.inbox.tally
  address : server.remoteAddress id = .ok peer.address

end Server

namespace Situation

/-! ## Runs -/

/-- A number that names a peer is not assigned again while there are numbers left. -/
theorem withholds_of_few {settings : Settings} {isolated : Bool} {early late : List Move}
    (few : ((initial settings isolated).numbersGiven (early ++ late)).length + 1 < UInt64.size)
    {id : UInt64} {peer : Peer Line}
    (tracked : ((initial settings isolated).run early).server.peer? id = some peer) :
    ((initial settings isolated).run early).Withholds id late := by
  rintro within move rest rfl
  have given : (id, peer.line.wire) ∈
      (initial settings isolated).numbersGiven (early ++ within) := by
    rw [numbersGiven_append]
    exact List.mem_append_left _ (given_of_tracked settings isolated early tracked)
  have enough : ((initial settings isolated).numbersGiven (early ++ within)).length + 1 <
      UInt64.size := by
    rw [← List.append_assoc, numbersGiven_append, List.length_append] at few
    omega
  have below := given_lt_next enough given
  rw [run_append] at below
  have apart : ((((initial settings isolated).run early).run within).server.service.nextId == id) =
      false := by
    rw [beq_eq_false_iff_ne]
    intro same
    rw [same] at below
    exact UInt64.lt_irrefl id below
  unfold assigns
  split
  · rw [apart, Bool.and_false]
  · rfl

/-- A peer is admitted, and what its far end sent is in its inbox. -/
def visit : List Move :=
  admission 7 ++ [.send 0 [1, 2, 3], .carry 0 3] ++ List.replicate 5 (.step (.worker 0) .heard)

/-- The far end closes, and the worker leaves. -/
def farewell : List Move := .depart 0 :: List.replicate 3 (.step (.worker 0) .heard)

end Situation
end Tcp
end Framelink
