import Framelink.Proofs.Tcp.Runs

/-!
# What the application gets of a stream

For every tracked peer, in every run: what the application took from its inbox,
followed by what is still in it, is the beginning of what its far end sent.  Nothing
but the worker of the connection makes that longer, and once the worker has received
the end of the stream it is everything.
-/

namespace Framelink
namespace Tcp
namespace Situation

open Connection

variable {situation : Situation}

/-- What a peer was delivered so far: the bytes that were taken from its inbox, then
those that are in it. -/
def delivered (situation : Situation) (peer : Peer Line) : Bytes :=
  (situation.record peer.line.wire).taken ++ peer.inbox.contents

/-- A tracked peer is the session of its connection, whose wire was established. -/
theorem Sound.tracked (sound : situation.Sound) {id : UInt64} {peer : Peer Line}
    (tracked : situation.server.peer? id = some peer) :
    (situation.connection peer.line.wire).session = some peer ∧
      ∃ wire, (situation.connection peer.line.wire).wire = some wire := by
  have session : (situation.connection peer.line.wire).session = some peer :=
    Server.session?_of_peer? sound.ordered.distinct tracked
  refine ⟨session, ?_⟩
  cases found : (situation.connection peer.line.wire).wire with
  | some wire => exact ⟨wire, rfl⟩
  | none =>
      have untracked :=
        ((sound.connections peer.line.wire).placed.unmade found).2.2.1
      cases session.symm.trans untracked

theorem Sound.delivered_prefix (sound : situation.Sound) {id : UInt64} {peer : Peer Line}
    (tracked : situation.server.peer? id = some peer) :
    situation.delivered peer <+: (situation.record peer.line.wire).sent := by
  obtain ⟨session, wire, found⟩ := sound.tracked tracked
  exact (sound.connections peer.line.wire).conserved.delivered_prefix found session

theorem Sound.delivered_all (sound : situation.Sound) {id : UInt64} {peer : Peer Line}
    (tracked : situation.server.peer? id = some peer)
    (ended : (situation.record peer.line.wire).ended = true) :
    situation.delivered peer = (situation.record peer.line.wire).sent := by
  obtain ⟨session, wire, found⟩ := sound.tracked tracked
  exact (sound.connections peer.line.wire).conserved.delivered_all found session ended

/-- A move that a peer outlasts appends to what it was delivered, and does so only if
it is a step of the worker of the connection. -/
theorem Sound.delivered_after (sound : situation.Sound) {id : UInt64} {peer later : Peer Line}
    (tracked : situation.server.peer? id = some peer) (move : Move)
    (still : (situation.after move).server.peer? id = some later)
    (same : later.line.wire = peer.line.wire) :
    situation.delivered peer <+: (situation.after move).delivered later ∧
      (move.serves peer.line.wire = false →
        (situation.after move).delivered later = situation.delivered peer) := by
  obtain ⟨session, _⟩ := sound.tracked tracked
  have turns := turns_after sound move
  obtain ⟨outlasting, _⟩ := (turns.sound sound).tracked still
  rw [same] at outlasting
  obtain ⟨unchanged, appended⟩ := (turns.turn peer.line.wire).delivered
    (sound.connections peer.line.wire).placed session outlasting
  unfold Situation.delivered
  rw [same]
  exact ⟨appended, fun other => unchanged (Or.inl other)⟩

/-- No byte of a stream is lost, doubled, moved, or given to another peer. -/
theorem stream_delivered_in_order (settings : Settings) (isolated : Bool)
    (moves : List Move) (id : UInt64) (peer : Peer Line)
    (tracked : ((initial settings isolated).run moves).server.peer? id = some peer) :
    let situation := (initial settings isolated).run moves
    let record := situation.record peer.line.wire
    situation.delivered peer <+: record.sent ∧
      (record.ended = true → situation.delivered peer = record.sent) ∧
      ∀ (move : Move) (later : Peer Line),
        (situation.after move).server.peer? id = some later →
        later.line.wire = peer.line.wire →
          situation.delivered peer <+: (situation.after move).delivered later ∧
            (move.serves peer.line.wire = false →
              (situation.after move).delivered later = situation.delivered peer) := by
  have sound := sound_run settings isolated moves
  refine ⟨sound.delivered_prefix tracked, sound.delivered_all tracked, ?_⟩
  intro move later still same
  exact sound.delivered_after tracked move still same

/-- A peer sends seven bytes and ends its stream; its worker receives three at a time;
the application takes two of them and looks at the next ones. -/
def conversation : List Move :=
  admission 7 ++
    [.send 0 [1, 2, 3, 4, 5, 6, 7], .carry 0 5] ++
    List.replicate 10 (.step (.worker 0) .heard) ++
    [.read 1 2 true, .read 1 9 false, .carry 0 2, .finish 0] ++
    List.replicate 9 (.step (.worker 0) .unheard)

theorem stream_delivered_in_order_of_conversation :
    let situation :=
      (initial { Settings.standard with receiveChunk := 3 } false).run conversation
    ∃ peer, situation.server.peer? 1 = some peer ∧
      (situation.record 0).taken = [1, 2] ∧ peer.inbox.contents = [3, 4, 5, 6, 7] ∧
      situation.delivered peer <+: (situation.record 0).sent ∧
      situation.delivered peer = (situation.record 0).sent := by
  intro situation
  have found : (situation.server.peer? 1).map
      (fun peer => (peer.line.wire, peer.inbox.contents)) = some (0, [3, 4, 5, 6, 7]) := by
    decide +kernel
  have taken : (situation.record 0).taken = [1, 2] := by decide +kernel
  have ended : (situation.record 0).ended = true := by decide +kernel
  obtain ⟨peer, tracked, seen⟩ := Option.map_eq_some_iff.1 found
  obtain ⟨wire, contents⟩ := Prod.mk.inj seen
  have ⟨before, all, _⟩ := stream_delivered_in_order { Settings.standard with receiveChunk := 3 }
    false conversation 1 peer tracked
  rw [wire] at before all
  exact ⟨peer, tracked, taken, contents, before, all ended⟩

end Situation
end Tcp
end Framelink
