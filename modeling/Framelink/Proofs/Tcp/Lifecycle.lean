import Framelink.Proofs.Tcp.Stopping
import Framelink.Proofs.Tcp.Streams

/-!
# The life of a stream server

Between calls that start or stop it, a server runs exactly if a start succeeded after
the last stop, and it has a local address exactly if it runs.  A start that fails
leaves hardly a trace.  A stop keeps the tracked peers, and afterwards they are closed,
but for those that a panic left unserved.
-/

namespace Framelink
namespace Tcp
namespace Situation

open Connection

variable {situation : Situation}

/-! ## What the log says -/

/-- The log says whether the server is bound to an address. -/
def Logged (situation : Situation) : Prop :=
  serving situation.log = situation.control.bound situation.server.running

/-- A move that leaves alone what starting and stopping go by leaves the log right. -/
theorem Logged.congr (logged : situation.Logged) {later : Situation}
    (control : later.control = situation.control) (log : later.log = situation.log)
    (standing : later.server.standing = situation.server.standing) : later.Logged := by
  have running : later.server.running = situation.server.running := congrArg Prod.fst standing
  unfold Logged at logged ⊢
  rw [control, log, running]
  exact logged

/-- While a call is under way the server counts as bound until the stop is over, and
between calls it is bound exactly while it runs. -/
theorem Sound.lodged (sound : situation.Sound) (logged : situation.Logged) :
    situation.server.localAddress.isSome = serving situation.log :=
  sound.ordered.lodged.trans logged.symm

/-- The tracked peers of a server at rest are closed, but for those that a panic left
unserved. -/
theorem Sound.closed (sound : situation.Sound) (rest : situation.AtRest) {id : UInt64}
    {peer : Peer Line} (tracked : situation.server.peer? id = some peer) :
    peer.isOpen = false ∨ (situation.record peer.line.wire).panicked = true := by
  obtain ⟨session, wire, found⟩ := sound.tracked tracked
  have ⟨placed, held, _, _, _, _⟩ := sound.connections peer.line.wire
  have kept : (situation.record peer.line.wire).slipped = false := by
    refine placed.unslipped (Or.inr (Or.inr ?_))
    rw [session]
    rfl
  cases still : peer.isOpen with
  | false => exact Or.inl rfl
  | true =>
      have near := held.peer wire peer found session still
      rcases sound.shut rest kept found with shut | panicked
      · cases near.symm.trans shut
      · exact Or.inr panicked

/-- The two moves of a start come to what the call does. -/
theorem run_start (idle : situation.control = .idle) :
    ∃ log, situation.run [.start, .setUp] =
      { situation with server := (Framelink.Server.start situation.server).2, log } := by
  obtain ⟨log, started⟩ := situation.governed.setUp_start idle
  refine ⟨log, ?_⟩
  change situation.governedBy situation.governed.start.setUp = _
  rw [started]
  rfl

theorem peers_stop (situation : Situation) :
    (situation.after .stop).server.peers = situation.server.peers :=
  situation.governed.peers_stop .awaitingAcceptor

end Situation
end Tcp
end Framelink
