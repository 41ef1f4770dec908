import Framelink.Proofs.Udp.Rounds

/-!
# The life of a datagram server

Between calls that start or stop it, a server has its socket and its local address
exactly while it runs, and it runs exactly if a start succeeded after the last stop.
A start that fails after it stored the socket gives the socket up again.
-/

namespace Framelink
namespace Udp

namespace Server

/-! ## Setting up -/

theorem steady_bind (network : Network) (address : SocketAddress) :
    network.Steady (bind network address).2 := by
  have created := network.tried_openSocket.steady
  unfold bind
  split
  · next failed => rwa [failed] at created
  · next made first =>
      rw [first] at created
      have prepared := (made.tried_attempt .bind).steady
      split
      · next failed =>
          rw [failed] at prepared
          exact created.trans prepared
      · next ready second =>
          rw [second] at prepared
          have bound :=
            (ready.tried_bindAddress (ready.mailboxes.map (·.address.port)) address).steady
          exact created.trans (prepared.trans bound)

/-- What setting a socket up comes to where there was none: an error and hardly a trace,
or a socket with its receiver. -/
theorem listen_cases {server : Server} (free : server.service.socket = none) :
    ∃ network, server.network.Steady network ∧
      ((∃ error, server.listen = (.error error, server.withNetwork network)) ∨
        ∃ address, server.listen =
          (.ok address, ((server.holdSocket (some address)).withNetwork network).receiveAt
            address)) := by
  have bound := steady_bind server.network server.settings.socketAddress
  unfold listen
  split
  · next failure network failed =>
      rw [failed] at bound
      exact ⟨network, bound, Or.inl ⟨_, rfl⟩⟩
  · next address network made =>
      rw [made] at bound
      have served := (network.tried_attemptAll serveCalls).steady
      split
      · next failure later failed =>
          rw [failed] at served
          exact ⟨later, bound.trans served, Or.inl ⟨_, rfl⟩⟩
      · next later ready =>
          rw [ready] at served
          have spawned := (later.tried_attempt .thread).steady
          dsimp only
          split
          · next failure last failed =>
              rw [failed] at spawned
              refine ⟨last, bound.trans (served.trans spawned), Or.inl ⟨.exchange failure, ?_⟩⟩
              have same : ((server.holdSocket (some address)).withNetwork last).holdSocket none =
                  server.withNetwork last := by
                unfold holdSocket withNetwork
                dsimp only
                rw [← free]
              rw [same]
          · next last started =>
              rw [started] at spawned
              exact ⟨last, bound.trans (served.trans spawned), Or.inr ⟨address, rfl⟩⟩

/-- A server without its socket is otherwise as it was. -/
theorem dropSocket_still (server : Server) :
    server.dropSocket.standing = (server.running, server.localAddress, none) ∧
      server.dropSocket.spared = server.spared ∧ server.dropSocket.peers = server.peers := by
  unfold dropSocket
  split
  · next free =>
      unfold standing
      rw [free]
      exact ⟨rfl, rfl, rfl⟩
  · unfold releaseSocket
    split
    · exact ⟨rfl, rfl, rfl⟩
    · exact ⟨rfl, rfl, rfl⟩

end Server

/-! ## Runs -/

/-- Whether a server has a socket: a call that stops it gives the socket up when the
receivers have ended. -/
def holds (running : Bool) : Control Stopping → Bool
  | .idle => running
  | .starting | .stopping .closing => false
  | .stopping .awaitingReceivers => true

namespace Situation

/-- A situation that a run can come to. -/
structure Sound (situation : Situation) : Prop where
  lodged : situation.server.localAddress.isSome =
    situation.control.bound situation.server.running
  held : situation.server.service.socket.isSome =
    holds situation.server.running situation.control
  logged : serving situation.log = situation.control.bound situation.server.running
  starting : situation.control = .starting → situation.server.running = true
  stopping : ∀ phase, situation.control = .stopping phase → situation.server.running = false
  spared : situation.server.spared = true

variable {situation : Situation}

theorem sound_initial (settings : Settings) (network : Network) :
    (initial settings network).Sound where
  lodged := rfl
  held := rfl
  logged := rfl
  starting := fun same => nomatch same
  stopping := fun _ same => nomatch same
  spared := rfl

/-- What keeps what only starting and stopping change keeps a situation sound. -/
theorem Sound.keeps (sound : situation.Sound) {server : Server}
    (keeps : Server.Keeps situation.server server) : Sound { situation with server } := by
  obtain ⟨running, localAddress, socket⟩ := Server.parts_of_standing keeps.standing
  obtain ⟨lodged, held, logged, starting, stopping, spared⟩ := sound
  refine ⟨?_, ?_, ?_, ?_, ?_, keeps.spared spared⟩
  · rw [localAddress, running]
    exact lodged
  · rw [socket, running]
    exact held
  · rw [running]
    exact logged
  · rw [running]
    exact starting
  · rw [running]
    exact stopping

theorem sound_conclude (sound : situation.Sound) (idle : situation.control = .idle)
    (outcome : Outcome)
    (same : outcome.leaves situation.server.running = situation.server.running) :
    Sound (situation.conclude outcome) := by
  obtain ⟨lodged, held, logged, starting, stopping, spared⟩ := sound
  rw [idle] at lodged held logged
  refine ⟨lodged, held, ?_, fun same => (by cases same), fun _ same => (by cases same), spared⟩
  refine (serving_append _ _).trans ?_
  rw [logged]
  exact same

theorem sound_start (sound : situation.Sound) : Sound situation.start := by
  unfold Governed.start
  split
  · next idle =>
      split
      · exact sound_conclude sound idle _ rfl
      · next resting =>
          have down := Bool.eq_false_iff.2 resting
          obtain ⟨lodged, held, logged, starting, stopping, spared⟩ := sound
          rw [idle] at lodged held logged
          exact ⟨lodged.trans down, held.trans down, logged.trans down, fun _ => rfl,
            fun _ same => (by cases same), spared⟩
  · exact sound

theorem Sound.bare (sound : situation.Sound) (free : holds situation.server.running
    situation.control = false) : situation.server.service.socket = none := by
  have held := sound.held
  rw [free] at held
  exact Option.isNone_iff_eq_none.1 (Option.isSome_eq_false_iff.1 held)

theorem sound_setUp (sound : situation.Sound) : Sound situation.setUp := by
  unfold Governed.setUp
  split
  · next control =>
      have free := sound.bare (by rw [control]; rfl)
      obtain ⟨lodged, held, logged, starting, stopping, spared⟩ := sound
      have running := starting control
      rw [control] at lodged held logged
      obtain ⟨network, _, ⟨error, failed⟩ | ⟨address, made⟩⟩ := Server.listen_cases free
      · unfold Framelink.Server.setUp
        rw [show Serving.listen situation.server = _ from failed]
        exact ⟨lodged, held, (serving_append _ _).trans logged, fun same => (by cases same),
          fun _ same => (by cases same), spared⟩
      · unfold Framelink.Server.setUp
        rw [show Serving.listen situation.server = _ from made]
        exact ⟨running.symm, running.symm, (serving_append _ _).trans running.symm,
          fun same => (by cases same), fun _ same => (by cases same), spared⟩
  · exact sound

theorem sound_stop (sound : situation.Sound) :
    Sound (situation.stop .awaitingReceivers) := by
  unfold Governed.stop
  split
  · next idle =>
      split
      · next running =>
          obtain ⟨lodged, held, logged, starting, stopping, spared⟩ := sound
          rw [idle] at lodged held logged
          exact ⟨lodged.trans running, held.trans running, logged.trans running,
            fun same => (by cases same), fun _ _ => rfl, spared⟩
      · next resting =>
          have down := Bool.eq_false_iff.2 resting
          exact sound_conclude sound idle _ down.symm
  · exact sound

theorem sound_advance (sound : situation.Sound) : situation.advance.Sound := by
  unfold advance
  split
  · next control =>
      split
      · obtain ⟨lodged, held, logged, starting, stopping, spared⟩ := sound
        have down := stopping .awaitingReceivers control
        rw [control] at lodged logged
        obtain ⟨standing, sparing, _⟩ := situation.server.dropSocket_still
        obtain ⟨running, localAddress, socket⟩ := Server.parts_of_standing standing
        refine ⟨?_, ?_, logged, fun same => (by cases same), fun _ _ => running.trans down,
          sparing.trans spared⟩
        · dsimp only
          rw [localAddress]
          exact lodged
        · dsimp only
          rw [socket]
          rfl
      · exact sound
  · next control =>
      obtain ⟨lodged, held, logged, starting, stopping, spared⟩ := sound
      have down := stopping .closing control
      rw [control] at held
      exact ⟨down.symm, held.trans down.symm, (serving_append _ _).trans down.symm,
        fun same => (by cases same), fun _ same => (by cases same), spared⟩
  · exact sound

theorem sound_receive (sound : situation.Sound) (bound : SocketAddress) :
    (situation.receive bound).Sound := by
  unfold receive
  split
  · exact sound.keeps (Server.keeps_receiverRound sound.spared bound)
  · exact sound

theorem sound_replace (sound : situation.Sound) (onData onNewPeer : Option Reaction) :
    (situation.replace onData onNewPeer).Sound := by
  unfold replace
  split
  · next sparing => exact sound.keeps ⟨rfl, fun _ => sparing⟩
  · exact sound

theorem Sound.after (sound : situation.Sound) (move : Move) : (situation.after move).Sound := by
  cases move with
  | disturb network => exact sound.keeps (Server.keeps_withNetwork _ network)
  | receive bound => exact sound_receive sound bound
  | read peer size erase => exact sound.keeps (Server.keeps_read _ peer size erase)
  | clear peer => exact sound.keeps (Server.keeps_clear _ peer)
  | remove peer => exact sound.keeps (Server.keeps_remove _ peer)
  | send target bytes => exact sound.keeps (Server.keeps_sendTo target bytes _)
  | broadcast bytes => exact sound.keeps (Server.keeps_broadcast bytes _)
  | replace onData onNewPeer => exact sound_replace sound onData onNewPeer
  | adjust settings => exact sound.keeps ⟨rfl, id⟩
  | start => exact sound_start sound
  | setUp => exact sound_setUp sound
  | stop => exact sound_stop sound
  | advance => exact sound_advance sound

theorem Sound.run (sound : situation.Sound) (moves : List Move) :
    (situation.run moves).Sound := by
  induction moves generalizing situation with
  | nil => exact sound
  | cons move rest inductionHypothesis => exact inductionHypothesis (sound.after move)

/-! ## Between calls -/

/-- Between calls a server has a socket exactly while it runs. -/
theorem Sound.socket (sound : situation.Sound) (idle : situation.control = .idle) :
    situation.server.service.socket.isSome = situation.server.running := by
  have held := sound.held
  rw [idle] at held
  exact held

theorem run_start (idle : situation.control = .idle) :
    (situation.run [.start, .setUp]).server = (Framelink.Server.start situation.server).2 := by
  obtain ⟨log, started⟩ := situation.setUp_start idle
  change situation.start.setUp.server = _
  rw [started]

theorem peers_stop (situation : Situation) :
    (situation.after .stop).server.peers = situation.server.peers :=
  Governed.peers_stop situation .awaitingReceivers

/-- A receiver that finds that the server does not run takes no more datagrams. -/
theorem peers_receive (situation : Situation) (down : situation.server.running = false)
    (bound : SocketAddress) :
    (situation.after (.receive bound)).server.peers = situation.server.peers := by
  dsimp only [after, receive]
  split
  · unfold Server.receiverRound
    rw [if_neg (by rw [down]; decide)]
    unfold Server.endReceiver Server.releaseSocket
    dsimp only
    split <;> rfl
  · rfl

end Situation
end Udp
end Framelink
