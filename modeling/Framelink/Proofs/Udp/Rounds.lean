import Framelink.Proofs.Udp.Situation

/-!
# What a round of a receiver leaves alone

A round may call back, and a callback may send, read, remove and replace as it likes,
and even start the server, which runs already.  As long as it does not stop the server,
that runs on, with its address and its socket.
-/

namespace Framelink
namespace Udp

namespace Server

/-- Whether a server runs, the address it is bound to, and its socket. -/
def standing (server : Server) : Bool × Option SocketAddress × Option SocketAddress :=
  (server.running, server.localAddress, server.service.socket)

theorem parts_of_standing {server : Server} {running : Bool}
    {localAddress socket : Option SocketAddress}
    (standing : server.standing = (running, localAddress, socket)) :
    server.running = running ∧ server.localAddress = localAddress ∧
      server.service.socket = socket := by
  unfold Server.standing at standing
  rwa [Prod.mk.injEq, Prod.mk.injEq] at standing

/-- What only calls that start or stop the server change is as it was. -/
structure Keeps (server later : Server) : Prop where
  standing : later.standing = server.standing
  spared : server.spared = true → later.spared = true

variable {server later : Server}

theorem Keeps.refl (server : Server) : Keeps server server := ⟨rfl, id⟩

theorem Keeps.trans {first second third : Server} (early : Keeps first second)
    (late : Keeps second third) : Keeps first third :=
  ⟨late.standing.trans early.standing, fun spared => late.spared (early.spared spared)⟩

theorem Keeps.running (keeps : Keeps server later) : later.running = server.running :=
  congrArg Prod.fst keeps.standing

theorem keeps_withNetwork (server : Server) (network : Network) :
    Keeps server (server.withNetwork network) := ⟨rfl, id⟩

theorem keeps_releaseSocket (server : Server) (address : SocketAddress) :
    Keeps server (server.releaseSocket address) := by
  unfold releaseSocket
  split
  · exact Keeps.refl server
  · exact keeps_withNetwork server _

theorem keeps_endReceiver (server : Server) (address : SocketAddress) :
    Keeps server (server.endReceiver address) := by
  unfold endReceiver
  refine Keeps.trans ?_ (keeps_releaseSocket _ address)
  exact ⟨rfl, id⟩

theorem keeps_sendTo (target : SocketAddress) (bytes : Bytes) (server : Server) :
    Keeps server (sendTo target bytes server).2 := by
  unfold sendTo
  split
  · exact Keeps.refl server
  · exact keeps_withNetwork server _

theorem keeps_broadcast (bytes : Bytes) (server : Server) :
    Keeps server (broadcast bytes server).2 := by
  unfold broadcast
  split
  · exact keeps_withNetwork server _
  · split
    · exact keeps_withNetwork server _
    · exact keeps_withNetwork server _

theorem keeps_read (server : Server) (peer : SocketAddress) (size : Nat) (erase : Bool) :
    Keeps server (Framelink.Server.read server peer size erase).2 := by
  unfold Framelink.Server.read
  split
  · exact Keeps.refl server
  · exact ⟨rfl, id⟩

theorem keeps_clear (server : Server) (peer : SocketAddress) :
    Keeps server (Framelink.Server.clear server peer).2 := by
  unfold Framelink.Server.clear
  split
  · exact Keeps.refl server
  · exact ⟨rfl, id⟩

theorem keeps_remove (server : Server) (peer : SocketAddress) :
    Keeps server (Framelink.Server.remove server peer).2 := by
  unfold Framelink.Server.remove
  split
  · exact Keeps.refl server
  · exact ⟨rfl, id⟩

/-! ## Callbacks -/

/-- A callback of a server that runs leaves it running, unless it stops it. -/
theorem keeps_perform (running : server.running = true) (peer : SocketAddress) (data : Bytes)
    {reaction : Reaction} (sparing : reaction.sparing = true) :
    Keeps server (Framelink.Server.perform server peer data reaction).2 := by
  cases reaction with
  | log | panic | recover => exact Keeps.refl server
  | echo | reverse | greet => exact keeps_sendTo peer _ server
  | drain => exact keeps_read server peer data.length true
  | peek => exact keeps_read server peer data.length false
  | clear => exact keeps_clear server peer
  | remove => exact keeps_remove server peer
  | replace onData onNewPeer => exact ⟨rfl, fun _ => sparing⟩
  | stop => cases sparing
  | start =>
      unfold Framelink.Server.perform
      rw [Framelink.Server.start_of_running running]
      exact Keeps.refl server

theorem keeps_callBack (running : server.running = true) (peer : SocketAddress) (data : Bytes)
    {reaction : Reaction} (sparing : reaction.sparing = true)
    (report : Answer → Report SocketAddress) :
    Keeps server (Framelink.Server.callBack server peer data reaction report).2 := by
  have bare : Keeps server { server with reports := [] } := ⟨rfl, id⟩
  have performed := @keeps_perform { server with reports := [] } running peer data reaction sparing
  unfold Framelink.Server.callBack
  refine (bare.trans performed).trans ?_
  exact ⟨rfl, id⟩

theorem keeps_dispatchData (running : server.running = true) (spared : server.spared = true)
    (peer : SocketAddress) (data : Bytes) :
    Keeps server (Framelink.Server.dispatchData server peer data).2 := by
  unfold Framelink.Server.dispatchData
  split
  · exact Keeps.refl server
  · next reaction installed =>
      have sparing := (Framelink.Server.spared_parts spared).1 reaction installed
      exact keeps_callBack running peer data sparing _

theorem keeps_dispatchNewPeer (running : server.running = true) (spared : server.spared = true)
    (peer address : SocketAddress) :
    Keeps server (Framelink.Server.dispatchNewPeer server peer address).2 := by
  unfold Framelink.Server.dispatchNewPeer
  split
  · exact Keeps.refl server
  · next reaction installed =>
      have sparing := (Framelink.Server.spared_parts spared).2 reaction installed
      exact keeps_callBack running peer [] sparing _

/-! ## Rounds -/

theorem keeps_trackNew (server : Server) (sender : SocketAddress) (peer : Peer Unit) :
    Keeps server (Framelink.Server.trackNew server sender peer).2 := by
  unfold Framelink.Server.trackNew
  split
  · exact Keeps.refl server
  · exact ⟨rfl, id⟩

theorem keeps_meet (running : server.running = true) (spared : server.spared = true)
    (sender : SocketAddress) : Keeps server (server.meet .live sender).2 := by
  have tracked := keeps_trackNew server sender (freshPeer sender)
  unfold meet
  split
  · next met =>
      rw [met] at tracked
      exact tracked.trans (keeps_dispatchNewPeer (tracked.running.trans running)
        (tracked.spared spared) sender sender)
  · next met =>
      rw [met] at tracked
      exact tracked

theorem keeps_digest (running : server.running = true) (spared : server.spared = true)
    (bound : SocketAddress) (datagram : Datagram) :
    Keeps server (server.digest .live bound datagram).2 := by
  have queued : Keeps server
      (Framelink.Server.push server datagram.source datagram.payload) := ⟨rfl, id⟩
  have told := queued.trans (keeps_dispatchData (queued.running.trans running)
    (queued.spared spared) datagram.source datagram.payload)
  unfold digest
  dsimp only
  split
  · next unheard =>
      rw [show Framelink.Server.dispatchData _ _ _ = _ from unheard] at told
      exact told.trans (keeps_withNetwork _ _)
  · next heard => exact told

theorem keeps_ingest (running : server.running = true) (spared : server.spared = true)
    (bound : SocketAddress) (datagram : Datagram) :
    Keeps server (server.ingest .live bound datagram).2 := by
  have met := keeps_meet running spared datagram.source
  unfold ingest
  split
  · next panicked =>
      rw [panicked] at met
      exact met
  · next delivery later known =>
      rw [known] at met
      exact met.trans (keeps_digest (met.running.trans running) (met.spared spared) bound
        datagram)

/-- Callbacks that are called in the name of a receiver keep what they keep. -/
theorem keeps_inReceiver {Answer : Type} (server : Server) (bound : SocketAddress)
    (act : Server → Answer × Server)
    (kept : ∀ later : Server, Keeps server later → later.running = server.running →
      Keeps later (act later).2) :
    Keeps server (server.inReceiver bound act).2 := by
  have called : Keeps server
      { server with service := { server.service with caller := some bound } } := ⟨rfl, id⟩
  have acted := called.trans (kept _ called rfl)
  unfold inReceiver
  refine acted.trans ?_
  exact ⟨rfl, id⟩

theorem keeps_receiverRound (spared : server.spared = true) (bound : SocketAddress) :
    Keeps server (server.receiverRound .live bound) := by
  unfold receiverRound
  split
  · next running =>
      split
      · exact keeps_withNetwork server _
      · next datagram network received =>
          have taken := keeps_withNetwork server network
          have ingested := keeps_inReceiver (server.withNetwork network) bound
            (fun server => Server.ingest .live server bound datagram)
            fun later keeps same =>
              keeps_ingest (same.trans running) (keeps.spared (taken.spared spared)) bound
                datagram
          split
          · next panicked =>
              rw [panicked] at ingested
              exact (taken.trans ingested).trans (keeps_endReceiver _ bound)
          · next heard =>
              rw [heard] at ingested
              exact taken.trans ingested
  · exact keeps_endReceiver server bound

end Server
end Udp
end Framelink
