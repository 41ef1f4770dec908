import Framelink.Server.Dispatch
import Framelink.Tcp.Server.Thread

/-!
# Stream servers

A stream server knows its peers by numbers, which it gives out in the order of
admission, from the first again after the last.  A thread belongs to a wire rather
than to a number: it goes on serving its own peer when that is tracked no longer, or
another under its number.  The service holds the network and the threads that
are alive; a thread that has ended is gone.  A peer is closed by shutting its
wire down and giving up the way to send on it.
-/

namespace Framelink
namespace Tcp

/-- What a stream server keeps of a peer. -/
structure Line where
  /-- The number of its wire. -/
  wire : Nat
  /-- The wire can be sent on: the peer was not closed. -/
  writable : Bool
  deriving DecidableEq, Repr

/-- What a stream server keeps of itself. -/
structure Service where
  network : Network
  /-- The number of the next peer. -/
  nextId : UInt64
  acceptors : List Acceptor
  workers : List Worker
  /-- The thread whose callback is being called. -/
  caller : Option Thread

/-- A stream server. -/
abbrev Server := Framelink.Server UInt64 Line Service

namespace Server

/-- A server that was never started. -/
def stopped (settings : Settings) (network : Network) : Server :=
  Framelink.Server.stopped settings ⟨network, 1, [], [], none⟩

/-- The network of a server. -/
def network (server : Server) : Network := server.service.network

/-- A server on a network in another state. -/
def withNetwork (server : Server) (network : Network) : Server :=
  { server with service := { server.service with network } }

/-- Let the network of a server change. -/
def modifyNetwork (server : Server) (change : Network → Network) : Server :=
  server.withNetwork (change server.network)

/-! ## Threads -/

/-- The worker on a wire, while it is alive. -/
def worker? (server : Server) (wire : Nat) : Option Worker :=
  server.service.workers.find? (·.wire == wire)

/-- Change the worker on a wire. -/
def modifyWorker (server : Server) (wire : Nat) (change : Worker → Worker) : Server :=
  { server with
    service :=
      { server.service with
        workers := server.service.workers.map fun worker =>
          if worker.wire == wire then change worker else worker } }

/-- Let a worker go on in another phase. -/
def moveWorker (server : Server) (wire : Nat) (phase : Worker.Phase) : Server :=
  server.modifyWorker wire fun worker => { worker with phase }

/-- Let another worker live. -/
def addWorker (server : Server) (worker : Worker) : Server :=
  { server with
    service := { server.service with workers := server.service.workers ++ [worker] } }

/-- End the worker on a wire. -/
def endWorker (server : Server) (wire : Nat) : Server :=
  { server with
    service :=
      { server.service with
        workers := server.service.workers.filter fun worker => !(worker.wire == wire) } }

/-- Pass the handle of the worker on a wire on, if it is in one place, to another. -/
def passHandle (server : Server) (wire : Nat) (source target : Custody) : Server :=
  server.modifyWorker wire fun worker =>
    if worker.custody = source then { worker with custody := target } else worker

/-- Pass all handles that are in one place on to another. -/
def passHandles (server : Server) (source target : Custody) : Server :=
  { server with
    service :=
      { server.service with
        workers := server.service.workers.map fun worker =>
          if worker.custody = source then { worker with custody := target } else worker } }

/-- The acceptor at a port, while it is alive. -/
def acceptor? (server : Server) (port : UInt16) : Option Acceptor :=
  server.service.acceptors.find? (·.port == port)

/-- Let an acceptor go on in another phase. -/
def moveAcceptor (server : Server) (port : UInt16) (phase : Acceptor.Phase) : Server :=
  { server with
    service :=
      { server.service with
        acceptors := server.service.acceptors.map fun acceptor =>
          if acceptor.port == port then { acceptor with phase } else acceptor } }

/-- End the acceptor at a port and close its listener. -/
def endAcceptor (server : Server) (port : UInt16) : Server :=
  { server with
    service :=
      { server.service with
        network := server.network.removeListener port
        acceptors := server.service.acceptors.filter fun acceptor =>
          !(acceptor.port == port) } }

/-- Whether a thread is alive. -/
def isAlive (server : Server) : Thread → Bool
  | .acceptor port => (server.acceptor? port).isSome
  | .worker wire => (server.worker? wire).isSome

/-! ## Peers -/

/-- A peer that was just admitted. -/
def freshPeer (address : SocketAddress) (wire : Nat) : Peer Line where
  address := address
  inbox := .empty
  isOpen := true
  line := ⟨wire, true⟩

/-- Whether the peer on a wire is tracked. -/
def tracksWire (server : Server) (wire : Nat) : Bool :=
  server.peers.any fun entry => entry.2.line.wire == wire

/-- Change the peer on a wire, if it is tracked. -/
def modifySession (server : Server) (wire : Nat) (change : Peer Line → Peer Line) : Server :=
  { server with
    peers := server.peers.map fun (id, peer) =>
      (id, if peer.line.wire == wire then change peer else peer) }

/-- Append bytes to the inbox of the peer on a wire, if it is tracked. -/
def pushSession (server : Server) (wire : Nat) (bytes : Bytes) : Server :=
  server.modifySession wire fun peer => { peer with inbox := peer.inbox.push bytes }

/-- Close the peer on a wire for good, if it is tracked. -/
def closeSession (server : Server) (wire : Nat) : Server :=
  server.modifySession wire fun peer =>
    { peer with isOpen := false, line := { peer.line with writable := false } }

/-- Shut a wire down. -/
def shutWire (server : Server) (wire : Nat) : Server :=
  server.modifyNetwork (·.shutNear wire)

/-- Close a wire without shutting it down first. -/
def dropWire (server : Server) (wire : Nat) : Server :=
  server.modifyNetwork (·.closeNear wire)

/-- Send bytes to a tracked peer: one send, on the wire that is still held. -/
def transmit : Transmission UInt64 Line Service := fun _ peer bytes server =>
  if peer.line.writable then
    let (sent, network) := server.service.network.sendStream peer.line.wire bytes
    (sent.mapError .exchange, { server with service := { server.service with network } })
  else (.error .notConnected, server)

/-- Take the handle of the worker on a wire from its peer, if it is there. -/
def seize (server : Server) (wire : Nat) : Server := server.passHandle wire .stored .seized

/-- Keep a handle that was taken from a removed peer for joining. -/
def detach (server : Server) (wire : Nat) : Server :=
  server.passHandle wire .seized .detached

/-- Close a wire that nobody serves, now or later. -/
def forsake (server : Server) (wire : Nat) : Server :=
  if (server.worker? wire).isSome || server.service.acceptors.any (·.admits? == some wire) then
    server
  else server.dropWire wire

/-- Give up what is held for a peer that is no longer tracked.  A worker that
serves it goes on, and its handle is kept for joining if it is at hand; without a
worker, living or to come, the wire is closed. -/
def release (_ : UInt64) (peer : Peer Line) (server : Server) : Server :=
  ((server.seize peer.line.wire).detach peer.line.wire).forsake peer.line.wire

end Server
end Tcp
end Framelink
