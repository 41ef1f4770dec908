import Framelink.Server.Networked
import Framelink.Tcp.Server.Step

/-!
# Starting and stopping stream servers

Setting a listener up takes a row of calls, the first of which decide whether
the address can be bound.  Winding down joins the acceptor, then the workers
whose handles are with tracked peers, then those whose handles were kept when
their peers were removed.  A thread cannot join itself, and a worker whose handle
is anywhere else is not waited for.
-/

namespace Framelink
namespace Tcp
namespace Server

/-! ## Starting -/

/-- Bind an address and listen there. -/
def bind (network : Network) (address : SocketAddress) :
    Except Failure SocketAddress × Network :=
  match network.openSocket with
  | (.error failure, network) => (.error failure, network)
  | (.ok (), network) =>
      match network.attemptAll [.setOption, .bind] with
      | (.error failure, network) => (.error failure, network)
      | (.ok (), network) =>
          match network.bindStream address with
          | (.error failure, network) => (.error failure, network)
          | (.ok bound, network) =>
              match network.attempt .listen with
              | (.error failure, network) => (.error failure, network)
              | (.ok (), network) => (.ok bound, network)

/-- The calls between listening and serving: allow so many connections to wait,
do not block, learn the address, start the acceptor. -/
def serveCalls : List SystemCall := [.listen, .control, .socketName, .thread]

/-- Let connections arrive at an address, where an acceptor looks for them. -/
def admitAt (server : Server) (address : SocketAddress) : Server :=
  { server with
    service :=
      { server.service with
        network := server.network.addListener address true
        acceptors := server.service.acceptors ++ [⟨address.port, .looking⟩] } }

/-- Set the listener and its acceptor up. -/
def listen (server : Server) : Except LinkError SocketAddress × Server :=
  match bind server.network server.settings.socketAddress with
  | (.error failure, network) =>
      (.error (server.settings.bindError failure), server.withNetwork network)
  | (.ok address, network) =>
      match network.attemptAll serveCalls with
      | (.error failure, network) => (.error (.exchange failure), server.withNetwork network)
      | (.ok (), network) => (.ok address, (server.withNetwork network).admitAt address)

/-! ## Stopping -/

/-- Let a thread of a server that does not run go on until it has ended, for at
most so many steps. -/
def finish (thread : Thread) : (fuel : Nat) → Server → Server
  | 0, server => server
  | fuel + 1, server =>
      if server.isAlive thread then finish thread fuel (server.step .silent thread) else server

/-- The most steps that a thread takes when the server does not run. -/
def farewell : Nat := 8

/-- Join a thread; one that stops the server is not waited for. -/
def join (server : Server) (thread : Thread) : Server :=
  if server.service.caller == some thread then server else finish thread farewell server

/-- The threads of the workers whose handles are in a place. -/
def workersIn (server : Server) (custody : Custody) : List Thread :=
  (server.service.workers.filter (·.custody == custody)).map fun worker => .worker worker.wire

/-- The wires of the tracked peers. -/
def trackedWires (server : Server) : List Nat :=
  server.peers.map fun entry => entry.2.line.wire

/-- Take the handle of the worker on a wire from its peer in order to join it. -/
def collect (server : Server) (wire : Nat) : Server := server.passHandle wire .stored .awaited

/-- Take the handles that were kept for joining. -/
def drain (server : Server) : Server := server.passHandles .detached .awaited

/-- Join all workers whose handles are at hand. -/
def joinAwaited (server : Server) : Server := (server.workersIn .awaited).foldl join server

/-- Join the acceptor, then the workers of tracked peers, then those of removed
peers.  The handle of a thread that stops the server is given up. -/
def windDown (server : Server) : Server :=
  let acceptors := server.service.acceptors.map fun acceptor => Thread.acceptor acceptor.port
  let server := acceptors.foldl join server
  let server := (server.trackedWires.foldl collect server).joinAwaited
  server.drain.joinAwaited.passHandles .awaited .lost

instance : Serving UInt64 Line Service where
  title := "TCP-Server"
  describe := toString
  listen := listen
  windDown := windDown
  transmit := transmit
  release := release

/-- Send small segments at once, from the next connection on. -/
def setNoDelay (server : Server) (noDelay : Bool) : Server :=
  { server with settings := { server.settings with noDelay } }

/-- Acknowledge segments at once, from the next connection on. -/
def setQuickAck (server : Server) (quickAck : Bool) : Server :=
  { server with settings := { server.settings with quickAck } }

end Server
end Tcp
end Framelink
