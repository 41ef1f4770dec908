import Framelink.Server.Networked
import Framelink.Tcp.Server.Lifecycle

/-!
# Settling

A server settles when its threads step until each of them finds nothing to do.
An acceptor has nothing to do while the server runs, no connection waits and no
fault waits for an accept; a worker, while the server runs and its receive would
find nothing.
-/

namespace Framelink
namespace Tcp

namespace Server

/-- Whether an acceptor has something to do. -/
def isAcceptorBusy (server : Server) (acceptor : Acceptor) : Bool :=
  match acceptor.phase with
  | .looking =>
      !server.running || Fault.awaits .accept server.network.faults ||
        ((server.network.listener? acceptor.port).map fun listener =>
          !listener.waiting.isEmpty).getD false
  | _ => true

/-- Whether a worker has something to do. -/
def isWorkerBusy (server : Server) (worker : Worker) : Bool :=
  match worker.phase with
  | .looking =>
      !server.running || !worker.bounded || server.canReceive worker ||
        Fault.awaits .receive server.network.faults
  | .waiting => server.canReceive worker
  | _ => true

/-- The first thread that has something to do. -/
def busyThread? (server : Server) : Option Thread :=
  let acceptor := server.service.acceptors.find? server.isAcceptorBusy
  let worker := server.service.workers.find? server.isWorkerBusy
  (acceptor.map fun acceptor => .acceptor acceptor.port) <|>
    (worker.map fun worker => .worker worker.wire)

/-- Let threads that have something to do step, one at a time. -/
def settleWithin : (fuel : Nat) → Server → Server
  | 0, server => server
  | fuel + 1, server =>
      match server.busyThread? with
      | some thread => settleWithin fuel (server.step .live thread)
      | none => server

/-- What there is to do at most: bytes and ends to receive, connections to admit,
faults to run into, threads to end. -/
def workload (server : Server) : Nat :=
  let network := server.network
  total (·.inbound.length + 1) network.wires + total (·.skip + 1) network.faults +
    total (·.waiting.length) network.listeners +
    server.service.acceptors.length + server.service.workers.length

/-- Enough steps for the workload: none of its items takes more. -/
def stepsPerItem : Nat := 16

/-- Let the threads step until none has anything to do. -/
def settle (server : Server) : Server :=
  settleWithin (stepsPerItem * (server.workload + 1)) server

instance : Networked UInt64 Line Service where
  network := Service.network
  withNetwork := fun service network => { service with network }
  settle := settle
  holdPort := fun port network => network.addListener ⟨.loopback4, port, 0⟩ false
  freePort := fun port network => network.removeListener port

/-! ## Giving a server up -/

/-- Close the wires of all peers. -/
def closeAll (server : Server) : Server :=
  server.peers.foldl
    (fun server (_, peer) =>
      if peer.line.writable then Server.dropWire server peer.line.wire else server)
    server

/-- Give a server up: its threads end by themselves, and everything is closed. -/
def abandon (server : Server) : Server :=
  let server : Server := { server with running := false }
  server.settle.closeAll

end Server
end Tcp
end Framelink
