import Framelink.Tcp.Server.Basic

/-!
# The steps of service threads

One step of one thread.  Which thread steps next is nobody's choice here: every
order of steps is a run of the server.  What the threads do when they call back
is a parameter, for a server that winds down calls nobody back.
-/

namespace Framelink
namespace Tcp

/-- How the threads of a stream server call back. -/
abbrev Callbacks := Framelink.Callbacks UInt64 Line Service

namespace Server

/-- Do something in the name of a thread. -/
def inThread (server : Server) (thread : Thread) (act : Server → α × Server) : α × Server :=
  let caller := server.service.caller
  let (result, after) :=
    act { server with service := { server.service with caller := some thread } }
  (result, { after with service := { after.service with caller } })

/-! ## The acceptor -/

/-- Whether a failed accept is made again. -/
def isRetried (failure : Failure) : Bool :=
  failure.isTransient || failure.isConnectionAborted

/-- The admission of a connection that is accepted now. -/
def admission (server : Server) (wire : Nat) : Admission where
  wire := wire
  chunk := server.settings.receiveChunk
  bounded := server.settings.readTimeout.isSome
  quickAck := server.settings.quickAck

/-- Accept the first connection that waits. -/
def accept (server : Server) (port : UInt16) : Server :=
  match server.network.consult .accept with
  | (some fault, network) =>
      let server := server.withNetwork network
      if isRetried fault.failure then server.moveAcceptor port .looking
      else server.endAcceptor port
  | (none, network) =>
      match network.takeWaiting port with
      | (some wire, network) =>
          (server.withNetwork network).moveAcceptor port (.configuring (server.admission wire))
      | (none, _) => (server.withNetwork network).moveAcceptor port .looking

/-- The calls that set an accepted connection up: make it block, bound its
receives, send its segments at once or not, acknowledge at once if that is
wanted, and share it with the worker. -/
def setUpCalls (admission : Admission) : List SystemCall :=
  [.control, .setOption, .setOption] ++
    (if admission.quickAck then [.setOption] else []) ++ [.duplicate]

/-- Set a connection up; one that cannot be is closed. -/
def configure (server : Server) (port : UInt16) (admission : Admission) : Server :=
  match server.network.attemptAll (setUpCalls admission) with
  | (.ok (), network) =>
      (server.withNetwork network).moveAcceptor port (.registering admission)
  | (.error _, network) =>
      ((server.withNetwork network).dropWire admission.wire).moveAcceptor port .looking

/-- The address of the far end of a wire. -/
def farAddress (server : Server) (wire : Nat) : SocketAddress :=
  ((server.network.wire? wire).map Wire.farAddress).getD ⟨.unspecified4, 0, 0⟩

/-- Track a connection under the next number.  A peer that is still tracked under
that number is given up, and nobody looks for the handle of its worker. -/
def register (server : Server) (port : UInt16) (admission : Admission) : Server :=
  let id := server.service.nextId
  let replaced := server.peer? id
  let peer := freshPeer (server.farAddress admission.wire) admission.wire
  let server : Server := server.track id peer
  let server : Server := { server with service := { server.service with nextId := id + 1 } }
  let server : Server :=
    match replaced with
    | some old => server.forsake old.line.wire
    | none => server
  server.moveAcceptor port (.greeting id admission)

/-- Call the new-peer callback; if it panics, so does the acceptor. -/
def greet (callbacks : Callbacks) (server : Server) (port : UInt16) (id : UInt64)
    (admission : Admission) : Server :=
  match server.inThread (.acceptor port) fun server =>
      callbacks.newPeer server id (server.farAddress admission.wire) with
  | (.panicked, server) =>
      let server :=
        if server.tracksWire admission.wire then server else server.dropWire admission.wire
      server.endAcceptor port
  | (_, server) => server.moveAcceptor port (.spawning id admission)

/-- Start the worker of a peer; without one the peer is closed. -/
def spawn (server : Server) (port : UInt16) (id : UInt64) (admission : Admission) : Server :=
  match server.network.attempt .thread with
  | (.error _, network) =>
      (((server.withNetwork network).closeSession admission.wire).shutWire
        admission.wire).moveAcceptor port .looking
  | (.ok (), network) =>
      let server := server.withNetwork network
      let worker : Worker :=
        { id
          wire := admission.wire
          chunk := admission.chunk.toNat
          bounded := admission.bounded
          phase := .looking
          custody := .unstored }
      (server.addWorker worker).moveAcceptor port (.storing admission.wire)

/-- Leave the handle of a worker with its peer.  If the peer was removed
meanwhile, nobody will ever look there. -/
def store (server : Server) (port : UInt16) (wire : Nat) : Server :=
  (server.passHandle wire .unstored .stored).moveAcceptor port .looking

/-- One step of the acceptor at a port. -/
def stepAcceptor (callbacks : Callbacks) (server : Server) (acceptor : Acceptor) : Server :=
  let port := acceptor.port
  match acceptor.phase with
  | .looking =>
      if server.running then server.moveAcceptor port .accepting else server.endAcceptor port
  | .accepting => server.accept port
  | .configuring admission => server.configure port admission
  | .registering admission => server.register port admission
  | .greeting id admission => server.greet callbacks port id admission
  | .spawning id admission => server.spawn port id admission
  | .storing wire => server.store port wire

/-! ## The worker -/

/-- The phase after a receive. -/
def afterReceipt : Receipt → Worker.Phase
  | .ok [] => .leaving
  | .ok chunk => .queueing chunk
  | .error failure => if failure.isTransient then .looking else .leaving

/-- Whether a receive of a worker need not wait. -/
def canReceive (server : Server) (worker : Worker) : Bool :=
  worker.chunk == 0 ||
    ((server.network.wire? worker.wire).map Wire.isReadable).getD true

/-- Take what waits on the wire of a worker, or be told that nothing does. -/
def receive (server : Server) (worker : Worker) : Server :=
  match server.network.wire? worker.wire with
  | none => server.moveWorker worker.wire .leaving
  | some wire =>
      let (receipt, wire) := wire.receive worker.chunk
      (server.modifyNetwork (·.modifyWire worker.wire fun _ => wire)).moveWorker worker.wire
        (afterReceipt receipt)

/-- Begin a receive.  Without a bound it waits until there is something. -/
def beginReceive (server : Server) (worker : Worker) : Server :=
  match server.network.consult .receive with
  | (some fault, network) =>
      (server.withNetwork network).moveWorker worker.wire (afterReceipt (.error fault.failure))
  | (none, network) =>
      let server := server.withNetwork network
      if worker.bounded || server.canReceive worker then server.receive worker
      else server.moveWorker worker.wire .waiting

/-- Call the data callback; if it panics, the worker is gone and its peer stays
as it is.  The wire stays open as long as the peer is tracked. -/
def announce (callbacks : Callbacks) (server : Server) (worker : Worker) (chunk : Bytes) :
    Server :=
  match server.inThread (.worker worker.wire) fun server =>
      callbacks.data server worker.id chunk with
  | (.panicked, server) =>
      let server :=
        if server.tracksWire worker.wire then server else server.dropWire worker.wire
      server.endWorker worker.wire
  | (_, server) => server.moveWorker worker.wire .looking

/-- Close the peer and end. -/
def leave (server : Server) (worker : Worker) : Server :=
  ((server.closeSession worker.wire).shutWire worker.wire).endWorker worker.wire

/-- One step of a worker. -/
def stepWorker (callbacks : Callbacks) (server : Server) (worker : Worker) : Server :=
  match worker.phase with
  | .looking =>
      server.moveWorker worker.wire (if server.running then .receiving else .leaving)
  | .receiving => server.beginReceive worker
  | .waiting => if server.canReceive worker then server.receive worker else server
  | .queueing chunk =>
      (server.pushSession worker.wire chunk).moveWorker worker.wire (.confirming chunk)
  | .confirming chunk =>
      server.moveWorker worker.wire (if server.running then .announcing chunk else .leaving)
  | .announcing chunk => server.announce callbacks worker chunk
  | .leaving => server.leave worker

/-- One step of a thread; nothing happens if it is not alive. -/
def step (callbacks : Callbacks) (server : Server) : Thread → Server
  | .acceptor port =>
      match server.acceptor? port with
      | some acceptor => server.stepAcceptor callbacks acceptor
      | none => server
  | .worker wire =>
      match server.worker? wire with
      | some worker => server.stepWorker callbacks worker
      | none => server

end Server
end Tcp
end Framelink
