import Framelink.Proofs.Calls
import Framelink.Tcp.Server.Settling

/-!
# Runs of a stream server

A run is any order of moves.  The far ends connect, send, and end their streams;
what they send arrives in pieces of any size, any time later.  The service threads
step one at a time.  The application calls the server from as many threads of its
own as it likes, and from its callbacks: a callback that is under way is a thread
that rests in front of its call, and any move may be what the callback does.

Calls that take several locks one after the other are cut where another thread can
come between.  One call of the application at a time starts or stops the server,
which is what the lock on its life is for; it is never made by a service thread.

Beside the server a situation records what came of each wire.  No move looks at
these records.
-/

namespace Framelink
namespace Tcp

/-! ## Calls under way -/

/-- How far a call that stops the server has come. -/
inductive Stopping
  /-- It waits for the acceptor. -/
  | awaitingAcceptor
  /-- It takes the handles of the workers on these wires, one after the other. -/
  | collecting (wires : List Nat)
  /-- It waits for the workers whose handles it has, and then looks for handles that
  were kept for joining. -/
  | awaitingWorkers
  /-- It found none, and forgets the local address. -/
  | closing
  deriving DecidableEq, Repr

/-- A call that removes a peer.  The peer is tracked no longer. -/
structure Removal where
  /-- The wire of the peer. -/
  wire : Nat
  /-- The peer was asked for the handle of its worker. -/
  asked : Bool
  deriving DecidableEq, Repr

/-! ## Records -/

/-- What came of a wire. -/
structure Record where
  /-- The bytes that arrived at the near end, whether received or not. -/
  arrived : Bytes
  /-- The bytes that the far end sent, did not take back, and that did not arrive. -/
  transit : Bytes
  /-- The bytes that the application took from the inbox, by erasing reads and by
  clears. -/
  taken : Bytes
  /-- The worker has received the end of the stream. -/
  ended : Bool
  /-- A callback panicked in a thread that served the wire. -/
  panicked : Bool
  /-- The peer was given up before the handle of its worker was with it. -/
  strayed : Bool
  /-- The peer was being removed when a stop looked for handles the last time. -/
  late : Bool

namespace Record

/-- The record of a wire that nothing came of yet. -/
def blank : Record := ⟨[], [], [], false, false, false, false⟩

/-- The bytes that the far end sent and did not take back. -/
def sent (record : Record) : Bytes := record.arrived ++ record.transit

/-- Nobody is bound to wait for the worker of a peer that was removed. -/
def slipped (record : Record) : Bool := record.strayed || record.late

end Record

/-- The wire of the peer whose worker has not left its handle with it yet. -/
def Acceptor.awaits? (acceptor : Acceptor) : Option Nat :=
  match acceptor.phase with
  | .greeting _ admission | .spawning _ admission => some admission.wire
  | .storing wire => some wire
  | _ => none

/-- Whether a receive with so much room comes upon the end of the stream; without room it
could not tell. -/
def comesToEnd (wire : Wire) (room : Nat) : Bool :=
  match (wire.receive room).1 with
  | .ok [] => room != 0
  | _ => false

/-- Whether the next step of a worker is a receive that runs into no fault. -/
def Server.receives (server : Server) (worker : Worker) : Bool :=
  match worker.phase with
  | .receiving => (server.network.consult .receive).1.isNone
  | .waiting => true
  | _ => false

/-- Whether a worker is about to receive the end of its stream. -/
def Server.findsEnd (server : Server) (worker : Worker) : Bool :=
  server.receives worker &&
    ((server.network.wire? worker.wire).map fun wire =>
      comesToEnd wire worker.chunk).getD false

/-- Whether the next step of a worker is the end of its call of the data callback. -/
def Worker.announces (worker : Worker) : Bool :=
  match worker.phase with
  | .announcing _ => true
  | _ => false

/-- A server in the middle of a run. -/
structure Situation where
  server : Server
  control : Control Stopping
  removals : List Removal
  /-- What came of each wire. -/
  record : Nat → Record
  /-- What came of the calls that started or stopped the server, oldest first. -/
  log : List Outcome

/-- What happens next in a run. -/
inductive Move
  /-- A far end connects. -/
  | connect (port : UInt16) (address : SocketAddress)
  /-- The far end of a wire sends. -/
  | send (wire : Nat) (bytes : Bytes)
  /-- So many of the bytes on the way arrive. -/
  | carry (wire count : Nat)
  /-- The far end of a wire sends no more, after all it sent has arrived. -/
  | finish (wire : Nat)
  /-- The far end of a wire closes, after all it sent has arrived. -/
  | depart (wire : Nat)
  /-- The far end of a wire aborts and takes back what is on the way. -/
  | abort (wire : Nat)
  /-- The far end of a wire receives. -/
  | hear (wire wanted : Nat)
  /-- Faults wait for the calls of the server, and descriptors are to be had or not. -/
  | hinder (faults : List Fault) (descriptorsLeft : Bool)
  /-- A service thread steps; if it calls back, the call comes out so. -/
  | step (thread : Thread) (delivery : Delivery)
  /-- The application reads from the inbox of a peer. -/
  | read (id : UInt64) (size : Nat) (erase : Bool)
  /-- The application empties the inbox of a peer. -/
  | clear (id : UInt64)
  /-- The application sends to a peer. -/
  | transmit (id : UInt64) (bytes : Bytes)
  /-- The application sends to all peers. -/
  | broadcast (bytes : Bytes)
  /-- The application replaces the callbacks. -/
  | replace (onData onNewPeer : Option Reaction)
  /-- The application changes the settings. -/
  | adjust (settings : Settings)
  /-- The application begins to remove a peer. -/
  | remove (id : UInt64)
  /-- The removal of the peer on a wire goes on. -/
  | proceed (wire : Nat)
  /-- The application begins to start the server. -/
  | start
  /-- The server that is being started is set up. -/
  | setUp
  /-- The application begins to stop the server. -/
  | stop
  /-- The call that stops the server goes on. -/
  | advance

namespace Situation

/-- A server that was never started. -/
def initial (settings : Settings) (isolated : Bool) : Situation where
  server := .stopped settings (.idle isolated)
  control := .idle
  removals := []
  record := fun _ => .blank
  log := []

/-- Change the record of a wire. -/
def note (situation : Situation) (wire : Nat) (change : Record → Record) : Situation :=
  { situation with
    record := fun other =>
      if other = wire then change (situation.record other) else situation.record other }

/-- Let the network change. -/
def disturb (situation : Situation) (change : Network → Network) : Situation :=
  { situation with server := situation.server.modifyNetwork change }

/-! ## Far ends -/

/-- Let a far end connect to the listener at a port. -/
def connect (situation : Situation) (port : UInt16) (address : SocketAddress) : Situation :=
  if situation.server.network.isolated || (situation.server.network.listener? port).isNone then
    situation
  else situation.disturb fun network => (network.establish port address).2

/-- Let the far end of a wire send. -/
def send (situation : Situation) (wire : Nat) (bytes : Bytes) : Situation :=
  if (situation.server.network.wire? wire).map Wire.far = some .connected then
    situation.note wire fun record => { record with transit := record.transit ++ bytes }
  else situation

/-- Let the first bytes on the way arrive.  Nothing arrives at an end that has
closed. -/
def carry (situation : Situation) (wire count : Nat) : Situation :=
  let bytes := (situation.record wire).transit.take count
  let carried := situation.disturb (·.modifyWire wire fun wire => (wire.farSend bytes).2)
  if ((situation.server.network.wire? wire).map fun wire => wire.near.isOpen).getD false then
    carried.note wire fun record =>
      { record with
        arrived := record.arrived ++ bytes
        transit := record.transit.drop count }
  else carried

/-- Let the far end of a wire end its stream after all it sent has arrived. -/
def endFar (situation : Situation) (wire : Nat) (change : Wire → Wire) : Situation :=
  if (situation.record wire).transit = [] then situation.disturb (·.modifyWire wire change)
  else situation

/-- Let the far end of a wire abort. -/
def abort (situation : Situation) (wire : Nat) : Situation :=
  (situation.disturb (·.modifyWire wire Wire.farReset)).note wire fun record =>
    { record with transit := [] }

/-! ## Service threads -/

/-- Record what a service thread is about to find. -/
def witness (situation : Situation) (delivery : Delivery) : Thread → Situation
  | .acceptor port =>
      match (situation.server.acceptor? port).map Acceptor.phase with
      | some (.registering _) =>
          match situation.server.peer? situation.server.service.nextId with
          | some replaced =>
              situation.note replaced.line.wire fun record => { record with strayed := true }
          | none => situation
      | some (.greeting _ admission) =>
          if delivery = .panicked then
            situation.note admission.wire fun record => { record with panicked := true }
          else situation
      | _ => situation
  | .worker wire =>
      match situation.server.worker? wire with
      | some worker =>
          if situation.server.findsEnd worker then
            situation.note wire fun record => { record with ended := true }
          else if worker.announces && delivery = .panicked then
            situation.note wire fun record => { record with panicked := true }
          else situation
      | none => situation

/-- Let a service thread step. -/
def step (situation : Situation) (thread : Thread) (delivery : Delivery) : Situation :=
  { situation.witness delivery thread with
    server := situation.server.step (.answering delivery) thread }

/-! ## The application -/

/-- Record that bytes were taken from the inbox of a peer. -/
def noteTaken (situation : Situation) (id : UInt64) (bytes : Bytes) : Situation :=
  match situation.server.peer? id with
  | some peer =>
      situation.note peer.line.wire fun record => { record with taken := record.taken ++ bytes }
  | none => situation

/-- Read from the inbox of a peer. -/
def read (situation : Situation) (id : UInt64) (size : Nat) (erase : Bool) : Situation :=
  match situation.server.read id size erase with
  | (.ok copied, server) =>
      { situation.noteTaken id (if erase then copied else []) with server }
  | (.error _, server) => { situation with server }

/-- Empty the inbox of a peer. -/
def clear (situation : Situation) (id : UInt64) : Situation :=
  match situation.server.peer? id with
  | some peer =>
      { situation.noteTaken id peer.inbox.contents with server := (situation.server.clear id).2 }
  | none => situation

/-- The removal of the peer on a wire, and whether the peer was asked. -/
def removal? (situation : Situation) (wire : Nat) : Option Bool :=
  (situation.removals.find? (·.wire == wire)).map Removal.asked

/-- Begin to remove a peer: it is tracked no longer. -/
def remove (situation : Situation) (id : UInt64) : Situation :=
  match situation.server.peer? id with
  | some peer =>
      { situation with
        server := situation.server.untrack id
        removals := situation.removals ++ [⟨peer.line.wire, false⟩] }
  | none => situation

/-- Ask the removed peer on a wire for the handle of its worker. -/
def ask (situation : Situation) (wire : Nat) : Situation :=
  let missed := situation.server.service.acceptors.any (·.awaits? == some wire)
  { situation.note wire fun record => { record with strayed := record.strayed || missed } with
    server := situation.server.seize wire
    removals := situation.removals.map fun removal =>
      if removal.wire == wire then { removal with asked := true } else removal }

/-- Keep the handle that the removed peer on a wire gave for joining. -/
def keep (situation : Situation) (wire : Nat) : Situation :=
  { situation with
    server := (situation.server.detach wire).forsake wire
    removals := situation.removals.filter fun removal => !(removal.wire == wire) }

/-- Go on removing the peer on a wire. -/
def proceed (situation : Situation) (wire : Nat) : Situation :=
  match situation.removal? wire with
  | some false => situation.ask wire
  | some true => situation.keep wire
  | none => situation

/-! ## Starting and stopping -/

/-- The server with the call that starts or stops it. -/
def governed (situation : Situation) : Governed Server Stopping where
  server := situation.server
  control := situation.control
  log := situation.log

/-- The situation in which the call that starts or stops the server has come to this. -/
def governedBy (situation : Situation) (governed : Governed Server Stopping) : Situation :=
  { situation with
    server := governed.server
    control := governed.control
    log := governed.log }

/-- Add to the log. -/
def conclude (situation : Situation) (outcome : Outcome) : Situation :=
  situation.governedBy (situation.governed.conclude outcome)

/-- Record which removals are under way. -/
def noteLate (situation : Situation) : Situation :=
  { situation with
    record := fun wire =>
      if situation.removals.any (·.wire == wire) then
        { situation.record wire with late := true }
      else situation.record wire }

/-- Look for handles that were kept for joining, unless a worker whose handle is at
hand is alive. -/
def joinWorkers (situation : Situation) : Situation :=
  if situation.server.workersIn .awaited = [] then
    if situation.server.workersIn .detached = [] then
      { situation.noteLate with control := .stopping .closing }
    else { situation with server := situation.server.drain }
  else situation

/-- Go on stopping the server. -/
def advance (situation : Situation) : Situation :=
  match situation.control with
  | .stopping .awaitingAcceptor =>
      if situation.server.service.acceptors = [] then
        { situation with control := .stopping (.collecting situation.server.trackedWires) }
      else situation
  | .stopping (.collecting (wire :: wires)) =>
      { situation with
        server := situation.server.collect wire
        control := .stopping (.collecting wires) }
  | .stopping (.collecting []) => { situation with control := .stopping .awaitingWorkers }
  | .stopping .awaitingWorkers => situation.joinWorkers
  | .stopping .closing => situation.governedBy situation.governed.forget
  | _ => situation

/-! ## Runs -/

/-- The situation after a move.  A move that is not possible changes nothing. -/
def after (situation : Situation) : Move → Situation
  | .connect port address => situation.connect port address
  | .send wire bytes => situation.send wire bytes
  | .carry wire count => situation.carry wire count
  | .finish wire => situation.endFar wire Wire.farFinish
  | .depart wire => situation.endFar wire Wire.farClose
  | .abort wire => situation.abort wire
  | .hear wire wanted =>
      situation.disturb (·.modifyWire wire fun wire => (wire.farReceive wanted).2.2)
  | .hinder faults descriptorsLeft =>
      situation.disturb fun network => { network with faults, descriptorsLeft }
  | .step thread delivery => situation.step thread delivery
  | .read id size erase => situation.read id size erase
  | .clear id => situation.clear id
  | .transmit id bytes =>
      { situation with server := (Framelink.Server.transmit situation.server id bytes).2 }
  | .broadcast bytes =>
      { situation with
        server := (Framelink.Server.sendToOpen Server.transmit bytes situation.server).2 }
  | .replace onData onNewPeer =>
      { situation with server := { situation.server with onData, onNewPeer } }
  | .adjust settings => { situation with server := { situation.server with settings } }
  | .remove id => situation.remove id
  | .proceed wire => situation.proceed wire
  | .start => situation.governedBy situation.governed.start
  | .setUp => situation.governedBy situation.governed.setUp
  | .stop => situation.governedBy (situation.governed.stop .awaitingAcceptor)
  | .advance => situation.advance

/-- The situation after a row of moves. -/
def run (situation : Situation) (moves : List Move) : Situation := moves.foldl after situation

end Situation
end Tcp
end Framelink
