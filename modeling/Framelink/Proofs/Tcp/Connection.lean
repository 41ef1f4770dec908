import Framelink.Proofs.Network
import Framelink.Proofs.Tcp.Steps

/-!
# What a move does to one connection

A situation says of every wire where it stands: with a listener, with the acceptor,
with a tracked peer, with a worker, with a call that removes its peer.  All that is
called a connection here, whether the wire was established or not.

`Turn` lists what can happen to a connection in one move, whichever move it is.
What holds of a connection in every run is shown for each turn.
-/

namespace Framelink
namespace Tcp

/-- Where a connection stands with the acceptor. -/
inductive Stage
  | absent
  /-- It was accepted and is not tracked yet. -/
  | preparing
  /-- It was tracked and has no worker yet. -/
  | greeting
  /-- It has a worker whose handle is not stored yet. -/
  | storing
  deriving DecidableEq, Repr

/-- What the calls that start and stop the server mean for a connection. -/
inductive Call
  /-- The server does not run; it may be about to be set up. -/
  | resting
  /-- Connections may be admitted. -/
  | serving
  /-- Handles of workers are being taken; that of this connection is yet to be. -/
  | collecting (listed : Bool)
  | awaitingWorkers
  | closing
  deriving DecidableEq, Repr

/-- What a situation says of one wire. -/
structure Connection where
  call : Call
  wire : Option Wire
  /-- It waits to be accepted. -/
  waits : Bool
  stage : Stage
  /-- The tracked peer. -/
  session : Option (Peer Line)
  worker : Option Worker
  /-- The call that removes its peer, if there is one, and whether that asked for the
  handle of the worker. -/
  removal : Option Bool
  record : Record

/-- The bytes that a worker received and has not put into the inbox yet. -/
def Worker.hand (worker : Worker) : Bytes :=
  match worker.phase with
  | .queueing chunk => chunk
  | _ => []

/-- The bytes in the hand of a worker, if there is one. -/
def handOf : Option Worker → Bytes
  | some worker => worker.hand
  | none => []

/-- A worker whose handle was passed on, if it was in one place, to another. -/
def Worker.pass (source target : Custody) (worker : Worker) : Worker :=
  if worker.custody = source then { worker with custody := target } else worker

@[simp] theorem Worker.phase_pass (source target : Custody) (worker : Worker) :
    (worker.pass source target).phase = worker.phase := by
  unfold Worker.pass
  split <;> rfl

@[simp] theorem Worker.wire_pass (source target : Custody) (worker : Worker) :
    (worker.pass source target).wire = worker.wire := by
  unfold Worker.pass
  split <;> rfl

@[simp] theorem handOf_map_pass (source target : Custody) (worker : Option Worker) :
    handOf (worker.map (Worker.pass source target)) = handOf worker := by
  cases worker with
  | none => rfl
  | some worker => simp [handOf, Worker.hand]

/-- Where the handle of a worker is, if there is a worker. -/
def custodyOf (worker : Option Worker) : Option Custody := worker.map Worker.custody

theorem custodyOf_none : custodyOf none = none := rfl

theorem custodyOf_some (worker : Worker) : custodyOf (some worker) = some worker.custody := rfl

theorem custodyOf_map_pass (source target : Custody) (worker : Option Worker) :
    custodyOf (worker.map (Worker.pass source target)) =
      if custodyOf worker = some source then some target else custodyOf worker := by
  cases worker with
  | none => rfl
  | some worker =>
      by_cases held : worker.custody = source
      · simp [custodyOf, Worker.pass, held]
      · simp [custodyOf, Worker.pass, held]

/-- A peer that was closed for good. -/
def closedPeer (peer : Peer Line) : Peer Line :=
  { peer with isOpen := false, line := { peer.line with writable := false } }

/-- A peer whose inbox took more bytes. -/
def pushedPeer (bytes : Bytes) (peer : Peer Line) : Peer Line :=
  { peer with inbox := peer.inbox.push bytes }

namespace Connection

/-- The wire after it was closed, if nobody holds it, or as it was. -/
def ForsakenAs (wire later : Wire) (held : Prop) : Prop :=
  later = wire ∨ ¬ held ∧ later = wire.closeNear

/-- What one move can do to a connection; `own` says that the move is a step of the
worker of the connection. -/
inductive Turn (own : Bool) (c : Connection) : Connection → Prop
  | rest : Turn own c c
  -- The wire.
  | established (address : SocketAddress) (absent : c.wire = none) (serving : c.call = .serving) :
      Turn own c { c with wire := some (.fresh address), waits := true }
  | touched (wire later : Wire) (found : c.wire = some wire) (alike : wire.Alike later) :
      Turn own c { c with wire := some later }
  | sent (wire : Wire) (bytes : Bytes) (found : c.wire = some wire)
      (connected : wire.far = .connected) :
      Turn own c
        { c with record := { c.record with transit := c.record.transit ++ bytes } }
  | arrived (wire : Wire) (count : Nat) (found : c.wire = some wire)
      (near : wire.near.isOpen = true) :
      Turn own c
        { c with
          wire := some { wire with inbound := wire.inbound ++ c.record.transit.take count }
          record :=
            { c.record with
              arrived := c.record.arrived ++ c.record.transit.take count
              transit := c.record.transit.drop count } }
  | finished (wire later : Wire) (found : c.wire = some wire)
      (inbound : later.inbound = wire.inbound) (near : later.near = wire.near)
      (far : later.far ≠ .connected) :
      Turn own c { c with wire := some later, record := { c.record with transit := [] } }
  -- Admission.
  | abandoned (wire : Wire) (found : c.wire = some wire) (waits : c.waits = true) :
      Turn own c { c with wire := some wire.closeNear, waits := false }
  | accepted (waits : c.waits = true) : Turn own c { c with waits := false, stage := .preparing }
  | refused (wire : Wire) (found : c.wire = some wire) (stage : c.stage = .preparing) :
      Turn own c { c with wire := some wire.closeNear, stage := .absent }
  | registered (peer : Peer Line) (stage : c.stage = .preparing)
      (empty : peer.inbox.contents = []) (fresh : peer.isOpen = true) :
      Turn own c { c with stage := .greeting, session := some peer }
  | replaced (wire later : Wire) (serving : c.call = .serving) (found : c.wire = some wire)
      (tracked : c.session.isSome)
      (forsaken : ForsakenAs wire later (c.worker.isSome ∨ c.stage = .greeting)) :
      Turn own c
        { c with
          wire := some later
          session := none
          record := { c.record with strayed := true } }
  | unwelcome (wire later : Wire) (found : c.wire = some wire) (stage : c.stage = .greeting)
      (forsaken : ForsakenAs wire later c.session.isSome) :
      Turn own c
        { c with
          wire := some later
          stage := .absent
          record := { c.record with panicked := true } }
  | unserved (wire : Wire) (found : c.wire = some wire) (stage : c.stage = .greeting) :
      Turn own c
        { c with
          wire := some wire.shutNear
          stage := .absent
          session := c.session.map closedPeer }
  | served (worker : Worker) (stage : c.stage = .greeting) (custody : worker.custody = .unstored)
      (phase : worker.phase = .looking) :
      Turn own c { c with stage := .storing, worker := some worker }
  | stored (stage : c.stage = .storing) :
      Turn own c
        { c with stage := .absent, worker := c.worker.map (Worker.pass .unstored .stored) }
  -- Service.
  | moved (worker : Worker) (phase : Worker.Phase) (wire later : Wire)
      (found : c.wire = some wire) (alive : c.worker = some worker)
      (staying : worker.phase ≠ .leaving) (hand : worker.hand = [])
      (empty : Worker.hand { worker with phase } = []) (alike : wire.Alike later)
      (stepped : own = true) :
      Turn own c { c with wire := some later, worker := some { worker with phase } }
  | received (worker : Worker) (wire : Wire) (chunk rest : Bytes)
      (found : c.wire = some wire) (alive : c.worker = some worker)
      (staying : worker.phase ≠ .leaving) (hand : worker.hand = [])
      (inbound : wire.inbound = chunk ++ rest) (stepped : own = true) :
      Turn own c
        { c with
          wire := some { wire with inbound := rest }
          worker := some { worker with phase := .queueing chunk } }
  | ended (worker : Worker) (wire : Wire) (found : c.wire = some wire)
      (alive : c.worker = some worker) (hand : worker.hand = [])
      (inbound : wire.inbound = []) (far : wire.far ≠ .connected) (stepped : own = true) :
      Turn own c
        { c with
          worker := some { worker with phase := .leaving }
          record := { c.record with ended := true } }
  | pushed (worker : Worker) (chunk : Bytes) (stepped : own = true)
      (alive : c.worker = some worker) (phase : worker.phase = .queueing chunk) :
      Turn own c
        { c with
          session := c.session.map (pushedPeer chunk)
          worker := some { worker with phase := .confirming chunk } }
  | crashed (worker : Worker) (wire later : Wire) (found : c.wire = some wire)
      (alive : c.worker = some worker) (hand : worker.hand = [])
      (forsaken : ForsakenAs wire later c.session.isSome) (stepped : own = true) :
      Turn own c
        { c with
          wire := some later
          worker := none
          record := { c.record with panicked := true } }
  | left (worker : Worker) (wire : Wire) (found : c.wire = some wire)
      (alive : c.worker = some worker) (hand : worker.hand = []) (stepped : own = true)
      (phase : worker.phase = .leaving) :
      Turn own c
        { c with
          wire := some wire.shutNear
          session := c.session.map closedPeer
          worker := none }
  -- The application.
  | consumed (peer later : Peer Line) (bytes : Bytes) (tracked : c.session = some peer)
      (contents : peer.inbox.contents = bytes ++ later.inbox.contents)
      (still : later.isOpen = peer.isOpen) :
      Turn own c
        { c with
          session := some later
          record := { c.record with taken := c.record.taken ++ bytes } }
  | untracked (tracked : c.session.isSome) :
      Turn own c { c with session := none, removal := some false }
  | asked (removal : c.removal = some false) (strayed : Bool)
      (missed : strayed = true ↔ c.stage = .greeting ∨ c.stage = .storing) :
      Turn own c
        { c with
          worker := c.worker.map (Worker.pass .stored .seized)
          removal := some true
          record := { c.record with strayed := c.record.strayed || strayed } }
  | kept (wire later : Wire) (found : c.wire = some wire) (removal : c.removal = some true)
      (forsaken : ForsakenAs wire later (c.worker.isSome ∨ c.stage = .greeting)) :
      Turn own c
        { c with
          wire := some later
          worker := c.worker.map (Worker.pass .seized .detached)
          removal := none }
  -- Starting and stopping.
  | opened (call : c.call = .resting) : Turn own c { c with call := .serving }
  | listed (call : c.call = .serving) (waits : c.waits = false) (stage : c.stage = .absent) :
      Turn own c { c with call := .collecting c.session.isSome }
  | collected (listed : Bool) (call : c.call = .collecting true) :
      Turn own c
        { c with
          call := .collecting listed
          worker := c.worker.map (Worker.pass .stored .awaited) }
  | gathered (call : c.call = .collecting false) : Turn own c { c with call := .awaitingWorkers }
  | drained (call : c.call = .awaitingWorkers) :
      Turn own c { c with worker := c.worker.map (Worker.pass .detached .awaited) }
  | searched (call : c.call = .awaitingWorkers)
      (joined : custodyOf c.worker ≠ some .awaited)
      (empty : custodyOf c.worker ≠ some .detached) :
      Turn own c
        { c with
          call := .closing
          record := { c.record with late := c.record.late || c.removal.isSome } }
  | closed (call : c.call = .closing) : Turn own c { c with call := .resting }

end Connection

/-! ## The connections of a situation -/

/-- The wire of a connection that the acceptor is busy with, and where it stands. -/
def Acceptor.Phase.stage (wire : Nat) : Acceptor.Phase → Stage
  | .looking | .accepting => .absent
  | .configuring admission | .registering admission =>
      if admission.wire = wire then .preparing else .absent
  | .greeting _ admission | .spawning _ admission =>
      if admission.wire = wire then .greeting else .absent
  | .storing other => if other = wire then .storing else .absent

/-- Whether a wire waits to be accepted. -/
def waits (network : Network) (wire : Nat) : Bool :=
  network.listeners.any fun listener => listener.waiting.contains wire

namespace Server

/-- Where a wire stands with the acceptor. -/
def stage (server : Server) (wire : Nat) : Stage :=
  match server.service.acceptors with
  | acceptor :: _ => acceptor.phase.stage wire
  | [] => .absent

/-- The tracked peer on a wire. -/
def session? (server : Server) (wire : Nat) : Option (Peer Line) :=
  (server.peers.map Prod.snd).find? fun peer => peer.line.wire == wire

/-- What a server says of a wire, beside what the calls under way mean for it and what
came of it. -/
def connection (server : Server) (call : Call) (removal : Option Bool) (record : Record)
    (wire : Nat) : Connection where
  call := call
  wire := server.network.wire? wire
  waits := waits server.network wire
  stage := server.stage wire
  session := server.session? wire
  worker := server.worker? wire
  removal := removal
  record := record

end Server

namespace Situation

/-- What the call that starts or stops the server means for a wire. -/
def call (situation : Situation) (wire : Nat) : Call :=
  match situation.control with
  | .idle => if situation.server.running then .serving else .resting
  | .starting => .resting
  | .stopping .awaitingAcceptor => .serving
  | .stopping (.collecting wires) => .collecting (wires.contains wire)
  | .stopping .awaitingWorkers => .awaitingWorkers
  | .stopping .closing => .closing

theorem call_congr {situation later : Situation} (control : later.control = situation.control)
    (running : later.server.running = situation.server.running) (wire : Nat) :
    later.call wire = situation.call wire := by
  unfold call
  rw [control, running]

/-- What a situation says of a wire. -/
def connection (situation : Situation) (wire : Nat) : Connection :=
  situation.server.connection (situation.call wire) (situation.removal? wire)
    (situation.record wire) wire

end Situation
end Tcp
end Framelink
