import Framelink.Proofs.Aspect
import Framelink.Proofs.Tcp.Amid
import Framelink.Proofs.Tcp.Runs

/-!
# What a stream server shows of one connection

Of a connection one sees what the server shows of its peer, what its worker does next,
and whether the server runs and has a data callback.  The number of the peer is not seen:
another run may give out another.  Here stands what each operation of the server, and each
step of a service thread, shows of every connection.
-/

namespace Framelink
namespace Tcp

/-- What is seen of a connection. -/
structure Sight where
  running : Bool
  /-- A data callback is in place. -/
  attended : Bool
  /-- What the server shows of its peer, if that is tracked. -/
  face : Option Face
  /-- What its worker does next, if it has one. -/
  phase : Option Worker.Phase

/-- What concerns a connection. -/
inductive Concern
  | called (call : PeerCall)
  /-- The data callback is replaced; there is one now, or none. -/
  | replaced (attended : Bool)
  /-- The server begins to run, or ceases to. -/
  | powered (running : Bool)
  /-- The connection is tracked. -/
  | registered
  /-- The number of its peer is given to another connection. -/
  | evicted
  /-- Its worker is started, or cannot be. -/
  | spawned (started : Bool)
  /-- Its worker steps; if it receives, this comes of it. -/
  | served (receipt : Option Receipt)
  deriving DecidableEq

namespace Sight

/-- What a step of the worker shows, if it does not receive. -/
def proceed (sight : Sight) : Worker.Phase → Sight × List Note
  | .looking =>
      ({ sight with phase := some (if sight.running then .receiving else .leaving) }, [])
  | .receiving => ({ sight with phase := some .waiting }, [])
  | .waiting => (sight, [])
  | .queueing chunk =>
      ({ sight with
          face := sight.face.map fun face => { face with inbox := face.inbox.push chunk }
          phase := some (.confirming chunk) }, [])
  | .confirming chunk =>
      ({ sight with
          phase := some (if sight.running then .announcing chunk else .leaving) }, [])
  | .announcing chunk =>
      ({ sight with phase := some .looking }, if sight.attended then [.told chunk] else [])
  | .leaving =>
      ({ sight with
          face := sight.face.map fun face => { face with isOpen := false }
          phase := none }, [])

/-- What is seen after a concern, and what is heard of it. -/
def react (sight : Sight) : Concern → Sight × List Note
  | .called call => ({ sight with face := call.face sight.face }, [call.note sight.face])
  | .replaced attended => ({ sight with attended }, [])
  | .powered running => ({ sight with running }, [])
  | .registered => ({ sight with face := some ⟨.empty, true⟩ }, [])
  | .evicted => ({ sight with face := none }, [])
  | .spawned true => ({ sight with phase := some .looking }, [])
  | .spawned false =>
      ({ sight with face := sight.face.map fun face => { face with isOpen := false } }, [])
  | .served (some receipt) => ({ sight with phase := some (Server.afterReceipt receipt) }, [])
  | .served none =>
      match sight.phase with
      | some phase => sight.proceed phase
      | none => (sight, [])

/-- Nothing is heard of a worker that does not announce. -/
theorem silent_of_quiet {sight : Sight} {worker : Worker} (phase : sight.phase = some worker.phase)
    (quiet : worker.announces = false) (receipt : Option Receipt) :
    (sight.react (.served receipt)).2 = [] := by
  cases receipt with
  | some receipt => rfl
  | none =>
      rw [react, phase]
      rw [Worker.announces] at quiet
      cases does : worker.phase with
      | announcing chunk =>
          rw [does] at quiet
          cases quiet
      | _ => rfl

end Sight

namespace Server

/-- What is seen of a connection. -/
def sight (server : Server) (wire : Nat) : Sight where
  running := server.running
  attended := server.onData.isSome
  face := (server.session? wire).map Peer.face
  phase := (server.worker? wire).map Worker.phase

/-- Whether a number is that of the peer on a wire. -/
def names (server : Server) (id : UInt64) (wire : Nat) : Bool :=
  (Framelink.Server.peer? server id).map (fun peer => peer.line.wire) == some wire

/-- What a receive on a wire comes to. -/
def receiptOn (server : Server) (wire room : Nat) : Receipt :=
  match server.network.wire? wire with
  | none => .ok []
  | some wire => (wire.receive room).1

/-- What the worker on a wire gets at its next step, if it receives then. -/
def receipt? (server : Server) (wire : Nat) (worker : Worker) : Option Receipt :=
  match worker.phase with
  | .receiving =>
      match (server.network.consult .receive).1 with
      | some fault => some (.error fault.failure)
      | none =>
          if worker.bounded || server.canReceive worker then
            some (server.receiptOn wire worker.chunk)
          else none
  | .waiting =>
      if server.canReceive worker then some (server.receiptOn wire worker.chunk) else none
  | _ => none

/-- What a step of an acceptor is to a connection. -/
def admits? (server : Server) (acceptor : Acceptor) (wire : Nat) : Option Concern :=
  match acceptor.phase with
  | .registering admission =>
      if wire = admission.wire then some .registered
      else if server.names server.service.nextId wire then some .evicted
      else none
  | .spawning _ admission =>
      if wire = admission.wire then some (.spawned (server.network.attempt .thread).1.isOk)
      else none
  | _ => none

end Server

/-! ## What operations of the server show -/

/-- What is seen of a connection, given what is said of it. -/
def Connection.sight (c : Connection) (running attended : Bool) : Sight :=
  ⟨running, attended, c.session.map Peer.face, c.worker.map Worker.phase⟩

namespace Server

variable (server : Server) (index wire : Nat)

theorem sight_eq :
    server.sight wire =
      (server.connection .resting none .blank wire).sight server.running
        server.onData.isSome := rfl

theorem sight_moveWorker (phase : Worker.Phase) :
    (server.moveWorker index phase).sight wire =
      if wire = index then
        { server.sight wire with phase := (server.sight wire).phase.map fun _ => phase }
      else server.sight wire := by
  rw [sight_eq, connection_moveWorker]
  split
  · rw [Connection.sight, sight, Option.map_map, Option.map_map]
    rfl
  · rfl

theorem sight_endWorker :
    (server.endWorker index).sight wire =
      if wire = index then { server.sight wire with phase := none } else server.sight wire := by
  rw [sight_eq, connection_endWorker]
  split <;> rfl

theorem sight_pushSession (bytes : Bytes) :
    (server.pushSession index bytes).sight wire =
      if wire = index then
        { server.sight wire with
          face := (server.sight wire).face.map fun face =>
            { face with inbox := face.inbox.push bytes } }
      else server.sight wire := by
  rw [sight_eq, connection_pushSession]
  split
  · rw [Connection.sight, sight, Option.map_map, Option.map_map]
    rfl
  · rfl

theorem sight_closeSession :
    (server.closeSession index).sight wire =
      if wire = index then
        { server.sight wire with
          face := (server.sight wire).face.map fun face => { face with isOpen := false } }
      else server.sight wire := by
  rw [sight_eq, connection_closeSession]
  split
  · rw [Connection.sight, sight, Option.map_map, Option.map_map]
    rfl
  · rfl

theorem sight_shutWire : (server.shutWire index).sight wire = server.sight wire := by
  rw [sight_eq, connection_shutWire]
  split <;> rfl

theorem sight_moveAcceptor (port : UInt16) (phase : Acceptor.Phase) :
    (server.moveAcceptor port phase).sight wire = server.sight wire := rfl

theorem sight_forsake : (server.forsake index).sight wire = server.sight wire := by
  rw [forsake]
  split <;> rfl

theorem sight_passHandle (source target : Custody) :
    (server.passHandle index source target).sight wire = server.sight wire := by
  have phase : Worker.phase ∘ Worker.pass source target = Worker.phase := by
    funext worker
    exact worker.phase_pass source target
  rw [sight_eq, connection_passHandle]
  split
  · rw [Connection.sight, sight, Option.map_map, phase]
    rfl
  · rfl

theorem sight_passHandles (source target : Custody) :
    (server.passHandles source target).sight wire = server.sight wire := by
  have phase : Worker.phase ∘ Worker.pass source target = Worker.phase := by
    funext worker
    exact worker.phase_pass source target
  rw [sight_eq, connection_passHandles, Connection.sight, sight, Option.map_map, phase]
  rfl

/-! ## Calls that name a peer -/

section Calls

variable {server : Server} {id : UInt64} {peer : Peer Line}
  (distinct : server.Distinct) (tracked : Framelink.Server.peer? server id = some peer)
include distinct tracked

/-- What is seen of a tracked peer is what its number shows. -/
theorem face_of_tracked : (server.sight peer.line.wire).face = some peer.face := by
  rw [sight, session?_of_peer? distinct tracked]
  rfl

/-- What is seen of each connection when the inbox of a tracked peer changes. -/
theorem sight_modifyPeer (wire : Nat) (change : Inbox → Inbox) :
    Server.sight (Framelink.Server.modifyPeer server id fun peer =>
        { peer with inbox := change peer.inbox }) wire =
      if wire = peer.line.wire then
        { server.sight wire with face := some ⟨change peer.inbox, peer.isOpen⟩ }
      else server.sight wire := by
  let changed (peer : Peer Line) : Peer Line := { peer with inbox := change peer.inbox }
  rw [sight_eq, connection_modifyPeer _ _ _ wire distinct tracked changed rfl]
  split <;> rfl

/-- What is seen of each connection when a peer is tracked no longer. -/
theorem sight_untrack (wire : Nat) :
    Server.sight (Framelink.Server.untrack server id) wire =
      if wire = peer.line.wire then { server.sight wire with face := none }
      else server.sight wire := by
  rw [sight_eq, connection_untrack _ _ _ wire distinct tracked]
  split <;> rfl

end Calls

/-! ## Steps of workers -/

variable {server} {index} {worker : Worker}

/-- What is seen of the connection of a living worker. -/
theorem phase_of_alive (alive : server.worker? index = some worker) :
    (server.sight index).phase = some worker.phase := by
  rw [sight, alive]
  rfl

/-- A worker that goes on in another phase, on a server that shows the same. -/
theorem sight_moved (alive : server.worker? index = some worker) {before : Server}
    (same : before.sight wire = server.sight wire) (phase : Worker.Phase) :
    (before.moveWorker index phase).sight wire =
      if wire = index then { server.sight wire with phase := some phase }
      else server.sight wire := by
  rw [sight_moveWorker, same]
  split
  · next own =>
      subst own
      rw [phase_of_alive alive, Option.map_some]
  · rfl

/-- A worker that receives goes on as its receipt tells. -/
theorem sight_receive (alive : server.worker? index = some worker) :
    (server.receive worker).sight wire =
      if wire = index then
        { server.sight wire with
          phase := some (afterReceipt (server.receiptOn index worker.chunk)) }
      else server.sight wire := by
  rw [receive, receiptOn, wire_of_worker? alive]
  cases server.network.wire? index with
  | none => exact sight_moved wire alive rfl .leaving
  | some found => exact sight_moved wire alive rfl _

/-- What a receive comes to does not hang on faults. -/
theorem receipt_of_steady {network : Network} (steady : server.network.Steady network)
    (worker : Worker) :
    (server.withNetwork network).canReceive worker = server.canReceive worker ∧
      (server.withNetwork network).receiptOn wire worker.chunk =
        server.receiptOn wire worker.chunk := by
  have wires (other : Nat) : network.wire? other = server.network.wire? other :=
    congrArg (·[other]?) steady.wires
  have here : (server.withNetwork network).network = network := rfl
  rw [canReceive, canReceive, receiptOn, receiptOn, here, wires, wires]
  exact ⟨rfl, rfl⟩

variable {delivery : Delivery} {later : Server}

/-- A worker that gets something ran into a fault, or received. -/
theorem WorkerStep.of_received (step : WorkerStep delivery server worker later)
    {receipt : Receipt} (received : server.receipt? worker.wire worker = some receipt) :
    ∃ faults, later = (server.withNetwork { server.network with faults }).moveWorker worker.wire
        (afterReceipt receipt) ∨
      server.receiptOn worker.wire worker.chunk = receipt ∧
        later = (server.withNetwork { server.network with faults }).receive worker := by
  rw [receipt?] at received
  cases step with
  | struck phase fault network struck =>
      rw [phase] at received
      dsimp only at received
      rw [struck] at received
      cases received
      obtain rfl := congrArg Prod.snd struck
      exact ⟨_, Or.inl rfl⟩
  | received phase network spared ready =>
      obtain ⟨able, _⟩ :=
        receipt_of_steady worker.wire (Network.Tried.of_consult spared).steady worker
      rw [phase] at received
      dsimp only at received
      rw [spared, ← able, if_pos ready] at received
      obtain rfl := congrArg Prod.snd spared
      exact ⟨_, Or.inr ⟨Option.some.inj received, rfl⟩⟩
  | paused phase network spared unready =>
      obtain ⟨able, _⟩ :=
        receipt_of_steady worker.wire (Network.Tried.of_consult spared).steady worker
      rw [phase] at received
      dsimp only at received
      rw [spared, ← able, unready] at received
      cases received
  | resumed phase ready =>
      rw [phase] at received
      dsimp only at received
      rw [if_pos ready] at received
      exact ⟨server.network.faults, Or.inr ⟨Option.some.inj received, rfl⟩⟩
  | waited phase unready =>
      rw [phase] at received
      dsimp only at received
      rw [unready] at received
      cases received
  | looked phase | queued _ phase | confirmed _ phase | announced _ phase | startled _ phase
  | deserted _ phase | left phase =>
      rw [phase] at received
      cases received

/-- A worker that steps and receives shows what it received. -/
theorem sight_received (alive : server.worker? index = some worker) {receipt : Receipt}
    (received : server.receipt? index worker = some receipt) (delivery : Delivery) :
    (server.stepWorker (.answering delivery) worker).sight wire =
      if wire = index then { server.sight wire with phase := some (afterReceipt receipt) }
      else server.sight wire := by
  obtain rfl := wire_of_worker? alive
  obtain ⟨faults, moved | ⟨found, moved⟩⟩ :=
    (server.workerStep delivery worker).of_received received
  · rw [moved]
    exact sight_moved wire alive rfl _
  · rw [moved, ← found]
    exact @sight_receive (server.withNetwork { server.network with faults }) worker.wire wire
      worker alive

/-- A worker that steps and does not receive goes on by itself. -/
theorem sight_proceeded (alive : server.worker? index = some worker)
    (idle : server.receipt? index worker = none) {delivery : Delivery}
    (returns : worker.announces = true → delivery ≠ .panicked) :
    (server.stepWorker (.answering delivery) worker).sight wire =
      if wire = index then ((server.sight wire).proceed worker.phase).1
      else server.sight wire := by
  obtain rfl := wire_of_worker? alive
  have step := server.workerStep delivery worker
  generalize server.stepWorker (.answering delivery) worker = later at step ⊢
  rw [receipt?] at idle
  cases step with
  | looked phase | confirmed _ phase | announced _ phase =>
      rw [phase]
      exact sight_moved wire alive rfl _
  | struck phase fault network struck =>
      rw [phase] at idle
      dsimp only at idle
      rw [struck] at idle
      cases idle
  | received phase network spared ready =>
      obtain ⟨able, _⟩ :=
        receipt_of_steady worker.wire (Network.Tried.of_consult spared).steady worker
      rw [phase] at idle
      dsimp only at idle
      rw [spared, ← able, if_pos ready] at idle
      cases idle
  | paused phase network =>
      rw [phase]
      exact sight_moved wire alive rfl .waiting
  | resumed phase ready =>
      rw [phase] at idle
      dsimp only at idle
      rw [if_pos ready] at idle
      cases idle
  | waited phase =>
      rw [phase]
      exact (ite_self _).symm
  | queued chunk phase =>
      rw [phase, sight_moveWorker, sight_pushSession]
      split
      · next own =>
          rw [own, Sight.proceed, phase_of_alive alive]
          rfl
      · rfl
  | startled chunk phase panics | deserted chunk phase panics =>
      exact absurd panics (returns (by rw [Worker.announces, phase]))
  | left phase =>
      rw [phase, leave, sight_endWorker, sight_shutWire, sight_closeSession]
      split <;> rfl

/-- What a step of a worker shows of each connection. -/
theorem sight_stepWorker (alive : server.worker? index = some worker) {delivery : Delivery}
    (returns : worker.announces = true → delivery ≠ .panicked) :
    (server.stepWorker (.answering delivery) worker).sight wire =
      if wire = index then ((server.sight wire).react (.served (server.receipt? index worker))).1
      else server.sight wire := by
  cases received : server.receipt? index worker with
  | some receipt => exact sight_received wire alive received delivery
  | none =>
      rw [sight_proceeded wire alive received returns]
      split
      · next own =>
          subst own
          rw [Sight.react, phase_of_alive alive]
      · rfl

/-! ## Steps of acceptors -/

/-- What is seen of a connection when a worker is started on a wire that has none. -/
theorem sight_addWorker (worker : Worker) (free : server.worker? worker.wire = none) :
    (server.addWorker worker).sight wire =
      if wire = worker.wire then { server.sight wire with phase := some worker.phase }
      else server.sight wire := by
  rw [sight_eq, connection_addWorker _ _ _ _ worker free]
  split <;> rfl

/-- What is seen of each connection when one is tracked. -/
theorem sight_register (distinct : server.Distinct) (port : UInt16) {admission : Admission}
    (free : server.session? admission.wire = none) :
    (server.register port admission).sight wire =
      if wire = admission.wire then { server.sight wire with face := some ⟨.empty, true⟩ }
      else if server.names server.service.nextId wire then
        { server.sight wire with face := none }
      else server.sight wire := by
  have tracked : (server.register port admission).sight wire =
      (Situation.registered server admission).sight wire := by
    rw [Situation.register_eq]
    cases server.peer? server.service.nextId with
    | none => rfl
    | some old => exact sight_forsake _ old.line.wire wire
  rw [tracked, sight_eq, Situation.connection_registered distinct free, names]
  split
  · rfl
  · simp only [beq_iff_eq]
    split <;> rfl

/-- What a step of an acceptor shows of each connection, of which nothing is heard. -/
theorem AcceptorStep.sight {acceptor : Acceptor}
    (step : AcceptorStep delivery server acceptor later) (distinct : server.Distinct)
    (unknown : ∀ admission, acceptor.phase = .registering admission →
      server.session? admission.wire = none)
    (unserved : ∀ id admission, acceptor.phase = .spawning id admission →
      server.worker? admission.wire = none)
    (returns : delivery ≠ .panicked) :
    (later.sight wire, []) =
      Aspect.respond Sight.react (server.sight wire) (server.admits? acceptor wire) := by
  rw [admits?]
  cases step with
  | registered admission phase =>
      rw [phase, sight_register wire distinct acceptor.port (unknown admission phase)]
      dsimp only
      split
      · rfl
      · split <;> rfl
  | unserved id admission phase failure network failed =>
      rw [phase, sight_moveAcceptor, sight_shutWire, sight_closeSession, failed]
      dsimp only
      split <;> rfl
  | spawned id admission phase network made =>
      have free : (server.withNetwork network).worker? admission.wire = none :=
        unserved id admission phase
      rw [phase, sight_moveAcceptor, sight_addWorker wire _ free, made]
      dsimp only
      split <;> rfl
  | startled _ _ _ panics | deserted _ _ _ panics => exact absurd panics returns
  | stored index phase =>
      rw [phase, store, sight_moveAcceptor, sight_passHandle]
      rfl
  | looked phase | ended phase | retried phase | gaveUp phase | took phase | idled phase
  | configured _ phase | refused _ phase | greeted _ _ phase =>
      rw [phase]
      rfl

/-! ## What the callbacks are told -/

/-- A service thread that does not call back adds nothing to the reports. -/
theorem reports_stepWorker (callbacks : Callbacks) (quiet : worker.announces = false) :
    (server.stepWorker callbacks worker).reports = server.reports := by
  have same : server.stepWorker callbacks worker = _ :=
    @stepWorker_amid server.reports server.service.caller callbacks .unheard server worker quiet
  rw [same]
  rfl

theorem reports_stepAcceptor (callbacks : Callbacks) {acceptor : Acceptor}
    (quiet : acceptor.announces = false) :
    (server.stepAcceptor callbacks acceptor).reports = server.reports := by
  have same : server.stepAcceptor callbacks acceptor = _ :=
    @stepAcceptor_amid server.reports server.service.caller callbacks .unheard server acceptor
      quiet
  rw [same]
  rfl

/-- The reports after a worker called back are those after the call. -/
theorem reports_announce (callbacks : Callbacks) (worker : Worker) (chunk : Bytes) :
    (server.announce callbacks worker chunk).reports =
      (callbacks.data (server.amid server.reports (some (.worker worker.wire))) worker.id
        chunk).2.reports := by
  cases called : callbacks.data (server.amid server.reports (some (.worker worker.wire)))
      worker.id chunk with
  | mk delivery later =>
      rw [announce_called called, announce_amid]
      rfl

/-- The reports after an acceptor called back are those after the call. -/
theorem reports_greet (callbacks : Callbacks) (port : UInt16) (id : UInt64)
    (admission : Admission) :
    (server.greet callbacks port id admission).reports =
      (callbacks.newPeer (server.amid server.reports (some (.acceptor port))) id
        (server.farAddress admission.wire)).2.reports := by
  cases called : callbacks.newPeer (server.amid server.reports (some (.acceptor port))) id
      (server.farAddress admission.wire) with
  | mk delivery later =>
      rw [greet_called called, greet_amid]
      rfl

/-- A worker tells the data callback what it announces, and tells it of its own peer. -/
theorem told_stepWorker (recording : Framelink.Server.Recording server)
    (alive : server.worker? index = some worker) (id : UInt64) :
    Framelink.Server.toldSince server (server.stepWorker .live worker) id =
      if worker.id = id then
        ((server.sight index).react (.served (server.receipt? index worker))).2
      else [] := by
  cases announces : worker.announces with
  | false =>
      have silent := Sight.silent_of_quiet (phase_of_alive alive) announces
        (server.receipt? index worker)
      rw [silent, ite_self]
      exact Framelink.Server.toldSince_of_reports (reports_stepWorker .live announces) id
  | true =>
      obtain ⟨chunk, phase⟩ := Worker.of_announces announces
      have told : ((server.sight index).react (.served (server.receipt? index worker))).2 =
          if server.onData.isSome then [.told chunk] else [] := by
        rw [receipt?, phase, Sight.react, phase_of_alive alive, phase]
        rfl
      have announced : server.stepWorker .live worker = server.announce .live worker chunk := by
        rw [stepWorker, phase]
      let called := server.amid server.reports (some (.worker worker.wire))
      have dispatched := @Framelink.Server.dispatchData_of_records _ _ _ _ _ called
        recording.data worker.id chunk
      have reports : (server.announce .live worker chunk).reports =
          (Framelink.Server.dispatchData called worker.id chunk).2.reports :=
        reports_announce .live worker chunk
      have installed : called.onData = server.onData := rfl
      rw [dispatched, installed] at reports
      rw [told, announced]
      cases callback : server.onData with
      | none =>
          rw [callback] at reports
          rw [Option.isSome_none, if_neg Bool.false_ne_true, ite_self]
          exact Framelink.Server.toldSince_of_reports reports id
      | some reaction =>
          rw [callback] at reports
          rw [Option.isSome_some, if_pos rfl]
          refine (Framelink.Server.toldSince_report reports id).trans ?_
          rw [Report.told?]
          split <;> rfl

/-- An acceptor tells the data callback nothing. -/
theorem told_stepAcceptor (recording : Framelink.Server.Recording server) (acceptor : Acceptor)
    (id : UInt64) :
    Framelink.Server.toldSince server (server.stepAcceptor .live acceptor) id = [] := by
  cases announces : acceptor.announces with
  | false => exact Framelink.Server.toldSince_of_reports (reports_stepAcceptor .live announces) id
  | true =>
      obtain ⟨own, admission, phase⟩ := Acceptor.of_announces announces
      have greeted : server.stepAcceptor .live acceptor =
          server.greet .live acceptor.port own admission := by
        rw [stepAcceptor, phase]
      let called := server.amid server.reports (some (.acceptor acceptor.port))
      have dispatched := @Framelink.Server.dispatchNewPeer_of_records _ _ _ _ _ called
        recording.newPeer own (server.farAddress admission.wire)
      have reports : (server.greet .live acceptor.port own admission).reports =
          (Framelink.Server.dispatchNewPeer called own
            (server.farAddress admission.wire)).2.reports :=
        reports_greet .live acceptor.port own admission
      have installed : called.onNewPeer = server.onNewPeer := rfl
      rw [dispatched, installed] at reports
      rw [greeted]
      cases callback : server.onNewPeer with
      | none =>
          rw [callback] at reports
          exact Framelink.Server.toldSince_of_reports reports id
      | some reaction =>
          rw [callback] at reports
          exact Framelink.Server.toldSince_report reports id

end Server

end Tcp
end Framelink
