import Framelink.Proofs.Tcp.Situation

/-!
# A step of a service thread

A thread that is not there does nothing.  Steps of threads leave alone whether the
server runs, the address it is bound to, and the callbacks that are in place; besides
the server they change nothing but the record.
-/

namespace Framelink
namespace Tcp

namespace Server

/-! ## Which thread steps -/

section Threads

variable (callbacks : Callbacks) (server : Server)

theorem step_acceptor {port : UInt16} {acceptor : Acceptor}
    (here : server.acceptor? port = some acceptor) :
    server.step callbacks (.acceptor port) = server.stepAcceptor callbacks acceptor := by
  unfold step
  dsimp only
  rw [here]

theorem step_no_acceptor {port : UInt16} (gone : server.acceptor? port = none) :
    server.step callbacks (.acceptor port) = server := by
  unfold step
  dsimp only
  rw [gone]

theorem step_worker {wire : Nat} {worker : Worker} (alive : server.worker? wire = some worker) :
    server.step callbacks (.worker wire) = server.stepWorker callbacks worker := by
  unfold step
  dsimp only
  rw [alive]

theorem step_no_worker {wire : Nat} (gone : server.worker? wire = none) :
    server.step callbacks (.worker wire) = server := by
  unfold step
  dsimp only
  rw [gone]

end Threads

/-! ## What steps come to -/

/-- What a step of an acceptor comes to. -/
inductive AcceptorStep (delivery : Delivery) (server : Server) (acceptor : Acceptor) :
    Server → Prop
  | looked (phase : acceptor.phase = .looking) (running : server.running = true) :
      AcceptorStep delivery server acceptor (server.moveAcceptor acceptor.port .accepting)
  | ended (phase : acceptor.phase = .looking) (down : server.running = false) :
      AcceptorStep delivery server acceptor (server.endAcceptor acceptor.port)
  | retried (phase : acceptor.phase = .accepting) (fault : Fault) (network : Network)
      (struck : server.network.consult .accept = (some fault, network))
      (passes : isRetried fault.failure = true) :
      AcceptorStep delivery server acceptor
        ((server.withNetwork network).moveAcceptor acceptor.port .looking)
  | gaveUp (phase : acceptor.phase = .accepting) (fault : Fault) (network : Network)
      (struck : server.network.consult .accept = (some fault, network))
      (lasts : isRetried fault.failure = false) :
      AcceptorStep delivery server acceptor
        ((server.withNetwork network).endAcceptor acceptor.port)
  | took (phase : acceptor.phase = .accepting) (network later : Network) (wire : Nat)
      (spared : server.network.consult .accept = (none, network))
      (taken : network.takeWaiting acceptor.port = (some wire, later)) :
      AcceptorStep delivery server acceptor
        ((server.withNetwork later).moveAcceptor acceptor.port
          (.configuring (server.admission wire)))
  | idled (phase : acceptor.phase = .accepting) (network : Network)
      (spared : server.network.consult .accept = (none, network))
      (nobody : (network.takeWaiting acceptor.port).1 = none) :
      AcceptorStep delivery server acceptor
        ((server.withNetwork network).moveAcceptor acceptor.port .looking)
  | configured (admission : Admission) (phase : acceptor.phase = .configuring admission)
      (network : Network)
      (made : server.network.attemptAll (setUpCalls admission) = (.ok (), network)) :
      AcceptorStep delivery server acceptor
        ((server.withNetwork network).moveAcceptor acceptor.port (.registering admission))
  | refused (admission : Admission) (phase : acceptor.phase = .configuring admission)
      (failure : Failure) (network : Network)
      (failed : server.network.attemptAll (setUpCalls admission) = (.error failure, network)) :
      AcceptorStep delivery server acceptor
        (((server.withNetwork network).dropWire admission.wire).moveAcceptor acceptor.port
          .looking)
  | registered (admission : Admission) (phase : acceptor.phase = .registering admission) :
      AcceptorStep delivery server acceptor (server.register acceptor.port admission)
  | greeted (id : UInt64) (admission : Admission) (phase : acceptor.phase = .greeting id admission)
      (returns : delivery ≠ .panicked) :
      AcceptorStep delivery server acceptor
        (server.moveAcceptor acceptor.port (.spawning id admission))
  | startled (id : UInt64) (admission : Admission)
      (phase : acceptor.phase = .greeting id admission) (panics : delivery = .panicked)
      (tracked : server.tracksWire admission.wire = true) :
      AcceptorStep delivery server acceptor (server.endAcceptor acceptor.port)
  | deserted (id : UInt64) (admission : Admission)
      (phase : acceptor.phase = .greeting id admission) (panics : delivery = .panicked)
      (removed : server.tracksWire admission.wire = false) :
      AcceptorStep delivery server acceptor
        ((server.dropWire admission.wire).endAcceptor acceptor.port)
  | unserved (id : UInt64) (admission : Admission)
      (phase : acceptor.phase = .spawning id admission) (failure : Failure) (network : Network)
      (failed : server.network.attempt .thread = (.error failure, network)) :
      AcceptorStep delivery server acceptor
        ((((server.withNetwork network).closeSession admission.wire).shutWire
          admission.wire).moveAcceptor acceptor.port .looking)
  | spawned (id : UInt64) (admission : Admission)
      (phase : acceptor.phase = .spawning id admission) (network : Network)
      (made : server.network.attempt .thread = (.ok (), network)) :
      AcceptorStep delivery server acceptor
        (((server.withNetwork network).addWorker
          ⟨id, admission.wire, admission.chunk.toNat, admission.bounded, .looking,
            .unstored⟩).moveAcceptor acceptor.port (.storing admission.wire))
  | stored (wire : Nat) (phase : acceptor.phase = .storing wire) :
      AcceptorStep delivery server acceptor (server.store acceptor.port wire)

theorem acceptorStep (delivery : Delivery) (server : Server) (acceptor : Acceptor) :
    AcceptorStep delivery server acceptor
      (server.stepAcceptor (.answering delivery) acceptor) := by
  rw [stepAcceptor]
  cases phase : acceptor.phase with
  | looking =>
      dsimp only
      split
      · next running => exact .looked phase running
      · next down => exact .ended phase (by simpa using down)
  | accepting =>
      dsimp only
      rw [accept]
      split
      · next fault network struck =>
          dsimp only
          split
          · next passes => exact .retried phase fault network struck passes
          · next lasts => exact .gaveUp phase fault network struck (by simpa using lasts)
      · next network spared =>
          split
          · next wire later taken => exact .took phase network later wire spared taken
          · next nobody => exact .idled phase network spared (congrArg Prod.fst nobody)
  | configuring admission =>
      dsimp only
      rw [configure]
      split
      · next network made => exact .configured admission phase network made
      · next failure network failed => exact .refused admission phase failure network failed
  | registering admission => exact .registered admission phase
  | greeting id admission =>
      cases delivery with
      | unheard | heard => exact .greeted id admission phase (by decide)
      | panicked =>
          dsimp only [greet, inThread, Callbacks.answering]
          split
          · next tracked => exact .startled id admission phase rfl tracked
          · next removed => exact .deserted id admission phase rfl (by simpa using removed)
  | spawning id admission =>
      dsimp only
      rw [spawn]
      split
      · next failure network failed => exact .unserved id admission phase failure network failed
      · next network made => exact .spawned id admission phase network made
  | storing wire => exact .stored wire phase

/-- What a step of a worker comes to. -/
inductive WorkerStep (delivery : Delivery) (server : Server) (worker : Worker) : Server → Prop
  | looked (phase : worker.phase = .looking) :
      WorkerStep delivery server worker
        (server.moveWorker worker.wire (if server.running then .receiving else .leaving))
  | struck (phase : worker.phase = .receiving) (fault : Fault) (network : Network)
      (struck : server.network.consult .receive = (some fault, network)) :
      WorkerStep delivery server worker
        ((server.withNetwork network).moveWorker worker.wire
          (afterReceipt (.error fault.failure)))
  | received (phase : worker.phase = .receiving) (network : Network)
      (spared : server.network.consult .receive = (none, network))
      (ready : (worker.bounded || (server.withNetwork network).canReceive worker) = true) :
      WorkerStep delivery server worker ((server.withNetwork network).receive worker)
  | paused (phase : worker.phase = .receiving) (network : Network)
      (spared : server.network.consult .receive = (none, network))
      (unready : (worker.bounded || (server.withNetwork network).canReceive worker) = false) :
      WorkerStep delivery server worker
        ((server.withNetwork network).moveWorker worker.wire .waiting)
  | resumed (phase : worker.phase = .waiting) (ready : server.canReceive worker = true) :
      WorkerStep delivery server worker (server.receive worker)
  | waited (phase : worker.phase = .waiting) (unready : server.canReceive worker = false) :
      WorkerStep delivery server worker server
  | queued (chunk : Bytes) (phase : worker.phase = .queueing chunk) :
      WorkerStep delivery server worker
        ((server.pushSession worker.wire chunk).moveWorker worker.wire (.confirming chunk))
  | confirmed (chunk : Bytes) (phase : worker.phase = .confirming chunk) :
      WorkerStep delivery server worker
        (server.moveWorker worker.wire (if server.running then .announcing chunk else .leaving))
  | announced (chunk : Bytes) (phase : worker.phase = .announcing chunk)
      (returns : delivery ≠ .panicked) :
      WorkerStep delivery server worker (server.moveWorker worker.wire .looking)
  | startled (chunk : Bytes) (phase : worker.phase = .announcing chunk)
      (panics : delivery = .panicked) (tracked : server.tracksWire worker.wire = true) :
      WorkerStep delivery server worker (server.endWorker worker.wire)
  | deserted (chunk : Bytes) (phase : worker.phase = .announcing chunk)
      (panics : delivery = .panicked) (removed : server.tracksWire worker.wire = false) :
      WorkerStep delivery server worker ((server.dropWire worker.wire).endWorker worker.wire)
  | left (phase : worker.phase = .leaving) :
      WorkerStep delivery server worker (server.leave worker)

theorem workerStep (delivery : Delivery) (server : Server) (worker : Worker) :
    WorkerStep delivery server worker (server.stepWorker (.answering delivery) worker) := by
  rw [stepWorker]
  cases phase : worker.phase with
  | looking => exact .looked phase
  | receiving =>
      dsimp only
      rw [beginReceive]
      split
      · next fault network struck => exact .struck phase fault network struck
      · next network spared =>
          dsimp only
          split
          · next ready => exact .received phase network spared ready
          · next unready => exact .paused phase network spared (by simpa using unready)
  | waiting =>
      dsimp only
      split
      · next ready => exact .resumed phase ready
      · next unready => exact .waited phase (by simpa using unready)
  | queueing chunk => exact .queued chunk phase
  | confirming chunk => exact .confirmed chunk phase
  | announcing chunk =>
      cases delivery with
      | unheard | heard => exact .announced chunk phase (by decide)
      | panicked =>
          dsimp only [announce, inThread, Callbacks.answering]
          split
          · next tracked => exact .startled chunk phase rfl tracked
          · next removed => exact .deserted chunk phase rfl (by simpa using removed)
  | leaving => exact .left phase

/-- What a step of a thread comes to; one that is not there does nothing. -/
inductive ThreadStep (delivery : Delivery) (server : Server) : Thread → Server → Prop
  | noAcceptor (port : UInt16) (gone : server.acceptor? port = none) :
      ThreadStep delivery server (.acceptor port) server
  | noWorker (wire : Nat) (gone : server.worker? wire = none) :
      ThreadStep delivery server (.worker wire) server
  | acceptor (port : UInt16) (acceptor : Acceptor) (later : Server)
      (here : server.acceptor? port = some acceptor)
      (step : AcceptorStep delivery server acceptor later) :
      ThreadStep delivery server (.acceptor port) later
  | worker (wire : Nat) (worker : Worker) (later : Server)
      (alive : server.worker? wire = some worker)
      (step : WorkerStep delivery server worker later) :
      ThreadStep delivery server (.worker wire) later

theorem threadStep (delivery : Delivery) (server : Server) (thread : Thread) :
    ThreadStep delivery server thread (server.step (.answering delivery) thread) := by
  cases thread with
  | acceptor port =>
      cases here : server.acceptor? port with
      | none =>
          rw [step_no_acceptor _ _ here]
          exact .noAcceptor port here
      | some acceptor =>
          rw [step_acceptor _ _ here]
          exact .acceptor port acceptor _ here (server.acceptorStep delivery acceptor)
  | worker wire =>
      cases alive : server.worker? wire with
      | none =>
          rw [step_no_worker _ _ alive]
          exact .noWorker wire alive
      | some worker =>
          rw [step_worker _ _ alive]
          exact .worker wire worker _ alive (server.workerStep delivery worker)

/-! ## What steps leave alone -/

variable {delivery : Delivery} {server later : Server} {acceptor : Acceptor} {worker : Worker}

/-- Whether a server runs, and the address it is bound to. -/
def standing (server : Server) : Bool × Option SocketAddress :=
  (server.running, server.localAddress)

/-- The standing of a server and its callbacks. -/
def bearing (server : Server) :
    (Bool × Option SocketAddress) × Option Reaction × Option Reaction :=
  (server.standing, server.onData, server.onNewPeer)

theorem bearing_forsake (server : Server) (wire : Nat) :
    (server.forsake wire).bearing = server.bearing := by
  unfold forsake
  split <;> rfl

theorem bearing_register (server : Server) (port : UInt16) (admission : Admission) :
    (server.register port admission).bearing = server.bearing := by
  unfold register
  dsimp only
  split
  · exact bearing_forsake _ _
  · rfl

theorem bearing_receive (server : Server) (worker : Worker) :
    (server.receive worker).bearing = server.bearing := by
  unfold receive
  split <;> rfl

theorem AcceptorStep.bearing (step : AcceptorStep delivery server acceptor later) :
    later.bearing = server.bearing := by
  cases step with
  | registered admission => exact server.bearing_register acceptor.port admission
  | _ => rfl

theorem WorkerStep.bearing (step : WorkerStep delivery server worker later) :
    later.bearing = server.bearing := by
  cases step with
  | received _ network => exact (server.withNetwork network).bearing_receive worker
  | resumed => exact server.bearing_receive worker
  | _ => rfl

theorem bearing_step (delivery : Delivery) (server : Server) (thread : Thread) :
    (server.step (.answering delivery) thread).bearing = server.bearing := by
  have stepped := server.threadStep delivery thread
  generalize server.step (.answering delivery) thread = later at stepped ⊢
  cases stepped with
  | noAcceptor | noWorker => rfl
  | acceptor _ _ _ _ step => exact step.bearing
  | worker _ _ _ _ step => exact step.bearing

end Server

namespace Situation

variable {situation : Situation}

theorem record_note (wire other : Nat) (change : Record → Record) :
    (situation.note wire change).record other =
      if other = wire then change (situation.record other) else situation.record other := rfl

/-- A note that leaves alone what was taken. -/
theorem taken_note (wire other : Nat) {change : Record → Record}
    (keeps : ∀ record, (change record).taken = record.taken) :
    ((situation.note wire change).record other).taken = (situation.record other).taken := by
  rw [record_note]
  split
  · exact keeps _
  · rfl

/-- What a service thread is about to find is noted at most, and takes nothing from
an inbox. -/
theorem witness_server (situation : Situation) (delivery : Delivery) (thread : Thread) :
    ∃ record, (∀ wire, (record wire).taken = (situation.record wire).taken) ∧
      situation.witness delivery thread = { situation with record } := by
  have unnoted : ∃ record, (∀ wire, (record wire).taken = (situation.record wire).taken) ∧
      situation = { situation with record } := ⟨situation.record, fun _ => rfl, rfl⟩
  have noted : ∀ (index : Nat) (change : Record → Record),
      (∀ record, (change record).taken = record.taken) →
        ∃ record, (∀ wire, (record wire).taken = (situation.record wire).taken) ∧
          situation.note index change = { situation with record } :=
    fun index change keeps =>
      ⟨(situation.note index change).record, fun wire => taken_note index wire keeps, rfl⟩
  unfold witness
  split
  · split
    · split
      · exact noted _ _ fun _ => rfl
      · exact unnoted
    · split
      · exact noted _ _ fun _ => rfl
      · exact unnoted
    · exact unnoted
  · split
    · split
      · exact noted _ _ fun _ => rfl
      · split
        · exact noted _ _ fun _ => rfl
        · exact unnoted
    · exact unnoted

/-- A step changes the server and the record at most. -/
theorem step_eq (situation : Situation) (thread : Thread) (delivery : Delivery) :
    ∃ record, situation.step thread delivery =
      { situation with
        server := situation.server.step (.answering delivery) thread
        record } := by
  obtain ⟨record, _, witnessed⟩ := situation.witness_server delivery thread
  refine ⟨record, ?_⟩
  unfold step
  rw [witnessed]

/-- Nothing happens in the name of an acceptor that is not there. -/
theorem step_of_no_acceptor {port : UInt16} (gone : situation.server.acceptor? port = none)
    (delivery : Delivery) : situation.step (.acceptor port) delivery = situation := by
  unfold step witness
  dsimp only
  rw [Server.step_no_acceptor _ _ gone, gone]
  rfl

/-- Nothing happens in the name of a worker that is not alive. -/
theorem step_of_no_worker {index : Nat} (gone : situation.server.worker? index = none)
    (delivery : Delivery) : situation.step (.worker index) delivery = situation := by
  unfold step witness
  dsimp only
  rw [Server.step_no_worker _ _ gone, gone]

end Situation
end Tcp
end Framelink
