import Framelink.Proofs.Reading.Exact
import Framelink.Proofs.Tcp.Leaving

/-!
# One step of a worker

What a step of a worker changes is its own connection; everybody else is spared.  A failure
that passes leaves its connection alone as well.  The end of the stream, a failure that
lasts, and a server that does not run turn a worker to its end, and a worker that ends has
closed its peer.
-/

namespace Framelink

/-- An end that has nothing to give for a moment stays as it is. -/
theorem WireEnd.silence_of_transient {wireEnd : WireEnd} {failure : Failure}
    (failed : wireEnd.silence.1 = .error failure) (transient : failure.isTransient = true) :
    wireEnd.silence.2 = wireEnd := by
  unfold WireEnd.silence at failed ⊢
  split at failed
  · rfl
  · cases failed
  · cases failed
  · cases failed
    cases transient
  · cases failed
    cases transient
  · cases failed

theorem Wire.receive_of_transient {wire : Wire} {room : Nat} {failure : Failure}
    (failed : (wire.receive room).1 = .error failure) (transient : failure.isTransient = true) :
    (wire.receive room).2 = wire := by
  rw [Wire.receive] at failed ⊢
  split at failed
  · cases failed
  · split at failed
    · cases failed
    · split at failed
      · cases failed
      · next some waiting near =>
          rw [if_neg some, if_neg waiting, if_neg near]
          dsimp only at failed ⊢
          rw [WireEnd.silence_of_transient failed transient]

theorem Network.modifyWire_same {network : Network} {index : Nat} {wire : Wire}
    (found : network.wire? index = some wire) :
    network.modifyWire index (fun _ => wire) = network := by
  have same : network.wires.modify index (fun _ => wire) = network.wires := by
    refine List.ext_getElem? fun other => ?_
    rw [List.getElem?_modify]
    by_cases here : index = other
    · subst here
      rw [show network.wires[index]? = some wire from found]
      simp
    · simp [here]
  rw [modifyWire, same]

namespace Tcp

/-- How many steps of its own a worker of a server that does not run has before it at most,
those apart at which it waits. -/
def Worker.Phase.toGo : Worker.Phase → Nat
  | .leaving => 1
  | .looking | .confirming _ => 2
  | .queueing _ | .announcing _ => 3
  | .receiving | .waiting => 4

namespace Server

variable {server : Server} {index : Nat} {worker : Worker}

/-! ## Who is spared -/

/-- What happened concerns one connection only: the server runs or not as it did, with the
same callbacks, its acceptors are where they were, and so is every other connection. -/
structure Spares (server : Server) (index : Nat) (later : Server) : Prop where
  bearing : later.bearing = server.bearing
  acceptors : later.service.acceptors = server.service.acceptors
  others : ∀ other, other ≠ index →
    later.connection .resting none .blank other = server.connection .resting none .blank other

theorem Spares.refl (server : Server) (index : Nat) : server.Spares index server :=
  ⟨rfl, rfl, fun _ _ => rfl⟩

theorem Spares.trans {middle later : Server} (early : server.Spares index middle)
    (late : middle.Spares index later) : server.Spares index later where
  bearing := late.bearing.trans early.bearing
  acceptors := late.acceptors.trans early.acceptors
  others := fun other apart => (late.others other apart).trans (early.others other apart)

/-- What changes one connection, no acceptor and nothing else of the server spares the others. -/
theorem Spares.of_own {later : Server} {own : Nat → Connection}
    (bearing : later.bearing = server.bearing)
    (acceptors : later.service.acceptors = server.service.acceptors)
    (connection : ∀ other, later.connection .resting none .blank other =
      if other = index then own other else server.connection .resting none .blank other) :
    server.Spares index later where
  bearing := bearing
  acceptors := acceptors
  others := fun other apart => (connection other).trans (if_neg apart)

theorem spares_moveWorker (server : Server) (index : Nat) (phase : Worker.Phase) :
    server.Spares index (server.moveWorker index phase) :=
  .of_own rfl rfl fun other => server.connection_moveWorker _ _ _ other index phase

theorem spares_endWorker (server : Server) (index : Nat) :
    server.Spares index (server.endWorker index) :=
  .of_own rfl rfl fun other => server.connection_endWorker _ _ _ other index

theorem spares_pushSession (server : Server) (index : Nat) (bytes : Bytes) :
    server.Spares index (server.pushSession index bytes) :=
  .of_own rfl rfl fun other => server.connection_pushSession _ _ _ other index bytes

theorem spares_closeSession (server : Server) (index : Nat) :
    server.Spares index (server.closeSession index) :=
  .of_own rfl rfl fun other => server.connection_closeSession _ _ _ other index

theorem spares_modifyWire (server : Server) (index : Nat) (change : Wire → Wire) :
    server.Spares index (server.modifyNetwork (·.modifyWire index change)) :=
  .of_own rfl rfl fun other => server.connection_modifyWire _ _ _ other index change

theorem spares_steady {network : Network} (steady : server.network.Steady network)
    (index : Nat) : server.Spares index (server.withNetwork network) where
  bearing := rfl
  acceptors := rfl
  others := fun other _ => server.connection_steady _ _ _ other steady

theorem spares_receive (server : Server) (worker : Worker) :
    server.Spares worker.wire (server.receive worker) := by
  rw [receive]
  cases server.network.wire? worker.wire with
  | none => exact server.spares_moveWorker worker.wire .leaving
  | some wire => exact (server.spares_modifyWire worker.wire _).trans (spares_moveWorker _ _ _)

/-- A step of a worker concerns its own connection only. -/
theorem WorkerStep.spares {delivery : Delivery} {later : Server}
    (step : WorkerStep delivery server worker later) : server.Spares worker.wire later := by
  cases step with
  | looked | confirmed | announced => exact server.spares_moveWorker worker.wire _
  | struck _ _ network consulted | paused _ network consulted =>
      have steady := (Network.Tried.of_consult consulted).steady
      exact (spares_steady steady worker.wire).trans (spares_moveWorker _ _ _)
  | received _ network spared =>
      have steady := (Network.Tried.of_consult spared).steady
      exact (spares_steady steady worker.wire).trans (spares_receive _ worker)
  | resumed => exact server.spares_receive worker
  | waited => exact .refl server worker.wire
  | queued chunk =>
      exact (server.spares_pushSession worker.wire chunk).trans (spares_moveWorker _ _ _)
  | startled => exact server.spares_endWorker worker.wire
  | deserted =>
      exact (server.spares_modifyWire worker.wire Wire.closeNear).trans (spares_endWorker _ _)
  | left =>
      exact ((server.spares_closeSession worker.wire).trans
        (spares_modifyWire _ _ Wire.shutNear)).trans (spares_endWorker _ _)

/-! ## What becomes of the worker -/

theorem worker?_moveWorker (alive : server.worker? index = some worker) (phase : Worker.Phase) :
    (server.moveWorker index phase).worker? index = some { worker with phase } := by
  have found := server.worker?_modifyWorker index index (fun worker => { worker with phase })
    fun _ => rfl
  rw [if_pos rfl, alive] at found
  exact found

theorem worker?_receive (alive : server.worker? index = some worker) :
    (server.receive worker).worker? index =
      some { worker with phase := afterReceipt (server.receiptOn index worker.chunk) } := by
  obtain rfl := wire_of_worker? alive
  rw [receive, receiptOn]
  cases server.network.wire? worker.wire with
  | none => exact worker?_moveWorker alive .leaving
  | some wire => exact worker?_moveWorker alive _

/-- A worker that is still there after a step of its own is the same, but for its phase. -/
theorem same_of_still (alive : server.worker? index = some worker) {delivery : Delivery}
    {after : Worker}
    (still : (server.stepWorker (.answering delivery) worker).worker? index = some after) :
    after = { worker with phase := after.phase } := by
  have moved {before : Server} {phase : Worker.Phase}
      (alive : before.worker? index = some worker)
      (still : (before.moveWorker index phase).worker? index = some after) :
      after = { worker with phase := after.phase } := by
    cases (worker?_moveWorker alive phase).symm.trans still
    rfl
  have received {before : Server} (alive : before.worker? index = some worker)
      (still : (before.receive worker).worker? index = some after) :
      after = { worker with phase := after.phase } := by
    cases (worker?_receive alive).symm.trans still
    rfl
  obtain rfl := wire_of_worker? alive
  have step := server.workerStep delivery worker
  generalize server.stepWorker (.answering delivery) worker = later at step still
  cases step with
  | looked | struck | paused | queued | confirmed | announced => exact moved alive still
  | received _ network =>
      have served : (server.withNetwork network).worker? worker.wire = some worker := alive
      exact received served still
  | resumed => exact received alive still
  | waited =>
      cases alive.symm.trans still
      rfl
  | startled | deserted | left => cases (worker?_endWorker _ worker.wire).symm.trans still

/-- A worker that is gone after a step of its own left, or its call of the data callback
panicked. -/
theorem leaving_or_announcing_of_gone (alive : server.worker? index = some worker)
    {delivery : Delivery}
    (gone : (server.stepWorker (.answering delivery) worker).worker? index = none) :
    worker.phase = .leaving ∨
      ∃ chunk, worker.phase = .announcing chunk ∧ delivery = .panicked := by
  by_cases leaving : worker.phase = .leaving
  · exact Or.inl leaving
  · right
    by_cases returns : worker.announces = true → delivery ≠ .panicked
    · obtain ⟨after, still, _⟩ := goes_stepWorker alive leaving returns
      cases gone.symm.trans still
    · obtain ⟨announces, panicked⟩ := Classical.not_imp.1 returns
      obtain ⟨chunk, phase⟩ := Worker.of_announces announces
      exact ⟨chunk, phase, Decidable.of_not_not panicked⟩

/-! ## Failures that pass -/

theorem receive_of_transient (alive : server.worker? index = some worker) {failure : Failure}
    (given : server.receiptOn index worker.chunk = .error failure)
    (transient : failure.isTransient = true) :
    server.receive worker = server.moveWorker index .looking := by
  obtain rfl := wire_of_worker? alive
  rw [receive]
  rw [receiptOn] at given
  cases found : server.network.wire? worker.wire with
  | none =>
      rw [found] at given
      cases given
  | some wire =>
      rw [found] at given
      dsimp only at given ⊢
      rw [given, Wire.receive_of_transient given transient, afterReceipt, if_pos transient,
        modifyNetwork, Network.modifyWire_same found]
      rfl

/-- After a failure that passes a worker looks again, and nothing else has changed but the
faults that wait. -/
theorem stepWorker_of_transient (alive : server.worker? index = some worker) {failure : Failure}
    (received : server.receipt? index worker = some (.error failure))
    (transient : failure.isTransient = true) (delivery : Delivery) :
    ∃ faults, server.stepWorker (.answering delivery) worker =
      (server.withNetwork { server.network with faults }).moveWorker index .looking := by
  obtain rfl := wire_of_worker? alive
  obtain ⟨faults, moved | ⟨found, moved⟩⟩ :=
    (server.workerStep delivery worker).of_received received
  · rw [moved, afterReceipt, if_pos transient]
    exact ⟨faults, rfl⟩
  · have served : (server.withNetwork { server.network with faults }).worker? worker.wire =
        some worker := alive
    rw [moved, receive_of_transient served found transient]
    exact ⟨faults, rfl⟩

/-! ## What ends a worker -/

/-- What a worker can find at its next step that ends it. -/
inductive Finds (server : Server) (index : Nat) (worker : Worker) : Prop
  /-- Its stream has ended. -/
  | streamEnd (received : server.receipt? index worker = some (.ok []))
  /-- Its receive fails, and not for a moment only. -/
  | failure (failure : Failure) (received : server.receipt? index worker = some (.error failure))
      (lasting : failure.isTransient = false)
  /-- The server does not run when it looks, before a receive or after it queued a chunk. -/
  | down (down : server.running = false)
      (looks : worker.phase = .looking ∨ ∃ chunk, worker.phase = .confirming chunk)

theorem quiet_of_received {receipt : Receipt}
    (received : server.receipt? index worker = some receipt) : worker.announces = false := by
  rw [Worker.announces]
  rcases phase_of_received received with phase | phase <;> rw [phase]

/-- What a worker receives is no more than it takes at once. -/
theorem length_of_received {bytes : Bytes}
    (received : server.receipt? index worker = some (.ok bytes)) :
    bytes.length ≤ worker.chunk := by
  have given := receiptOn_of_received received
  rw [receiptOn] at given
  split at given
  · cases given
    exact Nat.zero_le worker.chunk
  · exact Client.length_le_of_wire_receive given

/-- A worker that finds what ends it turns to its end. -/
theorem Finds.leaving (finds : server.Finds index worker)
    (alive : server.worker? index = some worker) (delivery : Delivery) :
    (server.stepWorker (.answering delivery) worker).worker? index =
      some { worker with phase := .leaving } := by
  have turned (quiet : worker.announces = false)
      (shows : ((server.sight index).react
        (.served (server.receipt? index worker))).1.phase = some .leaving) :
      (server.stepWorker (.answering delivery) worker).worker? index =
        some { worker with phase := .leaving } := by
    have returns : worker.announces = true → delivery ≠ .panicked :=
      fun announces => nomatch quiet.symm.trans announces
    have shown := congrArg Sight.phase (sight_stepWorker index alive returns)
    rw [if_pos rfl, shows] at shown
    obtain ⟨after, still, phase⟩ := Option.map_eq_some_iff.1 shown
    have same := same_of_still alive still
    rw [phase] at same
    rw [still, same]
  cases finds with
  | streamEnd received =>
      rw [received] at turned
      exact turned (quiet_of_received received) rfl
  | failure failure received lasting =>
      rw [received] at turned
      refine turned (quiet_of_received received) ?_
      rw [Sight.react, afterReceipt, if_neg (Bool.eq_false_iff.1 lasting)]
  | down down looks =>
      have idle : server.receipt? index worker = none := by
        rw [receipt?]
        rcases looks with phase | ⟨chunk, phase⟩ <;> rw [phase]
      have quiet : worker.announces = false := by
        rw [Worker.announces]
        rcases looks with phase | ⟨chunk, phase⟩ <;> rw [phase]
      refine turned quiet ?_
      have stopped : (server.sight index).running = false := down
      rw [idle, Sight.react, phase_of_alive alive]
      rcases looks with phase | ⟨chunk, phase⟩
      · rw [phase]
        exact congrArg some (if_neg (Bool.eq_false_iff.1 stopped))
      · rw [phase]
        exact congrArg some (if_neg (Bool.eq_false_iff.1 stopped))

/-- While the server does not run each step brings a worker nearer to its end, unless it
waits for something to receive. -/
theorem nearer_of_down (alive : server.worker? index = some worker)
    (down : server.running = false) {delivery : Delivery} {after : Worker}
    (still : (server.stepWorker (.answering delivery) worker).worker? index = some after) :
    after.phase = .waiting ∨ after.phase.toGo < worker.phase.toGo := by
  have goes := goes_of_still alive still
  generalize after.phase = next at goes ⊢
  cases goes with
  | looks phase | confirms chunk phase =>
      right
      rw [phase, if_neg (Bool.eq_false_iff.1 down)]
      simp [Worker.Phase.toGo]
  | waits => exact Or.inl rfl
  | receives receipt received =>
      right
      have four : worker.phase.toGo = 4 := by
        rcases phase_of_received received with phase | phase <;> rw [phase] <;> rfl
      rw [four]
      cases receipt with
      | ok bytes => cases bytes <;> simp [afterReceipt, Worker.Phase.toGo]
      | error failure =>
          rw [afterReceipt]
          split <;> simp [Worker.Phase.toGo]
  | queues chunk phase | tells chunk phase =>
      right
      rw [phase]
      simp [Worker.Phase.toGo]

/-- The worker on a wire has left: it is gone, its peer is closed for good if it is still
tracked, the wire is shut down, and nobody else was concerned. -/
structure Closes (server : Server) (index : Nat) (later : Server) : Prop where
  gone : later.worker? index = none
  closed : later.session? index = (server.session? index).map closedPeer
  shut : later.network.wire? index = (server.network.wire? index).map Wire.shutNear
  spares : server.Spares index later

/-- A worker that leaves closes its peer. -/
theorem closes_of_leaving (alive : server.worker? index = some worker)
    (leaving : worker.phase = .leaving) (delivery : Delivery) :
    server.Closes index (server.stepWorker (.answering delivery) worker) := by
  have spares := (server.workerStep delivery worker).spares
  have gone := gone_of_leaving alive leaving delivery
  obtain rfl := wire_of_worker? alive
  have left : server.stepWorker (.answering delivery) worker = server.leave worker := by
    rw [stepWorker, leaving]
  have after : (server.leave worker).connection .resting none .blank worker.wire = _ :=
    connection_endWorker _ _ _ _ worker.wire worker.wire
  rw [if_pos rfl, connection_shutWire, if_pos rfl, connection_closeSession, if_pos rfl] at after
  rw [left] at spares gone ⊢
  exact ⟨gone, congrArg Connection.session after, congrArg Connection.wire after, spares⟩

/-! ## All of it -/

/-- A worker that queues puts its chunk into the inbox of its peer. -/
theorem session_of_queueing (alive : server.worker? index = some worker) {chunk : Bytes}
    (phase : worker.phase = .queueing chunk) (delivery : Delivery) :
    (server.stepWorker (.answering delivery) worker).session? index =
      (server.session? index).map (pushedPeer chunk) := by
  obtain rfl := wire_of_worker? alive
  have stepped : server.stepWorker (.answering delivery) worker =
      (server.pushSession worker.wire chunk).moveWorker worker.wire (.confirming chunk) := by
    rw [stepWorker, phase]
  have moved := connection_moveWorker (server.pushSession worker.wire chunk) .resting none .blank
    worker.wire worker.wire (.confirming chunk)
  rw [if_pos rfl, connection_pushSession, if_pos rfl] at moved
  rw [stepped]
  exact congrArg Connection.session moved

/-- A worker that announces calls the data callback with its chunk, and with that alone. -/
theorem reports_of_announcing {chunk : Bytes} {reaction : Reaction}
    (phase : worker.phase = .announcing chunk) (attended : server.onData = some reaction) :
    ∃ answer later, (server.stepWorker .live worker).reports =
      server.reports ++ .received chunk worker.id reaction answer :: later := by
  have stepped : server.stepWorker .live worker = server.announce .live worker chunk := by
    rw [stepWorker, phase]
  let called := server.amid server.reports (some (.worker worker.wire))
  have installed : called.onData = some reaction := attended
  have dispatched : Framelink.Server.dispatchData called worker.id chunk =
      Framelink.Server.callBack called worker.id chunk reaction
        (.received chunk worker.id reaction) := by
    rw [Framelink.Server.dispatchData, installed]
  have reports := server.reports_announce .live worker chunk
  rw [stepped, reports]
  exact ⟨_, _, congrArg (fun outcome => outcome.2.reports) dispatched⟩

/-- What the next step of the worker on a wire comes to. -/
structure Conduct (server : Server) (index : Nat) (worker : Worker) : Prop where
  /-- It appends the chunk that it queues to the inbox of its peer. -/
  queues : ∀ chunk, worker.phase = .queueing chunk → ∀ delivery,
    (server.step (.answering delivery) (.worker index)).session? index =
      (server.session? index).map (pushedPeer chunk)
  /-- It calls the data callback with the chunk that it announces, whatever the inbox
  holds. -/
  tells : ∀ chunk reaction, worker.phase = .announcing chunk → server.onData = some reaction →
    ∃ answer later, (server.step .live (.worker index)).reports =
      server.reports ++ .received chunk worker.id reaction answer :: later
  /-- It calls back at no other time. -/
  quiet : worker.announces = false →
    (server.step .live (.worker index)).reports = server.reports
  /-- A failure that passes makes it look again, and does nothing else. -/
  passes : ∀ failure, server.receipt? index worker = some (.error failure) →
    failure.isTransient = true → ∀ delivery, ∃ faults,
      server.step (.answering delivery) (.worker index) =
        (server.withNetwork { server.network with faults }).moveWorker index .looking
  /-- What ends it turns it to its end. -/
  ends : server.Finds index worker → ∀ delivery,
    (server.step (.answering delivery) (.worker index)).worker? index =
      some { worker with phase := .leaving }
  /-- While the server does not run it comes nearer to its end, or waits. -/
  nears : server.running = false → ∀ delivery after,
    (server.step (.answering delivery) (.worker index)).worker? index = some after →
      after.phase = .waiting ∨ after.phase.toGo < worker.phase.toGo
  /-- At its end it closes its peer. -/
  closes : worker.phase = .leaving → ∀ delivery,
    server.Closes index (server.step (.answering delivery) (.worker index))
  /-- Nobody else is concerned. -/
  spares : ∀ delivery, server.Spares index (server.step (.answering delivery) (.worker index))

theorem conduct (alive : server.worker? index = some worker) : server.Conduct index worker := by
  have steps (callbacks : Callbacks) := server.step_worker callbacks alive
  constructor
  · intro chunk phase delivery
    rw [steps]
    exact session_of_queueing alive phase delivery
  · intro chunk reaction phase attended
    rw [steps]
    exact reports_of_announcing phase attended
  · intro quiet
    rw [steps]
    exact reports_stepWorker .live quiet
  · intro failure received transient delivery
    rw [steps]
    exact stepWorker_of_transient alive received transient delivery
  · intro finds delivery
    rw [steps]
    exact finds.leaving alive delivery
  · intro down delivery after still
    rw [steps] at still
    exact nearer_of_down alive down still
  · intro leaving delivery
    rw [steps]
    exact closes_of_leaving alive leaving delivery
  · intro delivery
    rw [steps, ← wire_of_worker? alive]
    exact (server.workerStep delivery worker).spares

end Server
end Tcp
end Framelink
