import Framelink.Proofs.Tcp.Steps

/-!
# In the middle of a call back

A server keeps reports for whoever watches it, and the thread that is calling back for
a stop that might come from there.  Nothing but a stop looks at either, so a server in
the middle of a call back does all else as it would outside.
-/

namespace Framelink
namespace Tcp

/-- Whether the next step of an acceptor is the end of its call of the new-peer callback. -/
def Acceptor.announces (acceptor : Acceptor) : Bool :=
  match acceptor.phase with
  | .greeting _ _ => true
  | _ => false

/-- An acceptor that announces is greeting a peer. -/
theorem Acceptor.of_announces {acceptor : Acceptor} (announces : acceptor.announces = true) :
    ∃ id admission, acceptor.phase = .greeting id admission := by
  unfold Acceptor.announces at announces
  split at announces
  · next id admission phase => exact ⟨id, admission, phase⟩
  · cases announces

/-- A worker that announces holds what it announces. -/
theorem Worker.of_announces {worker : Worker} (announces : worker.announces = true) :
    ∃ chunk, worker.phase = .announcing chunk := by
  unfold Worker.announces at announces
  split at announces
  · next chunk phase => exact ⟨chunk, phase⟩
  · cases announces

namespace Server

/-- A server with other reports and another caller. -/
def amid (server : Server) (reports : List (Report UInt64)) (caller : Option Thread) : Server :=
  { server with reports, service := { server.service with caller } }

variable {reports : List (Report UInt64)} {caller : Option Thread}

@[simp] theorem network_amid (server : Server) :
    (server.amid reports caller).network = server.network := rfl

@[simp] theorem peer?_amid (server : Server) (id : UInt64) :
    Framelink.Server.peer? (server.amid reports caller) id =
      Framelink.Server.peer? server id := rfl

/-! ## What the application asks for -/

theorem read_amid (server : Server) (id : UInt64) (size : Nat) (erase : Bool) :
    ((server.amid reports caller).read id size erase).2 =
      amid (server.read id size erase).2 reports caller := by
  unfold Framelink.Server.read Framelink.Server.require
  rw [peer?_amid]
  cases Framelink.Server.peer? server id with
  | none => rfl
  | some peer => rfl

theorem clear_amid (server : Server) (id : UInt64) :
    ((server.amid reports caller).clear id).2 = amid (server.clear id).2 reports caller := by
  unfold Framelink.Server.clear Framelink.Server.require
  rw [peer?_amid]
  cases Framelink.Server.peer? server id with
  | none => rfl
  | some peer => rfl

theorem forsake_amid (server : Server) (wire : Nat) :
    (server.amid reports caller).forsake wire = (server.forsake wire).amid reports caller :=
  (apply_ite (amid · reports caller) _ server (server.dropWire wire)).symm

theorem remove_amid (server : Server) (id : UInt64) :
    ((server.amid reports caller).remove id).2 = amid (server.remove id).2 reports caller := by
  unfold Framelink.Server.remove
  rw [peer?_amid]
  cases Framelink.Server.peer? server id with
  | none => rfl
  | some peer =>
      let untracked : Server := server.untrack id
      exact forsake_amid ((untracked.seize peer.line.wire).detach peer.line.wire) peer.line.wire

theorem transmit_amid (server : Server) (id : UInt64) (bytes : Bytes) :
    (Framelink.Server.transmit (server.amid reports caller) id bytes).2 =
      amid (Framelink.Server.transmit server id bytes).2 reports caller := by
  unfold Framelink.Server.transmit Framelink.Server.sendTracked
  rw [peer?_amid]
  cases Framelink.Server.peer? server id with
  | none => rfl
  | some peer =>
      dsimp only [Serving.transmit, transmit]
      split <;> rfl

theorem sendToEach_amid (bytes : Bytes) (peers : PeerTable UInt64 Line) (server : Server) :
    Framelink.Server.sendToEach transmit bytes (server.amid reports caller) peers =
      amid (Framelink.Server.sendToEach transmit bytes server peers) reports caller := by
  unfold Framelink.Server.sendToEach
  induction peers generalizing server with
  | nil => rfl
  | cons entry peers inductionHypothesis =>
      obtain ⟨id, peer⟩ := entry
      rw [List.foldl_cons, List.foldl_cons, ← inductionHypothesis]
      dsimp only
      split
      · unfold transmit
        split <;> rfl
      · rfl

theorem listen_amid (server : Server) :
    (server.amid reports caller).listen =
      server.listen.map (fun result => result) (amid · reports caller) := by
  unfold listen
  dsimp only [amid, network]
  generalize bind server.service.network server.settings.socketAddress = bound
  obtain ⟨address | failure, network⟩ := bound
  · rfl
  · dsimp only
    generalize network.attemptAll serveCalls = served
    obtain ⟨served | failure, network⟩ := served <;> rfl

theorem setUp_amid (server : Server) :
    (Framelink.Server.setUp (server.amid reports caller)).2 =
      amid (Framelink.Server.setUp server).2 reports caller := by
  unfold Framelink.Server.setUp
  rw [show Serving.listen (server.amid reports caller) = _ from listen_amid server,
    show Serving.listen server = server.listen from rfl]
  obtain ⟨failure | address, later⟩ := server.listen <;> rfl

theorem start_amid (server : Server) :
    (Framelink.Server.start (server.amid reports caller)).2 =
      amid (Framelink.Server.start server).2 reports caller := by
  cases running : server.running with
  | true =>
      have same : (server.amid reports caller).running = true := running
      rw [Framelink.Server.start_of_running running, Framelink.Server.start_of_running same]
  | false =>
      have same : (server.amid reports caller).running = false := running
      rw [Framelink.Server.start_of_down running, Framelink.Server.start_of_down same]
      exact @setUp_amid reports caller { server with running := true }

/-! ## What service threads do -/

theorem accept_amid (server : Server) (port : UInt16) :
    (server.amid reports caller).accept port = (server.accept port).amid reports caller := by
  unfold accept
  rw [network_amid]
  generalize server.network.consult .accept = consulted
  obtain ⟨fault | fault, network⟩ := consulted
  · dsimp only
    generalize network.takeWaiting port = taken
    obtain ⟨wire | wire, network⟩ := taken <;> rfl
  · dsimp only
    split <;> rfl

theorem configure_amid (server : Server) (port : UInt16) (admission : Admission) :
    (server.amid reports caller).configure port admission =
      (server.configure port admission).amid reports caller := by
  unfold configure
  rw [network_amid]
  generalize server.network.attemptAll (setUpCalls admission) = attempted
  obtain ⟨failure | done, network⟩ := attempted <;> rfl

theorem register_amid (server : Server) (port : UInt16) (admission : Admission) :
    (server.amid reports caller).register port admission =
      (server.register port admission).amid reports caller := by
  unfold register
  dsimp only
  rw [peer?_amid, show (server.amid reports caller).service.nextId = server.service.nextId from rfl]
  cases Framelink.Server.peer? server server.service.nextId with
  | none => rfl
  | some replaced =>
      let tracked : Server :=
        server.track server.service.nextId
          (freshPeer (server.farAddress admission.wire) admission.wire)
      let counted : Server :=
        { tracked with service := { tracked.service with nextId := server.service.nextId + 1 } }
      have forsaken := @forsake_amid reports caller counted replaced.line.wire
      exact congrArg (moveAcceptor · port (.greeting server.service.nextId admission)) forsaken

theorem spawn_amid (server : Server) (port : UInt16) (id : UInt64) (admission : Admission) :
    (server.amid reports caller).spawn port id admission =
      (server.spawn port id admission).amid reports caller := by
  unfold spawn
  rw [network_amid]
  generalize server.network.attempt .thread = attempted
  obtain ⟨failure | done, network⟩ := attempted <;> rfl

theorem receive_amid (server : Server) (worker : Worker) :
    (server.amid reports caller).receive worker =
      (server.receive worker).amid reports caller := by
  unfold receive
  rw [network_amid]
  cases server.network.wire? worker.wire <;> rfl

theorem beginReceive_amid (server : Server) (worker : Worker) :
    (server.amid reports caller).beginReceive worker =
      (server.beginReceive worker).amid reports caller := by
  unfold beginReceive
  rw [network_amid]
  generalize server.network.consult .receive = consulted
  obtain ⟨fault | fault, network⟩ := consulted
  · dsimp only
    rw [apply_ite (amid · reports caller), ← receive_amid]
    rfl
  · rfl

/-- A worker that does not call back does the same whoever would be called. -/
theorem stepWorker_amid (callbacks : Callbacks) (delivery : Delivery) (server : Server)
    {worker : Worker} (quiet : worker.announces = false) :
    (server.amid reports caller).stepWorker callbacks worker =
      (server.stepWorker (.answering delivery) worker).amid reports caller := by
  unfold Worker.announces at quiet
  unfold stepWorker
  cases phase : worker.phase with
  | looking => rfl
  | receiving => exact beginReceive_amid server worker
  | waiting =>
      dsimp only
      rw [apply_ite (amid · reports caller), ← receive_amid]
      rfl
  | queueing chunk => rfl
  | confirming chunk => rfl
  | announcing chunk =>
      rw [phase] at quiet
      cases quiet
  | leaving => rfl

/-- An acceptor that does not call back does the same whoever would be called. -/
theorem stepAcceptor_amid (callbacks : Callbacks) (delivery : Delivery) (server : Server)
    {acceptor : Acceptor} (quiet : acceptor.announces = false) :
    (server.amid reports caller).stepAcceptor callbacks acceptor =
      (server.stepAcceptor (.answering delivery) acceptor).amid reports caller := by
  unfold Acceptor.announces at quiet
  unfold stepAcceptor
  cases phase : acceptor.phase with
  | looking =>
      dsimp only
      rw [apply_ite (amid · reports caller)]
      rfl
  | accepting => exact accept_amid server acceptor.port
  | configuring admission => exact configure_amid server acceptor.port admission
  | registering admission => exact register_amid server acceptor.port admission
  | greeting id admission =>
      rw [phase] at quiet
      cases quiet
  | spawning id admission => exact spawn_amid server acceptor.port id admission
  | storing wire => rfl

/-! ## Calling back -/

theorem inThread_called {α : Type} {server later : Server} {thread : Thread} {result : α}
    {act : Server → α × Server}
    (called : act (server.amid server.reports (some thread)) = (result, later)) :
    server.inThread thread act = (result, later.amid later.reports server.service.caller) := by
  change (match act (server.amid server.reports (some thread)) with
    | (result, later) => (result, later.amid later.reports server.service.caller)) = _
  rw [called]

/-- What an acceptor does when its call has come out in some way. -/
theorem greet_called {callbacks : Callbacks} {server later : Server} {port : UInt16} {id : UInt64}
    {admission : Admission} {delivery : Delivery}
    (called : callbacks.newPeer (server.amid server.reports (some (.acceptor port))) id
      (server.farAddress admission.wire) = (delivery, later)) :
    server.greet callbacks port id admission =
      (later.amid later.reports server.service.caller).greet (.answering delivery) port id
        admission := by
  have entered : server.inThread (.acceptor port) (fun server =>
      callbacks.newPeer server id (server.farAddress admission.wire)) = (delivery, _) :=
    inThread_called called
  unfold greet
  rw [entered]
  cases delivery <;> rfl

theorem greet_amid (server : Server) (port : UInt16) (id : UInt64) (admission : Admission)
    (delivery : Delivery) :
    (server.amid reports caller).greet (.answering delivery) port id admission =
      (server.greet (.answering delivery) port id admission).amid reports caller := by
  cases delivery with
  | unheard | heard => rfl
  | panicked =>
      change endAcceptor (if server.tracksWire admission.wire then server.amid reports caller
        else (server.dropWire admission.wire).amid reports caller) port =
          (endAcceptor (if server.tracksWire admission.wire then server
            else server.dropWire admission.wire) port).amid reports caller
      split <;> rfl

/-- What a worker does when its call has come out in some way. -/
theorem announce_called {callbacks : Callbacks} {server later : Server} {worker : Worker}
    {chunk : Bytes} {delivery : Delivery}
    (called : callbacks.data (server.amid server.reports (some (.worker worker.wire))) worker.id
      chunk = (delivery, later)) :
    server.announce callbacks worker chunk =
      (later.amid later.reports server.service.caller).announce (.answering delivery) worker
        chunk := by
  have entered : server.inThread (.worker worker.wire) (fun server =>
      callbacks.data server worker.id chunk) = (delivery, _) := inThread_called called
  unfold announce
  rw [entered]
  cases delivery <;> rfl

theorem announce_amid (server : Server) (worker : Worker) (chunk : Bytes) (delivery : Delivery) :
    (server.amid reports caller).announce (.answering delivery) worker chunk =
      (server.announce (.answering delivery) worker chunk).amid reports caller := by
  cases delivery with
  | unheard | heard => rfl
  | panicked =>
      change endWorker (if server.tracksWire worker.wire then server.amid reports caller
        else (server.dropWire worker.wire).amid reports caller) worker.wire =
          (endWorker (if server.tracksWire worker.wire then server
            else server.dropWire worker.wire) worker.wire).amid reports caller
      split <;> rfl

theorem step_amid (delivery : Delivery) (server : Server) (thread : Thread) :
    (server.amid reports caller).step (.answering delivery) thread =
      (server.step (.answering delivery) thread).amid reports caller := by
  cases thread with
  | acceptor port =>
      cases here : server.acceptor? port with
      | none =>
          rw [step_no_acceptor _ _ here, step_no_acceptor _ (server.amid reports caller) here]
      | some acceptor =>
          rw [step_acceptor _ _ here, step_acceptor _ (server.amid reports caller) here]
          cases announces : acceptor.announces with
          | false => exact stepAcceptor_amid _ delivery server announces
          | true =>
              obtain ⟨id, admission, phase⟩ := Acceptor.of_announces announces
              unfold stepAcceptor
              rw [phase]
              exact greet_amid server acceptor.port id admission delivery
  | worker wire =>
      cases alive : server.worker? wire with
      | none => rw [step_no_worker _ _ alive, step_no_worker _ (server.amid reports caller) alive]
      | some worker =>
          rw [step_worker _ _ alive, step_worker _ (server.amid reports caller) alive]
          cases announces : worker.announces with
          | false => exact stepWorker_amid _ delivery server announces
          | true =>
              obtain ⟨chunk, phase⟩ := Worker.of_announces announces
              unfold stepWorker
              rw [phase]
              exact announce_amid server worker chunk delivery

end Server
end Tcp
end Framelink
