import Framelink.Proofs.Tcp.Execution
import Framelink.Proofs.Tcp.Stopping

/-!
# A stop that returns is a run

A stop joins thread after thread, and each of them goes on alone until it has ended.  If
every join comes to its end, the stop is a row of moves: its own, and between them the
steps of the threads that it joins.
-/

namespace Framelink
namespace Tcp

namespace Server

variable {reports : List (Report UInt64)} {caller : Option Thread}

/-! ## Joining -/

/-- Join the acceptors. -/
def joinAcceptors (server : Server) : Server :=
  (server.service.acceptors.map fun acceptor => Thread.acceptor acceptor.port).foldl join server

/-- Take the handles of the workers of tracked peers, and join them. -/
def joinTracked (server : Server) : Server :=
  (server.trackedWires.foldl collect server).joinAwaited

/-- Take the handles that were kept for joining, and join them. -/
def joinRemoved (server : Server) : Server := server.drain.joinAwaited

theorem windDown_eq (server : Server) :
    server.windDown =
      server.joinAcceptors.joinTracked.joinRemoved.passHandles .awaited .lost := rfl

/-- Every join of a stop comes to its end. -/
structure JoinsReturn (server : Server) : Prop where
  acceptors : server.joinAcceptors.service.acceptors = []
  tracked : server.joinAcceptors.joinTracked.workersIn .awaited = []
  removed : server.joinAcceptors.joinTracked.joinRemoved.workersIn .awaited = []
  none : server.joinAcceptors.joinTracked.joinRemoved.workersIn .detached = []

/-- Let threads go on until they have ended, one after the other. -/
def finishEach (threads : List Thread) (server : Server) : Server :=
  threads.foldl (fun server thread => finish thread farewell server) server

/-- A thread that has ended goes on no more. -/
theorem finish_succ (thread : Thread) (fuel : Nat) (server : Server) :
    finish thread (fuel + 1) server = finish thread fuel (server.step .silent thread) := by
  have gone : server.isAlive thread = false → server.step .silent thread = server := by
    intro gone
    cases thread with
    | acceptor port => exact step_no_acceptor _ _ (by simpa [isAlive] using gone)
    | worker wire => exact step_no_worker _ _ (by simpa [isAlive] using gone)
  rw [finish]
  cases alive : server.isAlive thread with
  | true => rfl
  | false =>
      rw [gone alive]
      cases fuel with
      | zero => rfl
      | succ fuel =>
          rw [finish, alive]
          rfl

theorem finish_amid (thread : Thread) (fuel : Nat) (server : Server) :
    finish thread fuel (server.amid reports caller) =
      (finish thread fuel server).amid reports caller := by
  induction fuel generalizing server with
  | zero => rfl
  | succ fuel inductionHypothesis =>
      rw [finish_succ, finish_succ, ← inductionHypothesis]
      exact congrArg (finish thread fuel) (step_amid .unheard server thread)

theorem bearing_finish (thread : Thread) (fuel : Nat) (server : Server) :
    (finish thread fuel server).bearing = server.bearing := by
  induction fuel generalizing server with
  | zero => rfl
  | succ fuel inductionHypothesis =>
      rw [finish_succ, inductionHypothesis]
      exact bearing_step .unheard server thread

theorem bearing_finishEach (threads : List Thread) (server : Server) :
    (finishEach threads server).bearing = server.bearing := by
  unfold finishEach
  induction threads generalizing server with
  | nil => rfl
  | cons thread threads inductionHypothesis =>
      rw [List.foldl_cons, inductionHypothesis, bearing_finish]

/-- A call that is not made by a service thread waits for every thread that it joins. -/
theorem foldl_join_amid (threads : List Thread) (server : Server) :
    threads.foldl join (server.amid reports none) =
      (finishEach threads server).amid reports none := by
  unfold finishEach
  induction threads generalizing server with
  | nil => rfl
  | cons thread threads inductionHypothesis =>
      have joined : (server.amid reports none).join thread =
          (finish thread farewell server).amid reports none := by
        rw [← finish_amid]
        rfl
      rw [List.foldl_cons, List.foldl_cons, joined, inductionHypothesis]

theorem foldl_collect_amid (wires : List Nat) (server : Server) :
    wires.foldl collect (server.amid reports caller) =
      (wires.foldl collect server).amid reports caller := by
  induction wires generalizing server with
  | nil => rfl
  | cons wire wires inductionHypothesis =>
      rw [List.foldl_cons, List.foldl_cons, ← inductionHypothesis]
      rfl

theorem bearing_foldl_collect (wires : List Nat) (server : Server) :
    (wires.foldl collect server).bearing = server.bearing := by
  induction wires generalizing server with
  | nil => rfl
  | cons wire wires inductionHypothesis =>
      rw [List.foldl_cons, inductionHypothesis]
      rfl

/-- Where no handle is in a place, none is passed on from there. -/
theorem passHandles_of_none {server : Server} {source : Custody}
    (none : server.workersIn source = []) (target : Custody) :
    server.passHandles source target = server := by
  have same : server.service.workers.map (fun worker =>
      if worker.custody = source then { worker with custody := target } else worker) =
        server.service.workers := by
    refine (List.map_congr_left fun worker member => ?_).trans (List.map_id _)
    rw [if_neg ((Situation.workersIn_eq_nil_iff server source).1 none worker member)]
    rfl
  unfold passHandles
  rw [same]

theorem joinAcceptors_amid (server : Server) :
    (server.amid reports none).joinAcceptors =
      (finishEach (server.service.acceptors.map fun acceptor => Thread.acceptor acceptor.port)
        server).amid reports none :=
  foldl_join_amid _ server

theorem joinTracked_amid (server : Server) :
    (server.amid reports none).joinTracked =
      (let collected := server.trackedWires.foldl collect server
       finishEach (collected.workersIn .awaited) collected).amid reports none := by
  unfold joinTracked
  rw [show (server.amid reports none).trackedWires = server.trackedWires from rfl,
    foldl_collect_amid]
  exact foldl_join_amid _ _

theorem joinRemoved_amid (server : Server) :
    (server.amid reports none).joinRemoved =
      (finishEach (server.drain.workersIn .awaited) server.drain).amid reports none :=
  foldl_join_amid (server.drain.workersIn .awaited) server.drain

end Server

namespace Situation

variable {situation : Situation} {server : Server}

/-! ## Moves of a stop -/

/-- Some moves lead to a server and to a point of a call that starts or stops it, and
change nothing else but records. -/
def Brings (situation : Situation) (server : Server) (control : Control Stopping) : Prop :=
  ∃ moves record, situation.run moves = { situation with server, control, record }

theorem Brings.next {later : Server} {control further : Control Stopping}
    (brings : situation.Brings server control)
    (second : ∀ record, Brings { situation with server, control, record } later further) :
    situation.Brings later further := by
  obtain ⟨early, record, made⟩ := brings
  obtain ⟨late, after, reached⟩ := second record
  refine ⟨early ++ late, after, ?_⟩
  rw [run_append, made, reached]

/-- One move leads to a server and to a point of a call. -/
theorem Brings.move {later : Server} {control further : Control Stopping}
    (brings : situation.Brings server control) (move : Move)
    (made : ∀ record, ∃ after, Situation.after { situation with server, control, record } move =
      { situation with server := later, control := further, record := after }) :
    situation.Brings later further :=
  brings.next fun record => ⟨[move], made record⟩

theorem Brings.finish {control : Control Stopping} (brings : situation.Brings server control)
    (thread : Thread) (fuel : Nat) :
    situation.Brings (Server.finish thread fuel server) control := by
  induction fuel generalizing server with
  | zero => exact brings
  | succ fuel inductionHypothesis =>
      rw [Server.finish_succ]
      exact inductionHypothesis (brings.move (.step thread .unheard) fun record => step_eq _ _ _)

theorem Brings.finishEach {control : Control Stopping} (brings : situation.Brings server control)
    (threads : List Thread) : situation.Brings (Server.finishEach threads server) control := by
  unfold Server.finishEach
  induction threads generalizing server with
  | nil => exact brings
  | cons thread threads inductionHypothesis =>
      exact inductionHypothesis (brings.finish thread Server.farewell)

/-- A stop that finds no acceptor takes handles. -/
theorem Brings.awaitingAcceptor
    (brings : situation.Brings server (.stopping .awaitingAcceptor))
    (gone : server.service.acceptors = []) :
    situation.Brings server (.stopping (.collecting server.trackedWires)) := by
  refine brings.move .advance fun record => ⟨record, ?_⟩
  dsimp only [after, advance]
  rw [if_pos gone]

theorem Brings.collecting {wires : List Nat}
    (brings : situation.Brings server (.stopping (.collecting wires))) :
    situation.Brings (wires.foldl Server.collect server) (.stopping .awaitingWorkers) := by
  induction wires generalizing server with
  | nil => exact brings.move .advance fun record => ⟨record, rfl⟩
  | cons wire wires inductionHypothesis =>
      exact inductionHypothesis (brings.move .advance fun record => ⟨record, rfl⟩)

/-- A stop whose joins have returned takes handles that were kept for joining. -/
theorem Brings.drain (brings : situation.Brings server (.stopping .awaitingWorkers))
    (joined : server.workersIn .awaited = []) (found : server.workersIn .detached ≠ []) :
    situation.Brings server.drain (.stopping .awaitingWorkers) := by
  refine brings.move .advance fun record => ⟨record, ?_⟩
  dsimp only [after, advance]
  unfold joinWorkers
  rw [if_pos joined, if_neg found]

/-- A stop that finds no more handles is about to return. -/
theorem Brings.closing (brings : situation.Brings server (.stopping .awaitingWorkers))
    (joined : server.workersIn .awaited = []) (none : server.workersIn .detached = []) :
    situation.Brings server (.stopping .closing) := by
  refine brings.move .advance fun record => ?_
  dsimp only [after, advance]
  exact ⟨_, joinWorkers_found joined none⟩

/-- A stop that looks for handles that were kept for joining joins what it finds, and is
about to return. -/
theorem Brings.joinRemoved (brings : situation.Brings server (.stopping .awaitingWorkers))
    {cleared : Server}
    (ended : Server.finishEach (server.drain.workersIn .awaited) server.drain = cleared)
    (joined : server.workersIn .awaited = []) (left : cleared.workersIn .awaited = [])
    (none : cleared.workersIn .detached = []) :
    situation.Brings cleared (.stopping .closing) := by
  by_cases empty : server.workersIn .detached = []
  · have same : server.drain = server := Server.passHandles_of_none empty _
    rw [same, joined] at ended
    subst ended
    exact brings.closing joined empty
  · subst ended
    exact ((brings.drain joined empty).finishEach _).closing left none

/-- The joins of a stop that is not made by a service thread are moves of the stop and
steps of the threads that it joins. -/
theorem brings_windDown (idle : situation.control = .idle)
    (running : situation.server.running = true) {reports : List (Report UInt64)}
    (joins : Server.JoinsReturn
      (Server.amid { situation.server with running := false } reports none)) :
    ∃ later : Server, situation.Brings later (.stopping .closing) ∧
      (Server.amid { situation.server with running := false } reports none).windDown =
        later.amid reports none ∧
      later.spared = situation.server.spared := by
  have begun : situation.Brings { situation.server with running := false }
      (.stopping .awaitingAcceptor) := by
    refine ⟨[.stop], situation.record, ?_⟩
    change situation.governedBy (situation.governed.stop .awaitingAcceptor) = _
    rw [Governed.stop_of_running idle running]
    rfl
  have sparing : Framelink.Server.spared { situation.server with running := false } =
      situation.server.spared := rfl
  generalize { situation.server with running := false } = down at *
  obtain ⟨gone, joined, left, none⟩ := joins
  rw [Server.windDown_eq]
  rw [Server.joinAcceptors_amid] at *
  have dismissal := begun.finishEach
    (down.service.acceptors.map fun acceptor => Thread.acceptor acceptor.port)
  have early := Server.bearing_finishEach
    (down.service.acceptors.map fun acceptor => Thread.acceptor acceptor.port) down
  generalize Server.finishEach
    (down.service.acceptors.map fun acceptor => Thread.acceptor acceptor.port) down =
      dismissed at *
  rw [Server.joinTracked_amid] at *
  have collection := (dismissal.awaitingAcceptor gone).collecting
  have middle := Server.bearing_foldl_collect dismissed.trackedWires dismissed
  generalize dismissed.trackedWires.foldl Server.collect dismissed = collected at *
  have quiet := collection.finishEach (collected.workersIn .awaited)
  have late := Server.bearing_finishEach (collected.workersIn .awaited) collected
  generalize Server.finishEach (collected.workersIn .awaited) collected = quieted at *
  rw [Server.joinRemoved_amid] at *
  have last := Server.bearing_finishEach (quieted.drain.workersIn .awaited) quieted.drain
  generalize ended : Server.finishEach (quieted.drain.workersIn .awaited) quieted.drain =
    cleared at *
  have wound := Server.passHandles_of_none left .lost
  refine ⟨cleared, quiet.joinRemoved ended joined left none, wound, ?_⟩
  have same : cleared.bearing = Server.bearing down :=
    last.trans (late.trans (middle.trans early))
  exact (Server.spared_of_bearing same).trans sparing

/-- A stop that is not made by a service thread and returns is a run. -/
theorem Shows.stop (shows : situation.Shows server) (outside : server.service.caller = none)
    (joins : Server.JoinsReturn { server with running := false }) :
    ∃ moves, (situation.run moves).Shows (Framelink.Server.stop server) := by
  obtain ⟨reports, caller, rfl⟩ := shows.server
  cases outside
  cases running : situation.server.running with
  | false =>
      have down : (situation.server.amid reports none).running = false := running
      rw [Framelink.Server.stop_of_down down]
      exact ⟨[], shows⟩
  | true =>
      have up : (situation.server.amid reports none).running = true := running
      obtain ⟨later, ⟨moves, record, made⟩, wound, spared⟩ :=
        brings_windDown shows.idle running joins
      have stopped : Framelink.Server.stop (situation.server.amid reports none) =
          Server.amid { later with localAddress := none } reports none := by
        unfold Framelink.Server.stop
        rw [if_pos up]
        exact congrArg (fun server : Server => { server with localAddress := none }) wound
      refine ⟨moves ++ [.advance], ?_⟩
      rw [run_append, made, stopped]
      refine ⟨⟨reports, none, rfl⟩, rfl, shows.removals, ?_⟩
      exact spared.trans shows.spared

end Situation
end Tcp
end Framelink
