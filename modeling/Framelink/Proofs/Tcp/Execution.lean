import Framelink.Proofs.Tcp.Amid
import Framelink.Proofs.Tcp.Lifecycle

/-!
# The server that runs makes runs

A server that is told to settle lets its threads step in an order of its own, and when
a thread calls back it performs at once what the callback does.  Each of these steps is
a row of moves: those of the callback, and behind them the step of the thread.  So is
each call of the application that is more than one move.
-/

namespace Framelink
namespace Tcp

namespace Server

/-- Every thread is where it was; at most, handles of workers were passed on. -/
structure Attends (server later : Server) : Prop where
  acceptor : ∀ port acceptor, server.acceptor? port = some acceptor →
    later.acceptor? port = some acceptor
  worker : ∀ wire worker, server.worker? wire = some worker →
    ∃ custody, later.worker? wire = some { worker with custody }

theorem Attends.of_eq {server later : Server}
    (acceptors : later.service.acceptors = server.service.acceptors)
    (workers : later.service.workers = server.service.workers) : server.Attends later where
  acceptor := by
    intro port acceptor
    unfold acceptor?
    rw [acceptors]
    exact id
  worker := by
    intro wire worker alive
    unfold worker? at alive ⊢
    rw [workers]
    exact ⟨worker.custody, alive⟩

theorem Attends.trans {first second third : Server} (early : first.Attends second)
    (late : second.Attends third) : first.Attends third where
  acceptor := fun port acceptor here =>
    late.acceptor port acceptor (early.acceptor port acceptor here)
  worker := by
    intro wire worker alive
    obtain ⟨custody, still⟩ := early.worker wire worker alive
    exact late.worker wire { worker with custody } still

theorem attends_passHandle (server : Server) (wire : Nat) (source target : Custody) :
    server.Attends (server.passHandle wire source target) where
  acceptor := fun _ _ => id
  worker := by
    intro other worker alive
    have found := server.worker?_modifyWorker other wire _ (Worker.wire_pass source target)
    rw [alive] at found
    refine ⟨if other = wire ∧ worker.custody = source then target else worker.custody, ?_⟩
    rw [show (server.passHandle wire source target).worker? other = _ from found]
    by_cases same : other = wire
    · rw [if_pos same]
      unfold Worker.pass
      by_cases held : worker.custody = source
      · simp [same, held]
      · simp [held]
    · simp [same]

theorem attends_forsake (server : Server) (wire : Nat) : server.Attends (server.forsake wire) := by
  unfold forsake
  split
  · exact .of_eq rfl rfl
  · exact .of_eq rfl rfl

theorem attends_release (server : Server) (id : UInt64) (peer : Peer Line) :
    server.Attends (release id peer server) :=
  ((server.attends_passHandle _ _ _).trans (attends_passHandle _ _ _ _)).trans
    (attends_forsake _ _)

/-- Nothing changed but peers and the network. -/
def Touches (server later : Server) : Prop :=
  ∃ peers network, later = { server with peers, service := { server.service with network } }

theorem touches_read (server : Server) (id : UInt64) (size : Nat) (erase : Bool) :
    server.Touches (Framelink.Server.read server id size erase).2 := by
  unfold Framelink.Server.read
  split
  · exact ⟨_, _, rfl⟩
  · exact ⟨_, _, rfl⟩

theorem touches_clear (server : Server) (id : UInt64) :
    server.Touches (Framelink.Server.clear server id).2 := by
  unfold Framelink.Server.clear
  split
  · exact ⟨_, _, rfl⟩
  · exact ⟨_, _, rfl⟩

theorem touches_transmit (server : Server) (id : UInt64) (bytes : Bytes) :
    server.Touches (Framelink.Server.transmit server id bytes).2 := by
  unfold Framelink.Server.transmit Framelink.Server.sendTracked
  split
  · exact ⟨_, _, rfl⟩
  · next peer _ =>
      obtain ⟨network, _, sent⟩ := sends_transmit id peer bytes server
      exact ⟨server.peers, network, sent⟩

theorem touches_sendToEach (bytes : Bytes) (peers : PeerTable UInt64 Line) (server : Server) :
    server.Touches (Framelink.Server.sendToEach transmit bytes server peers) := by
  obtain ⟨network, _, sent⟩ := sends_sendToEach bytes peers server
  exact ⟨server.peers, network, sent⟩

theorem spared_of_bearing {server later : Server} (same : later.bearing = server.bearing) :
    later.spared = server.spared := by
  have callbacks : (later.onData, later.onNewPeer) = (server.onData, server.onNewPeer) :=
    congrArg Prod.snd same
  obtain ⟨onData, onNewPeer⟩ := Prod.mk.inj callbacks
  unfold Framelink.Server.spared
  rw [onData, onNewPeer]

theorem attends_admitAt (server : Server) (address : SocketAddress) :
    server.Attends (server.admitAt address) where
  acceptor := by
    intro port acceptor here
    unfold acceptor? admitAt at *
    rw [List.find?_append, here]
    rfl
  worker := fun _ worker alive => ⟨worker.custody, alive⟩

/-- A start moves no thread on and puts no callback in place. -/
theorem attends_start (server : Server) :
    server.Attends (Framelink.Server.start server).2 ∧
      Framelink.Server.spared (Framelink.Server.start server).2 = server.spared := by
  cases running : server.running with
  | true =>
      rw [Framelink.Server.start_of_running running]
      exact ⟨.of_eq rfl rfl, rfl⟩
  | false =>
      obtain ⟨network, _, ⟨error, failed⟩ | ⟨address, made⟩⟩ :=
        listen_cases { server with running := true }
      · rw [Framelink.Server.start_refused running failed]
        exact ⟨.of_eq rfl rfl, rfl⟩
      · rw [Framelink.Server.start_made running made]
        have admitted := attends_admitAt (server.withNetwork network) address
        exact ⟨⟨admitted.acceptor, admitted.worker⟩, rfl⟩

end Server

namespace Situation

/-- A server is that of a situation with no call under way, but for its reports and its
caller, and its callbacks leave it to others to stop it. -/
structure Shows (situation : Situation) (server : Server) : Prop where
  server : ∃ reports caller, server = situation.server.amid reports caller
  idle : situation.control = .idle
  removals : situation.removals = []
  spared : situation.server.spared = true

variable {situation : Situation} {server : Server}

/-- A situation that nothing happened in shows the server that was never started. -/
theorem shows_initial (settings : Settings) (isolated : Bool) :
    (initial settings isolated).Shows (.stopped settings (.idle isolated)) :=
  ⟨⟨[], none, rfl⟩, rfl, rfl, rfl⟩

theorem Shows.amid (shows : situation.Shows server) (reports : List (Report UInt64))
    (caller : Option Thread) : situation.Shows (server.amid reports caller) := by
  obtain ⟨⟨_, _, rfl⟩, idle, removals, spared⟩ := shows
  exact ⟨⟨reports, caller, rfl⟩, idle, removals, spared⟩

/-! ## Calls of the application -/

/-- Some moves lead to a situation that shows a server, and no thread moved on. -/
def Reaches (situation : Situation) (server : Server) : Prop :=
  ∃ moves, (situation.run moves).Shows server ∧
    situation.server.Attends (situation.run moves).server

theorem Shows.reaches (shows : situation.Shows server) : situation.Reaches server :=
  ⟨[], shows, .of_eq rfl rfl⟩

theorem Shows.touched {reports : List (Report UInt64)} {caller : Option Thread}
    (shows : situation.Shows (situation.server.amid reports caller)) (move : Move) {later : Server}
    (made : ∃ record, situation.after move = { situation with server := later, record })
    (touches : situation.server.Touches later) : situation.Reaches (later.amid reports caller) := by
  obtain ⟨record, made⟩ := made
  obtain ⟨peers, network, rfl⟩ := touches
  refine ⟨[move], ?_⟩
  rw [show situation.run [move] = _ from made]
  refine ⟨?_, .of_eq rfl rfl⟩
  exact ⟨⟨reports, caller, rfl⟩, shows.idle, shows.removals, shows.spared⟩

theorem noteTaken_record (situation : Situation) (id : UInt64) (bytes : Bytes) :
    ∃ record, situation.noteTaken id bytes = { situation with record } := by
  unfold noteTaken
  split
  · exact ⟨_, rfl⟩
  · exact ⟨_, rfl⟩

theorem Shows.read (shows : situation.Shows server) (id : UInt64) (size : Nat) (erase : Bool) :
    situation.Reaches (Framelink.Server.read server id size erase).2 := by
  obtain ⟨reports, caller, rfl⟩ := shows.server
  rw [Server.read_amid]
  refine shows.touched (.read id size erase) ?_ (Server.touches_read _ _ _ _)
  dsimp only [after, Situation.read]
  split
  · next copied later found =>
      obtain ⟨record, noted⟩ := situation.noteTaken_record id (if erase then copied else [])
      rw [noted, found]
      exact ⟨record, rfl⟩
  · next found =>
      rw [found]
      exact ⟨situation.record, rfl⟩

theorem Shows.clear (shows : situation.Shows server) (id : UInt64) :
    situation.Reaches (Framelink.Server.clear server id).2 := by
  obtain ⟨reports, caller, rfl⟩ := shows.server
  rw [Server.clear_amid]
  refine shows.touched (.clear id) ?_ (Server.touches_clear _ _)
  dsimp only [after, Situation.clear]
  split
  · next peer tracked =>
      obtain ⟨record, noted⟩ := situation.noteTaken_record id peer.inbox.contents
      rw [noted]
      exact ⟨record, rfl⟩
  · next untracked =>
      unfold Framelink.Server.clear Framelink.Server.require
      rw [untracked]
      exact ⟨situation.record, rfl⟩

theorem Shows.transmit (shows : situation.Shows server) (id : UInt64) (bytes : Bytes) :
    situation.Reaches (Framelink.Server.transmit server id bytes).2 := by
  obtain ⟨reports, caller, rfl⟩ := shows.server
  rw [Server.transmit_amid]
  exact shows.touched (.transmit id bytes) ⟨situation.record, rfl⟩
    (Server.touches_transmit _ _ _)

theorem Shows.broadcast (shows : situation.Shows server) (bytes : Bytes) :
    situation.Reaches (Framelink.Server.sendToOpen Server.transmit bytes server).2 := by
  obtain ⟨reports, caller, rfl⟩ := shows.server
  unfold Framelink.Server.sendToOpen
  dsimp only
  rw [Server.sendToEach_amid]
  exact shows.touched (.broadcast bytes) ⟨situation.record, rfl⟩
    (Server.touches_sendToEach _ _ _)

theorem Shows.replace (shows : situation.Shows server) {onData onNewPeer : Option Reaction}
    (sparing : (Reaction.replace onData onNewPeer).sparing = true) :
    situation.Reaches { server with onData, onNewPeer } := by
  obtain ⟨reports, caller, rfl⟩ := shows.server
  refine ⟨[.replace onData onNewPeer], ?_, .of_eq rfl rfl⟩
  exact ⟨⟨reports, caller, rfl⟩, shows.idle, shows.removals, sparing⟩

/-- The call that removes a peer is three moves. -/
theorem run_remove (removals : situation.removals = []) {id : UInt64} {peer : Peer Line}
    (tracked : Framelink.Server.peer? situation.server id = some peer) :
    ∃ record, situation.run [.remove id, .proceed peer.line.wire, .proceed peer.line.wire] =
      { situation with
        server := Server.release id peer (Framelink.Server.untrack situation.server id)
        record } := by
  have untracked : situation.after (.remove id) =
      { situation with
        server := Framelink.Server.untrack situation.server id
        removals := [⟨peer.line.wire, false⟩] } := by
    dsimp only [after, remove]
    rw [tracked, removals]
    rfl
  have asked : ∃ record, (situation.after (.remove id)).after (.proceed peer.line.wire) =
      { situation with
        server := Server.seize (Framelink.Server.untrack situation.server id) peer.line.wire
        removals := [⟨peer.line.wire, true⟩]
        record } := by
    rw [untracked]
    dsimp only [after, proceed, removal?]
    simp only [List.find?_cons, beq_self_eq_true, Option.map_some, ask, List.map_cons,
      List.map_nil, if_true]
    exact ⟨_, rfl⟩
  obtain ⟨record, asked⟩ := asked
  refine ⟨record, ?_⟩
  unfold run
  rw [List.foldl_cons, List.foldl_cons, List.foldl_cons, List.foldl_nil, asked]
  dsimp only [after, proceed, removal?]
  simp only [List.find?_cons, beq_self_eq_true, Option.map_some, keep, List.filter_cons,
    Bool.not_true, List.filter_nil, Bool.false_eq_true, if_false]
  rw [removals]
  rfl

theorem Shows.remove (shows : situation.Shows server) (id : UInt64) :
    situation.Reaches (Framelink.Server.remove server id).2 := by
  obtain ⟨reports, caller, rfl⟩ := shows.server
  rw [Server.remove_amid]
  unfold Framelink.Server.remove
  cases tracked : Framelink.Server.peer? situation.server id with
  | none => exact shows.reaches
  | some peer =>
      obtain ⟨record, made⟩ := run_remove shows.removals tracked
      refine ⟨[.remove id, .proceed peer.line.wire, .proceed peer.line.wire], ?_⟩
      rw [made]
      have bearing := Server.bearing_forsake
        ((Server.seize (Framelink.Server.untrack situation.server id) peer.line.wire).detach
          peer.line.wire) peer.line.wire
      have attends :=
        Server.attends_release (Framelink.Server.untrack situation.server id) id peer
      refine ⟨⟨⟨reports, caller, rfl⟩, shows.idle, shows.removals, ?_⟩,
        ⟨attends.acceptor, attends.worker⟩⟩
      exact (Server.spared_of_bearing bearing).trans shows.spared

/-- The call that starts the server is two moves. -/
theorem Shows.start (shows : situation.Shows server) :
    situation.Reaches (Framelink.Server.start server).2 := by
  obtain ⟨reports, caller, rfl⟩ := shows.server
  rw [Server.start_amid]
  obtain ⟨log, made⟩ := run_start shows.idle
  obtain ⟨attends, spared⟩ := situation.server.attends_start
  refine ⟨[.start, .setUp], ?_⟩
  rw [made]
  refine ⟨?_, attends⟩
  exact ⟨⟨reports, caller, rfl⟩, shows.idle, shows.removals, spared.trans shows.spared⟩

/-- What a callback does is a row of moves, unless it stops the server. -/
theorem Shows.perform (shows : situation.Shows server) (peer : UInt64) (data : Bytes)
    {reaction : Reaction} (sparing : reaction.sparing = true) :
    situation.Reaches (Framelink.Server.perform server peer data reaction).2 := by
  cases reaction with
  | log | panic | recover => exact shows.reaches
  | echo => exact shows.transmit peer data
  | reverse => exact shows.transmit peer data.reverse
  | greet => exact shows.transmit peer Framelink.Server.greeting
  | drain => exact shows.read peer data.length true
  | peek => exact shows.read peer data.length false
  | clear => exact shows.clear peer
  | remove => exact shows.remove peer
  | replace onData onNewPeer => exact shows.replace sparing
  | stop => cases sparing
  | start => exact shows.start

/-! ## Callbacks -/

theorem Reaches.amid (reaches : situation.Reaches server) (reports : List (Report UInt64))
    (caller : Option Thread) : situation.Reaches (server.amid reports caller) := by
  obtain ⟨moves, shows, attends⟩ := reaches
  exact ⟨moves, shows.amid reports caller, attends⟩

theorem Shows.callBack (shows : situation.Shows server) (peer : UInt64) (data : Bytes)
    {reaction : Reaction} (sparing : reaction.sparing = true)
    (report : Answer → Report UInt64) :
    situation.Reaches (Framelink.Server.callBack server peer data reaction report).2 := by
  have bare := shows.amid [] server.service.caller
  have performed := bare.perform peer data sparing
  exact performed.amid _ _

theorem Shows.dispatchData (shows : situation.Shows server) (peer : UInt64) (data : Bytes) :
    situation.Reaches (Framelink.Server.dispatchData server peer data).2 := by
  have ⟨spares, _⟩ := Framelink.Server.spared_parts shows.spared
  obtain ⟨reports, caller, rfl⟩ := shows.server
  unfold Framelink.Server.dispatchData
  split
  · exact shows.reaches
  · next reaction installed => exact shows.callBack peer data (spares reaction installed) _

theorem Shows.dispatchNewPeer (shows : situation.Shows server) (peer : UInt64)
    (address : SocketAddress) :
    situation.Reaches (Framelink.Server.dispatchNewPeer server peer address).2 := by
  have ⟨_, spares⟩ := Framelink.Server.spared_parts shows.spared
  obtain ⟨reports, caller, rfl⟩ := shows.server
  unfold Framelink.Server.dispatchNewPeer
  split
  · exact shows.reaches
  · next reaction installed => exact shows.callBack peer [] (spares reaction installed) _

/-! ## Steps of threads -/

theorem Shows.stepped (shows : situation.Shows server) (thread : Thread) (delivery : Delivery)
    (reports : List (Report UInt64)) (caller : Option Thread) :
    (situation.run [.step thread delivery]).Shows
      ((situation.server.step (.answering delivery) thread).amid reports caller) := by
  obtain ⟨record, made⟩ := situation.step_eq thread delivery
  rw [show situation.run [.step thread delivery] = _ from made]
  have bearing := Server.bearing_step delivery situation.server thread
  exact ⟨⟨reports, caller, rfl⟩, shows.idle, shows.removals,
    (Server.spared_of_bearing bearing).trans shows.spared⟩

/-- The end of a call of the new-peer callback is the moves of the callback and a step. -/
theorem Shows.greet (shows : situation.Shows server) {acceptor : Acceptor} {id : UInt64}
    {admission : Admission} (here : situation.server.acceptor? acceptor.port = some acceptor)
    (phase : acceptor.phase = .greeting id admission) :
    ∃ moves, (situation.run moves).Shows (server.greet .live acceptor.port id admission) := by
  have entered := shows.amid server.reports (some (.acceptor acceptor.port))
  obtain ⟨moves, told, attends⟩ :=
    entered.dispatchNewPeer id (server.farAddress admission.wire)
  generalize called : Framelink.Server.dispatchNewPeer
    (server.amid server.reports (some (.acceptor acceptor.port))) id
    (server.farAddress admission.wire) = answer at told
  obtain ⟨delivery, later⟩ := answer
  obtain ⟨reports, caller, shown⟩ : ∃ reports caller,
      later = (situation.run moves).server.amid reports caller := told.server
  have stepped := told.stepped (.acceptor acceptor.port) delivery reports server.service.caller
  rw [Server.step_acceptor _ _ (attends.acceptor _ _ here)] at stepped
  unfold Server.stepAcceptor at stepped
  rw [phase] at stepped
  refine ⟨moves ++ [.step (.acceptor acceptor.port) delivery], ?_⟩
  rw [run_append, Server.greet_called called, shown]
  have outside := @Server.greet_amid reports server.service.caller (situation.run moves).server
    acceptor.port id admission delivery
  exact outside.symm ▸ stepped

/-- The end of a call of the data callback is the moves of the callback and a step. -/
theorem Shows.announce (shows : situation.Shows server) {worker : Worker} {chunk : Bytes}
    (alive : situation.server.worker? worker.wire = some worker)
    (phase : worker.phase = .announcing chunk) :
    ∃ moves, (situation.run moves).Shows (server.announce .live worker chunk) := by
  have entered := shows.amid server.reports (some (.worker worker.wire))
  obtain ⟨moves, told, attends⟩ := entered.dispatchData worker.id chunk
  generalize called : Framelink.Server.dispatchData
    (server.amid server.reports (some (.worker worker.wire))) worker.id chunk = answer at told
  obtain ⟨delivery, later⟩ := answer
  obtain ⟨reports, caller, shown⟩ : ∃ reports caller,
      later = (situation.run moves).server.amid reports caller := told.server
  obtain ⟨custody, still⟩ := attends.worker _ _ alive
  have stepped := told.stepped (.worker worker.wire) delivery reports server.service.caller
  rw [Server.step_worker _ _ still] at stepped
  unfold Server.stepWorker at stepped
  dsimp only at stepped
  rw [phase] at stepped
  refine ⟨moves ++ [.step (.worker worker.wire) delivery], ?_⟩
  rw [run_append, Server.announce_called called, shown]
  have outside := @Server.announce_amid reports server.service.caller (situation.run moves).server
    worker chunk delivery
  exact outside.symm ▸ stepped

/-- A step of a thread that calls the callbacks is a row of moves. -/
theorem Shows.step (shows : situation.Shows server) (thread : Thread) :
    ∃ moves, (situation.run moves).Shows (server.step .live thread) := by
  have quietly : ∀ reports caller delivery, (situation.run [.step thread delivery]).Shows
      ((situation.server.step (.answering delivery) thread).amid reports caller) :=
    fun reports caller delivery => shows.stepped thread delivery reports caller
  obtain ⟨reports, caller, rfl⟩ := shows.server
  cases thread with
  | acceptor port =>
      cases here : situation.server.acceptor? port with
      | none =>
          rw [Server.step_no_acceptor .live (situation.server.amid reports caller) here]
          exact ⟨[], shows⟩
      | some acceptor =>
          have own : acceptor.port = port := by simpa using List.find?_some here
          subst own
          rw [Server.step_acceptor .live (situation.server.amid reports caller) here]
          cases announces : acceptor.announces with
          | false =>
              have stepped := quietly reports caller .unheard
              rw [Server.step_acceptor _ _ here] at stepped
              rw [Server.stepAcceptor_amid .live .unheard situation.server announces]
              exact ⟨_, stepped⟩
          | true =>
              obtain ⟨id, admission, phase⟩ := Acceptor.of_announces announces
              have greeted := shows.greet here phase
              unfold Server.stepAcceptor
              rwa [phase]
  | worker wire =>
      cases alive : situation.server.worker? wire with
      | none =>
          rw [Server.step_no_worker .live (situation.server.amid reports caller) alive]
          exact ⟨[], shows⟩
      | some worker =>
          have own : worker.wire = wire := by simpa using List.find?_some alive
          subst own
          rw [Server.step_worker .live (situation.server.amid reports caller) alive]
          cases announces : worker.announces with
          | false =>
              have stepped := quietly reports caller .unheard
              rw [Server.step_worker _ _ alive] at stepped
              rw [Server.stepWorker_amid .live .unheard situation.server announces]
              exact ⟨_, stepped⟩
          | true =>
              obtain ⟨chunk, phase⟩ := Worker.of_announces announces
              have announced := shows.announce alive phase
              unfold Server.stepWorker
              rwa [phase]

theorem Shows.settleWithin (fuel : Nat) (shows : situation.Shows server) :
    ∃ moves, (situation.run moves).Shows (server.settleWithin fuel) := by
  induction fuel generalizing situation server with
  | zero => exact ⟨[], shows⟩
  | succ fuel inductionHypothesis =>
      unfold Server.settleWithin
      split
      · next thread busy =>
          obtain ⟨early, stepped⟩ := shows.step thread
          obtain ⟨late, settled⟩ := inductionHypothesis stepped
          refine ⟨early ++ late, ?_⟩
          rwa [run_append]
      · exact ⟨[], shows⟩

/-- Whatever a server does when it settles is a run. -/
theorem Shows.settle (shows : situation.Shows server) :
    ∃ moves, (situation.run moves).Shows server.settle :=
  shows.settleWithin _

end Situation
end Tcp
end Framelink
