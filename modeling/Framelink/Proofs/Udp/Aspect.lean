import Framelink.Proofs.Aspect
import Framelink.Proofs.Udp.Accounts

/-!
# What a datagram server shows of one sender

Of all that happens to a datagram server, a sender is concerned by its own datagrams on
their way into the inbox, by the calls of the application that name it, and by the data
callback that is put in place.  Whatever others send, whatever is done to them, and
whatever the network and the sockets go through, shows nothing of it.
-/

namespace Framelink
namespace Udp

/-- What is seen of a sender. -/
structure Sight where
  /-- What the server shows of it, if it is tracked. -/
  face : Option Face
  /-- A data callback is in place. -/
  attended : Bool
  /-- The datagram of it that a receiver is busy with, and how far that has come. -/
  busy : Option (Stage × Bytes)

/-- What concerns a sender. -/
inductive Concern
  | called (call : PeerCall)
  /-- The data callback is replaced; there is one now, or none. -/
  | replaced (attended : Bool)
  /-- A receiver takes a datagram of the sender. -/
  | arrived (payload : Bytes)
  /-- The receiver that is busy with it goes on. -/
  | proceeded
  deriving DecidableEq

namespace Sight

/-- What a datagram of the sender does at its next step. -/
def proceed (sight : Sight) : Sight × List Note :=
  match sight.busy with
  | none => (sight, [])
  | some (.met, payload) => ({ sight with busy := some (.known, payload) }, [])
  | some (.known, payload) =>
      ({ sight with
          face := sight.face.map fun face => { face with inbox := face.inbox.push payload }
          busy := some (.kept, payload) }, [])
  | some (.kept, payload) =>
      ({ sight with busy := none },
        if sight.attended then [.told payload] else [])

/-- What is seen after a concern, and what is heard of it. -/
def react (sight : Sight) : Concern → Sight × List Note
  | .called call => ({ sight with face := call.face sight.face }, [call.note sight.face])
  | .replaced attended => ({ sight with attended }, [])
  | .arrived payload =>
      ({ sight with
          face := some (sight.face.getD ⟨.empty, true⟩)
          busy := some (if sight.face.isNone then .met else .known, payload) }, [])
  | .proceeded => sight.proceed

end Sight

namespace Act

/-- The call that an act is, and the sender that it names. -/
def call? : Act → Option (SocketAddress × PeerCall)
  | .read named size erase => some (named, .read size erase)
  | .clear named => some (named, .clear)
  | .remove named => some (named, .remove)
  | _ => none

/-- Whether there is a data callback after an act that replaces the callbacks. -/
def attends? : Act → Option Bool
  | .replace onData _ => some onData.isSome
  | _ => none

end Act

namespace Watch

variable (peer : SocketAddress)

/-- What a passage shows of a sender. -/
def busyWith (pass : Option Pass) : Option (Stage × Bytes) :=
  pass.bind fun pass =>
    if pass.datagram.source = peer then some (pass.stage, pass.datagram.payload) else none

/-- What is seen of a sender. -/
def sight (watch : Watch) : Sight where
  face := (Framelink.Server.peer? watch.server peer).map Peer.face
  attended := watch.server.onData.isSome
  busy := busyWith peer watch.pass

/-- The datagram that a receiver takes when it begins a round, if it takes one. -/
def incoming? (watch : Watch) (bound : SocketAddress) : Option Datagram :=
  if watch.pass.isNone && watch.server.service.receivers.contains bound &&
      watch.server.running then
    (watch.server.network.receiveDatagram bound.port Server.bufferSize).1.toOption
  else none

/-- What a turn is to a sender. -/
def concern? (watch : Watch) : Turn → Option Concern
  | .act act =>
      match act.call? with
      | some (named, call) => if named = peer then some (.called call) else none
      | none => act.attends?.map .replaced
  | .receive bound =>
      (watch.incoming? bound).bind fun datagram =>
        if datagram.source = peer then some (.arrived datagram.payload) else none
  | .proceed => (busyWith peer watch.pass).map fun _ => .proceeded
  | _ => none

/-- What came of a call of the application that names a sender. -/
def answers (watch : Watch) : Turn → List Note
  | .act act =>
      match act.call? with
      | some (named, call) =>
          if named = peer then [(Framelink.Server.called watch.server named call).1] else []
      | none => []
  | _ => []

/-- A datagram server as one sender is concerned by it. -/
def aspect : Aspect Watch Turn Sight Concern Note where
  after := after
  sight := sight peer
  concern? := concern? peer
  notes := fun watch turn =>
    watch.answers peer turn ++
      Framelink.Server.toldSince watch.server (watch.after turn).server peer

end Watch

/-- A turn that puts no callbacks in place but such as only record. -/
def Turn.Recording : Turn → Prop
  | .act (.replace onData onNewPeer) => records onData = true ∧ records onNewPeer = true
  | _ => True

instance : DecidablePred Turn.Recording
  | .act (.replace onData onNewPeer) =>
      inferInstanceAs (Decidable (records onData = true ∧ records onNewPeer = true))
  | .act (.disturb ..) | .act (.read ..) | .act (.clear ..) | .act (.remove ..)
  | .act (.send ..) | .act (.broadcast ..) | .act (.adjust ..)
  | .start | .halt | .join | .receive .. | .proceed => .isTrue trivial

/-! ## Servers that differ in nothing that is seen -/

/-- A server with the same peers and callbacks. -/
structure Server.Unaltered (server later : Server) : Prop where
  peers : later.peers = server.peers
  onData : later.onData = server.onData
  onNewPeer : later.onNewPeer = server.onNewPeer

namespace Server

variable {server later : Server}

theorem Unaltered.of_books (same : later.books = server.books) : Unaltered server later :=
  ⟨congrArg Prod.fst same, congrArg (fun books => books.2.1) same,
    congrArg (fun books => books.2.2.1) same⟩

theorem Unaltered.recording (unaltered : Unaltered server later)
    (recording : Framelink.Server.Recording server) : Framelink.Server.Recording later :=
  recording.congr unaltered.onData unaltered.onNewPeer

/-- What a server shows of a sender. -/
def face? (server : Server) (peer : SocketAddress) : Option Face :=
  (Framelink.Server.peer? server peer).map Peer.face

theorem face?_of_peers (same : later.peers = server.peers) (peer : SocketAddress) :
    later.face? peer = server.face? peer := by
  rw [face?, face?, Framelink.Server.peer?, Framelink.Server.peer?, same]

theorem face?_modifyPeer (server : Server) (changed peer : SocketAddress)
    (change : Peer Unit → Peer Unit) :
    face? (Framelink.Server.modifyPeer server changed change) peer =
      if peer = changed then
        (Framelink.Server.peer? server peer).map fun tracked => (change tracked).face
      else server.face? peer := by
  rw [face?, Framelink.Server.peer?, Framelink.Server.modifyPeer, PeerTable.find?_modify]
  split
  · rw [Option.map_map]
    rfl
  · rfl

theorem face?_push (server : Server) (pushed peer : SocketAddress) (bytes : Bytes) :
    face? (Framelink.Server.push server pushed bytes) peer =
      if peer = pushed then
        (server.face? peer).map fun face => { face with inbox := face.inbox.push bytes }
      else server.face? peer := by
  rw [Framelink.Server.push, face?_modifyPeer, face?, Option.map_map]
  rfl

theorem face?_untrack (server : Server) (removed peer : SocketAddress) :
    face? (Framelink.Server.untrack server removed) peer =
      if peer = removed then none else server.face? peer := by
  rw [face?, Framelink.Server.peer?, Framelink.Server.untrack, PeerTable.find?_erase]
  split <;> rfl

theorem trackNew_eq (server : Server) (sender : SocketAddress) :
    Framelink.Server.trackNew server sender (freshPeer sender) =
      ((server.face? sender).isNone,
        if (server.face? sender).isNone then
          Framelink.Server.track server sender (freshPeer sender)
        else server) := by
  have tracks : server.peers.tracks sender = (server.face? sender).isSome :=
    Option.isSome_map.symm
  rw [Framelink.Server.trackNew, tracks]
  cases server.face? sender <;> rfl

/-- Tracking a sender shows only if it was not tracked. -/
theorem face?_trackNew (server : Server) (sender peer : SocketAddress) :
    face? (Framelink.Server.trackNew server sender (freshPeer sender)).2 peer =
      if peer = sender then some ((server.face? sender).getD ⟨.empty, true⟩)
      else server.face? peer := by
  rw [trackNew_eq]
  cases known : server.face? sender with
  | some face =>
      dsimp only [Option.isNone_some]
      rw [if_neg Bool.false_ne_true]
      split
      · next same => rw [same, known, Option.getD_some]
      · rfl
  | none =>
      dsimp only [Option.isNone_none]
      rw [if_pos rfl, face?, Framelink.Server.peer?, Framelink.Server.track,
        PeerTable.find?_insert]
      split <;> rfl

/-- A call shows of the sender that it names and of no other, and leaves the callbacks and
the reports alone. -/
structure CalledAs (server : Server) (named : SocketAddress) (call : PeerCall)
    (later : Server) : Prop where
  face : ∀ peer, later.face? peer =
    if peer = named then call.face (server.face? peer) else server.face? peer
  onData : later.onData = server.onData
  onNewPeer : later.onNewPeer = server.onNewPeer
  reports : later.reports = server.reports

/-- A call that takes bytes from the inbox of the sender that it names. -/
theorem calledAs_modifyPeer {named : SocketAddress} {tracked : Peer Unit}
    (found : Framelink.Server.peer? server named = some tracked) {call : PeerCall}
    {change : Peer Unit → Peer Unit}
    (changed : some (change tracked).face = call.face (some tracked.face)) :
    CalledAs server named call (Framelink.Server.modifyPeer server named change) := by
  have known : server.face? named = some tracked.face := by
    rw [face?, found, Option.map_some]
  refine ⟨fun peer => ?_, rfl, rfl, rfl⟩
  rw [face?_modifyPeer]
  split
  · next same => rw [same, known, found, Option.map_some, changed]
  · rfl

/-- A call that names a sender that is not tracked. -/
theorem calledAs_of_none {named : SocketAddress}
    (untracked : Framelink.Server.peer? server named = none) {call : PeerCall}
    (nothing : call.face none = none) :
    CalledAs server named call server := by
  have unknown : server.face? named = none := by
    rw [face?, untracked, Option.map_none]
  refine ⟨fun peer => ?_, rfl, rfl, rfl⟩
  split
  · next same => rw [same, unknown, nothing]
  · rfl

theorem calledAs_called (server : Server) (named : SocketAddress) (call : PeerCall) :
    CalledAs server named call (Framelink.Server.called server named call).2 := by
  cases call with
  | read size erase =>
      rw [Framelink.Server.called, Framelink.Server.read, Framelink.Server.require]
      cases found : Framelink.Server.peer? server named with
      | none => exact calledAs_of_none found rfl
      | some tracked => exact calledAs_modifyPeer found rfl
  | clear =>
      rw [Framelink.Server.called, Framelink.Server.clear, Framelink.Server.require]
      cases found : Framelink.Server.peer? server named with
      | none => exact calledAs_of_none found rfl
      | some tracked => exact calledAs_modifyPeer found rfl
  | remove =>
      rw [Framelink.Server.called, Framelink.Server.remove]
      cases found : Framelink.Server.peer? server named with
      | none => exact calledAs_of_none found rfl
      | some tracked => exact ⟨face?_untrack server named, rfl, rfl, rfl⟩

theorem callbacks_trackNew (server : Server) (sender : SocketAddress) (peer : Peer Unit) :
    (Framelink.Server.trackNew server sender peer).2.onData = server.onData ∧
      (Framelink.Server.trackNew server sender peer).2.onNewPeer = server.onNewPeer := by
  rw [Framelink.Server.trackNew]
  split <;> exact ⟨rfl, rfl⟩

theorem reports_trackNew (server : Server) (sender : SocketAddress) (peer : Peer Unit) :
    (Framelink.Server.trackNew server sender peer).2.reports = server.reports := by
  rw [Framelink.Server.trackNew]
  split <;> rfl

end Server

namespace Watch

variable {peer : SocketAddress} {watch later : Watch}

theorem sight_eq (watch : Watch) (peer : SocketAddress) :
    watch.sight peer =
      ⟨watch.server.face? peer, watch.server.onData.isSome, busyWith peer watch.pass⟩ := rfl

/-! ## Steps of receivers -/

/-- A round that takes no datagram changes nothing that is seen. -/
theorem receive_of_none {bound : SocketAddress} (nothing : watch.incoming? bound = none) :
    (watch.receive bound).server.books = watch.server.books ∧
      (watch.receive bound).pass = watch.pass := by
  rw [incoming?] at nothing
  rw [receive]
  split
  · next present =>
      rw [present] at nothing
      split
      · next running =>
          rw [running, Bool.true_and, if_pos rfl] at nothing
          split
          · exact ⟨rfl, rfl⟩
          · next received =>
              rw [received] at nothing
              cases nothing
      · exact ⟨Server.books_endReceiver _ bound, rfl⟩
  · exact ⟨rfl, rfl⟩

/-- A round that takes a datagram tracks the sender and has a passage under way then. -/
theorem receive_of_some {bound : SocketAddress} {datagram : Datagram}
    (incoming : watch.incoming? bound = some datagram) :
    watch.pass = none ∧ ∃ network, watch.receive bound = watch.take bound network datagram := by
  rw [incoming?] at incoming
  split at incoming
  · next ready =>
      rw [Bool.and_eq_true, Bool.and_eq_true] at ready
      obtain ⟨⟨quiet, present⟩, running⟩ := ready
      refine ⟨Option.isNone_iff_eq_none.mp quiet, ?_⟩
      rw [receive, quiet, present, Bool.true_and, if_pos rfl, if_pos running]
      split
      · next failed =>
          rw [failed] at incoming
          cases incoming
      · next arrived network received =>
          rw [received] at incoming
          cases incoming
          exact ⟨network, rfl⟩
  · cases incoming

/-- What a passage that begins shows of each sender. -/
theorem sight_take (quiet : watch.pass = none) (bound : SocketAddress) (network : Network)
    (datagram : Datagram) :
    (watch.take bound network datagram).sight peer =
      if datagram.source = peer then
        ((watch.sight peer).react (.arrived datagram.payload)).1
      else watch.sight peer := by
  let called := (watch.server.withNetwork network).calledBy (some bound)
  have shown := Server.face?_trackNew called datagram.source peer
  have onData := (Server.callbacks_trackNew called datagram.source
    (Server.freshPeer datagram.source)).1
  have unknown : (Framelink.Server.trackNew called datagram.source
      (Server.freshPeer datagram.source)).1 = (watch.server.face? datagram.source).isNone :=
    congrArg Prod.fst (Server.trackNew_eq called datagram.source)
  rw [sight_eq, take]
  dsimp only
  rw [shown, onData, unknown, busyWith, Option.bind_some]
  dsimp only
  by_cases same : datagram.source = peer
  · subst same
    rw [if_pos rfl, if_pos rfl, if_pos rfl]
    rfl
  · rw [if_neg (Ne.symm same), if_neg same, if_neg same, sight_eq, quiet]
    rfl

/-- The new-peer callback that greets a sender changes nothing that is seen. -/
theorem greet_of_records (recording : Framelink.Server.Recording watch.server) (pass : Pass) :
    ∃ server history,
      watch.greet pass =
        ⟨server, some { pass with
          greeting := some watch.server.onNewPeer
          stage := .known }, history⟩ ∧
      watch.server.Unaltered server ∧
      ∀ peer, Framelink.Server.toldSince watch.server server peer = [] := by
  rw [greet, Framelink.Server.dispatchNewPeer_of_records recording.newPeer]
  cases watch.server.onNewPeer with
  | none =>
      exact ⟨_, _, rfl, ⟨rfl, rfl, rfl⟩, Framelink.Server.toldSince_of_reports rfl⟩
  | some callback =>
      let joined : Report SocketAddress :=
        .joined pass.datagram.source pass.datagram.source .log .nothing
      have reports : (Framelink.Server.report watch.server joined).reports =
          watch.server.reports ++ [joined] := rfl
      exact ⟨_, _, rfl, ⟨rfl, rfl, rfl⟩, Framelink.Server.toldSince_report reports⟩

/-- The answer to a datagram shows only in what its sender is heard to have sent. -/
theorem answer_of_records (recording : Framelink.Server.Recording watch.server) (pass : Pass) :
    ∃ server history,
      watch.answer pass = ⟨server, none, history⟩ ∧
      watch.server.Unaltered server ∧
      ∀ peer, Framelink.Server.toldSince watch.server server peer =
        if pass.datagram.source = peer then
          if watch.server.onData.isSome then [.told pass.datagram.payload] else []
        else [] := by
  have told := Framelink.Server.dispatchData_of_records recording.data pass.datagram.source
    pass.datagram.payload
  rw [answer]
  dsimp only
  cases installed : watch.server.onData with
  | none =>
      let sent := watch.server.withNetwork (watch.server.network.sendDatagram pass.bound
        pass.datagram.source false pass.datagram.payload).2
      have left : (pass.leave sent .unheard).books = watch.server.books :=
        Server.books_leave sent pass .unheard
      refine ⟨_, _, rfl, .of_books left, fun peer => ?_⟩
      dsimp only [Option.isSome_none]
      rw [if_neg Bool.false_ne_true, ite_self]
      exact Framelink.Server.toldSince_of_reports (Server.reports_of_books left) peer
  | some callback =>
      rw [installed] at told
      dsimp only at told ⊢
      rw [told]
      let reported := Framelink.Server.report watch.server
        (.received pass.datagram.payload pass.datagram.source .log .nothing)
      have left := Server.books_leave reported pass .heard
      have unaltered := Server.Unaltered.of_books left
      refine ⟨_, _, rfl, ⟨unaltered.peers, unaltered.onData, unaltered.onNewPeer⟩, fun peer => ?_⟩
      have reports : (pass.leave reported .heard).reports = watch.server.reports ++
          [.received pass.datagram.payload pass.datagram.source .log .nothing] :=
        Server.reports_of_books left
      rw [Framelink.Server.toldSince_report reports]
      dsimp only [Report.told?, Option.isSome_some]
      split <;> rfl

/-! ## Turns -/

/-- A turn that changes nothing that is seen, and tells nothing. -/
theorem unnoticed_of_books (books : later.server.books = watch.server.books)
    (pass : later.pass = watch.pass) :
    later.sight peer = watch.sight peer ∧
      Framelink.Server.toldSince watch.server later.server peer = [] := by
  refine ⟨?_, Framelink.Server.toldSince_of_reports (Server.reports_of_books books) peer⟩
  have unaltered := Server.Unaltered.of_books books
  rw [sight_eq, sight_eq, Server.face?_of_peers unaltered.peers, unaltered.onData, pass]

/-- A step of a passage leaves the callbacks in place. -/
theorem callbacks_proceed (recording : Framelink.Server.Recording watch.server) {pass : Pass}
    (underWay : watch.pass = some pass) :
    watch.proceed.server.onData = watch.server.onData ∧
      watch.proceed.server.onNewPeer = watch.server.onNewPeer := by
  rw [proceed, underWay]
  dsimp only
  cases pass.stage with
  | met =>
      obtain ⟨server, history, greeted, unaltered, _⟩ := greet_of_records recording pass
      dsimp only
      rw [greeted]
      exact ⟨unaltered.onData, unaltered.onNewPeer⟩
  | known => exact ⟨rfl, rfl⟩
  | kept =>
      obtain ⟨server, history, answered, unaltered, _⟩ := answer_of_records recording pass
      dsimp only
      rw [answered]
      exact ⟨unaltered.onData, unaltered.onNewPeer⟩

/-- The callbacks stay as they are, unless the application replaces them. -/
theorem recording_after (recording : Framelink.Server.Recording watch.server) {turn : Turn}
    (allowed : turn.Recording) : Framelink.Server.Recording (watch.after turn).server := by
  have books {later : Server} (same : later.books = watch.server.books) :
      Framelink.Server.Recording later :=
    (Server.Unaltered.of_books same).recording recording
  cases turn with
  | act act =>
      cases act with
      | replace onData onNewPeer => exact ⟨allowed.1, allowed.2⟩
      | disturb network => exact ⟨recording.data, recording.newPeer⟩
      | adjust settings => exact ⟨recording.data, recording.newPeer⟩
      | send target bytes => exact books (Server.books_sendTo watch.server target bytes)
      | broadcast bytes => exact books (Server.books_broadcast watch.server bytes)
      | read named size erase =>
          have called := Server.calledAs_called watch.server named (.read size erase)
          exact recording.congr called.onData called.onNewPeer
      | clear named =>
          have called := Server.calledAs_called watch.server named .clear
          exact recording.congr called.onData called.onNewPeer
      | remove named =>
          have called := Server.calledAs_called watch.server named .remove
          exact recording.congr called.onData called.onNewPeer
  | start =>
      rw [after]
      split
      · exact books (Server.books_start watch.server)
      · exact recording
  | halt => exact ⟨recording.data, recording.newPeer⟩
  | join =>
      rw [after]
      split
      · exact books (Server.books_windDown watch.server)
      · exact recording
  | receive bound =>
      cases incoming : watch.incoming? bound with
      | none => exact books (receive_of_none incoming).1
      | some datagram =>
          obtain ⟨_, network, taken⟩ := receive_of_some incoming
          rw [after, taken]
          obtain ⟨onData, onNewPeer⟩ := Server.callbacks_trackNew
            ((watch.server.withNetwork network).calledBy (some bound)) datagram.source
            (Server.freshPeer datagram.source)
          exact recording.congr onData onNewPeer
  | proceed =>
      cases underWay : watch.pass with
      | none =>
          rw [after, proceed, underWay]
          exact recording
      | some pass =>
          obtain ⟨onData, onNewPeer⟩ := callbacks_proceed recording underWay
          exact recording.congr onData onNewPeer

/-- What a step of a passage shows of each sender, and what it tells. -/
theorem noticed_proceed (recording : Framelink.Server.Recording watch.server) {pass : Pass}
    (underWay : watch.pass = some pass) (peer : SocketAddress) :
    (watch.proceed.sight peer,
        Framelink.Server.toldSince watch.server watch.proceed.server peer) =
      if pass.datagram.source = peer then (watch.sight peer).proceed
      else (watch.sight peer, []) := by
  rw [sight_eq watch, underWay, busyWith, Option.bind_some]
  cases stage : pass.stage with
  | met =>
      obtain ⟨server, history, greeted, unaltered, silent⟩ := greet_of_records recording pass
      have stepped : watch.proceed = watch.greet pass := by
        simp only [proceed, underWay, stage]
      rw [stepped, greeted, silent, sight_eq, Server.face?_of_peers unaltered.peers,
        unaltered.onData, busyWith, Option.bind_some]
      split <;> rfl
  | known =>
      have stepped : watch.proceed = watch.keep pass := by
        simp only [proceed, underWay, stage]
      have silent : Framelink.Server.toldSince watch.server (watch.keep pass).server peer = [] :=
        Framelink.Server.toldSince_of_reports rfl peer
      rw [stepped, silent, keep, sight_eq, busyWith, Option.bind_some, Server.face?_push]
      by_cases same : pass.datagram.source = peer
      · rw [if_pos same, if_pos same, if_pos same, if_pos same.symm]
        rfl
      · rw [if_neg same, if_neg same, if_neg same, if_neg (Ne.symm same)]
        rfl
  | kept =>
      obtain ⟨server, history, answered, unaltered, told⟩ := answer_of_records recording pass
      have stepped : watch.proceed = watch.answer pass := by
        simp only [proceed, underWay, stage]
      rw [stepped, answered, told, sight_eq, Server.face?_of_peers unaltered.peers,
        unaltered.onData]
      split <;> rfl

/-- A call of the application that names a sender is noticed by that sender only. -/
theorem noticed_call {server : Server} {named : SocketAddress} {call : PeerCall}
    (called : Server.CalledAs watch.server named call server) (history : History)
    (peer : SocketAddress) :
    ((Watch.mk server watch.pass history).sight peer,
        (if named = peer then [(Framelink.Server.called watch.server named call).1] else []) ++
          Framelink.Server.toldSince watch.server server peer) =
      Aspect.respond Sight.react (watch.sight peer)
        (if named = peer then some (.called call) else none) := by
  rw [sight_eq, Framelink.Server.toldSince_of_reports called.reports, called.face, called.onData,
    Framelink.Server.note_called, List.append_nil]
  by_cases same : named = peer
  · subst same
    rw [if_pos rfl, if_pos rfl, if_pos rfl]
    rfl
  · rw [if_neg same, if_neg same, if_neg (Ne.symm same)]
    rfl

/-- What is noticed of each turn. -/
theorem noticed_after (peer : SocketAddress)
    (recording : Framelink.Server.Recording watch.server) (turn : Turn) :
    ((watch.after turn).sight peer,
        watch.answers peer turn ++
          Framelink.Server.toldSince watch.server (watch.after turn).server peer) =
      Aspect.respond Sight.react (watch.sight peer) (watch.concern? peer turn) := by
  have quiet {later : Watch} (books : later.server.books = watch.server.books)
      (pass : later.pass = watch.pass) :
      (later.sight peer, [] ++ Framelink.Server.toldSince watch.server later.server peer) =
        (watch.sight peer, []) := by
    obtain ⟨same, silent⟩ := unnoticed_of_books books pass
    rw [same, silent, List.append_nil]
  cases turn with
  | act act =>
      cases act with
      | disturb network => exact quiet rfl rfl
      | adjust settings => exact quiet rfl rfl
      | send target bytes => exact quiet (Server.books_sendTo watch.server target bytes) rfl
      | broadcast bytes => exact quiet (Server.books_broadcast watch.server bytes) rfl
      | replace onData onNewPeer =>
          have silent : Framelink.Server.toldSince watch.server
              { watch.server with onData, onNewPeer } peer = [] :=
            Framelink.Server.toldSince_of_reports rfl peer
          rw [after]
          dsimp only [Act.on]
          rw [silent]
          rfl
      | read named size erase =>
          exact noticed_call (Server.calledAs_called watch.server named (.read size erase)) _ peer
      | clear named =>
          exact noticed_call (Server.calledAs_called watch.server named .clear) _ peer
      | remove named =>
          exact noticed_call (Server.calledAs_called watch.server named .remove) _ peer
  | start =>
      rw [after]
      split
      · exact quiet (Server.books_start watch.server) rfl
      · exact quiet rfl rfl
  | halt => exact quiet rfl rfl
  | join =>
      rw [after]
      split
      · exact quiet (Server.books_windDown watch.server) rfl
      · exact quiet rfl rfl
  | receive bound =>
      rw [concern?, after]
      cases incoming : watch.incoming? bound with
      | none =>
          obtain ⟨books, pass⟩ := receive_of_none incoming
          exact quiet books pass
      | some datagram =>
          obtain ⟨free, network, taken⟩ := receive_of_some incoming
          have reports : (watch.take bound network datagram).server.reports =
              watch.server.reports := Server.reports_trackNew _ datagram.source _
          have silent := Framelink.Server.toldSince_of_reports reports peer
          rw [taken, silent, sight_take free, Option.bind_some]
          by_cases same : datagram.source = peer
          · rw [if_pos same, if_pos same]
            rfl
          · rw [if_neg same, if_neg same]
            rfl
  | proceed =>
      rw [concern?, after]
      cases underWay : watch.pass with
      | none =>
          have still : watch.proceed = watch := by rw [proceed, underWay]
          rw [still]
          exact quiet rfl rfl
      | some pass =>
          refine (noticed_proceed recording underWay peer).trans ?_
          rw [busyWith, Option.bind_some]
          by_cases same : pass.datagram.source = peer
          · rw [if_pos same, if_pos same]
            rfl
          · rw [if_neg same, if_neg same]
            rfl

/-- What a sender sees and hears hangs on what concerns it alone, as long as the callbacks
only record. -/
theorem aspect_closed (peer : SocketAddress) :
    (aspect peer).Closed (fun watch => Framelink.Server.Recording watch.server) Turn.Recording
      Sight.react where
  kept := fun _ _ recording allowed => recording_after recording allowed
  noticed := fun _ turn recording _ => noticed_after peer recording turn

end Watch
end Udp
end Framelink
