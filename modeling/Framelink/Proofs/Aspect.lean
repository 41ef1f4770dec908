import Framelink.Server.Dispatch

/-!
# One side of a system

An aspect is what one party sees of a system: of each state a sight, of each move the
concern that it is to the party, if it is any, and what the party hears meanwhile.  An
aspect is closed if what the party sees and hears of a move hangs on its sight and on
that concern alone.  Then a whole run looks the same as any other in which the party has
the same concerns, whatever else happens in either.
-/

namespace Framelink

/-- A system that takes moves, and what one party notices of it. -/
structure Aspect (State Move Sight Concern Note : Type) where
  /-- The state after a move. -/
  after : State → Move → State
  /-- What the party sees of a state. -/
  sight : State → Sight
  /-- What a move is to the party, if it concerns it. -/
  concern? : State → Move → Option Concern
  /-- What the party hears while a move is made. -/
  notes : State → Move → List Note

namespace Aspect

variable {State Move Sight Concern Note : Type}
  (aspect : Aspect State Move Sight Concern Note)

/-- The state after a row of moves. -/
def run (state : State) (moves : List Move) : State := moves.foldl aspect.after state

/-- What the moves of a run are to the party, in order, without those that do not
concern it. -/
def concerns : State → List Move → List Concern
  | _, [] => []
  | state, move :: moves =>
      (aspect.concern? state move).toList ++ concerns (aspect.after state move) moves

/-- All that the party hears in a run, in order. -/
def heard : State → List Move → List Note
  | _, [] => []
  | state, move :: moves => aspect.notes state move ++ heard (aspect.after state move) moves

/-- What the party sees after a move and hears of it, given what the move is to it: of one
that does not concern it it notices nothing. -/
def respond (react : Sight → Concern → Sight × List Note) (sight : Sight) :
    Option Concern → Sight × List Note
  | none => (sight, [])
  | some concern => react sight concern

/-- What the party sees and hears of a move hangs on its sight and on what the move is to
it.  This holds of states that are kept, and of moves that keep them. -/
structure Closed (Kept : State → Prop) (Allowed : Move → Prop)
    (react : Sight → Concern → Sight × List Note) : Prop where
  kept : ∀ state move, Kept state → Allowed move → Kept (aspect.after state move)
  noticed : ∀ state move, Kept state → Allowed move →
    (aspect.sight (aspect.after state move), aspect.notes state move) =
      respond react (aspect.sight state) (aspect.concern? state move)

/-- What the party sees in the end and hears all the way of a row of concerns. -/
def replay (react : Sight → Concern → Sight × List Note) :
    Sight → List Concern → Sight × List Note
  | sight, [] => (sight, [])
  | sight, concern :: concerns =>
      let (last, later) := replay react (react sight concern).1 concerns
      (last, (react sight concern).2 ++ later)

variable {aspect} {Kept : State → Prop} {Allowed : Move → Prop}
  {react : Sight → Concern → Sight × List Note}

/-- A run is to the party what its concerns make of it. -/
theorem Closed.run_eq_replay (closed : aspect.Closed Kept Allowed react) {state : State}
    (kept : Kept state) {moves : List Move} (allowed : ∀ move ∈ moves, Allowed move) :
    (aspect.sight (aspect.run state moves), aspect.heard state moves) =
      replay react (aspect.sight state) (aspect.concerns state moves) := by
  induction moves generalizing state with
  | nil => rfl
  | cons move moves inductionHypothesis =>
      have permitted := allowed move List.mem_cons_self
      have rest := inductionHypothesis (closed.kept state move kept permitted)
        fun other within => allowed other (List.mem_cons_of_mem move within)
      rw [run] at rest ⊢
      rw [List.foldl_cons, heard, concerns]
      have noticed := closed.noticed state move kept permitted
      cases concerned : aspect.concern? state move with
      | none =>
          rw [concerned, respond] at noticed
          obtain ⟨same, silent⟩ := Prod.mk.inj noticed
          rw [silent, List.nil_append, rest, same]
          rfl
      | some concern =>
          rw [concerned, respond] at noticed
          rw [Option.toList_some, List.singleton_append, replay, ← noticed, ← rest]

/-- Two runs are the same to their parties if these begin with the same sight and have the
same concerns. -/
theorem Closed.runs_alike {other : Aspect State Move Sight Concern Note}
    (closed : aspect.Closed Kept Allowed react) (closedOther : other.Closed Kept Allowed react)
    {first second : State} (keptFirst : Kept first) (keptSecond : Kept second)
    {moves others : List Move} (allowedFirst : ∀ move ∈ moves, Allowed move)
    (allowedSecond : ∀ move ∈ others, Allowed move)
    (begun : aspect.sight first = other.sight second)
    (same : aspect.concerns first moves = other.concerns second others) :
    aspect.sight (aspect.run first moves) = other.sight (other.run second others) ∧
      aspect.heard first moves = other.heard second others := by
  have one := closed.run_eq_replay keptFirst allowedFirst
  have two := closedOther.run_eq_replay keptSecond allowedSecond
  rw [begun, same, ← two] at one
  exact Prod.mk.inj one

end Aspect

/-! ## What can be noticed of one peer -/

/-- What a server shows of a tracked peer: its inbox with the tally, and whether it is
open. -/
structure Face where
  inbox : Inbox
  isOpen : Bool
  deriving DecidableEq

/-- What is shown of a peer. -/
def Peer.face {Line : Type} (peer : Peer Line) : Face := ⟨peer.inbox, peer.isOpen⟩

/-- What is heard of a peer: chunks that the data callback was told, and what came of the
calls of the application. -/
inductive Note
  | told (chunk : Bytes)
  | read (copied : Option Bytes)
  | cleared (done : Bool)
  | removed (wasTracked : Bool)
  deriving DecidableEq

/-- A call of the application that names a peer. -/
inductive PeerCall
  | read (size : Nat) (erase : Bool)
  | clear
  | remove
  deriving DecidableEq

namespace PeerCall

/-- What is shown of the peer after a call. -/
def face : PeerCall → Option Face → Option Face
  | .read size erase, before =>
      before.map fun face => { face with inbox := (face.inbox.read size erase).2 }
  | .clear, before => before.map fun face => { face with inbox := face.inbox.clear }
  | .remove, _ => none

/-- What came of a call, given what is shown of the peer before. -/
def note : PeerCall → Option Face → Note
  | .read size erase, before => .read (before.map fun face => (face.inbox.read size erase).1)
  | .clear, before => .cleared before.isSome
  | .remove, before => .removed before.isSome

end PeerCall

/-- The chunk that a report tells of a peer. -/
def Report.told? {Handle : Type} [DecidableEq Handle] (peer : Handle) :
    Report Handle → Option Note
  | .received data other _ _ => if other = peer then some (.told data) else none
  | _ => none

/-- Whether a callback only takes note, or is none at all. -/
def records : Option Reaction → Bool
  | none | some .log => true
  | _ => false

namespace Server

variable {Handle Line Service : Type} [DecidableEq Handle] [Serving Handle Line Service]
variable {server later : Server Handle Line Service}

/-- A call that names a peer: what came of it, and the server after it. -/
def called (server : Server Handle Line Service) (peer : Handle) :
    PeerCall → Note × Server Handle Line Service
  | .read size erase =>
      (server.read peer size erase).map (fun copied => .read copied.toOption) id
  | .clear => (server.clear peer).map (fun done => .cleared done.isOk) id
  | .remove => (server.remove peer).map .removed id

/-- What comes of a call hangs on what is shown of the peer that it names. -/
theorem note_called (server : Server Handle Line Service) (peer : Handle) (call : PeerCall) :
    (server.called peer call).1 = call.note ((server.peer? peer).map Peer.face) := by
  cases call with
  | read size erase =>
      rw [called, read, require]
      cases server.peer? peer <;> rfl
  | clear =>
      rw [called, clear, require]
      cases server.peer? peer <;> rfl
  | remove =>
      rw [called, remove]
      cases server.peer? peer <;> rfl

omit [DecidableEq Handle] [Serving Handle Line Service] in
/-- The callbacks of a server only record. -/
structure Recording (server : Server Handle Line Service) : Prop where
  data : records server.onData = true
  newPeer : records server.onNewPeer = true

omit [DecidableEq Handle] [Serving Handle Line Service] in
theorem Recording.congr (recording : server.Recording) (onData : later.onData = server.onData)
    (onNewPeer : later.onNewPeer = server.onNewPeer) : later.Recording where
  data := by
    rw [onData]
    exact recording.data
  newPeer := by
    rw [onNewPeer]
    exact recording.newPeer

omit [Serving Handle Line Service] in
/-- The chunks that the data callback was told of a peer since an earlier state. -/
def toldSince (server later : Server Handle Line Service) (peer : Handle) : List Note :=
  (later.reports.drop server.reports.length).filterMap (Report.told? peer)

omit [Serving Handle Line Service] in
theorem toldSince_of_reports (same : later.reports = server.reports) (peer : Handle) :
    server.toldSince later peer = [] := by
  rw [toldSince, same, List.drop_length, List.filterMap_nil]

omit [Serving Handle Line Service] in
theorem toldSince_report {report : Report Handle}
    (reports : later.reports = server.reports ++ [report]) (peer : Handle) :
    server.toldSince later peer = (report.told? peer).toList := by
  rw [toldSince, reports, List.drop_left, List.filterMap_cons, List.filterMap_nil]
  cases report.told? peer <;> rfl

/-- A data callback that only records is told and changes nothing. -/
theorem dispatchData_of_records (recording : records server.onData = true) (peer : Handle)
    (data : Bytes) :
    server.dispatchData peer data =
      match server.onData with
      | none => (.unheard, server)
      | some _ => (.heard, server.report (.received data peer .log .nothing)) := by
  rw [dispatchData]
  cases installed : server.onData with
  | none => rfl
  | some reaction =>
      rw [installed] at recording
      cases reaction with
      | log => rfl
      | _ => cases recording

/-- A new-peer callback that only records is told and changes nothing. -/
theorem dispatchNewPeer_of_records (recording : records server.onNewPeer = true)
    (peer : Handle) (address : SocketAddress) :
    server.dispatchNewPeer peer address =
      match server.onNewPeer with
      | none => (.unheard, server)
      | some _ => (.heard, server.report (.joined address peer .log .nothing)) := by
  rw [dispatchNewPeer]
  cases installed : server.onNewPeer with
  | none => rfl
  | some reaction =>
      rw [installed] at recording
      cases reaction with
      | log => rfl
      | _ => cases recording

end Server
end Framelink
