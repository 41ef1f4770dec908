import Framelink.Proofs.Tcp.Numbers
import Framelink.Proofs.Tcp.Sight

/-!
# A stream server as one connection is concerned by it

Of all that happens to a stream server, a connection is concerned by its own admission,
by what its own worker receives and does, by the calls of the application that name its
peer, by the data callback that is put in place, and by the server beginning or ceasing
to run.  Whatever becomes of other connections shows nothing of it, as long as there are
numbers left for them.
-/

namespace Framelink
namespace Tcp

/-- The call that a move is, and the number that it names. -/
def Move.call? : Move → Option (UInt64 × PeerCall)
  | .read id size erase => some (id, .read size erase)
  | .clear id => some (id, .clear)
  | .remove id => some (id, .remove)
  | _ => none

/-- A move in which no callback panics, and that puts no callbacks in place but such as only
record. -/
def Move.Recording : Move → Prop
  | .replace onData onNewPeer => records onData = true ∧ records onNewPeer = true
  | .step _ delivery => delivery ≠ .panicked
  | _ => True

instance : DecidablePred Move.Recording
  | .replace onData onNewPeer =>
      inferInstanceAs (Decidable (records onData = true ∧ records onNewPeer = true))
  | .step _ delivery => inferInstanceAs (Decidable (delivery ≠ .panicked))
  | .connect .. | .send .. | .carry .. | .finish .. | .depart .. | .abort .. | .hear ..
  | .hinder .. | .read .. | .clear .. | .transmit .. | .broadcast .. | .adjust .. | .remove ..
  | .proceed .. | .start | .setUp | .stop | .advance => .isTrue trivial

/-- Whether there may be a connection that notices a move. -/
def Move.shows : Move → Bool
  | .step _ _ | .read _ _ _ | .clear _ | .remove _ | .replace _ _ | .start | .setUp | .stop => true
  | _ => false

namespace Situation

/-! ## What a connection notices -/

variable (wire : Nat) (situation : Situation)

/-- What a step of a service thread is to a connection. -/
def stepConcern? : Thread → Option Concern
  | .acceptor port =>
      (situation.server.acceptor? port).bind fun acceptor =>
        situation.server.admits? acceptor wire
  | .worker index =>
      if index = wire then
        (situation.server.worker? wire).map fun worker =>
          .served (situation.server.receipt? wire worker)
      else none

/-- What a move that starts or stops the server is to a connection. -/
def powerConcern? (move : Move) : Option Concern :=
  let running := (situation.after move).server.running
  if running = situation.server.running then none else some (.powered running)

/-- What a move is to a connection. -/
def concern? (move : Move) : Option Concern :=
  match move.call? with
  | some (id, call) => if situation.server.names id wire then some (.called call) else none
  | none =>
      match move with
      | .replace onData _ => some (.replaced onData.isSome)
      | .step thread _ => situation.stepConcern? wire thread
      | .start | .setUp | .stop => situation.powerConcern? move
      | _ => none

/-- Whether a thread is another worker whose peer has the same number: the numbers are given
out again once all were. -/
def isNamesake (worker : Worker) : Thread → Bool
  | .acceptor _ => false
  | .worker index =>
      index != worker.wire && (situation.server.worker? index).map Worker.id == some worker.id

/-- What the data callback is told of a connection when a thread steps. -/
def told (thread : Thread) : List Note :=
  match situation.server.worker? wire with
  | none => []
  | some worker =>
      if situation.isNamesake worker thread then []
      else
        Framelink.Server.toldSince situation.server (situation.server.step .live thread)
          worker.id

/-- What is heard of a connection during a move: what came of the calls that name its peer,
and what the data callback is told. -/
def notes (move : Move) : List Note :=
  match move.call? with
  | some (id, call) =>
      if situation.server.names id wire then
        [(Framelink.Server.called situation.server id call).1]
      else []
  | none =>
      match move with
      | .step thread _ => situation.told wire thread
      | _ => []

/-- A stream server as one connection is concerned by it. -/
def aspect : Aspect Situation Move Sight Concern Note where
  after := after
  sight := fun situation => situation.server.sight wire
  concern? := concern? wire
  notes := notes wire

/-- The server is in order and its callbacks only record. -/
structure Recording : Prop where
  sound : situation.Sound
  callbacks : Framelink.Server.Recording situation.server

variable {situation}

/-! ## Steps of service threads -/

/-- What a connection notices of a step of an acceptor. -/
theorem noticed_acceptor (recording : situation.Recording) {port : UInt16} {acceptor : Acceptor}
    (alive : situation.server.acceptor? port = some acceptor) {delivery : Delivery}
    (returns : delivery ≠ .panicked) :
    ((situation.server.stepAcceptor (.answering delivery) acceptor).sight wire,
        situation.told wire (.acceptor port)) =
      Aspect.respond Sight.react (situation.server.sight wire)
        (situation.server.admits? acceptor wire) := by
  have sound := recording.sound
  obtain ⟨listener, phase, admits, rfl, rfl⟩ := sound.admits alive
  have unknown (admission : Admission) (registers : phase = .registering admission) :
      situation.server.session? admission.wire = none := by
    subst registers
    exact (admits.untracked sound).2
  have unserved (id : UInt64) (admission : Admission) (spawns : phase = .spawning id admission) :
      situation.server.worker? admission.wire = none := by
    subst spawns
    exact (admits.unserved sound).2
  have silent : situation.told wire (.acceptor (port listener)) = [] := by
    rw [told]
    split
    · rfl
    · rw [isNamesake, if_neg Bool.false_ne_true, Server.step_acceptor _ _ alive]
      exact Server.told_stepAcceptor recording.callbacks _ _
  rw [silent]
  exact (situation.server.acceptorStep delivery _).sight wire sound.ordered.distinct unknown
    unserved returns

/-- What a connection notices of a step of a worker. -/
theorem noticed_worker (recording : situation.Recording) {index : Nat} {worker : Worker}
    (alive : situation.server.worker? index = some worker) {delivery : Delivery}
    (returns : delivery ≠ .panicked) :
    ((situation.server.stepWorker (.answering delivery) worker).sight wire,
        situation.told wire (.worker index)) =
      Aspect.respond Sight.react (situation.server.sight wire)
        (situation.stepConcern? wire (.worker index)) := by
  rw [Server.sight_stepWorker wire alive fun _ => returns, told, stepConcern?,
    Server.step_worker _ _ alive]
  by_cases own : index = wire
  · subst own
    have served := Server.told_stepWorker recording.callbacks alive worker.id
    have itself : situation.isNamesake worker (.worker index) = false := by
      rw [isNamesake, Server.wire_of_worker? alive, bne_self_eq_false, Bool.false_and]
    rw [if_pos rfl] at served
    rw [if_pos rfl, if_pos rfl, alive]
    dsimp only [Option.map_some]
    rw [itself, if_neg Bool.false_ne_true, served]
    rfl
  -- Another worker tells of its own number, which a connection has too only if the worker is
  -- a namesake.
  · rw [if_neg (Ne.symm own), if_neg own]
    refine Prod.ext rfl ?_
    dsimp only [Aspect.respond]
    cases other : situation.server.worker? wire with
    | none => rfl
    | some neighbour =>
        have apart : worker.id = neighbour.id →
            situation.isNamesake neighbour (.worker index) = true := by
          intro same
          rw [isNamesake, alive, Server.wire_of_worker? other, Option.map_some, same,
            beq_self_eq_true, Bool.and_true, bne_iff_ne]
          exact own
        dsimp only
        split
        · rfl
        · next stranger =>
            rw [Server.told_stepWorker recording.callbacks alive]
            exact if_neg fun same => stranger (apart same)

/-- What a connection notices of a step of a service thread. -/
theorem noticed_step (recording : situation.Recording) (thread : Thread) {delivery : Delivery}
    (returns : delivery ≠ .panicked) :
    ((situation.step thread delivery).server.sight wire, situation.told wire thread) =
      Aspect.respond Sight.react (situation.server.sight wire)
        (situation.stepConcern? wire thread) := by
  have gone (still : situation.server.step .live thread = situation.server) :
      situation.told wire thread = [] := by
    rw [told]
    split
    · rfl
    · split
      · rfl
      · rw [still]
        exact Framelink.Server.toldSince_of_reports rfl _
  cases thread with
  | acceptor port =>
      cases alive : situation.server.acceptor? port with
      | none =>
          rw [step_of_no_acceptor alive, gone (Server.step_no_acceptor _ _ alive), stepConcern?,
            alive]
          rfl
      | some acceptor =>
          have stepped : (situation.step (.acceptor port) delivery).server =
              situation.server.stepAcceptor (.answering delivery) acceptor :=
            Server.step_acceptor _ _ alive
          rw [stepped, stepConcern?, alive]
          exact noticed_acceptor wire recording alive returns
  | worker index =>
      cases alive : situation.server.worker? index with
      | none =>
          rw [step_of_no_worker alive, gone (Server.step_no_worker _ _ alive), stepConcern?]
          split
          · next own =>
              rw [← own, alive]
              rfl
          · rfl
      | some worker =>
          have stepped : (situation.step (.worker index) delivery).server =
              situation.server.stepWorker (.answering delivery) worker :=
            Server.step_worker _ _ alive
          rw [stepped]
          exact noticed_worker wire recording alive returns

/-! ## Calls that name a peer -/

/-- What a connection notices of a call that shows what it should. -/
theorem noticed_call (distinct : situation.server.Distinct) {id : UInt64} {call : PeerCall}
    {later : Server}
    (unknown : Framelink.Server.peer? situation.server id = none → later = situation.server)
    (known : ∀ peer, Framelink.Server.peer? situation.server id = some peer →
      later.sight wire =
        if wire = peer.line.wire then
          { situation.server.sight wire with face := call.face (some peer.face) }
        else situation.server.sight wire) :
    (later.sight wire,
        if situation.server.names id wire then
          [(Framelink.Server.called situation.server id call).1]
        else []) =
      Aspect.respond Sight.react (situation.server.sight wire)
        (if situation.server.names id wire then some (.called call) else none) := by
  rw [Framelink.Server.note_called, Server.names]
  cases tracked : Framelink.Server.peer? situation.server id with
  | none =>
      rw [unknown tracked]
      rfl
  | some peer =>
      have face := Server.face_of_tracked distinct tracked
      rw [known peer tracked, Option.map_some, Option.map_some]
      by_cases own : wire = peer.line.wire
      · subst own
        rw [if_pos rfl, if_pos (beq_self_eq_true _), if_pos (beq_self_eq_true _)]
        rw [Aspect.respond, Sight.react, face]
      · have other : (some peer.line.wire == some wire) = false := by
          rw [beq_eq_false_iff_ne]
          exact fun same => own (Option.some.inj same).symm
        rw [if_neg own, other]
        rfl

theorem noticed_read (sound : situation.Sound) (id : UInt64) (size : Nat) (erase : Bool) :
    ((situation.read id size erase).server.sight wire,
        notes wire situation (.read id size erase)) =
      Aspect.respond Sight.react (situation.server.sight wire)
        (concern? wire situation (.read id size erase)) := by
  have distinct := sound.ordered.distinct
  refine noticed_call wire distinct (fun untracked => ?_) fun peer tracked => ?_
  · rw [read, Framelink.Server.read, Framelink.Server.require, untracked]
  · rw [read, Framelink.Server.read, Framelink.Server.require, tracked]
    exact Server.sight_modifyPeer distinct tracked wire fun _ => (peer.inbox.read size erase).2

theorem noticed_clear (sound : situation.Sound) (id : UInt64) :
    ((situation.clear id).server.sight wire, notes wire situation (.clear id)) =
      Aspect.respond Sight.react (situation.server.sight wire)
        (concern? wire situation (.clear id)) := by
  have distinct := sound.ordered.distinct
  refine noticed_call wire distinct (fun untracked => ?_) fun peer tracked => ?_
  · rw [clear, untracked]
  · rw [clear, tracked]
    dsimp only
    rw [Framelink.Server.clear, Framelink.Server.require, tracked]
    exact Server.sight_modifyPeer distinct tracked wire Inbox.clear

theorem noticed_remove (sound : situation.Sound) (id : UInt64) :
    ((situation.remove id).server.sight wire, notes wire situation (.remove id)) =
      Aspect.respond Sight.react (situation.server.sight wire)
        (concern? wire situation (.remove id)) := by
  have distinct := sound.ordered.distinct
  refine noticed_call wire distinct (fun untracked => ?_) fun peer tracked => ?_
  · rw [remove, untracked]
  · rw [remove, tracked]
    exact Server.sight_untrack distinct tracked wire

/-! ## Other moves -/

/-- No connection notices what far ends and the surroundings do, nor what the application
sends and settles. -/
theorem Leads.unseen {move : Move} {later : Situation} (leads : situation.Leads move later)
    (hidden : move.shows = false) :
    later.server.sight wire = situation.server.sight wire := by
  cases leads with
  | stepped | read | cleared | replaced | removed | startRefused | startBegun | setUpFailed
  | setUpMade | stopNeedless | stopBegun => cases hidden
  | asked index => exact Server.sight_passHandle situation.server index wire .stored .seized
  | kept index =>
      exact (Server.sight_forsake (situation.server.detach index) index wire).trans
        (Server.sight_passHandle situation.server index wire .seized .detached)
  | collected index => exact Server.sight_passHandle situation.server index wire .stored .awaited
  | drained => exact Server.sight_passHandles situation.server wire .detached .awaited
  | _ => rfl

/-- Of a call that starts or stops the server it shows only whether the server runs then. -/
theorem Leads.shows_power {move : Move} {later : Situation} (leads : situation.Leads move later)
    (powers : move = .start ∨ move = .setUp ∨ move = .stop) :
    later.server.sight wire =
      { situation.server.sight wire with running := later.server.running } := by
  cases leads with
  | nothing | startRefused | startBegun | setUpFailed | setUpMade | stopNeedless | stopBegun => rfl
  | _ => simp at powers

/-- A move that shows only in whether the server runs. -/
theorem noticed_power {move : Move}
    (shown : (situation.after move).server.sight wire =
      { situation.server.sight wire with running := (situation.after move).server.running }) :
    ((situation.after move).server.sight wire, []) =
      Aspect.respond Sight.react (situation.server.sight wire)
        (situation.powerConcern? move) := by
  rw [shown, powerConcern?]
  dsimp only
  split
  · next same =>
      rw [same]
      rfl
  · rfl

/-! ## Every move -/

/-- What a connection notices of each move. -/
theorem noticed_after (recording : situation.Recording) {move : Move} (allowed : move.Recording) :
    ((situation.after move).server.sight wire, notes wire situation move) =
      Aspect.respond Sight.react (situation.server.sight wire) (concern? wire situation move) := by
  have sound := recording.sound
  have unseen {later : Server} (same : later.sight wire = situation.server.sight wire) :
      (later.sight wire, ([] : List Note)) = (situation.server.sight wire, []) := by rw [same]
  have leads := situation.leads_after move
  cases move with
  | step thread delivery => exact noticed_step wire recording thread allowed
  | read id size erase => exact noticed_read wire sound id size erase
  | clear id => exact noticed_clear wire sound id
  | remove id => exact noticed_remove wire sound id
  | replace => rfl
  | start | setUp | stop => exact noticed_power wire (leads.shows_power wire (by simp))
  | _ => exact unseen (leads.unseen wire rfl)

/-- Callbacks that only record stay in place until others that only record replace them. -/
theorem Recording.after (recording : situation.Recording) {move : Move}
    (allowed : move.Recording) : (situation.after move).Recording where
  sound := recording.sound.after move
  callbacks := by
    have stays {later : Server}
        (same : (later.onData, later.onNewPeer) =
          (situation.server.onData, situation.server.onNewPeer)) :
        Framelink.Server.Recording later := by
      obtain ⟨onData, onNewPeer⟩ := Prod.mk.inj same
      exact recording.callbacks.congr onData onNewPeer
    cases move with
    | replace onData onNewPeer => exact ⟨allowed.1, allowed.2⟩
    | step thread delivery =>
        exact stays (congrArg Prod.snd (Server.bearing_step delivery situation.server thread))
    | _ => exact stays ((situation.leads_after _).undisturbed (by simp) (by simp)).callbacks

/-- What a connection sees and hears hangs on what concerns it alone, as long as the callbacks
only record. -/
theorem aspect_closed : (aspect wire).Closed Recording Move.Recording Sight.react where
  kept := fun _ _ recording allowed => recording.after allowed
  noticed := fun _ _ recording allowed => noticed_after wire recording allowed

/-! ## Numbers that are given out again -/

/-- No peer loses its number to another before all numbers were given out. -/
theorem concern_of_numbered {count : Nat} (numbered : situation.server.Numbered count)
    (left : count < UInt64.size) (move : Move) :
    concern? wire situation move ≠ some .evicted := by
  cases move with
  | step thread delivery =>
      dsimp only [concern?, Move.call?]
      cases thread with
      | acceptor port =>
          rw [stepConcern?]
          cases situation.server.acceptor? port with
          | none => simp
          | some acceptor =>
              rw [Option.bind_some, Server.admits?, Server.names, numbered.next_free left]
              split
              · split <;> simp
              · split <;> simp
              · simp
      | worker index =>
          rw [stepConcern?]
          split
          · cases situation.server.worker? wire <;> simp
          · simp
  | read | clear | remove =>
      dsimp only [concern?, Move.call?]
      split <;> simp
  | start | setUp | stop =>
      dsimp only [concern?, Move.call?, powerConcern?]
      split <;> simp
  | _ => simp [concern?, Move.call?]

/-- As long as there are numbers for all that a run admits, no peer loses its number to
another. -/
theorem concerns_of_numbered {count : Nat} (numbered : situation.server.Numbered count)
    {moves : List Move} (few : count + moves.length ≤ UInt64.size) :
    .evicted ∉ (aspect wire).concerns situation moves := by
  induction moves generalizing situation count with
  | nil => exact List.not_mem_nil
  | cons move rest inductionHypothesis =>
      rw [List.length_cons] at few
      obtain ⟨given, atMost, later⟩ := situation.numbered_after numbered move
      rw [Aspect.concerns, List.mem_append, Option.mem_toList]
      rintro (now | after)
      · exact concern_of_numbered wire numbered (by omega) move now
      · exact inductionHypothesis later (by omega) after

/-- In a run of no more moves than there are numbers, no peer loses its number to another. -/
theorem never_evicted (settings : Settings) (isolated : Bool) {moves : List Move}
    (few : moves.length ≤ UInt64.size) :
    .evicted ∉ (aspect wire).concerns (initial settings isolated) moves := by
  have none : (initial settings isolated).server.Numbered 0 := ⟨rfl, nofun⟩
  exact concerns_of_numbered wire none (by omega)

end Situation
end Tcp
end Framelink
