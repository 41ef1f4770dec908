import Framelink.Proofs.Tcp.Turns.FarEnds

/-!
# What workers do

Each step of a worker is a turn of its own connection, and of no other.
-/

namespace Framelink
namespace Tcp

open Connection

namespace Server

variable {server : Server} {worker : Worker} {wire : Wire} {index : Nat}

theorem wire_of_worker? (alive : server.worker? index = some worker) : worker.wire = index := by
  simpa using List.find?_some alive

/-! ## Phases -/

theorem connection_moved (alive : server.worker? index = some worker) {network : Network}
    (steady : server.network.Steady network) (phase : Worker.Phase) (call : Call)
    (removal : Option Bool) (record : Record) (other : Nat) :
    ((server.withNetwork network).moveWorker index phase).connection call removal record other =
      if other = index then
        { server.connection call removal record other with worker := some { worker with phase } }
      else server.connection call removal record other := by
  rw [connection_moveWorker, connection_steady _ _ _ _ _ steady]
  by_cases here : other = index
  · subst here
    rw [if_pos rfl, if_pos rfl,
      show (server.withNetwork network).worker? other = some worker from alive]
    rfl
  · rw [if_neg here, if_neg here]

/-! ## Receives -/

theorem connection_receive (alive : server.worker? index = some worker)
    (found : server.network.wire? index = some wire) (call : Call) (removal : Option Bool)
    (record : Record) (other : Nat) :
    (server.receive worker).connection call removal record other =
      if other = index then
        { server.connection call removal record other with
          wire := some (wire.receive worker.chunk).2
          worker := some { worker with phase := afterReceipt (wire.receive worker.chunk).1 } }
      else server.connection call removal record other := by
  have step : server.receive worker =
      (server.modifyNetwork (·.modifyWire index fun _ =>
        (wire.receive worker.chunk).2)).moveWorker index
          (afterReceipt (wire.receive worker.chunk).1) := by
    unfold receive
    rw [wire_of_worker? alive, found]
  rw [step, connection_moveWorker, connection_modifyWire]
  by_cases same : other = index
  · subst same
    rw [if_pos rfl, if_pos rfl, if_pos rfl, found]
    have kept : (server.modifyNetwork
        (·.modifyWire other fun _ => (wire.receive worker.chunk).2)).worker? other =
          some worker := alive
    rw [kept]
    rfl
  · rw [if_neg same, if_neg same, if_neg same]

/-- The turn of a connection whose worker receives. -/
theorem turn_receive {c : Connection} (found : c.wire = some wire)
    (near : wire.near.isOpen = true) (alive : c.worker = some worker)
    (staying : worker.phase ≠ .leaving) (hand : worker.hand = []) :
    Turn true c
      { c with
        wire := some (wire.receive worker.chunk).2
        worker := some { worker with phase := afterReceipt (wire.receive worker.chunk).1 }
        record :=
          if comesToEnd wire worker.chunk then { c.record with ended := true }
          else c.record } := by
  unfold comesToEnd
  by_cases room : worker.chunk = 0
  · have received : wire.receive worker.chunk = (.ok [], wire) := by
      unfold Wire.receive
      rw [if_pos room]
    rw [received, if_neg (by simp [room])]
    have turn : Turn true c _ :=
      .moved worker .leaving wire wire found alive staying hand rfl (Wire.Alike.refl wire) rfl
    exact turn
  rcases wire.receive_cases worker.chunk room near with
    ⟨waiting, received⟩ | ⟨empty, far, received⟩ | ⟨failure, later, received, alike⟩
  · obtain ⟨first, rest, inbound⟩ := List.exists_cons_of_ne_nil waiting
    obtain ⟨less, positive⟩ := Nat.exists_eq_succ_of_ne_zero room
    have taken : wire.inbound.take worker.chunk = first :: rest.take less := by
      rw [inbound, positive, List.take_succ_cons]
    rw [received]
    dsimp only
    rw [taken]
    refine .received worker wire _ (wire.inbound.drop worker.chunk) found alive staying hand ?_ rfl
    rw [← taken, List.take_append_drop]
  · rw [received, if_pos (by simp [room])]
    have same : some wire = c.wire := found.symm
    dsimp only
    rw [same]
    exact .ended worker wire found alive hand empty far rfl
  · rw [received]
    refine .moved worker _ wire later found alive staying hand ?_ alike rfl
    unfold afterReceipt
    dsimp only
    cases failure.isTransient <;> rfl

/-! ## Steps -/

/-- Whether the step of a worker records anything, and what. -/
def remark (server : Server) (worker : Worker) (delivery : Delivery) (record : Record) : Record :=
  if server.findsEnd worker then { record with ended := true }
  else if worker.announces && delivery = .panicked then
    { record with panicked := true }
  else record

/-- A receive that would have to wait comes upon nothing. -/
theorem not_comesToEnd (found : server.network.wire? worker.wire = some wire)
    (waits : server.canReceive worker = false) :
    comesToEnd wire worker.chunk = false := by
  unfold canReceive at waits
  rw [found] at waits
  simp [Wire.isReadable] at waits
  obtain ⟨room, ⟨inbound, far⟩, near⟩ := waits
  unfold comesToEnd Wire.receive
  rw [if_neg room]
  simp [inbound, near, far, WireEnd.silence]

end Server

namespace Situation

variable {situation : Situation} {worker : Worker} {index : Nat}

theorem findsEnd_of_receives (receives : situation.server.receives worker = true) (wire : Wire)
    (found : situation.server.network.wire? worker.wire = some wire) :
    situation.server.findsEnd worker = comesToEnd wire worker.chunk := by
  unfold Server.findsEnd
  rw [receives, found]
  rfl

theorem hand_afterError (worker : Worker) (failure : Failure) :
    Worker.hand { worker with phase := Server.afterReceipt (.error failure) } = [] := by
  unfold Server.afterReceipt
  dsimp only
  cases failure.isTransient <;> rfl

theorem witness_worker (alive : situation.server.worker? index = some worker)
    (delivery : Delivery) :
    situation.witness delivery (.worker index) =
      situation.note index (situation.server.remark worker delivery) := by
  have unchanged : situation = situation.note index id := by
    unfold note
    simp
  unfold witness
  dsimp only
  rw [alive]
  dsimp only
  by_cases ended : situation.server.findsEnd worker = true
  · rw [if_pos ended]
    congr 1
    funext record
    unfold Server.remark
    rw [if_pos ended]
  · rw [if_neg ended]
    by_cases panics : (worker.announces && delivery = .panicked) = true
    · rw [if_pos panics]
      congr 1
      funext record
      unfold Server.remark
      rw [if_neg ended, if_pos panics]
    · rw [if_neg panics]
      refine Eq.trans unchanged ?_
      congr 1
      funext record
      unfold Server.remark
      rw [if_neg ended, if_neg panics]
      rfl

/-- The connections after a worker stepped. -/
theorem connection_step_worker (alive : situation.server.worker? index = some worker)
    (delivery : Delivery) (wire : Nat) :
    (situation.step (.worker index) delivery).connection wire =
      (situation.server.stepWorker (.answering delivery) worker).connection
        (situation.call wire) (situation.removal? wire)
        (if wire = index then situation.server.remark worker delivery (situation.record wire)
        else situation.record wire) wire := by
  have running : (situation.server.stepWorker (.answering delivery) worker).running =
      situation.server.running :=
    congrArg (fun bearing => bearing.1.1) (Server.workerStep delivery _ worker).bearing
  unfold step
  rw [witness_worker alive, Server.step_worker _ _ alive]
  unfold connection call note
  dsimp only
  rw [running]
  rfl

/-- What the worker of a connection is about to do records nothing. -/
theorem remark_of_quiet {server : Server} (quiet : server.findsEnd worker = false)
    {delivery : Delivery} (returns : worker.announces = true → delivery ≠ .panicked)
    (record : Record) : server.remark worker delivery record = record := by
  unfold Server.remark
  rw [quiet, if_neg Bool.false_ne_true]
  refine if_neg ?_
  rw [Bool.and_eq_true, decide_eq_true_eq]
  exact fun panics => returns panics.1 panics.2

/-- What is recorded when the call of the data callback panics. -/
theorem remark_of_panic {server : Server} {chunk : Bytes}
    (phase : worker.phase = .announcing chunk) {delivery : Delivery}
    (panics : delivery = .panicked) (record : Record) :
    server.remark worker delivery record = { record with panicked := true } := by
  have quiet : server.findsEnd worker = false := by
    simp [Server.findsEnd, Server.receives, phase]
  unfold Server.remark
  rw [quiet, panics]
  simp [Worker.announces, phase]

/-- A worker steps soundly if its step is a turn of its own connection and of no other,
and keeps the outline of the server. -/
theorem turns_step_worker (sound : situation.Sound)
    (alive : situation.server.worker? index = some worker) {delivery : Delivery} {later : Server}
    (stepped : situation.server.stepWorker (.answering delivery) worker = later)
    (outline : later.outline = situation.server.outline)
    (others : ∀ call removal record wire, wire ≠ index →
      later.connection call removal record wire =
        situation.server.connection call removal record wire)
    (turn : Turn true (situation.connection index)
      (later.connection (situation.call index) (situation.removal? index)
        (situation.server.remark worker delivery (situation.record index)) index)) :
    situation.Turns (fun wire => decide (wire = index))
      (situation.step (.worker index) delivery) := by
  have outlineKept : (situation.step (.worker index) delivery).server.outline =
      situation.server.outline := by
    rw [← outline, ← stepped]
    unfold step
    rw [Server.step_worker _ _ alive]
  have controlKept : (situation.step (.worker index) delivery).control = situation.control := by
    obtain ⟨record, made⟩ := situation.step_eq (.worker index) delivery
    rw [made]
  refine ⟨sound.ordered.of_outline outlineKept controlKept, fun wire => ?_⟩
  rw [connection_step_worker alive delivery wire, stepped]
  by_cases here : wire = index
  · subst here
    rw [if_pos rfl, decide_eq_true rfl]
    exact turn
  · rw [if_neg here, others _ _ _ wire here]
    exact .rest

section Steps

variable (sound : situation.Sound) (alive : situation.server.worker? worker.wire = some worker)
  {delivery : Delivery}
include sound alive

/-- A step of a worker that moves it on to another phase, with no bytes in hand. -/
theorem turns_moved {network : Network} (steady : situation.server.network.Steady network)
    {phase : Worker.Phase}
    (stepped : situation.server.stepWorker (.answering delivery) worker =
      (situation.server.withNetwork network).moveWorker worker.wire phase)
    (staying : worker.phase ≠ .leaving) (hand : worker.hand = [])
    (empty : Worker.hand { worker with phase } = [])
    (quiet : situation.server.findsEnd worker = false)
    (returns : worker.announces = true → delivery ≠ .panicked) :
    situation.Turns (fun wire => decide (wire = worker.wire))
      (situation.step (.worker worker.wire) delivery) := by
  obtain ⟨wire, found, _⟩ := sound.worker_wire alive
  refine turns_step_worker sound alive stepped
    (situation.server.outline_withNetwork steady.listeners) ?_ ?_
  · intro call removal record other elsewhere
    rw [Server.connection_moved alive steady, if_neg elsewhere]
  · rw [remark_of_quiet quiet returns, Server.connection_moved alive steady, if_pos rfl]
    have same : (situation.connection worker.wire).wire = some wire := found
    have turn : Turn true (situation.connection worker.wire) _ :=
      .moved worker phase wire wire same alive staying hand empty (Wire.Alike.refl wire) rfl
    rw [← same] at turn
    exact turn

/-- A step of a worker that receives, on a network that differs in no wire. -/
theorem turns_received {network : Network} (steady : situation.server.network.Steady network)
    (stepped : situation.server.stepWorker (.answering delivery) worker =
      (situation.server.withNetwork network).receive worker)
    (staying : worker.phase ≠ .leaving) (hand : worker.hand = [])
    (receives : situation.server.receives worker = true) (calm : worker.announces = false) :
    situation.Turns (fun wire => decide (wire = worker.wire))
      (situation.step (.worker worker.wire) delivery) := by
  obtain ⟨wire, found, near⟩ := sound.worker_wire alive
  have same : (situation.connection worker.wire).wire = some wire := found
  have present : (situation.connection worker.wire).worker = some worker := alive
  have foundLater : (situation.server.withNetwork network).network.wire? worker.wire =
      some wire := (congrArg (·[worker.wire]?) steady.wires).trans found
  have connection := @Server.connection_receive (situation.server.withNetwork network) worker wire
    worker.wire alive foundLater
  have kept := fun call removal record other =>
    situation.server.connection_steady call removal record other steady
  refine turns_step_worker sound alive stepped ?_ ?_ ?_
  · refine Eq.trans ?_ (situation.server.outline_withNetwork steady.listeners)
    unfold Server.receive
    split <;> rfl
  · intro call removal record other elsewhere
    rw [connection, if_neg elsewhere, kept]
  · have turn := Server.turn_receive same near present staying hand
    have remark : situation.server.remark worker delivery (situation.record worker.wire) =
        if comesToEnd wire worker.chunk then
          { situation.record worker.wire with ended := true }
        else situation.record worker.wire := by
      unfold Server.remark
      rw [findsEnd_of_receives receives wire found, calm]
      rfl
    rw [connection, if_pos rfl, kept, remark]
    exact turn

/-- A worker that would have to wait does not find the end of its stream. -/
theorem quiet_of_unready {network : Network} (steady : situation.server.network.Steady network)
    (receives : situation.server.receives worker = true)
    (unready : (situation.server.withNetwork network).canReceive worker = false) :
    situation.server.findsEnd worker = false := by
  obtain ⟨wire, found, _⟩ := sound.worker_wire alive
  have foundLater : (situation.server.withNetwork network).network.wire? worker.wire =
      some wire := (congrArg (·[worker.wire]?) steady.wires).trans found
  rw [findsEnd_of_receives receives wire found]
  exact Server.not_comesToEnd foundLater unready

/-- A step of a worker that puts what it received into the inbox. -/
theorem turns_queued {chunk : Bytes} (phase : worker.phase = .queueing chunk)
    (stepped : situation.server.stepWorker (.answering delivery) worker =
      (situation.server.pushSession worker.wire chunk).moveWorker worker.wire
        (.confirming chunk)) :
    situation.Turns (fun wire => decide (wire = worker.wire))
      (situation.step (.worker worker.wire) delivery) := by
  have quiet : situation.server.findsEnd worker = false := by
    simp [Server.findsEnd, Server.receives, phase]
  refine turns_step_worker sound alive stepped
    (situation.server.outline_modifySession worker.wire (pushedPeer chunk) fun _ => rfl) ?_ ?_
  · intro call removal record other elsewhere
    rw [Server.connection_moveWorker, if_neg elsewhere, Server.connection_pushSession,
      if_neg elsewhere]
  · have kept : (situation.server.pushSession worker.wire chunk).worker? worker.wire =
        some worker := alive
    rw [remark_of_quiet quiet (by simp [Worker.announces, phase]),
      Server.connection_moveWorker, if_pos rfl, Server.connection_pushSession, if_pos rfl, kept]
    exact .pushed worker chunk rfl alive phase

/-- A step of a worker whose call of the data callback panicked. -/
theorem turns_startled {chunk : Bytes} (phase : worker.phase = .announcing chunk)
    (panics : delivery = .panicked)
    (stepped : situation.server.stepWorker (.answering delivery) worker =
      situation.server.endWorker worker.wire) :
    situation.Turns (fun wire => decide (wire = worker.wire))
      (situation.step (.worker worker.wire) delivery) := by
  obtain ⟨wire, found, _⟩ := sound.worker_wire alive
  have foundHere : (situation.connection worker.wire).wire = some wire := found
  refine turns_step_worker sound alive stepped rfl ?_ ?_
  · intro call removal record other elsewhere
    rw [Server.connection_endWorker, if_neg elsewhere]
  · rw [remark_of_panic phase panics, Server.connection_endWorker, if_pos rfl]
    have turn : Turn true (situation.connection worker.wire) _ :=
      .crashed worker wire wire found alive (by simp [Worker.hand, phase]) (Or.inl rfl) rfl
    rw [← foundHere] at turn
    exact turn

/-- A step of a worker whose call of the data callback panicked when its peer was removed:
nobody else holds the wire. -/
theorem turns_deserted {chunk : Bytes} (phase : worker.phase = .announcing chunk)
    (panics : delivery = .panicked)
    (removed : situation.server.tracksWire worker.wire = false)
    (stepped : situation.server.stepWorker (.answering delivery) worker =
      (situation.server.dropWire worker.wire).endWorker worker.wire) :
    situation.Turns (fun wire => decide (wire = worker.wire))
      (situation.step (.worker worker.wire) delivery) := by
  obtain ⟨wire, found, _⟩ := sound.worker_wire alive
  have untracked : ¬ (situation.connection worker.wire).session.isSome := by
    rw [situation.server.tracksWire_eq worker.wire] at removed
    exact Bool.eq_false_iff.1 removed
  refine turns_step_worker sound alive stepped rfl ?_ ?_
  · intro call removal record other elsewhere
    rw [Server.connection_endWorker, if_neg elsewhere, Server.connection_dropWire,
      if_neg elsewhere]
  · rw [remark_of_panic phase panics, Server.connection_endWorker, if_pos rfl,
      Server.connection_dropWire, if_pos rfl, found]
    exact .crashed worker wire wire.closeNear found alive (by simp [Worker.hand, phase])
      (Or.inr ⟨untracked, rfl⟩) rfl

/-- A step of a worker that leaves. -/
theorem turns_left (phase : worker.phase = .leaving)
    (stepped : situation.server.stepWorker (.answering delivery) worker =
      situation.server.leave worker) :
    situation.Turns (fun wire => decide (wire = worker.wire))
      (situation.step (.worker worker.wire) delivery) := by
  obtain ⟨wire, found, _⟩ := sound.worker_wire alive
  have quiet : situation.server.findsEnd worker = false := by
    simp [Server.findsEnd, Server.receives, phase]
  unfold Server.leave at stepped
  refine turns_step_worker sound alive stepped
    (situation.server.outline_modifySession worker.wire closedPeer fun _ => rfl) ?_ ?_
  · intro call removal record other elsewhere
    rw [Server.connection_endWorker, if_neg elsewhere, Server.connection_shutWire,
      if_neg elsewhere, Server.connection_closeSession, if_neg elsewhere]
  · have foundLater : (situation.server.closeSession worker.wire).network.wire? worker.wire =
        some wire := found
    rw [remark_of_quiet quiet (by simp [Worker.announces, phase]),
      Server.connection_endWorker, if_pos rfl, Server.connection_shutWire, if_pos rfl,
      Server.connection_closeSession, if_pos rfl, foundLater]
    exact .left worker wire found alive (by simp [Worker.hand, phase]) rfl phase

end Steps

/-- A step of a worker is a turn of its own connection. -/
theorem turns_worker (sound : situation.Sound) (index : Nat) (delivery : Delivery) :
    situation.Turns (fun wire => decide (wire = index))
      (situation.step (.worker index) delivery) := by
  cases alive : situation.server.worker? index with
  | none =>
      rw [step_of_no_worker alive]
      exact Turns.refl sound _
  | some worker =>
      obtain rfl := Server.wire_of_worker? alive
      have step := situation.server.workerStep delivery worker
      generalize stepped : situation.server.stepWorker (.answering delivery) worker = later
        at step
      cases step with
      | looked phase =>
          exact turns_moved sound alive (.refl _) stepped (by simp [phase])
            (by simp [Worker.hand, phase]) (by cases situation.server.running <;> rfl)
            (by simp [Server.findsEnd, Server.receives, phase])
            (by simp [Worker.announces, phase])
      | struck phase fault network struck =>
          have steady := (Network.Tried.of_consult struck).steady
          exact turns_moved sound alive steady stepped (by simp [phase])
            (by simp [Worker.hand, phase]) (hand_afterError worker fault.failure)
            (by simp [Server.findsEnd, Server.receives, phase, struck])
            (by simp [Worker.announces, phase])
      | received phase network spared =>
          have steady := (Network.Tried.of_consult spared).steady
          exact turns_received sound alive steady stepped (by simp [phase])
            (by simp [Worker.hand, phase]) (by simp [Server.receives, phase, spared])
            (by simp [Worker.announces, phase])
      | paused phase network spared unready =>
          have steady := (Network.Tried.of_consult spared).steady
          have quiet := quiet_of_unready sound alive steady
            (by simp [Server.receives, phase, spared]) (Bool.or_eq_false_iff.1 unready).2
          exact turns_moved sound alive steady stepped (by simp [phase])
            (by simp [Worker.hand, phase]) rfl quiet (by simp [Worker.announces, phase])
      | resumed phase =>
          exact turns_received sound alive (.refl _) stepped (by simp [phase])
            (by simp [Worker.hand, phase]) (by simp [Server.receives, phase])
            (by simp [Worker.announces, phase])
      | waited phase unready =>
          have quiet := quiet_of_unready sound alive (.refl _)
            (by simp [Server.receives, phase]) unready
          refine turns_step_worker sound alive stepped rfl (fun _ _ _ _ _ => rfl) ?_
          rw [remark_of_quiet quiet (by simp [Worker.announces, phase])]
          exact .rest
      | queued chunk phase => exact turns_queued sound alive phase stepped
      | confirmed chunk phase =>
          exact turns_moved sound alive (.refl _) stepped (by simp [phase])
            (by simp [Worker.hand, phase]) (by cases situation.server.running <;> rfl)
            (by simp [Server.findsEnd, Server.receives, phase])
            (by simp [Worker.announces, phase])
      | announced chunk phase returns =>
          exact turns_moved sound alive (.refl _) stepped (by simp [phase])
            (by simp [Worker.hand, phase]) rfl
            (by simp [Server.findsEnd, Server.receives, phase]) (fun _ => returns)
      | startled chunk phase panics => exact turns_startled sound alive phase panics stepped
      | deserted chunk phase panics removed =>
          exact turns_deserted sound alive phase panics removed stepped
      | left phase => exact turns_left sound alive phase stepped

end Situation
end Tcp
end Framelink
