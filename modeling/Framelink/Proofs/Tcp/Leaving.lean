import Framelink.Proofs.Tcp.Gate
import Framelink.Proofs.Tcp.Queues
import Framelink.Proofs.Tcp.Sight

/-!
# Why workers leave

A worker that leaves closes its peer.  It never leaves but for what it found itself at one
of its own steps: the server did not run, the stream had ended, a receive had failed for
good, or it had received with no room at all, which looks like the end of a stream to it.
A tracked peer that is closed was closed by its worker, or never got one.
-/

namespace Framelink
namespace Tcp

/-- Passing a handle on changes nothing of a worker but where its handle is. -/
theorem Worker.pass_eq (source target : Custody) (worker : Worker) :
    worker.pass source target =
      { worker with custody := (worker.pass source target).custody } := by
  unfold Worker.pass
  split <;> rfl

namespace Connection

variable {own : Bool} {c later : Connection} {worker : Worker}

/-! ## What becomes of a worker in one turn -/

/-- What is not a step of its own leaves a worker alone, but for where its handle is. -/
theorem Turn.spares (turn : Turn false c later) (placed : c.Placed)
    (alive : c.worker = some worker) :
    ∃ custody, later.worker = some { worker with custody } := by
  have passed (source target : Custody) :
      ∃ custody, c.worker.map (Worker.pass source target) = some { worker with custody } := by
    rw [alive, Option.map_some, Worker.pass]
    split
    · exact ⟨target, rfl⟩
    · exact ⟨worker.custody, rfl⟩
  cases turn with
  | moved | received | ended | pushed | crashed | left => contradiction
  | served other stage => cases (placed.greeted stage).symm.trans alive
  | stored | asked | kept | collected | drained => exact passed _ _
  | _ => exact ⟨worker.custody, alive⟩

/-- A worker that is still there is the same, but for what it does next and for where its
handle is. -/
theorem Turn.same_worker (turn : Turn own c later) (placed : c.Placed)
    (alive : c.worker = some worker) {after : Worker} (still : later.worker = some after) :
    after = { worker with phase := after.phase, custody := after.custody } := by
  cases turn with
  | moved _ _ _ _ _ here | received _ _ _ _ _ here | ended _ _ _ here | pushed _ _ _ here =>
      cases here.symm.trans alive
      cases still
      rfl
  | crashed | left => cases still
  | served other stage => cases (placed.greeted stage).symm.trans alive
  | stored | asked | kept | collected | drained =>
      obtain ⟨before, here, rfl⟩ := Option.map_eq_some_iff.1 still
      cases here.symm.trans alive
      rw [Worker.phase_pass]
      exact worker.pass_eq _ _
  | _ =>
      cases alive.symm.trans still
      rfl

/-- A worker comes to a connection whose peer was greeted, and looks first. -/
theorem Turn.recruited (turn : Turn own c later) (free : c.worker = none)
    (alive : later.worker = some worker) :
    c.stage = .greeting ∧ later.stage = .storing ∧ worker.phase = .looking := by
  cases turn with
  | served other stage custody phase =>
      cases alive
      exact ⟨stage, rfl, phase⟩
  | moved _ _ _ _ _ here | received _ _ _ _ _ here | ended _ _ _ here | pushed _ _ _ here =>
      cases free.symm.trans here
  | crashed | left => cases alive
  | stored | asked | kept | collected | drained =>
      rw [free] at alive
      cases alive
  | _ => cases free.symm.trans alive

/-! ## Closed peers -/

/-- The peer is tracked, and closed. -/
def Shut (c : Connection) : Prop := ∃ peer, c.session = some peer ∧ peer.isOpen = false

/-- A peer is closed by its worker, which leaves, or when the acceptor gives it up. -/
theorem Turn.shut (turn : Turn own c later) (shut : later.Shut) (fresh : ¬ c.Shut) :
    (own = true ∧ ∃ worker, c.worker = some worker ∧ worker.phase = .leaving) ∨
      c.stage = .greeting ∧ later.stage = .absent := by
  obtain ⟨peer, tracked, closed⟩ := shut
  cases turn with
  | left worker wire found alive hand stepped phase => exact Or.inl ⟨stepped, worker, alive, phase⟩
  | unserved wire found stage => exact Or.inr ⟨stage, rfl⟩
  | registered added stage empty new =>
      cases tracked
      cases new.symm.trans closed
  | pushed =>
      obtain ⟨old, present, rfl⟩ := Option.map_eq_some_iff.1 tracked
      exact absurd ⟨old, present, closed⟩ fresh
  | consumed old changed bytes present contents same =>
      cases tracked
      exact absurd ⟨old, present, same.symm.trans closed⟩ fresh
  | replaced | untracked => cases tracked
  | _ => exact absurd ⟨peer, tracked, closed⟩ fresh

end Connection

/-! ## Why a worker leaves -/

namespace Server

/-- What makes a worker leave at its next step. -/
inductive Cause (server : Server) (index : Nat) (worker : Worker) : Prop
  /-- The server does not run. -/
  | down (down : server.running = false)
  /-- The far end sends no more, and all that it sent was received. -/
  | ended (wire : Wire) (found : server.network.wire? index = some wire)
      (inbound : wire.inbound = []) (far : wire.far ≠ .connected)
  /-- A receive fails, and not for a moment only. -/
  | failed (failure : Failure)
      (received : server.receipt? index worker = some (.error failure))
      (lasting : failure.isTransient = false)
  /-- It receives, and has no room. -/
  | roomless (room : worker.chunk = 0)

variable {server : Server} {index : Nat} {worker : Worker}

theorem worker?_endWorker (server : Server) (index : Nat) :
    (server.endWorker index).worker? index = none := by
  have ended := server.connection_endWorker .resting none .blank index index
  rw [if_pos rfl] at ended
  exact congrArg Connection.worker ended

/-- A worker is gone once its call of the data callback panicked. -/
theorem gone_of_panic (alive : server.worker? index = some worker)
    (announces : worker.announces = true) :
    (server.stepWorker (.answering .panicked) worker).worker? index = none := by
  obtain ⟨chunk, phase⟩ := Worker.of_announces announces
  rw [stepWorker, phase]
  dsimp only [announce, inThread, Callbacks.answering]
  rw [wire_of_worker? alive]
  exact worker?_endWorker _ index

/-- A worker that leaves is gone. -/
theorem gone_of_leaving (alive : server.worker? index = some worker)
    (leaving : worker.phase = .leaving) (delivery : Delivery) :
    (server.stepWorker (.answering delivery) worker).worker? index = none := by
  rw [stepWorker, leaving]
  dsimp only [leave]
  rw [wire_of_worker? alive]
  exact worker?_endWorker _ index

/-- Only a worker in the middle of a receive gets anything. -/
theorem phase_of_received {receipt : Receipt}
    (received : server.receipt? index worker = some receipt) :
    worker.phase = .receiving ∨ worker.phase = .waiting := by
  rw [receipt?] at received
  split at received
  · next phase => exact Or.inl phase
  · next phase => exact Or.inr phase
  · cases received

/-- How a worker gets from the phase that it is in to the next. -/
inductive Goes (server : Server) (index : Nat) (worker : Worker) : Worker.Phase → Prop
  | looks (phase : worker.phase = .looking) :
      Goes server index worker (if server.running then .receiving else .leaving)
  | waits (phase : worker.phase = .receiving ∨ worker.phase = .waiting)
      (unready : server.receipt? index worker = none) : Goes server index worker .waiting
  | receives (receipt : Receipt) (received : server.receipt? index worker = some receipt) :
      Goes server index worker (afterReceipt receipt)
  | queues (chunk : Bytes) (phase : worker.phase = .queueing chunk) :
      Goes server index worker (.confirming chunk)
  | confirms (chunk : Bytes) (phase : worker.phase = .confirming chunk) :
      Goes server index worker (if server.running then .announcing chunk else .leaving)
  | tells (chunk : Bytes) (phase : worker.phase = .announcing chunk) :
      Goes server index worker .looking

/-- A worker that goes on does not leave. -/
theorem Goes.staying {next : Worker.Phase} (goes : server.Goes index worker next) :
    worker.phase ≠ .leaving := by
  intro leaving
  cases goes with
  | looks phase | queues _ phase | confirms _ phase | tells _ phase =>
      cases phase.symm.trans leaving
  | waits phase => rcases phase with phase | phase <;> cases phase.symm.trans leaving
  | receives receipt received =>
      rcases phase_of_received received with phase | phase <;> cases phase.symm.trans leaving

/-- A worker that does not leave, and whose call of the data callback does not panic, goes
on. -/
theorem goes_stepWorker (alive : server.worker? index = some worker)
    (staying : worker.phase ≠ .leaving) {delivery : Delivery}
    (returns : worker.announces = true → delivery ≠ .panicked) :
    ∃ after, (server.stepWorker (.answering delivery) worker).worker? index = some after ∧
      server.Goes index worker after.phase := by
  have shown := congrArg Sight.phase (sight_stepWorker index alive returns)
  rw [if_pos rfl] at shown
  have reaches {next : Worker.Phase}
      (shows : ((server.sight index).react
        (.served (server.receipt? index worker))).1.phase = some next)
      (goes : server.Goes index worker next) :
      ∃ after, (server.stepWorker (.answering delivery) worker).worker? index = some after ∧
        server.Goes index worker after.phase := by
    obtain ⟨after, still, phase⟩ := Option.map_eq_some_iff.1 (shown.trans shows)
    exact ⟨after, still, phase ▸ goes⟩
  cases received : server.receipt? index worker with
  | some receipt =>
      rw [received] at reaches
      exact reaches rfl (.receives receipt received)
  | none =>
      have proceeds : ((server.sight index).react (.served none)).1 =
          ((server.sight index).proceed worker.phase).1 := by
        rw [Sight.react, phase_of_alive alive]
      rw [received, proceeds] at reaches
      cases phase : worker.phase with
      | looking =>
          rw [phase] at reaches
          exact reaches rfl (.looks phase)
      | receiving =>
          rw [phase] at reaches
          exact reaches rfl (.waits (Or.inl phase) received)
      | waiting =>
          rw [phase] at reaches
          exact reaches ((phase_of_alive alive).trans (congrArg some phase))
            (.waits (Or.inr phase) received)
      | queueing chunk =>
          rw [phase] at reaches
          exact reaches rfl (.queues chunk phase)
      | confirming chunk =>
          rw [phase] at reaches
          exact reaches rfl (.confirms chunk phase)
      | announcing chunk =>
          rw [phase] at reaches
          exact reaches rfl (.tells chunk phase)
      | leaving => exact absurd phase staying

/-- A worker that is still there after a step of its own went on. -/
theorem goes_of_still (alive : server.worker? index = some worker) {delivery : Delivery}
    {after : Worker}
    (still : (server.stepWorker (.answering delivery) worker).worker? index = some after) :
    server.Goes index worker after.phase := by
  have staying : worker.phase ≠ .leaving := fun leaving =>
    nomatch (gone_of_leaving alive leaving delivery).symm.trans still
  have returns : worker.announces = true → delivery ≠ .panicked := by
    rintro announces rfl
    cases (gone_of_panic alive announces).symm.trans still
  obtain ⟨same, here, goes⟩ := goes_stepWorker alive staying returns
  cases here.symm.trans still
  exact goes

/-- How a worker goes on, one way for each outcome of a look and of a receive. -/
inductive Onward (server : Server) (index : Nat) (worker : Worker) : Worker.Phase → Prop
  | looked (phase : worker.phase = .looking) (running : server.running = true) :
      Onward server index worker .receiving
  | stopped (down : server.running = false) : Onward server index worker .leaving
  | waits (phase : worker.phase = .receiving ∨ worker.phase = .waiting)
      (unready : server.receipt? index worker = none) : Onward server index worker .waiting
  | received (bytes : Bytes) (received : server.receipt? index worker = some (.ok bytes))
      (something : bytes ≠ []) : Onward server index worker (.queueing bytes)
  | ended (received : server.receipt? index worker = some (.ok [])) :
      Onward server index worker .leaving
  | retried (failure : Failure) (received : server.receipt? index worker = some (.error failure))
      (transient : failure.isTransient = true) : Onward server index worker .looking
  | failed (failure : Failure) (received : server.receipt? index worker = some (.error failure))
      (lasting : failure.isTransient = false) : Onward server index worker .leaving
  | pushed (chunk : Bytes) (phase : worker.phase = .queueing chunk) :
      Onward server index worker (.confirming chunk)
  | confirmed (chunk : Bytes) (phase : worker.phase = .confirming chunk)
      (running : server.running = true) : Onward server index worker (.announcing chunk)
  | announced (chunk : Bytes) (phase : worker.phase = .announcing chunk) :
      Onward server index worker .looking

theorem Goes.onward {next : Worker.Phase} (goes : server.Goes index worker next) :
    server.Onward index worker next := by
  cases goes with
  | looks phase =>
      split
      · next running => exact .looked phase running
      · next down => exact .stopped (Bool.eq_false_iff.2 down)
  | waits phase unready => exact .waits phase unready
  | receives receipt received =>
      cases receipt with
      | ok bytes =>
          cases bytes with
          | nil => exact .ended received
          | cons first rest => exact .received _ received (List.cons_ne_nil first rest)
      | error failure =>
          rw [afterReceipt]
          cases transient : failure.isTransient with
          | true => exact .retried failure received transient
          | false => exact .failed failure received transient
  | queues chunk phase => exact .pushed chunk phase
  | confirms chunk phase =>
      split
      · next running => exact .confirmed chunk phase running
      · next down => exact .stopped (Bool.eq_false_iff.2 down)
  | tells chunk phase => exact .announced chunk phase

theorem onward_stepWorker (alive : server.worker? index = some worker)
    (staying : worker.phase ≠ .leaving) {delivery : Delivery}
    (returns : worker.announces = true → delivery ≠ .panicked) :
    ∃ after, (server.stepWorker (.answering delivery) worker).worker? index = some after ∧
      server.Onward index worker after.phase := by
  obtain ⟨after, still, goes⟩ := goes_stepWorker alive staying returns
  exact ⟨after, still, goes.onward⟩

/-- What a worker receives without running into a fault is what there is on its wire. -/
theorem receiptOn_of_received {bytes : Bytes}
    (received : server.receipt? index worker = some (.ok bytes)) :
    server.receiptOn index worker.chunk = .ok bytes := by
  rw [receipt?] at received
  split at received
  · split at received
    · cases received
    · split at received
      · exact Option.some.inj received
      · cases received
  · split at received
    · exact Option.some.inj received
    · cases received
  · cases received

end Server

namespace Situation

open Connection

variable {situation : Situation} {index : Nat} {worker : Worker}

/-- A worker that receives nothing has no room, or its stream has ended. -/
theorem Sound.cause_of_nothing (sound : situation.Sound)
    (alive : situation.server.worker? index = some worker)
    (received : situation.server.receipt? index worker = some (.ok [])) :
    situation.server.Cause index worker := by
  by_cases room : worker.chunk = 0
  · exact .roomless room
  · obtain ⟨wire, found, near⟩ := sound.worker_wire alive
    have nothing : (wire.receive worker.chunk).1 = .ok [] := by
      have here := Server.receiptOn_of_received received
      rw [Server.receiptOn, found] at here
      exact here
    rcases wire.receive_cases worker.chunk room near with
      ⟨waiting, some⟩ | ⟨empty, far, _⟩ | ⟨failure, later, failed, _⟩
    · rw [some] at nothing
      have none : wire.inbound.take worker.chunk = [] := Except.ok.inj nothing
      exact absurd ((List.take_eq_nil_iff.1 none).resolve_left room) waiting
    · exact .ended wire found empty far
    · rw [failed] at nothing
      cases nothing

/-- A worker that goes on to leave has a cause for that. -/
theorem Sound.cause_of_onward (sound : situation.Sound)
    (alive : situation.server.worker? index = some worker) {next : Worker.Phase}
    (onward : situation.server.Onward index worker next) (leaving : next = .leaving) :
    situation.server.Cause index worker := by
  cases onward with
  | stopped down => exact .down down
  | ended received => exact sound.cause_of_nothing alive received
  | failed failure received lasting => exact .failed failure received lasting
  | looked | waits | received | retried | pushed | confirmed | announced => cases leaving

/-- A worker that is there after a move is new and looks first, or it was there before, and
the move left it where it was or was a step of its own. -/
theorem Sound.origin (sound : situation.Sound) {move : Move} {after : Worker}
    (still : (situation.after move).server.worker? index = some after) :
    (situation.server.worker? index = none ∧ after.phase = .looking) ∨
      (∃ worker, situation.server.worker? index = some worker ∧ move.serves index = false ∧
        after.phase = worker.phase) ∨
      ∃ worker delivery, situation.server.worker? index = some worker ∧
        move = .step (.worker index) delivery ∧
          situation.server.Onward index worker after.phase := by
  have turn := (turns_after sound move).turn index
  cases present : situation.server.worker? index with
  | none =>
      obtain ⟨_, _, looking⟩ := turn.recruited present still
      exact Or.inl ⟨rfl, looking⟩
  | some worker =>
      right
      cases serves : move.serves index with
      | false =>
          rw [serves] at turn
          obtain ⟨custody, same⟩ := turn.spares (sound.connections index).placed present
          cases same.symm.trans still
          exact Or.inl ⟨worker, rfl, rfl, rfl⟩
      | true =>
          obtain ⟨delivery, rfl⟩ := Move.of_serves serves
          have stepped : (situation.after (.step (.worker index) delivery)).server =
              situation.server.stepWorker (.answering delivery) worker :=
            Server.step_worker _ _ present
          exact Or.inr ⟨worker, delivery, rfl, rfl,
            (Server.goes_of_still present (stepped ▸ still)).onward⟩

/-! ## Rows of moves -/

/-- What holds after a row of moves and not before comes to hold at one of the moves. -/
theorem turning_point {Holds : Situation → Prop} {moves : List Move}
    (before : ¬ Holds situation) (after : Holds (situation.run moves)) :
    ∃ early move late, moves = early ++ move :: late ∧ ¬ Holds (situation.run early) ∧
      Holds ((situation.run early).after move) := by
  induction moves generalizing situation with
  | nil => exact absurd after before
  | cons move rest inductionHypothesis =>
      by_cases now : Holds (situation.after move)
      · exact ⟨[], move, rest, rfl, before, now⟩
      · obtain ⟨early, turning, late, rfl, none, some⟩ := inductionHypothesis now after
        exact ⟨move :: early, turning, late, rfl, none, some⟩

/-- The worker on a wire is about to leave. -/
def Leaves (situation : Situation) (index : Nat) : Prop :=
  ∃ worker, situation.server.worker? index = some worker ∧ worker.phase = .leaving

/-- At one of the moves the worker on a wire found a cause for leaving, and turned to that. -/
def Caused (situation : Situation) (index : Nat) (moves : List Move) : Prop :=
  ∃ early delivery late worker, moves = early ++ .step (.worker index) delivery :: late ∧
    (situation.run early).server.worker? index = some worker ∧
      (situation.run early).server.Cause index worker ∧
        ((situation.run early).after (.step (.worker index) delivery)).Leaves index

theorem Caused.append {early : List Move} (caused : situation.Caused index early)
    (late : List Move) : situation.Caused index (early ++ late) := by
  obtain ⟨first, delivery, rest, worker, rfl, found⟩ := caused
  exact ⟨first, delivery, rest ++ late, worker, by rw [List.append_assoc, List.cons_append], found⟩

/-- A worker that is about to leave, and was not before, found a cause for it since. -/
theorem Sound.caused (sound : situation.Sound) (fresh : ¬ situation.Leaves index)
    {moves : List Move} (leaves : (situation.run moves).Leaves index) :
    situation.Caused index moves := by
  obtain ⟨early, move, late, split, staying, after, still, leaving⟩ :=
    @turning_point situation (fun situation => situation.Leaves index) moves fresh leaves
  have soundThen := sound.run early
  rcases soundThen.origin still with
    ⟨_, looking⟩ | ⟨worker, alive, _, same⟩ | ⟨worker, delivery, alive, rfl, onward⟩
  · cases looking.symm.trans leaving
  · exact absurd ⟨worker, alive, same.symm.trans leaving⟩ staying
  · exact ⟨early, delivery, late, worker, split, alive,
      soundThen.cause_of_onward alive onward leaving, after, still, leaving⟩

/-! ## Peers without a worker -/

end Situation
end Tcp
end Framelink
