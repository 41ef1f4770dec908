import Framelink.Proofs.Tcp.Faults
import Framelink.Proofs.Tcp.Room
import Mathlib.Data.List.Infix

/-!
# A peer that is served gets all that arrives

Every byte that arrived for a tracked peer is put into its inbox after so many steps of its
worker, as long as the server runs, no receive fails for good and no call of the data
callback panics: unless the worker has no room at all, which lets it leave at once.
-/

namespace Framelink
namespace Tcp

/-- The steps of a worker until it puts a chunk into the inbox, if bytes wait and no receive
fails. -/
def Worker.Phase.untilPush : Worker.Phase → Nat
  | .leaving => 0
  | .queueing _ => 1
  | .receiving | .waiting => 2
  | .looking => 3
  | .announcing _ => 4
  | .confirming _ => 5

theorem Worker.Phase.untilPush_pos {phase : Worker.Phase} (staying : phase ≠ .leaving) :
    0 < phase.untilPush := by
  cases phase with
  | leaving => exact absurd rfl staying
  | _ => exact Nat.succ_pos _

theorem Worker.Phase.untilPush_le (phase : Worker.Phase) : phase.untilPush ≤ 5 := by
  cases phase <;> simp [untilPush]

namespace Connection

variable {own : Bool} {c later : Connection}

/-- What arrived stays arrived. -/
theorem Turn.arrivals (turn : Turn own c later) :
    c.record.arrived <+: later.record.arrived := by
  cases turn with
  | arrived wire count => exact List.prefix_append _ _
  | _ => exact List.prefix_rfl

end Connection

namespace Server

open Fault

variable {server : Server} {index : Nat} {worker : Worker} {wire : Wire}

/-- All that the beginning of a receive does to the faults is to run into them. -/
theorem faults_beginReceive (server : Server) (worker : Worker) :
    (server.beginReceive worker).faults = (strike .receive server.faults).2 := by
  have consulted : (server.network.consult .receive).2.faults =
      (strike .receive server.faults).2 := rfl
  rw [beginReceive]
  split
  · next struck =>
      rw [struck] at consulted
      exact consulted
  · next network spared =>
      rw [spared] at consulted
      dsimp only
      split
      · exact ((server.withNetwork network).faults_receive worker).trans consulted
      · exact consulted

/-- A worker that runs into a fault uses it up. -/
theorem pending_of_struck (phase : worker.phase = .receiving) {fault : Fault}
    (struck : (server.network.consult .receive).1 = some fault) (delivery : Delivery) :
    pending .receive (server.stepWorker (.answering delivery) worker).faults + 1 =
      pending .receive server.faults := by
  have begins : server.stepWorker (.answering delivery) worker = server.beginReceive worker := by
    rw [stepWorker, phase]
  rw [begins, faults_beginReceive]
  exact (of_strike struck).2.2

/-- A receive with room finds the first of the bytes that wait. -/
theorem receiptOn_of_waiting (found : server.network.wire? index = some wire)
    (waiting : wire.inbound ≠ []) {room : Nat} (positive : room ≠ 0) :
    ∃ first rest, server.receiptOn index room = .ok (first :: rest) := by
  obtain ⟨first, rest, inbound⟩ := List.exists_cons_of_ne_nil waiting
  obtain ⟨less, rfl⟩ := Nat.exists_eq_succ_of_ne_zero positive
  refine ⟨first, rest.take less, ?_⟩
  rw [receiptOn, found]
  simp [Wire.receive, inbound]

/-- What a worker gets at its next step if bytes wait for it: a fault, or some of them. -/
theorem receipt?_of_waiting (alive : server.worker? index = some worker)
    (found : server.network.wire? index = some wire) (waiting : wire.inbound ≠ [])
    (positive : worker.chunk ≠ 0)
    (phase : worker.phase = .receiving ∨ worker.phase = .waiting) :
    (∃ fault, worker.phase = .receiving ∧ (server.network.consult .receive).1 = some fault ∧
        server.receipt? index worker = some (.error fault.failure)) ∨
      ∃ first rest, server.receipt? index worker = some (.ok (first :: rest)) := by
  have ready : server.canReceive worker = true := by
    simp [canReceive, wire_of_worker? alive, found, Wire.isReadable, waiting]
  obtain ⟨first, rest, received⟩ := receiptOn_of_waiting found waiting positive
  rw [receipt?]
  rcases phase with receiving | waits
  · rw [receiving]
    cases (server.network.consult .receive).1 with
    | some fault => exact Or.inl ⟨fault, rfl, rfl, rfl⟩
    | none =>
        refine Or.inr ⟨first, rest, ?_⟩
        dsimp only
        rw [ready, Bool.or_true, if_pos rfl, received]
  · rw [waits]
    refine Or.inr ⟨first, rest, ?_⟩
    dsimp only
    rw [ready, if_pos rfl, received]

end Server

namespace Situation

open Connection Fault

variable {situation : Situation} {index : Nat} {worker : Worker}

/-! ## Workers with something in hand -/

/-- No worker is about to put nothing into an inbox. -/
def Laden (situation : Situation) : Prop :=
  ∀ index worker, situation.server.worker? index = some worker → worker.phase ≠ .queueing []

theorem Laden.after (laden : situation.Laden) (sound : situation.Sound) (move : Move) :
    (situation.after move).Laden := by
  intro index after still
  rcases sound.origin still with
    ⟨_, looking⟩ | ⟨worker, alive, _, same⟩ | ⟨worker, delivery, alive, rfl, onward⟩
  · rw [looking]
    nofun
  · rw [same]
    exact laden index worker alive
  · generalize after.phase = next at onward
    cases onward with
    | received bytes received something => simpa using something
    | _ => nofun

/-- The connection on a wire is served by a worker that has room and does not leave. -/
structure Served (situation : Situation) (index : Nat) (worker : Worker) : Prop where
  alive : situation.server.worker? index = some worker
  room : worker.chunk ≠ 0
  staying : worker.phase ≠ .leaving

/-- What is not a step of its own leaves a worker as far from its next push as it is. -/
theorem Served.spared (served : situation.Served index worker) (sound : situation.Sound)
    {move : Move} (other : move.serves index = false) :
    ∃ after, (situation.after move).Served index after ∧ after.phase = worker.phase := by
  have turn := (turns_after sound move).turn index
  rw [other] at turn
  obtain ⟨custody, same⟩ := turn.spares (sound.connections index).placed served.alive
  exact ⟨{ worker with custody }, ⟨same, served.room, served.staying⟩, rfl⟩

/-- A worker that bytes wait for does not go on to leave. -/
theorem Served.stays (served : situation.Served index worker)
    (running : situation.server.running = true)
    (mild : ∀ fault ∈ situation.server.faults, fault.call = .receive →
      fault.failure.isTransient = true)
    {wire : Wire} (found : situation.server.network.wire? index = some wire)
    (waiting : worker.hand = [] → wire.inbound ≠ []) {next : Worker.Phase}
    (onward : situation.server.Onward index worker next) : next ≠ .leaving := by
  have gets {receipt : Receipt}
      (received : situation.server.receipt? index worker = some receipt) :
      receipt ≠ .ok [] ∧ ∀ failure, receipt = .error failure → failure.isTransient = true := by
    have phase := Server.phase_of_received received
    have idle : worker.hand = [] := by
      rw [Worker.hand]
      rcases phase with receiving | waits
      · rw [receiving]
      · rw [waits]
    rcases Server.receipt?_of_waiting served.alive found (waiting idle) served.room phase with
      ⟨fault, _, struck, same⟩ | ⟨first, rest, same⟩
    · cases received.symm.trans same
      obtain ⟨waits, named, _⟩ := of_strike struck
      refine ⟨?_, ?_⟩
      · rintro ⟨⟩
      · rintro failure ⟨⟩
        exact mild fault waits named
    · cases received.symm.trans same
      refine ⟨?_, ?_⟩
      · rintro ⟨⟩
      · rintro failure ⟨⟩
  cases onward with
  | stopped down => cases running.symm.trans down
  | ended received => exact absurd rfl (gets received).1
  | failed failure received lasting =>
      cases lasting.symm.trans ((gets received).2 failure rfl)
  | _ => rintro ⟨⟩

/-- Each step of a worker that bytes wait for brings it nearer to its next push, or uses up a
fault. -/
theorem Served.nearer (served : situation.Served index worker) (laden : situation.Laden)
    {wire : Wire} (found : situation.server.network.wire? index = some wire)
    (idle : worker.hand = []) (waiting : wire.inbound ≠ []) (delivery : Delivery)
    {next : Worker.Phase} (onward : situation.server.Onward index worker next) :
    let later := situation.server.stepWorker (.answering delivery) worker
    next.untilPush + 2 * pending .receive later.faults + 1 ≤
      worker.phase.untilPush + 2 * pending .receive situation.server.faults := by
  intro later
  have fewer : pending .receive later.faults ≤ pending .receive situation.server.faults :=
    (situation.server.workerStep delivery worker).worn.fewer .receive
  have closer (less : next.untilPush < worker.phase.untilPush) :
      next.untilPush + 2 * pending .receive later.faults + 1 ≤
        worker.phase.untilPush + 2 * pending .receive situation.server.faults := by
    omega
  have receives := Server.receipt?_of_waiting served.alive found waiting served.room
  cases onward with
  | looked phase =>
      refine closer ?_
      rw [phase]
      exact Nat.lt_succ_self 2
  | waits phase unready =>
      rcases receives phase with ⟨fault, _, _, struck⟩ | ⟨first, rest, received⟩
      · cases unready.symm.trans struck
      · cases unready.symm.trans received
  | received bytes received something =>
      refine closer ?_
      rcases Server.phase_of_received received with phase | phase
      · rw [phase]
        exact Nat.lt_succ_self 1
      · rw [phase]
        exact Nat.lt_succ_self 1
  | retried failure received transient =>
      rcases receives (Server.phase_of_received received) with
        ⟨fault, phase, struck, _⟩ | ⟨first, rest, some⟩
      · have used : pending .receive later.faults + 1 =
            pending .receive situation.server.faults :=
          Server.pending_of_struck phase struck delivery
        rw [phase, Worker.Phase.untilPush, Worker.Phase.untilPush]
        omega
      · cases received.symm.trans some
  | pushed chunk phase =>
      have empty : chunk = [] := by simpa [Worker.hand, phase] using idle
      exact absurd (empty ▸ phase) (laden index worker served.alive)
  | confirmed chunk phase =>
      refine closer ?_
      rw [phase]
      exact Nat.lt_succ_self 4
  | announced chunk phase =>
      refine closer ?_
      rw [phase]
      exact Nat.lt_succ_self 3
  | stopped | ended | failed => exact closer (Worker.Phase.untilPush_pos served.staying)

/-! ## A row of moves -/

/-- A connection past its beginnings is tracked if it is tracked later. -/
theorem Sound.tracked_before (sound : situation.Sound)
    (past : ¬ (situation.connection index).Early) {moves : List Move}
    (tracked : ((situation.run moves).connection index).session.isSome) :
    (situation.connection index).session.isSome := by
  induction moves generalizing situation with
  | nil => exact tracked
  | cons move rest inductionHypothesis =>
      have turn := (turns_after sound move).turn index
      have still := inductionHypothesis (sound.after move) (fun early => past (turn.early early))
        tracked
      obtain ⟨peer, present⟩ := Option.isSome_iff_exists.1 still
      cases before : (situation.connection index).session with
      | some old => rfl
      | none => exact absurd (Or.inr (Or.inr (turn.appeared before present).1)) past

theorem Served.past (served : situation.Served index worker) (sound : situation.Sound) :
    ¬ (situation.connection index).Early := by
  have placed := (sound.connections index).placed
  rintro (absent | begun)
  · exact placed.made_of_worker served.alive absent
  · exact placed.past_of_worker served.alive begun

/-- What arrived for a peer that is served is what was put into its inbox, what its worker has
in its hand, and what waits on the wire. -/
theorem Accounted.arrived {bytes : Bytes} (accounted : situation.Accounted index bytes)
    (sound : situation.Sound) (tracked : (situation.connection index).session.isSome)
    {wire : Wire} (found : situation.server.network.wire? index = some wire)
    (alive : situation.server.worker? index = some worker) :
    bytes ++ (worker.hand ++ wire.inbound) = (situation.record index).arrived := by
  obtain ⟨peer, present⟩ := Option.isSome_iff_exists.1 tracked
  have counted := (sound.connections index).conserved.counted wire peer found present
  have here : (situation.connection index).worker = some worker := alive
  rw [here, List.append_assoc] at counted
  rw [← accounted.tracked peer present]
  exact counted

/-- What a step of its worker puts into the inbox of a tracked peer is what it has in its
hand. -/
theorem queues_served (alive : situation.server.worker? index = some worker)
    (tracked : (situation.connection index).session.isSome) {move : Move}
    (serves : move.serves index = true) : situation.queues index move = worker.hand := by
  have present : (situation.server.session? index).isSome = true := tracked
  rw [queues, serves, present, Bool.true_and, if_pos rfl, alive, handOf]

/-- What is put into an inbox gets as far as what arrived once it is as long. -/
theorem Accounted.reaches {bytes target : Bytes} (accounted : situation.Accounted index bytes)
    (sound : situation.Sound) (tracked : (situation.connection index).session.isSome)
    (alive : situation.server.worker? index = some worker)
    (arrived : target <+: (situation.record index).arrived)
    (long : target.length ≤ bytes.length) : target <+: bytes := by
  obtain ⟨wire, found, _⟩ := sound.worker_wire alive
  have all := accounted.arrived sound tracked found alive
  exact List.prefix_of_prefix_length_le arrived (all ▸ List.prefix_append _ _) long

/-- As long as not all of what arrived is in the inbox, each step of the worker makes less to
do: it brings the next push nearer, puts bytes into the inbox, or uses up a fault. -/
theorem Served.progress (served : situation.Served index worker) (sound : situation.Sound)
    (laden : situation.Laden) (running : situation.server.running = true)
    (tracked : (situation.connection index).session.isSome)
    (mild : ∀ fault ∈ situation.server.faults, fault.call = .receive →
      fault.failure.isTransient = true)
    {bytes : Bytes} (accounted : situation.Accounted index bytes) {count : Nat}
    (short : bytes.length < count) (within : count ≤ (situation.record index).arrived.length)
    {delivery : Delivery} (returns : delivery ≠ .panicked) :
    let move := Move.step (.worker index) delivery
    let later := situation.after move
    ∃ after, later.Served index after ∧
      after.phase.untilPush + 5 * (count - (bytes ++ situation.queues index move).length) +
          2 * pending .receive later.server.faults + 1 ≤
        worker.phase.untilPush + 5 * (count - bytes.length) +
          2 * pending .receive situation.server.faults := by
  intro move later
  obtain ⟨wire, found, _⟩ := sound.worker_wire served.alive
  have all := accounted.arrived sound tracked found served.alive
  have waiting : worker.hand = [] → wire.inbound ≠ [] := by
    intro idle empty
    rw [idle, empty, List.append_nil, List.append_nil] at all
    exact absurd (all ▸ within) (Nat.not_le_of_lt short)
  obtain ⟨after, alive, onward⟩ :=
    Server.onward_stepWorker served.alive served.staying fun _ => returns
  have stepped : later.server = situation.server.stepWorker (.answering delivery) worker :=
    Server.step_worker _ _ served.alive
  have still : later.server.worker? index = some after := stepped ▸ alive
  have room : after.chunk = worker.chunk := by
    rw [((turns_after sound move).turn index).same_worker
      (sound.connections index).placed served.alive still]
  have serves : move.serves index = true := decide_eq_true rfl
  refine ⟨after, ⟨still, room ▸ served.room, served.stays running mild found waiting onward⟩, ?_⟩
  rw [queues_served served.alive tracked serves, List.length_append, stepped]
  by_cases idle : worker.hand = []
  · have nearer := served.nearer laden found idle (waiting idle) delivery onward
    rw [idle, List.length_nil]
    omega
  · have some := List.length_pos_iff.2 idle
    have fewer := (situation.server.workerStep delivery worker).worn.fewer .receive
    have near := after.phase.untilPush_le
    have positive := Worker.Phase.untilPush_pos served.staying
    omega

/-- All that arrived for a peer is put into its inbox after so many steps of its worker. -/
theorem Served.queued (served : situation.Served index worker) (sound : situation.Sound)
    (laden : situation.Laden) {moves : List Move} (runs : situation.Runs moves)
    (tracked : ((situation.run moves).connection index).session.isSome)
    (returns : Move.step (.worker index) .panicked ∉ moves)
    (mild : ∀ fault ∈ situation.troubles moves, fault.call = .receive →
      fault.failure.isTransient = true)
    {bytes target : Bytes} (accounted : situation.Accounted index bytes)
    (arrived : target <+: (situation.record index).arrived)
    (enough : worker.phase.untilPush + 5 * (target.length - bytes.length) +
        2 * pending .receive (situation.troubles moves) ≤
      moves.countP (·.serves index) + 5) :
    target <+: bytes ++ situation.queued index moves := by
  induction moves generalizing situation worker bytes with
  | nil =>
      have positive := Worker.Phase.untilPush_pos served.staying
      rw [List.countP_nil] at enough
      have reached : target <+: bytes :=
        accounted.reaches sound tracked served.alive arrived (by omega)
      exact reached.trans (List.prefix_append _ _)
  | cons move rest inductionHypothesis =>
      have present := sound.tracked_before (served.past sound) tracked
      have worn := situation.worn_troubles move rest
      have mildLater : ∀ fault ∈ (situation.after move).troubles rest,
          fault.core.call = .receive → fault.core.failure.isTransient = true :=
        @Worn.all _ _ worn (fun fault => fault.call = .receive → fault.failure.isTransient = true)
          mild
      have goesOn {after : Worker} (still : (situation.after move).Served index after)
          (count : after.phase.untilPush +
              5 * (target.length - (bytes ++ situation.queues index move).length) +
                2 * pending .receive ((situation.after move).troubles rest) ≤
            rest.countP (·.serves index) + 5) :
          target <+: bytes ++ situation.queued index (move :: rest) := by
        have grown := arrived.trans ((turns_after sound move).turn index).arrivals
        rw [queued, ← List.append_assoc]
        exact inductionHypothesis still (sound.after move) (laden.after sound move) runs.rest
          tracked (fun listed => returns (List.mem_cons_of_mem move listed)) mildLater
          (accounted.after sound move) grown count
      by_cases long : target.length ≤ bytes.length
      · exact (accounted.reaches sound present served.alive arrived long).trans
          (List.prefix_append _ _)
      cases serves : move.serves index with
      | false =>
          obtain ⟨after, still, phase⟩ := served.spared sound serves
          have fewer := worn.fewer .receive
          have nothing : situation.queues index move = [] := by
            rw [queues, serves, Bool.false_and, if_neg Bool.false_ne_true]
          rw [List.countP_cons_of_neg (by simp [serves])] at enough
          refine goesOn still ?_
          rw [nothing, List.append_nil, phase]
          omega
      | true =>
          obtain ⟨delivery, rfl⟩ := Move.of_serves serves
          have returned : delivery ≠ .panicked := by
            rintro rfl
            exact returns List.mem_cons_self
          obtain ⟨after, still, less⟩ := served.progress sound laden (runs [] List.nil_prefix)
            present (fun fault waits => mild fault (List.mem_append_left _ waits)) accounted
            (Nat.lt_of_not_le long) arrived.length_le returned
          have counted : (Move.step (.worker index) delivery :: rest).countP (·.serves index) =
              rest.countP (·.serves index) + 1 := List.countP_cons_of_pos serves
          have none : Move.faults (.step (.worker index) delivery) = [] := rfl
          rw [counted, troubles, List.flatMap_cons, none, List.nil_append, pending_append] at enough
          refine goesOn still ?_
          rw [troubles, pending_append]
          omega

/-! ## Every run -/

/-- The far end sends no more, and the worker receives that. -/
def endOfStream : List Move := [.finish 0, .step (.worker 0) .heard]

end Situation
end Tcp
end Framelink
