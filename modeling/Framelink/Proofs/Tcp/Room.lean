import Framelink.Proofs.Tcp.Crew
import Framelink.Proofs.Tcp.Leaving

/-!
# How much room workers have

A worker receives with the room that the settings gave when its connection was accepted.
Whatever becomes of the settings later, and whatever they were before, the room is that.
-/

namespace Framelink
namespace Tcp

/-- The connection that an acceptor is about to make a peer of. -/
def Acceptor.Phase.admission? : Acceptor.Phase → Option Admission
  | .configuring admission | .registering admission
  | .greeting _ admission | .spawning _ admission => some admission
  | .looking | .accepting | .storing _ => none

namespace Server

variable {server : Server} {index room : Nat}

/-- The connection on a wire was given so much room when it was accepted. -/
inductive Assigns (server : Server) (index room : Nat) : Prop
  | serving (worker : Worker) (alive : server.worker? index = some worker)
      (same : worker.chunk = room)
  | admitting (acceptor : Acceptor) (present : acceptor ∈ server.service.acceptors)
      (admission : Admission) (busy : acceptor.phase.admission? = some admission)
      (own : admission.wire = index) (same : admission.chunk.toNat = room)

/-- A worker is started for the peer, and with the room, that its connection was given. -/
theorem worker_spawn {port : UInt16} {id : UInt64} {admission : Admission}
    (free : server.worker? admission.wire = none) {worker : Worker}
    (alive : (server.spawn port id admission).worker? admission.wire = some worker) :
    worker.id = id ∧ worker.chunk = admission.chunk.toNat := by
  rw [spawn] at alive
  cases attempted : server.network.attempt .thread with
  | mk result network =>
      rw [attempted] at alive
      cases result with
      | error failure => cases free.symm.trans alive
      | ok done =>
          let started : Worker :=
            ⟨id, admission.wire, admission.chunk.toNat, admission.bounded, .looking, .unstored⟩
          have unserved : (server.withNetwork network).worker? started.wire = none := free
          have added := connection_addWorker .resting none .blank admission.wire started unserved
          rw [if_pos rfl] at added
          have same : some started = some worker :=
            (congrArg Connection.worker added).symm.trans alive
          rw [← Option.some.inj same]
          exact ⟨rfl, rfl⟩

end Server

namespace Situation

variable {situation : Situation} {listener : Listener} {phase : Acceptor.Phase} {index room : Nat}

/-- The acceptor takes the connection on a wire, and gives it as much room as the settings
say. -/
def Takes (situation : Situation) (index room : Nat) (move : Move) : Prop :=
  ∃ listener rest delivery, move = .step (.acceptor (port listener)) delivery ∧
    At situation.server listener .accepting ∧ listener.waiting = index :: rest ∧
      At (situation.after move).server { listener with waiting := rest }
        (.configuring (situation.server.admission index)) ∧
      situation.server.settings.receiveChunk.toNat = room

/-- A worker that is there after a step of the acceptor, and was not before, is the one that
the acceptor was about to start. -/
theorem Admits.recruits (admits : situation.Admits listener phase) (sound : situation.Sound)
    (free : situation.server.worker? index = none) {delivery : Delivery} {worker : Worker}
    (alive : (situation.after
      (.step (.acceptor (port listener)) delivery)).server.worker? index = some worker) :
    ∃ id admission, phase = .spawning id admission ∧ admission.wire = index ∧
      worker.id = id ∧ worker.chunk = admission.chunk.toNat := by
  have stepped := admits.server_after delivery
  have turn := (turns_after sound (.step (.acceptor (port listener)) delivery)).turn index
  obtain ⟨_, storing, _⟩ := turn.recruited free alive
  have stage : (situation.server.stepAcceptor (.answering delivery)
      ⟨port listener, phase⟩).stage index = .storing := stepped ▸ storing
  rw [Server.stage] at stage
  rcases admits.goes_or_ends delivery with ended | ⟨after, next, here, advance⟩
  · rw [(Prod.mk.inj ended).2] at stage
    cases stage
  · rw [(Prod.mk.inj here).2] at stage
    cases advance with
    | spawned id admission =>
        dsimp only [Acceptor.Phase.stage] at stage
        split at stage
        · next own =>
            subst own
            exact ⟨id, admission, rfl, rfl, Server.worker_spawn free (stepped ▸ alive)⟩
        · cases stage
    | looked | retried | idle | unserved | stored | refused => cases stage
    | took | configured | registered | greeted =>
        dsimp only [Acceptor.Phase.stage] at stage
        split at stage <;> cases stage

/-- A connection that the acceptor is busy with after a step is the one before, or it is taken
at that step. -/
theorem Admits.busy (admits : situation.Admits listener phase) {delivery : Delivery}
    {acceptor : Acceptor} {admission : Admission}
    (present : acceptor ∈ (situation.after
      (.step (.acceptor (port listener)) delivery)).server.service.acceptors)
    (busy : acceptor.phase.admission? = some admission) :
    phase.admission? = some admission ∨
      situation.Takes admission.wire admission.chunk.toNat
        (.step (.acceptor (port listener)) delivery) := by
  have stepped := admits.server_after delivery
  rcases admits.goes_or_ends delivery with ended | ⟨after, next, here, advance⟩
  · rw [← stepped] at ended
    rw [(Prod.mk.inj ended).2] at present
    cases present
  · rw [← stepped] at here
    rw [(Prod.mk.inj here).2, List.mem_singleton] at present
    subst present
    cases advance with
    | configured | registered | greeted => exact Or.inl busy
    | took wire rest waiting =>
        cases busy
        exact Or.inr ⟨listener, rest, delivery, rfl, admits.at, waiting, here, rfl⟩
    | looked | retried | idle | unserved | stored | refused | spawned => cases busy

/-- A connection whose room is known after a move had it before, or is taken at the move. -/
theorem Sound.assigned (sound : situation.Sound) {move : Move}
    (assigns : (situation.after move).server.Assigns index room) :
    situation.server.Assigns index room ∨ situation.Takes index room move := by
  have occupied {listener : Listener} {phase : Acceptor.Phase}
      (admits : situation.Admits listener phase) :
      ⟨port listener, phase⟩ ∈ situation.server.service.acceptors := by
    rw [admits.acceptors]
    exact List.mem_singleton_self _
  cases assigns with
  | serving worker alive same =>
      have turn := (turns_after sound move).turn index
      cases before : situation.server.worker? index with
      | some earlier =>
          have kept : worker.chunk = earlier.chunk := by
            rw [turn.same_worker (sound.connections index).placed before alive]
          exact Or.inl (.serving earlier before (kept.symm.trans same))
      | none =>
          obtain ⟨greeting, storing, _⟩ := turn.recruited before alive
          have changed : (situation.after move).server.stage index ≠
              situation.server.stage index := fun same =>
            nomatch greeting.symm.trans (same.symm.trans storing)
          obtain ⟨listener, phase, delivery, admits, rfl⟩ := sound.admits_of_stage changed
          obtain ⟨id, admission, rfl, own, _, given⟩ := admits.recruits sound before alive
          exact Or.inl (.admitting _ (occupied admits) admission rfl own (given.symm.trans same))
  | admitting acceptor present admission busy own same =>
      by_cases accepts : ∃ port delivery, move = .step (.acceptor port) delivery
      · obtain ⟨at', delivery, rfl⟩ := accepts
        cases manned : situation.server.acceptor? at' with
        | none =>
            have still : situation.after (.step (.acceptor at') delivery) = situation :=
              step_of_no_acceptor manned delivery
            exact Or.inl (.admitting acceptor (still ▸ present) admission busy own same)
        | some other =>
            obtain ⟨listener, phase, admits, rfl, rfl⟩ := sound.admits manned
            rcases admits.busy present busy with before | takes
            · exact Or.inl (.admitting _ (occupied admits) admission before own same)
            · subst own same
              exact Or.inr takes
      · rcases acceptors_after sound (fun port delivery same => accepts ⟨port, delivery, same⟩) with
          still | ⟨_, port, started⟩
        · exact Or.inl (.admitting acceptor (still ▸ present) admission busy own same)
        · rw [started, List.mem_singleton] at present
          subst present
          cases busy

end Situation
end Tcp
end Framelink
