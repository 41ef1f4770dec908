import Framelink.Proofs.Tcp.Life
import Framelink.Proofs.Tcp.Runs

/-!
# Each wire has at most one worker

Only the acceptor lets a worker live, for a wire that had none; every other move
leaves the wires of the workers as they are, or ends one worker.
-/

namespace Framelink
namespace Tcp

namespace Server

/-- No more workers than before, or one more on a wire that had none. -/
def Recruits (server later : Server) : Prop :=
  later.crew.Sublist server.crew ∨
    ∃ wire, server.worker? wire = none ∧ later.crew = server.crew ++ [wire]

theorem Recruits.of_eq {server later : Server} (same : later.crew = server.crew) :
    Recruits server later := by
  left
  simp [same]

theorem recruits_endWorker (server : Server) (index : Nat) :
    Recruits server (server.endWorker index) := by
  left
  exact List.filter_sublist.map Worker.wire

variable {delivery : Delivery} {server later : Server} {acceptor : Acceptor} {worker : Worker}

theorem crew_register (server : Server) (port : UInt16) (admission : Admission) :
    (server.register port admission).crew = server.crew := by
  unfold register
  dsimp only
  split
  · exact crew_forsake _ _
  · rfl

theorem crew_moveWorker (server : Server) (wire : Nat) (phase : Worker.Phase) :
    (server.moveWorker wire phase).crew = server.crew :=
  server.crew_modifyWorker wire _ fun _ => rfl

theorem crew_receive (server : Server) (worker : Worker) :
    (server.receive worker).crew = server.crew := by
  unfold receive
  split <;> exact crew_moveWorker _ _ _

theorem AcceptorStep.recruits (step : AcceptorStep delivery server acceptor later)
    (free : ∀ id admission, acceptor.phase = .spawning id admission →
      server.worker? admission.wire = none) : Recruits server later := by
  cases step with
  | registered admission => exact .of_eq (server.crew_register acceptor.port admission)
  | spawned id admission phase =>
      exact Or.inr ⟨admission.wire, free id admission phase, List.map_append⟩
  | stored wire => exact .of_eq (server.crew_passHandle wire .unstored .stored)
  | _ => exact .of_eq rfl

theorem WorkerStep.recruits (step : WorkerStep delivery server worker later) :
    Recruits server later := by
  cases step with
  | received _ network => exact .of_eq ((server.withNetwork network).crew_receive worker)
  | resumed => exact .of_eq (server.crew_receive worker)
  | waited => exact .of_eq rfl
  | startled | deserted | left => exact recruits_endWorker _ _
  | _ => exact .of_eq (crew_moveWorker _ _ _)

end Server

namespace Situation

variable {situation : Situation}

end Situation
end Tcp
end Framelink
