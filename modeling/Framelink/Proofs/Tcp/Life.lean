import Framelink.Proofs.Tcp.Connection
import Framelink.Proofs.Tcp.Moves

/-!
# What only starting and stopping change

Whether a server runs, the address it is bound to, and the calls that start or stop
it are left alone by far ends, by service threads, and by everything else that the
application does.  Workers come and go in steps of service threads only.
-/

namespace Framelink
namespace Tcp

namespace Server

/-- The wires of the workers that are alive. -/
def crew (server : Server) : List Nat := server.service.workers.map Worker.wire

theorem crew_modifyWorker (server : Server) (index : Nat) (change : Worker → Worker)
    (keeps : ∀ worker, (change worker).wire = worker.wire) :
    (server.modifyWorker index change).crew = server.crew := by
  unfold crew modifyWorker
  rw [List.map_map]
  refine List.map_congr_left fun worker _ => ?_
  dsimp only [Function.comp_apply]
  split
  · exact keeps worker
  · rfl

theorem crew_passHandle (server : Server) (index : Nat) (source target : Custody) :
    (server.passHandle index source target).crew = server.crew :=
  server.crew_modifyWorker index _ (Worker.wire_pass source target)

theorem crew_forsake (server : Server) (index : Nat) :
    (server.forsake index).crew = server.crew := by
  unfold forsake
  split <;> rfl

end Server

/-- Who makes a move. -/
inductive Move.Kind
  /-- A service thread. -/
  | service
  /-- A call that starts or stops the server. -/
  | governing
  /-- A far end, the surroundings, or another call of the application. -/
  | other
  deriving DecidableEq

/-- Who makes a move. -/
def Move.kind : Move → Move.Kind
  | .step _ _ => .service
  | .start | .setUp | .stop | .advance => .governing
  | _ => .other

namespace Situation

/-- What calls that start or stop the server go by and leave behind, and the wires of
the workers. -/
def life (situation : Situation) :
    Control Stopping × List Outcome × (Bool × Option SocketAddress) × List Nat :=
  (situation.control, situation.log, situation.server.standing, situation.server.crew)

/-- A service thread changes nothing that only starting and stopping change. -/
theorem standing_step (situation : Situation) (thread : Thread) (delivery : Delivery) :
    (situation.step thread delivery).control = situation.control ∧
      (situation.step thread delivery).log = situation.log ∧
      (situation.step thread delivery).server.standing = situation.server.standing := by
  obtain ⟨record, stepped⟩ := situation.step_eq thread delivery
  rw [stepped]
  exact ⟨rfl, rfl, congrArg Prod.fst (Server.bearing_step delivery situation.server thread)⟩

/-- Far ends and the application leave alone what only starting, stopping and service
threads change. -/
theorem life_after (situation : Situation) (move : Move) (kind : move.kind = .other) :
    (situation.after move).life = situation.life := by
  have leads := situation.leads_after move
  generalize situation.after move = later at leads ⊢
  cases leads with
  | stepped | startRefused | startBegun | setUpFailed | setUpMade | stopNeedless | stopBegun
  | listed | collected | gathered | searched | drained | closed => cases kind
  | asked wire =>
      have crew : (situation.server.seize wire).crew = situation.server.crew :=
        situation.server.crew_passHandle wire .stored .seized
      rw [life, life, ask]
      dsimp only
      rw [crew]
      rfl
  | kept wire =>
      have crew : (situation.server.detach wire).crew = situation.server.crew :=
        situation.server.crew_passHandle wire .seized .detached
      have standing := congrArg Prod.fst ((situation.server.detach wire).bearing_forsake wire)
      rw [life, life, keep]
      dsimp only
      rw [show Server.standing _ = _ from standing, Server.crew_forsake, crew]
      rfl
  | _ => rfl

end Situation
end Tcp
end Framelink
