import Framelink.Proofs.Faults
import Framelink.Proofs.Tcp.Runs

/-!
# The faults of a run

No move brings faults but the one that says so.  So the faults that ever strike a server
in a run are among those that wait at the beginning and those that are brought on the way.
-/

namespace Framelink
namespace Tcp

open Fault

/-- The faults that a move brings. -/
def Move.faults : Move → List Fault
  | .hinder faults _ => faults
  | _ => []

namespace Server

variable (server : Server)

/-- The faults that wait for the calls of a server. -/
def faults : List Fault := server.network.faults

/-! ## Steps -/

theorem faults_forsake (wire : Nat) : (server.forsake wire).faults = server.faults := by
  rw [forsake]
  split <;> rfl

theorem faults_takeWaiting (network : Network) (port : UInt16) :
    (network.takeWaiting port).2.faults = network.faults := by
  rw [Network.takeWaiting]
  split <;> rfl

/-- All that an accept does to the faults is to run into them. -/
theorem faults_accept (port : UInt16) :
    (server.accept port).faults = (strike .accept server.faults).2 := by
  have consulted : (server.network.consult .accept).2.faults = (strike .accept server.faults).2 :=
    rfl
  rw [accept]
  split
  · next struck =>
      rw [struck] at consulted
      dsimp only
      split <;> exact consulted
  · next network spared =>
      rw [spared] at consulted
      have taken := faults_takeWaiting network port
      split
      · next took =>
          rw [took] at taken
          exact taken.trans consulted
      · exact consulted

theorem faults_register (port : UInt16) (admission : Admission) :
    (server.register port admission).faults = server.faults := by
  rw [register]
  dsimp only
  split
  · exact faults_forsake _ _
  · rfl

theorem faults_receive (worker : Worker) : (server.receive worker).faults = server.faults := by
  rw [receive]
  split <;> rfl

variable {server} {later : Server} {delivery : Delivery}

theorem AcceptorStep.worn {acceptor : Acceptor}
    (step : AcceptorStep delivery server acceptor later) : Worn server.faults later.faults := by
  cases step with
  | looked | ended | greeted | startled | deserted | stored => exact Worn.refl _
  | retried _ _ _ struck | gaveUp _ _ _ struck => exact (Network.Tried.of_consult struck).worn
  | took _ network _ _ spared taken =>
      have worn := (Network.Tried.of_consult spared).worn
      rwa [← faults_takeWaiting network acceptor.port, taken] at worn
  | idled _ _ spared => exact (Network.Tried.of_consult spared).worn
  | configured _ _ _ made => exact (Network.Tried.of_attemptAll made).worn
  | refused _ _ _ _ failed => exact (Network.Tried.of_attemptAll failed).worn
  | registered admission =>
      exact (server.faults_register acceptor.port admission).symm ▸ Worn.refl _
  | unserved _ _ _ _ _ failed => exact (Network.Tried.of_attempt failed).worn
  | spawned _ _ _ _ made => exact (Network.Tried.of_attempt made).worn

theorem WorkerStep.worn {worker : Worker} (step : WorkerStep delivery server worker later) :
    Worn server.faults later.faults := by
  cases step with
  | struck _ _ _ struck => exact (Network.Tried.of_consult struck).worn
  | received _ network spared =>
      exact (faults_receive (server.withNetwork network) worker).symm ▸
        (Network.Tried.of_consult spared).worn
  | paused _ _ spared => exact (Network.Tried.of_consult spared).worn
  | resumed => exact (server.faults_receive worker).symm ▸ Worn.refl _
  | _ => exact Worn.refl _

theorem worn_step (delivery : Delivery) (thread : Thread) :
    Worn server.faults (server.step (.answering delivery) thread).faults := by
  have stepped := server.threadStep delivery thread
  generalize server.step (.answering delivery) thread = later at stepped ⊢
  cases stepped with
  | noAcceptor | noWorker => exact Worn.refl _
  | acceptor _ _ _ _ step => exact step.worn
  | worker _ _ _ _ step => exact step.worn

end Server

namespace Situation

variable (situation : Situation)

variable {situation} in
theorem Leads.worn {move : Move} {later : Situation} (leads : situation.Leads move later) :
    Worn (situation.server.faults ++ move.faults) later.server.faults := by
  have fewer {after : Server} (worn : Worn situation.server.faults after.faults) :
      Worn (situation.server.faults ++ []) after.faults := by
    rwa [List.append_nil]
  cases leads with
  | nothing =>
      rw [Worn, List.map_append]
      exact List.sublist_append_left _ _
  | hindered faults descriptorsLeft =>
      rw [Move.faults, Worn, List.map_append]
      exact List.sublist_append_right _ _
  | stepped thread delivery => exact fewer (Server.worn_step delivery thread)
  | transmitted _ _ _ sends | broadcast _ _ sends => exact fewer sends.worn
  | kept wire => exact fewer ((Server.faults_forsake _ wire).symm ▸ Worn.refl _)
  | setUpFailed _ _ _ tried | setUpMade _ _ _ tried => exact fewer tried.worn
  | _ => exact fewer (Worn.refl _)

/-- After a move no faults wait but those that waited before and those that it brings. -/
theorem worn_after (move : Move) :
    Worn (situation.server.faults ++ move.faults) (situation.after move).server.faults :=
  (situation.leads_after move).worn

/-- The faults that may strike a server in a row of moves: those that wait, and those that
the moves bring. -/
def troubles (moves : List Move) : List Fault :=
  situation.server.faults ++ moves.flatMap Move.faults

/-- The troubles of a row of moves only get fewer with each of the moves. -/
theorem worn_troubles (move : Move) (rest : List Move) :
    Worn (situation.troubles (move :: rest)) ((situation.after move).troubles rest) := by
  have worn := (situation.worn_after move).append (rest.flatMap Move.faults)
  rwa [List.append_assoc, ← List.flatMap_cons] at worn

end Situation
end Tcp
end Framelink
