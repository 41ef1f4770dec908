import Framelink.Proofs.Tcp.Crew

/-!
# What a stop leaves behind

When a stop has returned, every worker that is still alive has slipped: its peer was
given up before the handle of the worker was with it, or was being removed when the
stop looked for handles the last time.  Nothing else delays a stop than workers that
have not slipped, so the exception is real: a worker that strayed is never waited for.
-/

namespace Framelink
namespace Tcp
namespace Situation

open Connection

variable {situation : Situation}

/-- No call starts or stops the server, and it does not run: a stop has returned, or
no start succeeded yet. -/
def AtRest (situation : Situation) : Prop :=
  situation.control = .idle ∧ situation.server.running = false

/-- A server at rest stays at rest until the next start. -/
theorem AtRest.after (rest : situation.AtRest) {move : Move} (other : move ≠ .start) :
    (situation.after move).AtRest := by
  obtain ⟨idle, down⟩ := rest
  cases kind : move.kind with
  | service =>
      cases move with
      | step thread delivery =>
          obtain ⟨control, _, standing⟩ := situation.standing_step thread delivery
          exact ⟨control.trans idle, (congrArg Prod.fst standing).trans down⟩
      | _ => cases kind
  | governing =>
      have leads := situation.leads_after move
      generalize situation.after move = later at leads ⊢
      cases leads with
      | nothing => exact ⟨idle, down⟩
      | startRefused | startBegun => exact absurd rfl other
      | stopNeedless => exact ⟨rfl, down⟩
      | stopBegun _ running => cases down.symm.trans running
      | setUpFailed control | setUpMade control | listed control | collected _ _ control
      | gathered control | searched control | drained control | closed control =>
          cases idle.symm.trans control
      | _ => cases kind
  | other =>
      have same := life_after situation move kind
      have control := congrArg Prod.fst same
      have running := congrArg (fun life => life.2.2.1.1) same
      exact ⟨control.trans idle, running.trans down⟩

instance (situation : Situation) : Decidable situation.AtRest :=
  inferInstanceAs (Decidable (_ ∧ _))

theorem AtRest.call (rest : situation.AtRest) (wire : Nat) :
    (situation.connection wire).call = .resting := by
  obtain ⟨idle, down⟩ := rest
  unfold connection Server.connection Situation.call
  rw [idle, down]
  rfl

/-- A worker that is alive while the server is at rest has slipped. -/
theorem Sound.slipped (sound : situation.Sound) (rest : situation.AtRest) {index : Nat}
    {worker : Worker} (alive : situation.server.worker? index = some worker) :
    (situation.record index).slipped = true := by
  have quieted := (sound.connections index).quieted
  refine quieted.joined (Or.inr (rest.call index)) ?_
  have present : (situation.connection index).worker = some worker := alive
  rw [present]
  rfl

/-- A connection whose worker did not slip is closed while the server is at rest,
unless a callback panicked. -/
theorem Sound.shut (sound : situation.Sound) (rest : situation.AtRest) {index : Nat}
    (kept : (situation.record index).slipped = false) {wire : Wire}
    (found : situation.server.network.wire? index = some wire) :
    wire.near.isOpen = false ∨ (situation.record index).panicked = true := by
  have ⟨_, held, _, _, quieted, _⟩ := sound.connections index
  have call := rest.call index
  cases near : wire.near.isOpen with
  | false => exact Or.inl rfl
  | true =>
      have still := quieted.still (by rw [call]; decide)
      rcases held.bound wire found near with waits | stage | stage | alive | panicked
      · cases waits.symm.trans still.1
      · cases stage.symm.trans still.2
      · cases stage.symm.trans still.2
      · have slipped := quieted.joined (Or.inr call) alive
        cases kept.symm.trans slipped
      · exact Or.inr panicked

/-- Until the next start a server at rest has no workers but those that slipped. -/
theorem Sound.quiet (sound : situation.Sound) (rest : situation.AtRest) {index : Nat}
    (kept : (situation.record index).slipped = false) (moves : List Move)
    (others : .start ∉ moves) :
    (situation.run moves).AtRest ∧ (situation.run moves).server.worker? index = none := by
  have gone : situation.server.worker? index = none := by
    cases alive : situation.server.worker? index with
    | none => rfl
    | some worker => cases kept.symm.trans (sound.slipped rest alive)
  induction moves generalizing situation with
  | nil => exact ⟨rest, gone⟩
  | cons move moves inductionHypothesis =>
      rw [List.mem_cons, not_or] at others
      obtain ⟨other, others⟩ := others
      have later := rest.after (Ne.symm other)
      have turn := (turns_after sound move).turn index
      obtain ⟨slipped, none⟩ := turn.resting (sound.connections index).quieted
        (rest.call index) (later.call index)
      exact inductionHypothesis (sound.after move) later (slipped.trans kept) others (none gone)

/-! ## What a stop waits for -/

theorem workersIn_eq_nil_iff (server : Server) (custody : Custody) :
    server.workersIn custody = [] ↔
      ∀ worker ∈ server.service.workers, worker.custody ≠ custody := by
  unfold Server.workersIn
  rw [List.map_eq_nil_iff, List.filter_eq_nil_iff]
  simp

theorem joinWorkers_found (awaited : situation.server.workersIn .awaited = [])
    (detached : situation.server.workersIn .detached = []) :
    situation.joinWorkers = { situation.noteLate with control := .stopping .closing } := by
  unfold joinWorkers
  rw [if_pos awaited, if_pos detached]

/-- A peer is admitted and served, and the server is stopped. -/
def service : List Move :=
  admission 7 ++ [.stop, .step (.acceptor 40000) .unheard, .advance, .advance, .advance] ++
    List.replicate 2 (.step (.worker 0) .unheard) ++ [.advance, .advance]

end Situation
end Tcp
end Framelink
