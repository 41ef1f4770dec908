import Framelink.Proofs.Tcp.Moves
import Framelink.Proofs.Tcp.Turns.Acceptors
import Framelink.Proofs.Tcp.Turns.Application
import Framelink.Proofs.Tcp.Turns.Lifecycle
import Framelink.Proofs.Tcp.Turns.Workers

/-!
# Runs

Every move gives every connection a turn, so what every turn keeps holds in every
run of a server that was never started before.
-/

namespace Framelink
namespace Tcp

/-- Whether a move is a step of the worker on a wire. -/
def Move.serves (move : Move) (wire : Nat) : Bool :=
  match move with
  | .step (.worker index) _ => decide (wire = index)
  | _ => false

namespace Situation

variable {situation : Situation}

theorem Leads.turns (sound : situation.Sound) {move : Move} {later : Situation}
    (leads : situation.Leads move later) : situation.Turns move.serves later := by
  cases leads with
  | nothing => exact Turns.refl sound _
  | connected _ address listens => exact turns_connected sound address listens _
  | sent _ bytes connected => exact turns_sent sound bytes connected _
  | carried _ count isOpen => exact turns_carried sound count isOpen _
  | lost _ _ shut => exact turns_lost sound _ shut _
  | finished _ settled => exact turns_ended sound ends_farFinish settled _
  | departed _ settled => exact turns_ended sound ends_farClose settled _
  | aborted wire => exact turns_aborted sound wire _
  | heard wire wanted => exact turns_heard sound wire wanted _
  | hindered faults descriptorsLeft => exact turns_hindered sound faults descriptorsLeft _
  | stepped thread delivery =>
      cases thread with
      | acceptor port => exact turns_acceptor sound port delivery
      | worker wire => exact turns_worker sound wire delivery
  | read _ size erase _ tracked => exact turns_read sound tracked size erase _
  | cleared _ _ tracked => exact turns_cleared sound tracked _
  | transmitted _ _ _ sends => exact turns_onlySent sound ⟨_, sends.alike, rfl⟩ _
  | broadcast _ _ sends => exact turns_onlySent sound ⟨_, sends.alike, rfl⟩ _
  | replaced onData onNewPeer => exact turns_replaced sound onData onNewPeer _
  | adjusted settings => exact turns_adjusted sound settings _
  | removed _ _ tracked => exact turns_removed sound tracked _
  | asked wire begun => exact turns_asked sound wire begun _
  | kept wire asked => exact turns_kept sound wire asked _
  | startRefused idle => exact turns_concluded sound idle _ _
  | startBegun idle down => exact turns_started sound idle down _
  | setUpFailed starting _ _ tried => exact turns_refused sound starting tried.steady _ _
  | setUpMade starting address _ tried => exact turns_opened sound starting tried.steady address _ _
  | stopNeedless idle => exact turns_concluded sound idle _ _
  | stopBegun idle running => exact turns_stopped sound idle running _
  | listed control nobody => exact turns_listed sound control nobody _
  | collected _ _ control => exact turns_collected sound control _
  | gathered control => exact turns_gathered sound control _
  | searched control joined empty => exact turns_searched sound control joined empty _
  | drained control => exact turns_drained sound control _
  | closed control => exact turns_closed sound control _ _

theorem turns_after (sound : situation.Sound) (move : Move) :
    situation.Turns move.serves (situation.after move) :=
  (situation.leads_after move).turns sound

theorem Sound.after (sound : situation.Sound) (move : Move) : (situation.after move).Sound :=
  (turns_after sound move).sound sound

theorem Sound.run (sound : situation.Sound) (moves : List Move) :
    (situation.run moves).Sound := by
  induction moves generalizing situation with
  | nil => exact sound
  | cons move rest inductionHypothesis => exact inductionHypothesis (sound.after move)

theorem run_append (situation : Situation) (early late : List Move) :
    situation.run (early ++ late) = (situation.run early).run late := List.foldl_append

/-- The server runs after each part of a row of moves. -/
def Runs (situation : Situation) (moves : List Move) : Prop :=
  ∀ within, within <+: moves → (situation.run within).server.running = true

theorem Runs.first {move : Move} {rest : List Move} (runs : situation.Runs (move :: rest)) :
    (situation.after move).server.running = true :=
  runs [move] (List.cons_prefix_cons.2 ⟨rfl, List.nil_prefix⟩)

theorem Runs.rest {move : Move} {rest : List Move} (runs : situation.Runs (move :: rest)) :
    (situation.after move).Runs rest :=
  fun within before => runs (move :: within) (List.cons_prefix_cons.2 ⟨rfl, before⟩)

/-- A server is started, a far end connects to it, and the acceptor takes so many steps. -/
def admission (steps : Nat) : List Move :=
  [.start, .setUp, .connect 40000 ⟨.loopback4, 50000, 0⟩] ++
    List.replicate steps (.step (.acceptor 40000) .heard)

/-- A server that was never started is sound. -/
theorem sound_initial (settings : Settings) (isolated : Bool) :
    (initial settings isolated).Sound where
  ordered :=
    { door := .shut rfl rfl
      handles := List.nodup_nil
      wires := List.nodup_nil
      admitting := fun occupied => absurd rfl occupied
      starting := fun same => nomatch same
      stopping := fun _ same => nomatch same
      lodged := rfl }
  connections := fun _ => Connection.sound_unmade .resting

/-- Every run of a server that was never started before is sound. -/
theorem sound_run (settings : Settings) (isolated : Bool) (moves : List Move) :
    ((initial settings isolated).run moves).Sound :=
  (sound_initial settings isolated).run moves

/-- What a server that was never started has, and every move of a sound situation keeps,
holds in every run. -/
theorem run_keeps (settings : Settings) (isolated : Bool) (Holds : Situation → Prop)
    (base : Holds (initial settings isolated))
    (keeps : ∀ {situation : Situation}, situation.Sound → Holds situation → ∀ move,
      Holds (situation.after move)) (moves : List Move) :
    Holds ((initial settings isolated).run moves) := by
  have kept : ∀ situation : Situation, situation.Sound → Holds situation →
      Holds (situation.run moves) := by
    induction moves with
    | nil => exact fun situation sound holds => holds
    | cons move rest inductionHypothesis =>
        intro situation sound holds
        exact inductionHypothesis (situation.after move) (sound.after move)
          (keeps sound holds move)
  exact kept (initial settings isolated) (sound_initial settings isolated) base

end Situation
end Tcp
end Framelink
