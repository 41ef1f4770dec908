import Framelink.Proofs.Tcp.Retired

/-!
# What workers put into inboxes

Bytes get into the inbox of a peer in one way: the worker of its connection puts a chunk
there.  So what was ever put there is what the application took and what is there still,
and the inbox of a peer that nobody takes from holds what it held and what was put there
since.
-/

namespace Framelink
namespace Tcp

/-- Whether a move takes bytes from the inbox of a peer. -/
def Move.takes (id : UInt64) : Move → Bool
  | .read other _ erase => erase && other == id
  | .clear other => other == id
  | _ => false

/-- A move that serves a connection is a step of its worker. -/
theorem Move.of_serves {move : Move} {wire : Nat} (serves : move.serves wire = true) :
    ∃ delivery, move = .step (.worker wire) delivery := by
  unfold Move.serves at serves
  split at serves
  · next index delivery =>
      obtain rfl : wire = index := by simpa using serves
      exact ⟨delivery, rfl⟩
  · cases serves

namespace Connection

/-- A connection that is not past its beginnings: it was not accepted yet, or is being set
up. -/
def Early (c : Connection) : Prop := c.wire = none ∨ c.waits = true ∨ c.stage = .preparing

variable {own : Bool} {c later : Connection}

/-- Nothing goes back to its beginnings. -/
theorem Turn.early (turn : Turn own c later) (early : later.Early) : c.Early := by
  unfold Early at early ⊢
  cases turn with
  | established _ absent => exact Or.inl absent
  | accepted waits | abandoned _ _ waits => exact Or.inr (Or.inl waits)
  | refused _ _ stage | registered _ stage => exact Or.inr (Or.inr stage)
  | touched | arrived | finished | replaced | moved | received | crashed | left | kept =>
      exact Or.inr (early.resolve_left nofun)
  | unwelcome | unserved => exact Or.inr (Or.inl (by simpa using early))
  | served | stored => exact early.imp_right fun begun => Or.inl (by simpa using begun)
  | _ => exact early

/-- At its beginnings a connection has no peer. -/
theorem Placed.untracked (placed : c.Placed) (early : c.Early) : c.session = none := by
  rcases early with absent | begun
  · exact (placed.unmade absent).2.2.1
  · exact (placed.fresh begun).1

end Connection

namespace Situation

open Connection

variable {situation : Situation}

/-! ## What was taken -/

/-- A move that takes nothing from a peer leaves alone what was taken from it. -/
theorem taken_after (sound : situation.Sound) {id : UInt64} {peer : Peer Line}
    (tracked : situation.server.peer? id = some peer) {move : Move}
    (spares : move.takes id = false) :
    ((situation.after move).record peer.line.wire).taken =
      (situation.record peer.line.wire).taken := by
  have leads := situation.leads_after move
  generalize situation.after move = later at leads ⊢
  cases leads with
  | sent | carried | aborted => exact taken_note _ _ fun _ => rfl
  | asked wire =>
      dsimp only [ask]
      exact taken_note wire _ fun _ => rfl
  | stepped thread delivery =>
      obtain ⟨record, spared, witnessed⟩ := situation.witness_server delivery thread
      rw [step, witnessed]
      exact spared peer.line.wire
  | read other size erase neighbour known =>
      cases erase with
      | false =>
          dsimp only
          refine taken_note neighbour.line.wire _ ?_
          exact fun record => List.append_nil record.taken
      | true =>
          have differs : other ≠ id := by simpa [Move.takes] using spares
          have apart := sound.ordered.distinct.wires_apart tracked known differs.symm
          exact congrArg Record.taken (if_neg apart)
  | cleared other neighbour known =>
      have differs : other ≠ id := by simpa [Move.takes] using spares
      have apart := sound.ordered.distinct.wires_apart tracked known differs.symm
      exact congrArg Record.taken (if_neg apart)
  | searched =>
      dsimp only [noteLate]
      split <;> rfl
  | _ => rfl

/-! ## What is put into an inbox -/

/-- The bytes that a move puts into the inbox of the peer on a wire. -/
def queues (situation : Situation) (wire : Nat) (move : Move) : Bytes :=
  if move.serves wire && (situation.server.session? wire).isSome then
    handOf (situation.server.worker? wire)
  else []

/-- The bytes that a row of moves puts into the inbox of the peer on a wire. -/
def queued (situation : Situation) (wire : Nat) : List Move → Bytes
  | [] => []
  | move :: rest => situation.queues wire move ++ (situation.after move).queued wire rest

theorem queued_append (situation : Situation) (wire : Nat) (early late : List Move) :
    situation.queued wire (early ++ late) =
      situation.queued wire early ++ (situation.run early).queued wire late := by
  induction early generalizing situation with
  | nil => rfl
  | cons move rest inductionHypothesis =>
      rw [List.cons_append, queued, queued, inductionHypothesis, List.append_assoc]
      rfl

/-- A worker with something in its hand is about to put it into the inbox. -/
theorem queueing_of_hand {worker : Option Worker} (hand : handOf worker ≠ []) :
    ∃ alive chunk, worker = some alive ∧ alive.phase = .queueing chunk := by
  cases worker with
  | none => exact absurd rfl hand
  | some alive =>
      rw [handOf, Worker.hand] at hand
      split at hand
      · next chunk phase => exact ⟨alive, chunk, rfl, phase⟩
      · exact absurd rfl hand

/-- What is said of a connection after its worker put a chunk into the inbox. -/
theorem connection_queueing {wire : Nat} {worker : Worker} {chunk : Bytes}
    (alive : situation.server.worker? wire = some worker)
    (phase : worker.phase = .queueing chunk) (delivery : Delivery) :
    ((situation.step (.worker wire) delivery).connection wire).session =
        (situation.connection wire).session.map (pushedPeer chunk) ∧
      ((situation.step (.worker wire) delivery).connection wire).record =
        (situation.connection wire).record := by
  have quiet : situation.server.findsEnd worker = false := by
    simp [Server.findsEnd, Server.receives, phase]
  have stepped : situation.server.stepWorker (.answering delivery) worker =
      (situation.server.pushSession wire chunk).moveWorker wire (.confirming chunk) := by
    unfold Server.stepWorker
    rw [phase, Server.wire_of_worker? alive]
  rw [connection_step_worker alive, if_pos rfl,
    remark_of_quiet quiet (by simp [Worker.announces, phase]), stepped,
    Server.connection_moveWorker, if_pos rfl, Server.connection_pushSession, if_pos rfl]
  exact ⟨rfl, rfl⟩

/-- A move appends what it puts into an inbox to what is delivered there. -/
theorem Sound.delivered_queues (sound : situation.Sound) (move : Move) {wire : Nat}
    {peer later : Peer Line} (present : (situation.connection wire).session = some peer)
    (still : ((situation.after move).connection wire).session = some later) :
    ((situation.after move).connection wire).delivered later =
      (situation.connection wire).delivered peer ++ situation.queues wire move := by
  have turn := (turns_after sound move).turn wire
  have kept := (turn.delivered (sound.connections wire).placed present still).1
  have tracked : (situation.server.session? wire).isSome = true :=
    congrArg Option.isSome present
  cases serves : move.serves wire with
  | false =>
      rw [kept (Or.inl serves), queues, serves, Bool.false_and, if_neg Bool.false_ne_true,
        List.append_nil]
  | true =>
      rw [queues, serves, tracked, Bool.true_and, if_pos rfl]
      by_cases hand : handOf (situation.server.worker? wire) = []
      · rw [kept (Or.inr hand), hand, List.append_nil]
      · obtain ⟨delivery, rfl⟩ := Move.of_serves serves
        obtain ⟨worker, chunk, alive, phase⟩ := queueing_of_hand hand
        obtain ⟨session, record⟩ := connection_queueing alive phase delivery
        have pushed := session.symm.trans still
        rw [present] at pushed
        cases pushed
        rw [Connection.delivered, Connection.delivered, Situation.after, record, alive, handOf,
          Worker.hand, phase, List.append_assoc]
        rfl

/-- A move that takes nothing from a peer appends to its inbox what it puts there. -/
theorem Sound.contents_after (sound : situation.Sound) {id : UInt64} {peer later : Peer Line}
    (tracked : situation.server.peer? id = some peer) {move : Move}
    (spares : move.takes id = false)
    (still : (situation.after move).server.peer? id = some later)
    (same : later.line.wire = peer.line.wire) :
    later.inbox.contents =
      peer.inbox.contents ++ situation.queues peer.line.wire move := by
  obtain ⟨present, _⟩ := sound.tracked tracked
  obtain ⟨outlasting, _⟩ := (sound.after move).tracked still
  rw [same] at outlasting
  have delivered := sound.delivered_queues move present outlasting
  have taken : ((situation.after move).connection peer.line.wire).record.taken =
      (situation.connection peer.line.wire).record.taken :=
    taken_after sound tracked spares
  rw [Connection.delivered, Connection.delivered, taken, List.append_assoc] at delivered
  exact List.append_cancel_left delivered

/-! ## All that was ever put there -/

/-- So much was put into the inbox of the peer on a wire so far. -/
structure Accounted (situation : Situation) (wire : Nat) (bytes : Bytes) : Prop where
  tracked : ∀ peer, (situation.connection wire).session = some peer →
    (situation.connection wire).delivered peer = bytes
  early : (situation.connection wire).Early → bytes = []

/-- Nothing is put into an inbox that is not there. -/
theorem queues_of_untracked {wire : Nat} (untracked : (situation.connection wire).session = none)
    (move : Move) : situation.queues wire move = [] := by
  have none : situation.server.session? wire = none := untracked
  rw [queues, none, Option.isSome_none, Bool.and_false, if_neg Bool.false_ne_true]

theorem Accounted.after (sound : situation.Sound) {wire : Nat} {bytes : Bytes}
    (accounted : situation.Accounted wire bytes) (move : Move) :
    (situation.after move).Accounted wire (bytes ++ situation.queues wire move) where
  tracked := by
    intro later still
    cases present : (situation.connection wire).session with
    | some peer =>
        rw [sound.delivered_queues move present still, accounted.tracked peer present]
    | none =>
        obtain ⟨stage, empty, record⟩ := ((turns_after sound move).turn wire).appeared present still
        have ⟨placed, _, conserved, _, _, _⟩ := sound.connections wire
        have taken : (situation.connection wire).record.taken = [] := by
          cases found : (situation.connection wire).wire with
          | none => exact absurd found (placed.made (by simp [stage]))
          | some established => exact (conserved.untouched established found (Or.inr stage)).1
        rw [queues_of_untracked present, List.append_nil, accounted.early (Or.inr (Or.inr stage)),
          Connection.delivered, record, taken, empty]
        rfl
  early := by
    intro early
    have before := ((turns_after sound move).turn wire).early early
    have untracked := (sound.connections wire).placed.untracked before
    rw [queues_of_untracked untracked, List.append_nil]
    exact accounted.early before

theorem Accounted.run (sound : situation.Sound) {wire : Nat} {bytes : Bytes}
    (accounted : situation.Accounted wire bytes) (moves : List Move) :
    (situation.run moves).Accounted wire (bytes ++ situation.queued wire moves) := by
  induction moves generalizing situation bytes with
  | nil =>
      rw [queued, List.append_nil]
      exact accounted
  | cons move rest inductionHypothesis =>
      rw [queued, ← List.append_assoc]
      exact inductionHypothesis (sound.after move) (accounted.after sound move)

/-- In every run, what was taken from an inbox and what is in it is what was ever put
there. -/
theorem accounted_run (settings : Settings) (isolated : Bool) (wire : Nat) (moves : List Move) :
    ((initial settings isolated).run moves).Accounted wire
      ((initial settings isolated).queued wire moves) :=
  Accounted.run (sound_initial settings isolated) ⟨nofun, fun _ => rfl⟩ moves

/-! ## When nobody serves a connection any more -/

/-- Nothing is put into an inbox that nobody serves any more. -/
theorem Sound.queued_of_over (sound : situation.Sound) {wire : Nat}
    (finished : (situation.connection wire).Over) (moves : List Move) :
    situation.queued wire moves = [] := by
  induction moves generalizing situation with
  | nil => rfl
  | cons move rest inductionHypothesis =>
      have unserved : situation.server.worker? wire = none := finished.unserved
      have nothing : situation.queues wire move = [] := by
        rw [queues, unserved]
        exact ite_self _
      rw [queued, nothing, List.nil_append]
      exact inductionHypothesis (sound.after move) (((turns_after sound move).turn wire).stays_over
        finished)

/-- An inbox that was emptied when nobody served it any more stays empty, and all that was
ever put there was taken by then. -/
theorem Accounted.emptied (sound : situation.Sound) {wire : Nat} {bytes : Bytes}
    (accounted : situation.Accounted wire bytes) (finished : (situation.connection wire).Over)
    {peer : Peer Line} (present : (situation.connection wire).session = some peer)
    (empty : peer.inbox.contents = []) (moves : List Move) :
    bytes ++ situation.queued wire moves = (situation.record wire).taken ∧
      ∀ last, ((situation.run moves).connection wire).session = some last →
        last.inbox.contents = [] := by
  have spent : bytes = (situation.record wire).taken := by
    have delivered := accounted.tracked peer present
    rw [Connection.delivered, empty, List.append_nil] at delivered
    exact delivered.symm
  have nothing := sound.queued_of_over finished moves
  refine ⟨by rw [nothing, List.append_nil, spent], ?_⟩
  intro last still
  have final := (accounted.run sound moves).tracked last still
  rw [nothing, List.append_nil, spent] at final
  obtain ⟨more, taken⟩ := sound.taken_run wire moves
  have grown : ((situation.run moves).connection wire).record.taken =
      (situation.record wire).taken ++ more := taken.symm
  rw [Connection.delivered, grown, List.append_assoc] at final
  exact (List.append_eq_nil_iff.1 (List.append_right_eq_self.1 final)).2

end Situation
end Tcp
end Framelink
