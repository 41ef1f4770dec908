import Framelink.Proofs.Tcp.Aspect
import Framelink.Proofs.Tcp.Queues
import Framelink.Server.BlockingRead
import Mathlib.Data.List.Induction
import Mathlib.Data.List.Infix

/-!
# Blocking reads lose nothing

A blocking read takes one small step at a time: it counts, it looks whether the peer is
open, it looks whether the server runs, it copies.  Between two of its steps anything may
happen, only that nobody else takes bytes from the peer, and that the peer stays tracked.

The call copies the front of the inbox, and if that is less than it was asked for, the peer
was closed or the server did not run.  If the peer was closed before the call copied, then
no byte is put into the inbox after that: a call that comes short has handed out the last
of all bytes that were ever put there, and the inbox stays empty.
-/

namespace Framelink

namespace ReadPhase

/-- A look ends the wait for one of three causes. -/
theorem cause_of_copying {phase : ReadPhase} (waits : phase ≠ .copying) {size : Nat}
    {peer : Peer Tcp.Line} {running : Bool} (ends : phase.next size peer running = .copying) :
    size ≤ peer.inbox.size ∨ peer.isOpen = false ∨ running = false := by
  cases phase with
  | counting =>
      rw [next] at ends
      split at ends
      · cases ends
      · next enough => exact Or.inl (Nat.le_of_not_lt enough)
  | askingPeer =>
      rw [next] at ends
      cases isOpen : peer.isOpen with
      | false => exact Or.inr (Or.inl rfl)
      | true => simp [isOpen] at ends
  | askingServer =>
      cases running with
      | false => exact Or.inr (Or.inr rfl)
      | true => cases ends
  | copying => exact absurd rfl waits

/-- How many looks the call takes at most from a phase until it has returned, if a look in the
phase `exit` ends its wait. -/
def looksLeft : (exit phase : ReadPhase) → Nat
  | _, .copying => 1
  | .counting, .counting | .askingPeer, .askingPeer | .askingServer, .askingServer => 2
  | .counting, .askingServer | .askingPeer, .counting | .askingServer, .askingPeer => 3
  | _, _ => 4

theorem looksLeft_le (exit phase : ReadPhase) : exit.looksLeft phase ≤ 4 := by
  cases exit <;> cases phase <;> decide

/-- Each look that does not copy brings the call nearer to its return. -/
theorem looksLeft_next {exit phase : ReadPhase} (passable : exit ≠ .copying)
    (waits : phase ≠ .copying) {size : Nat} {peer : Peer Tcp.Line} {running : Bool}
    (ends : exit.next size peer running = .copying) :
    exit.looksLeft (phase.next size peer running) < exit.looksLeft phase := by
  by_cases here : phase = exit
  · rw [here, ends]
    cases exit with
    | copying => exact absurd rfl passable
    | counting | askingPeer | askingServer => decide
  · cases exit with
    | copying => exact absurd rfl passable
    | counting | askingPeer | askingServer =>
        cases phase with
        | copying => exact absurd rfl waits
        | counting | askingPeer | askingServer =>
            first
            | exact absurd rfl here
            | simp only [next]
              split <;> decide

end ReadPhase

namespace Tcp

/-- A server in the middle of a run, and a blocking read that takes what it copies. -/
structure Reading where
  situation : Situation
  /-- The number of the peer that is read from. -/
  id : UInt64
  /-- How many bytes are wanted. -/
  size : Nat
  phase : ReadPhase
  /-- What the call returned, once it has. -/
  returned : Option (Except LinkError Bytes)

/-- What happens next while a blocking read is under way. -/
inductive Act
  /-- Anything but a step of the call. -/
  | move (move : Move)
  /-- The next small step of the call. -/
  | look

/-- Whether an act is a step of the call. -/
def Act.looks : Act → Bool
  | .move _ => false
  | .look => true

/-- A blocking read begins. -/
def Situation.reading (situation : Situation) (id : UInt64) (size : Nat) : Reading :=
  ⟨situation, id, size, .counting, none⟩

namespace Reading

/-- The next small step of the call.  After it returned there is none. -/
def look (reading : Reading) : Reading :=
  match reading.returned, reading.phase with
  | some _, _ => reading
  | none, .copying =>
      { reading with
        situation := reading.situation.read reading.id reading.size true
        returned :=
          some (Framelink.Server.read reading.situation.server reading.id reading.size true).1 }
  | none, phase =>
      match reading.situation.server.peer? reading.id with
      | some peer =>
          { reading with phase := phase.next reading.size peer reading.situation.server.running }
      | none => reading

/-- What an act leads to. -/
def after (reading : Reading) : Act → Reading
  | .move move => { reading with situation := reading.situation.after move }
  | .look => reading.look

/-- What a row of acts leads to. -/
def run (reading : Reading) (acts : List Act) : Reading := acts.foldl after reading

/-- The moves that an act is to the server: a copy is an erasing read. -/
def made (reading : Reading) : Act → List Move
  | .move move => [move]
  | .look =>
      match reading.returned, reading.phase with
      | none, .copying => [.read reading.id reading.size true]
      | _, _ => []

/-- The moves that a row of acts is to the server. -/
def moves (reading : Reading) : List Act → List Move
  | [] => []
  | act :: rest => reading.made act ++ (reading.after act).moves rest

/-- While the call is under way, its peer stays tracked, and nobody else takes bytes from
it. -/
structure Undisturbed (reading : Reading) (wire : Nat) (acts : List Act) : Prop where
  tracked : ∀ early, early <+: acts →
    (reading.run early).situation.server.names reading.id wire = true
  alone : ∀ move, Act.move move ∈ acts → move.takes reading.id = false

variable {reading : Reading}

/-! ## Single steps -/

theorem run_append (reading : Reading) (early late : List Act) :
    reading.run (early ++ late) = (reading.run early).run late := List.foldl_append

theorem run_concat (reading : Reading) (acts : List Act) (act : Act) :
    reading.run (acts ++ [act]) = (reading.run acts).after act := List.foldl_append

theorem look_of_returned {result : Except LinkError Bytes}
    (returned : reading.returned = some result) : reading.look = reading := by
  unfold look
  rw [returned]

theorem look_of_copying (waiting : reading.returned = none) (copying : reading.phase = .copying) :
    reading.look =
      { reading with
        situation := reading.situation.read reading.id reading.size true
        returned :=
          some (Framelink.Server.read reading.situation.server reading.id reading.size
            true).1 } := by
  unfold look
  rw [waiting, copying]

theorem look_of_waiting (waiting : reading.returned = none) (phase : reading.phase ≠ .copying)
    {peer : Peer Line} (tracked : reading.situation.server.peer? reading.id = some peer) :
    reading.look =
      { reading with
        phase := reading.phase.next reading.size peer reading.situation.server.running } := by
  unfold look
  rw [waiting]
  cases here : reading.phase with
  | copying => exact absurd here phase
  | counting | askingPeer | askingServer =>
      dsimp only
      rw [tracked]

/-- What the call reads from, and how much it wants, does not change. -/
theorem fixed_look (reading : Reading) :
    reading.look.id = reading.id ∧ reading.look.size = reading.size := by
  unfold look
  split
  · exact ⟨rfl, rfl⟩
  · exact ⟨rfl, rfl⟩
  · split <;> exact ⟨rfl, rfl⟩

theorem fixed_run (reading : Reading) (acts : List Act) :
    (reading.run acts).id = reading.id ∧ (reading.run acts).size = reading.size := by
  induction acts generalizing reading with
  | nil => exact ⟨rfl, rfl⟩
  | cons act rest inductionHypothesis =>
      obtain ⟨id, size⟩ := inductionHypothesis (reading.after act)
      cases act with
      | move move => exact ⟨id, size⟩
      | look =>
          obtain ⟨sameId, sameSize⟩ := reading.fixed_look
          exact ⟨id.trans sameId, size.trans sameSize⟩

/-- To the server an act is the moves that it makes. -/
theorem situation_after (reading : Reading) (act : Act) :
    (reading.after act).situation = reading.situation.run (reading.made act) := by
  cases act with
  | move move => rfl
  | look =>
      dsimp only [after, made]
      cases returned : reading.returned with
      | some result =>
          rw [look_of_returned returned]
          rfl
      | none =>
          cases phase : reading.phase with
          | copying =>
              rw [look_of_copying returned phase]
              rfl
          | counting | askingPeer | askingServer =>
              unfold look
              rw [returned, phase]
              dsimp only
              split <;> rfl

/-- To the server a row of acts is the moves that it makes. -/
theorem situation_run (reading : Reading) (acts : List Act) :
    (reading.run acts).situation = reading.situation.run (reading.moves acts) := by
  induction acts generalizing reading with
  | nil => rfl
  | cons act rest inductionHypothesis =>
      have later := inductionHypothesis (reading.after act)
      rw [situation_after] at later
      rw [moves, Situation.run_append]
      exact later

/-- What a read leaves of the server. -/
theorem server_read (situation : Situation) (id : UInt64) (size : Nat) (erase : Bool) :
    (situation.read id size erase).server =
      (Framelink.Server.read situation.server id size erase).2 := by
  unfold Situation.read
  split
  · next came => rw [came]
  · next came => rw [came]

/-! ## A call that nothing happens to meanwhile -/

/-- So many looks in a row. -/
def looks (count : Nat) : List Act := List.replicate count .look

/-- What the call returned, if it has, and the server that it left. -/
def outcome (reading : Reading) : Option (Except LinkError Bytes × Server) :=
  reading.returned.map fun result => (result, reading.situation.server)

theorem run_looks_of_returned {result : Except LinkError Bytes}
    (returned : reading.returned = some result) (count : Nat) :
    reading.run (looks count) = reading := by
  induction count with
  | zero => rfl
  | succ count inductionHypothesis =>
      change reading.look.run (looks count) = reading
      rw [look_of_returned returned]
      exact inductionHypothesis

/-- A call that copies next has returned after that. -/
theorem outcome_of_copying (waiting : reading.returned = none)
    (copying : reading.phase = .copying) (count : Nat) :
    (reading.run (looks (count + 1))).outcome =
      some (Framelink.Server.read reading.situation.server reading.id reading.size true) := by
  have copied := look_of_copying waiting copying
  have done : reading.run (looks (count + 1)) = reading.look :=
    run_looks_of_returned (congrArg Reading.returned copied) count
  rw [done, copied, outcome]
  dsimp only [Option.map_some]
  rw [server_read]

/-- A call that nothing happens to meanwhile is the blocking read of a server at rest: four
looks tell whether it returns at all. -/
theorem outcome_of_looks (situation : Situation) (size : Nat) {id : UInt64}
    {peer : Peer Line} (tracked : situation.server.peer? id = some peer) :
    ((situation.reading id size).run (looks 4)).outcome =
      situation.server.readBlocking id size true := by
  let stands (phase : ReadPhase) : Reading := ⟨situation, id, size, phase, none⟩
  have copies (count : Nat) : ((stands .copying).run (looks (count + 1))).outcome =
      some (situation.server.read id size true) :=
    outcome_of_copying rfl rfl count
  have waits {phase later : ReadPhase} (waiting : phase ≠ .copying)
      (goesOn : phase.next size peer situation.server.running = later) (count : Nat) :
      (stands phase).run (looks (count + 1)) = (stands later).run (looks count) := by
    have looked : (stands phase).look = stands (phase.next size peer situation.server.running) :=
      look_of_waiting rfl waiting tracked
    rw [goesOn] at looked
    exact congrArg (fun reading => reading.run (looks count)) looked
  rw [Framelink.Server.readBlocking, tracked]
  dsimp only
  rw [ReadPhase.afterRound]
  change ((stands .counting).run (looks 4)).outcome = _
  by_cases few : peer.inbox.size < size
  · have counted : ReadPhase.counting.next size peer situation.server.running = .askingPeer :=
      if_pos few
    rw [counted, waits (by decide) counted]
    cases isOpen : peer.isOpen with
    | false =>
        have asked : ReadPhase.askingPeer.next size peer situation.server.running = .copying := by
          rw [ReadPhase.next, isOpen]
          rfl
        rw [asked, waits (by decide) asked]
        exact copies 1
    | true =>
        have asked : ReadPhase.askingPeer.next size peer situation.server.running =
            .askingServer := by
          rw [ReadPhase.next, isOpen]
          rfl
        rw [asked, waits (by decide) asked]
        cases running : situation.server.running with
        | false =>
            have gone : ReadPhase.askingServer.next size peer situation.server.running =
                .copying := by
              rw [running]
              rfl
            rw [waits (by decide) gone]
            exact copies 0
        | true =>
            have again : ReadPhase.askingServer.next size peer situation.server.running =
                .counting := by
              rw [running]
              rfl
            rw [waits (by decide) again, waits (by decide) counted]
            rfl
  · have counted : ReadPhase.counting.next size peer situation.server.running = .copying :=
      if_neg few
    rw [counted, waits (by decide) counted]
    exact copies 2

/-! ## While the call is under way -/

/-- The server is in order, nobody serves a peer that is closed, and the peer that is read
from is tracked. -/
structure Underway (reading : Reading) (wire : Nat) : Prop where
  sound : reading.situation.Sound
  retired : reading.situation.Retired
  tracked : ∃ peer, reading.situation.server.peer? reading.id = some peer ∧ peer.line.wire = wire

theorem Undisturbed.of_prefix {wire : Nat} {acts early : List Act}
    (undisturbed : reading.Undisturbed wire acts) (within : early <+: acts) :
    reading.Undisturbed wire early where
  tracked := fun sooner before => undisturbed.tracked sooner (before.trans within)
  alone := fun move made => undisturbed.alone move (within.subset made)

theorem Undisturbed.underway {wire : Nat} {acts : List Act}
    (undisturbed : reading.Undisturbed wire acts) (sound : reading.situation.Sound)
    (retired : reading.situation.Retired) : (reading.run acts).Underway wire where
  sound := by
    rw [situation_run]
    exact sound.run _
  retired := by
    rw [situation_run]
    exact retired.run sound _
  tracked := by
    have named := undisturbed.tracked acts List.prefix_rfl
    rw [Server.names, beq_iff_eq, Option.map_eq_some_iff] at named
    rw [(reading.fixed_run acts).1]
    exact named

/-- What is wanted is in the inbox. -/
def Sated (reading : Reading) : Prop :=
  ∃ peer, reading.situation.server.peer? reading.id = some peer ∧ reading.size ≤ peer.inbox.size

/-- The peer is closed. -/
def Closed (reading : Reading) : Prop :=
  reading.situation.server.isPeerOpen reading.id = false

/-- The server does not run. -/
def Down (reading : Reading) : Prop := reading.situation.server.running = false

variable {wire : Nat}

/-- An inbox that nobody takes from goes on holding what is wanted. -/
theorem Underway.sated_after (underway : reading.Underway wire) {move : Move}
    (still : (reading.after (.move move)).Underway wire) (spares : move.takes reading.id = false)
    (sated : reading.Sated) : (reading.after (.move move)).Sated := by
  obtain ⟨peer, tracked, enough⟩ := sated
  obtain ⟨known, same, here⟩ := underway.tracked
  cases tracked.symm.trans same
  obtain ⟨later, outlasting, there⟩ := still.tracked
  refine ⟨later, outlasting, ?_⟩
  have contents := underway.sound.contents_after tracked spares outlasting (there.trans here.symm)
  rw [Inbox.size] at enough ⊢
  rw [contents, List.length_append]
  exact Nat.le_add_right_of_le enough

/-- Whether the peer is closed is seen where it is tracked. -/
theorem closed_iff {peer : Peer Line}
    (tracked : reading.situation.server.peer? reading.id = some peer) :
    reading.Closed ↔ peer.isOpen = false := by
  rw [Closed, Framelink.Server.isPeerOpen, tracked]
  rfl

/-- Nobody serves the connection of a peer that is closed. -/
theorem Underway.ended (underway : reading.Underway wire) (closed : reading.Closed) :
    (reading.situation.connection wire).Over := by
  obtain ⟨peer, tracked, rfl⟩ := underway.tracked
  obtain ⟨present, _⟩ := underway.sound.tracked tracked
  exact underway.retired peer.line.wire peer present ((closed_iff tracked).1 closed)

/-- A peer that is closed stays closed. -/
theorem Underway.closed_run (underway : reading.Underway wire) {acts : List Act}
    (still : (reading.run acts).Underway wire) (closed : reading.Closed) :
    (reading.run acts).Closed := by
  obtain ⟨last, outlasting, there⟩ := still.tracked
  obtain ⟨final, _⟩ := still.sound.tracked outlasting
  rw [there, situation_run] at final
  refine (closed_iff outlasting).2 (underway.sound.closed_run (underway.ended closed) ?_ _ final)
  obtain ⟨peer, tracked, here⟩ := underway.tracked
  obtain ⟨present, _⟩ := underway.sound.tracked tracked
  rw [here] at present
  intro other same
  cases present.symm.trans same
  exact (closed_iff tracked).1 closed

/-! ## When the call copies -/

theorem returned_run {result : Except LinkError Bytes} (returned : reading.returned = some result)
    (acts : List Act) : (reading.run acts).returned = some result := by
  induction acts generalizing reading with
  | nil => exact returned
  | cons act rest inductionHypothesis =>
      refine @inductionHypothesis (reading.after act) ?_
      cases act with
      | move move => exact returned
      | look =>
          rw [after, look_of_returned returned]
          exact returned

/-- A look that does not copy changes nothing but the phase. -/
theorem look_waits (waiting : reading.returned = none) (phase : reading.phase ≠ .copying) :
    ∃ later, reading.look = { reading with phase := later } := by
  obtain ⟨situation, id, size, stands, returned⟩ := reading
  cases waiting
  unfold look
  cases stands with
  | copying => exact absurd rfl phase
  | counting | askingPeer | askingServer =>
      dsimp only
      split <;> exact ⟨_, rfl⟩

/-- A call that has not returned after a look did not copy. -/
theorem waiting_of_look (waiting : reading.look.returned = none) :
    reading.returned = none ∧ reading.phase ≠ .copying := by
  cases returned : reading.returned with
  | some result =>
      rw [look_of_returned returned, returned] at waiting
      cases waiting
  | none =>
      refine ⟨rfl, fun copying => ?_⟩
      rw [look_of_copying returned copying] at waiting
      cases waiting

/-- What the call returned it copied at one moment. -/
theorem copied_run (waiting : reading.returned = none) {acts : List Act}
    {result : Except LinkError Bytes} (returned : (reading.run acts).returned = some result) :
    ∃ early late, acts = early ++ .look :: late ∧ (reading.run early).returned = none ∧
      (reading.run early).phase = .copying ∧
      result = (Framelink.Server.read (reading.run early).situation.server reading.id reading.size
        true).1 := by
  induction acts generalizing reading with
  | nil => cases waiting.symm.trans returned
  | cons act rest inductionHypothesis =>
      have later (still : (reading.after act).returned = none)
          (fixed : (reading.after act).id = reading.id ∧ (reading.after act).size = reading.size) :
          ∃ early late, act :: rest = early ++ .look :: late ∧
            (reading.run early).returned = none ∧ (reading.run early).phase = .copying ∧
            result = (Framelink.Server.read (reading.run early).situation.server reading.id
              reading.size true).1 := by
        obtain ⟨early, late, rfl, none, copying, same⟩ := inductionHypothesis still returned
        rw [fixed.1, fixed.2] at same
        exact ⟨act :: early, late, rfl, none, copying, same⟩
      cases act with
      | move move => exact later waiting ⟨rfl, rfl⟩
      | look =>
          by_cases copying : reading.phase = .copying
          · have copied := look_of_copying waiting copying
            have now := returned_run (congrArg Reading.returned copied) rest
            refine ⟨[], rest, rfl, waiting, copying, ?_⟩
            exact Option.some.inj (returned.symm.trans now)
          · obtain ⟨phase, waited⟩ := look_waits waiting copying
            refine later ?_ reading.fixed_look
            rw [after, waited]
            exact waiting

/-- A call copies because what was wanted is there, or because the peer was closed or the
server did not run at some moment. -/
theorem Undisturbed.cause {acts : List Act} (undisturbed : reading.Undisturbed wire acts)
    (sound : reading.situation.Sound) (retired : reading.situation.Retired)
    (begins : reading.phase = .counting) (waiting : (reading.run acts).returned = none)
    (copying : (reading.run acts).phase = .copying) :
    (reading.run acts).Sated ∨
      ∃ sooner, sooner <+: acts ∧ ((reading.run sooner).Closed ∨ (reading.run sooner).Down) := by
  induction acts using List.reverseRecOn with
  | nil => cases begins.symm.trans copying
  | append_singleton acts act inductionHypothesis =>
      have within : acts <+: acts ++ [act] := List.prefix_append acts [act]
      have before := undisturbed.of_prefix within
      have underway := before.underway sound retired
      have still := undisturbed.underway sound retired
      rw [run_concat] at waiting copying still ⊢
      cases act with
      | move move =>
          rcases inductionHypothesis before waiting copying with sated | ⟨sooner, early, cause⟩
          · have spares : move.takes (reading.run acts).id = false := by
              rw [(reading.fixed_run acts).1]
              exact undisturbed.alone move (List.mem_append_right acts List.mem_cons_self)
            exact Or.inl (underway.sated_after still spares sated)
          · exact Or.inr ⟨sooner, early.trans within, cause⟩
      | look =>
          obtain ⟨unreturned, phase⟩ := waiting_of_look waiting
          obtain ⟨peer, tracked, _⟩ := underway.tracked
          have looked := look_of_waiting unreturned phase tracked
          rw [after, looked] at copying ⊢
          rcases ReadPhase.cause_of_copying phase copying with enough | closed | down
          · exact Or.inl ⟨peer, tracked, enough⟩
          · exact Or.inr ⟨acts, within, Or.inl ((closed_iff tracked).2 closed)⟩
          · exact Or.inr ⟨acts, within, Or.inr down⟩

/-! ## When the call returns -/

/-- An inbox that the call does not copy from goes on holding what is wanted. -/
theorem Undisturbed.sated_run {acts : List Act} (undisturbed : reading.Undisturbed wire acts)
    (sound : reading.situation.Sound) (retired : reading.situation.Retired)
    (sated : reading.Sated) (waiting : (reading.run acts).returned = none) :
    (reading.run acts).Sated := by
  induction acts using List.reverseRecOn with
  | nil => exact sated
  | append_singleton acts act inductionHypothesis =>
      have before := undisturbed.of_prefix (List.prefix_append acts [act])
      have underway := before.underway sound retired
      have still := undisturbed.underway sound retired
      rw [run_concat] at waiting still ⊢
      cases act with
      | move move =>
          have spares : move.takes (reading.run acts).id = false := by
            rw [(reading.fixed_run acts).1]
            exact undisturbed.alone move (List.mem_append_right acts List.mem_cons_self)
          exact underway.sated_after still spares (inductionHypothesis before waiting)
      | look =>
          obtain ⟨unreturned, phase⟩ := waiting_of_look waiting
          obtain ⟨later, waited⟩ := look_waits unreturned phase
          have kept := inductionHypothesis before unreturned
          rw [after, waited]
          exact kept

/-- A call that can leave its wait at every moment returns after enough looks, whatever
happens between them. -/
theorem returned_of_looks {exit : ReadPhase} (passable : exit ≠ .copying) {acts : List Act}
    (ends : ∀ early, early <+: acts → (reading.run early).returned = none →
      ∃ peer, (reading.run early).situation.server.peer? (reading.run early).id = some peer ∧
        exit.next (reading.run early).size peer (reading.run early).situation.server.running =
          .copying)
    (enough : exit.looksLeft reading.phase ≤ acts.countP Act.looks) :
    (reading.run acts).returned.isSome = true := by
  induction acts generalizing reading with
  | nil =>
      have positive : 1 ≤ exit.looksLeft reading.phase := by
        cases exit <;> cases reading.phase <;> decide
      have none : exit.looksLeft reading.phase ≤ 0 := enough
      omega
  | cons act rest inductionHypothesis =>
      cases returned : reading.returned with
      | some result => rw [returned_run returned]; rfl
      | none =>
          have later (count : exit.looksLeft (reading.after act).phase ≤ rest.countP Act.looks) :
              ((reading.after act).run rest).returned.isSome = true := by
            refine inductionHypothesis (fun early within => ?_) count
            exact ends (act :: early) (List.cons_prefix_cons.2 ⟨rfl, within⟩)
          cases act with
          | move move => exact later enough
          | look =>
              rw [List.countP_cons_of_pos rfl] at enough
              by_cases copying : reading.phase = .copying
              · have copied := look_of_copying returned copying
                have done := returned_run (congrArg Reading.returned copied) rest
                exact congrArg Option.isSome done
              · obtain ⟨peer, tracked, ready⟩ := ends [] (List.nil_prefix) returned
                have looked := look_of_waiting returned copying tracked
                refine later ?_
                have nearer := ReadPhase.looksLeft_next passable copying ready
                rw [after, looked]
                dsimp only
                exact Nat.le_of_lt_succ (Nat.lt_of_lt_of_le nearer enough)

/-- A call returns after four looks at most from a moment on when what is wanted is there, or
when the peer is closed, or when the server runs no more; whatever happens between the
looks. -/
theorem Undisturbed.returns {acts : List Act} (undisturbed : reading.Undisturbed wire acts)
    (sound : reading.situation.Sound) (retired : reading.situation.Retired)
    (cause : reading.Sated ∨ reading.Closed ∨ ∀ early, early <+: acts → (reading.run early).Down)
    (enough : 4 ≤ acts.countP Act.looks) : (reading.run acts).returned.isSome = true := by
  have underway {early : List Act} (within : early <+: acts) :=
    (undisturbed.of_prefix within).underway sound retired
  rcases cause with sated | closed | down
  · have passable : ReadPhase.counting ≠ .copying := nofun
    refine returned_of_looks passable (fun early within waiting => ?_) ?_
    · obtain ⟨peer, tracked, there⟩ :=
        (undisturbed.of_prefix within).sated_run sound retired sated waiting
      exact ⟨peer, tracked, if_neg (Nat.not_lt.2 there)⟩
    · exact Nat.le_trans (ReadPhase.looksLeft_le _ _) enough
  · have passable : ReadPhase.askingPeer ≠ .copying := nofun
    refine returned_of_looks passable (fun early within waiting => ?_) ?_
    · obtain ⟨peer, tracked, _⟩ := (underway within).tracked
      have shut := (underway List.nil_prefix).closed_run (underway within) closed
      refine ⟨peer, tracked, ?_⟩
      rw [ReadPhase.next, (closed_iff tracked).1 shut]
      rfl
    · exact Nat.le_trans (ReadPhase.looksLeft_le _ _) enough
  · have passable : ReadPhase.askingServer ≠ .copying := nofun
    refine returned_of_looks passable (fun early within waiting => ?_) ?_
    · obtain ⟨peer, tracked, _⟩ := (underway within).tracked
      refine ⟨peer, tracked, ?_⟩
      rw [ReadPhase.next, down early within]
      rfl
    · exact Nat.le_trans (ReadPhase.looksLeft_le _ _) enough

theorem Undisturbed.rest {early late : List Act}
    (undisturbed : reading.Undisturbed wire (early ++ late)) :
    (reading.run early).Undisturbed wire late where
  tracked := by
    intro within before
    rw [← run_append, (reading.fixed_run early).1]
    exact undisturbed.tracked (early ++ within) ((List.prefix_append_right_inj early).2 before)
  alone := by
    intro move made
    rw [(reading.fixed_run early).1]
    exact undisturbed.alone move (List.mem_append_right early made)

/-! ## What the call hands out -/

/-- A call that copies takes the front of the inbox away. -/
theorem Underway.copies (underway : reading.Underway wire) {peer : Peer Line}
    (tracked : reading.situation.server.peer? reading.id = some peer) :
    (Framelink.Server.read reading.situation.server reading.id reading.size true).1 =
        .ok (peer.inbox.contents.take reading.size) ∧
      (reading.situation.read reading.id reading.size true).server.peer? reading.id =
        some { peer with inbox := (peer.inbox.read reading.size true).2 } ∧
      ((reading.situation.read reading.id reading.size true).record wire).taken =
        (reading.situation.record wire).taken ++ peer.inbox.contents.take reading.size := by
  obtain ⟨known, same, rfl⟩ := underway.tracked
  cases tracked.symm.trans same
  have required : Framelink.Server.require reading.situation.server reading.id = .ok peer := by
    rw [Framelink.Server.require, tracked]
  have noted : reading.situation.noteTaken reading.id (peer.inbox.contents.take reading.size) =
      reading.situation.note peer.line.wire fun record =>
        { record with taken := record.taken ++ peer.inbox.contents.take reading.size } := by
    rw [Situation.noteTaken, tracked]
  rw [Situation.read, Framelink.Server.read, required]
  refine ⟨rfl, ?_, ?_⟩
  · refine (PeerTable.find?_modify reading.situation.server.peers reading.id reading.id
      fun other => { other with inbox := (peer.inbox.read reading.size true).2 }).trans ?_
    rw [if_pos rfl]
    exact congrArg (Option.map _) tracked
  · change ((reading.situation.noteTaken reading.id
      (peer.inbox.contents.take reading.size)).record peer.line.wire).taken = _
    rw [noted, Situation.note]
    dsimp only
    rw [if_pos rfl]

/-- What a blocking read that returned handed out, and why it came short if it did. -/
theorem Undisturbed.answers {acts : List Act} (undisturbed : reading.Undisturbed wire acts)
    (sound : reading.situation.Sound) (retired : reading.situation.Retired)
    (begins : reading.phase = .counting) (waits : reading.returned = none)
    {result : Except LinkError Bytes} (returned : (reading.run acts).returned = some result) :
    ∃ early late peer, acts = early ++ .look :: late ∧
      (reading.run early).returned = none ∧ (reading.run early).phase = .copying ∧
      (reading.run (early ++ [.look])).returned = some result ∧
      (reading.run early).situation.server.peer? reading.id = some peer ∧
      result = .ok (peer.inbox.contents.take reading.size) ∧
      (reading.run (early ++ [.look])).situation.server.peer? reading.id =
        some { peer with inbox := (peer.inbox.read reading.size true).2 } ∧
      (peer.inbox.size < reading.size → ∃ sooner, sooner <+: early ∧
        ((reading.run sooner).Closed ∨ (reading.run sooner).Down)) := by
  obtain ⟨early, late, rfl, waiting, copying, same⟩ := copied_run waits returned
  have before := undisturbed.of_prefix (List.prefix_append early (.look :: late))
  have underway := before.underway sound retired
  obtain ⟨fixedId, fixedSize⟩ := reading.fixed_run early
  obtain ⟨peer, tracked, _⟩ := underway.tracked
  obtain ⟨copied, outlasting, _⟩ := underway.copies tracked
  have done := (reading.run_concat early .look).trans (look_of_copying waiting copying)
  have cause := before.cause sound retired begins waiting copying
  rw [Sated, fixedId, fixedSize] at cause
  rw [fixedId, fixedSize] at copied outlasting done
  rw [fixedId] at tracked
  refine ⟨early, late, peer, rfl, waiting, copying, ?_, tracked, same.trans copied, ?_,
    fun short => cause.resolve_left ?_⟩
  · rw [done]
    exact congrArg some same.symm
  · rw [done]
    exact outlasting
  rintro ⟨known, found, enough⟩
  cases tracked.symm.trans found
  exact Nat.not_le.2 short enough

/-- A call that came short after its peer was closed emptied the inbox for good. -/
theorem Undisturbed.empties {early : List Act}
    (undisturbed : reading.Undisturbed wire (early ++ [.look]))
    (sound : reading.situation.Sound) (retired : reading.situation.Retired) {bytes : Bytes}
    (accounted : reading.situation.Accounted wire bytes)
    (waiting : (reading.run early).returned = none)
    (copying : (reading.run early).phase = .copying) {peer : Peer Line}
    (tracked : (reading.run early).situation.server.peer? reading.id = some peer)
    (short : peer.inbox.size < reading.size) {sooner : List Act} (within : sooner <+: early)
    (closed : (reading.run sooner).Closed) (later : List Move) :
    bytes ++ reading.situation.queued wire (reading.moves (early ++ [.look]) ++ later) =
        ((reading.run early).situation.record wire).taken ++ peer.inbox.contents ∧
      ∀ last, ((reading.run (early ++ [.look])).situation.run later).server.peer? reading.id =
        some last → last.line.wire = wire → last.inbox.contents = [] := by
  have before := undisturbed.of_prefix (List.prefix_append early [.look])
  have underway := before.underway sound retired
  have done := undisturbed.underway sound retired
  obtain ⟨fixedId, fixedSize⟩ := reading.fixed_run early
  have all : peer.inbox.contents.length ≤ reading.size := Nat.le_of_lt short
  -- Nobody serves the connection any more when the call copies.
  have shut : (reading.run early).Closed := by
    obtain ⟨rest, rfl⟩ := within
    rw [run_append] at underway ⊢
    exact ((before.of_prefix (List.prefix_append sooner rest)).underway sound retired).closed_run
      underway closed
  have stillShut : (reading.run (early ++ [.look])).Closed := by
    rw [run_append] at done ⊢
    exact underway.closed_run done shut
  have finished := done.ended stillShut
  -- The call takes all that is left.
  have copied := look_of_copying waiting copying
  rw [← fixedId] at tracked
  obtain ⟨_, outlasting, taken⟩ := underway.copies tracked
  have situation : (reading.run (early ++ [.look])).situation =
      (reading.run early).situation.read (reading.run early).id (reading.run early).size true := by
    rw [run_concat, after, copied]
  rw [← situation] at outlasting taken
  rw [fixedSize, List.take_of_length_le all] at taken
  obtain ⟨present, _⟩ := done.sound.tracked outlasting
  obtain ⟨known, same, here⟩ := underway.tracked
  cases tracked.symm.trans same
  have session : ((reading.run (early ++ [.look])).situation.connection wire).session = _ :=
    here ▸ present
  have empty : (peer.inbox.read (reading.run early).size true).2.contents = [] := by
    rw [Inbox.contents_read_erase, fixedSize, List.drop_of_length_le all]
  -- What was put there since the beginning of the call is accounted for.
  have counted := accounted.run sound (reading.moves (early ++ [.look]))
  rw [← situation_run] at counted
  obtain ⟨spent, stays⟩ := counted.emptied done.sound finished session empty later
  refine ⟨?_, ?_⟩
  · rw [Situation.queued_append, ← List.append_assoc, ← situation_run]
    exact spent.trans taken
  · intro last still there
    have final := ((done.sound.run later).tracked still).1
    rw [there] at final
    exact stays last final

end Reading

namespace Situation

open Reading

/-- A blocking read hands out the front of the inbox.  It comes short only if its peer was closed
or the server did not run, and if its peer was closed, it has handed out the last of all bytes
that were ever put into the inbox.  It returns as soon as it can. -/
theorem blocking_read_loses_no_final_bytes (settings : Settings) (isolated : Bool)
    (moves : List Move) (id : UInt64) (size wire : Nat) (acts : List Act)
    (undisturbed :
      (((initial settings isolated).run moves).reading id size).Undisturbed wire acts) :
    let beginning := initial settings isolated
    let reading := (beginning.run moves).reading id size
    (∀ result, (reading.run acts).returned = some result →
      ∃ early late peer, acts = early ++ .look :: late ∧
        let copying := reading.run early
        let done := reading.run (early ++ [.look])
        copying.returned = none ∧ done.returned = some result ∧
        copying.situation.server.peer? id = some peer ∧
        result = .ok (peer.inbox.contents.take size) ∧
        done.situation.server.peer? id =
          some { peer with inbox := (peer.inbox.read size true).2 } ∧
        (peer.inbox.size < size →
          (∃ sooner, sooner <+: early ∧
            ((reading.run sooner).Closed ∨ (reading.run sooner).Down)) ∧
          ∀ sooner, sooner <+: early → (reading.run sooner).Closed → ∀ later : List Move,
            beginning.queued wire (moves ++ (reading.moves (early ++ [.look]) ++ later)) =
                (copying.situation.record wire).taken ++ peer.inbox.contents ∧
              ∀ last, (done.situation.run later).server.peer? id = some last →
                last.line.wire = wire → last.inbox.contents = [])) ∧
    ∀ early late, acts = early ++ late → 4 ≤ late.countP Act.looks →
      ((reading.run early).Sated ∨ (reading.run early).Closed ∨
        ∀ within, within <+: late → (reading.run (early ++ within)).Down) →
      (reading.run acts).returned.isSome = true := by
  intro beginning reading
  have sound : reading.situation.Sound := sound_run settings isolated moves
  have retired : reading.situation.Retired := retired_run settings isolated moves
  have accounted : reading.situation.Accounted wire (beginning.queued wire moves) :=
    accounted_run settings isolated wire moves
  refine ⟨fun result returned => ?_, fun early late split enough cause => ?_⟩
  · obtain ⟨early, late, peer, rfl, waiting, copying, done, tracked, answer, outlasting, cause⟩ :=
      undisturbed.answers sound retired rfl rfl returned
    have whole : early ++ [.look] <+: early ++ .look :: late :=
      ⟨late, List.append_assoc early [.look] late⟩
    refine ⟨early, late, peer, rfl, waiting, done, tracked, answer, outlasting, fun short => ?_⟩
    refine ⟨cause short, fun sooner within closed later => ?_⟩
    rw [queued_append]
    exact (undisturbed.of_prefix whole).empties sound retired accounted waiting copying tracked
      short within closed later
  · obtain rfl := split
    have begun : (reading.run early).Underway wire :=
      (undisturbed.of_prefix (List.prefix_append early late)).underway sound retired
    have returns := undisturbed.rest.returns begun.sound begun.retired
      (cause.imp_right (Or.imp_right fun down within before =>
        reading.run_append early within ▸ down within before)) enough
    exact reading.run_append early late ▸ returns

/-- Between the count of a call that wants five bytes and its look at the peer, the far end sends
three bytes and ends its stream, and the worker puts them into the inbox and leaves. -/
def lastWords : List Act :=
  [.look, .move (.send 0 [1, 2, 3]), .move (.carry 0 3), .move (.finish 0)] ++
    List.replicate 8 (.move (.step (.worker 0) .heard)) ++ [.look, .look]

theorem blocking_read_loses_no_final_bytes_of_last_words :
    let beginning := initial .standard false
    let reading := (beginning.run (admission 7)).reading 1 5
    reading.Undisturbed 0 lastWords ∧ (reading.run lastWords).returned = some (.ok [1, 2, 3]) ∧
      (∃ early late peer, lastWords = early ++ .look :: late ∧
        (reading.run early).situation.server.peer? 1 = some peer ∧
        .ok [1, 2, 3] = (.ok (peer.inbox.contents.take 5) : Except LinkError Bytes) ∧
        (peer.inbox.size < 5 →
          ∃ sooner, sooner <+: early ∧ ((reading.run sooner).Closed ∨ (reading.run sooner).Down))) := by
  intro beginning reading
  have undisturbed : reading.Undisturbed 0 lastWords :=
    { tracked := by
        intro early within
        have all : ∀ early ∈ lastWords.inits,
            (reading.run early).situation.server.names reading.id 0 = true := by decide +kernel
        exact all early ((List.mem_inits early lastWords).2 within)
      alone := by
        intro move made
        have all : ∀ act ∈ lastWords, (match act with
            | .move move => move.takes 1
            | .look => false) = false := by decide +kernel
        exact all (.move move) made }
  have returned : (reading.run lastWords).returned = some (.ok [1, 2, 3]) := by decide +kernel
  obtain ⟨early, late, peer, split, _, _, tracked, answer, _, short⟩ :=
    (blocking_read_loses_no_final_bytes .standard false (admission 7) 1 5 0 lastWords
      undisturbed).1 _ returned
  exact ⟨undisturbed, returned, early, late, peer, split, tracked, answer,
    fun few => (short few).1⟩

end Situation
end Tcp
end Framelink
