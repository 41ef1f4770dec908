import Framelink.Proofs.Notices
import Framelink.Proofs.Tcp.Addresses
import Framelink.Proofs.Tcp.Admissions
import Framelink.Proofs.Tcp.Retired
import Framelink.Proofs.Tcp.Room
import Framelink.Proofs.Tcp.Stint
import Mathlib.Data.List.Induction

/-!
# How the application gets to know a stream peer

The acceptor gives a connection its number, tells the application that there is a peer, and
then starts the worker that tells what the peer sends.  Where a connection stands with the
acceptor says how much of that was told.  So every peer is spoken of under the one number that
its connection was given, and first of all, once, as a new one.
-/

namespace Framelink
namespace Tcp

/-! ## Notices -/

/-- The chunk that the next step of a worker tells. -/
def Worker.told? (worker : Worker) : Option Bytes := worker.deed?.bind Deed.told?

theorem Worker.told?_eq_some {worker : Worker} {chunk : Bytes} :
    worker.told? = some chunk ↔ worker.phase = .announcing chunk := by
  rw [Worker.told?, Worker.deed?]
  cases worker.phase with
  | _ => simp [Deed.told?]

namespace Server

theorem stage_eq (server : Server) (wire : Nat) : server.stage wire =
    (server.acceptorPhase?.map (Acceptor.Phase.stage wire)).getD .absent := by
  rw [stage, acceptorPhase?]
  cases server.service.acceptors <;> rfl

theorem stage_of_phase {server : Server} {phase : Acceptor.Phase}
    (here : server.acceptorPhase? = some phase) (wire : Nat) :
    server.stage wire = phase.stage wire := by
  rw [stage_eq, here]
  rfl

/-- What the next step of a service thread tells the application, and of the peer on which
wire. -/
def notice? (server : Server) : Thread → Option (Nat × Notice UInt64)
  | .acceptor port =>
      match (server.acceptor? port).map Acceptor.phase with
      | some (.greeting id admission) => some (admission.wire,
          .joined (server.farAddress admission.wire) id server.onNewPeer)
      | _ => none
  | .worker wire =>
      (server.worker? wire).bind fun worker =>
        worker.told?.map fun chunk => (wire, .received chunk worker.id server.onData)

end Server

namespace Situation

/-- What a move tells the application of the peer on a wire. -/
def notice? (situation : Situation) (wire : Nat) : Move → Option (Notice UInt64)
  | .step thread _ => (situation.server.notice? thread).bind fun (other, notice) =>
      if other = wire then some notice else none
  | _ => none

/-- What a row of moves tells the application of the peer on a wire. -/
def notices (situation : Situation) (wire : Nat) : List Move → List (Notice UInt64)
  | [] => []
  | move :: rest =>
      (situation.notice? wire move).toList ++ (situation.after move).notices wire rest

theorem notices_append (situation : Situation) (wire : Nat) (early late : List Move) :
    situation.notices wire (early ++ late) =
      situation.notices wire early ++ (situation.run early).notices wire late := by
  induction early generalizing situation with
  | nil => rfl
  | cons move rest inductionHypothesis =>
      rw [List.cons_append, notices, notices, inductionHypothesis, List.append_assoc]
      rfl

theorem notices_snoc (situation : Situation) (wire : Nat) (moves : List Move) (move : Move) :
    situation.notices wire (moves ++ [move]) =
      situation.notices wire moves ++ ((situation.run moves).notice? wire move).toList := by
  rw [notices_append, notices, notices, List.append_nil]

variable {situation : Situation} {wire : Nat} {id : UInt64}

/-- Who tells the application what of the peer on a wire. -/
inductive Tells (situation : Situation) (wire : Nat) : Move → Notice UInt64 → Prop
  | greeting (port : UInt16) (acceptor : Acceptor) (id : UInt64) (admission : Admission)
      (delivery : Delivery) (here : situation.server.acceptor? port = some acceptor)
      (phase : acceptor.phase = .greeting id admission) (own : admission.wire = wire) :
      Tells situation wire (.step (.acceptor port) delivery)
        (.joined (situation.server.farAddress wire) id situation.server.onNewPeer)
  | announcing (worker : Worker) (chunk : Bytes) (delivery : Delivery)
      (alive : situation.server.worker? wire = some worker)
      (phase : worker.phase = .announcing chunk) :
      Tells situation wire (.step (.worker wire) delivery)
        (.received chunk worker.id situation.server.onData)

theorem tells_of_notice {move : Move} {notice : Notice UInt64}
    (told : situation.notice? wire move = some notice) : situation.Tells wire move notice := by
  cases move with
  | step thread delivery =>
      obtain ⟨⟨other, same⟩, given, own⟩ := Option.bind_eq_some_iff.1 told
      dsimp only at own
      split at own
      · next here =>
          cases own
          subst here
          cases thread with
          | acceptor port =>
              rw [Server.notice?] at given
              split at given
              · next id admission reached =>
                  cases given
                  obtain ⟨acceptor, here, phase⟩ := Option.map_eq_some_iff.1 reached
                  exact .greeting port acceptor id admission delivery here phase rfl
              · cases given
          | worker index =>
              obtain ⟨worker, alive, tells⟩ := Option.bind_eq_some_iff.1 given
              obtain ⟨chunk, announced, same⟩ := Option.map_eq_some_iff.1 tells
              cases same
              exact .announcing worker chunk delivery alive (Worker.told?_eq_some.1 announced)
      · cases own
  | _ => cases told

/-! ## Numbers -/

/-- The number that a move gives out, and the wire that gets it. -/
def given? (situation : Situation) (move : Move) : Option (UInt64 × Nat) :=
  (situation.entrance? move).bind Entrance.number?

theorem numbersGiven_snoc (situation : Situation) (moves : List Move) (move : Move) :
    situation.numbersGiven (moves ++ [move]) =
      situation.numbersGiven moves ++ ((situation.run moves).given? move).toList := by
  have one (last : Situation) : last.numbersGiven [move] = (last.given? move).toList := by
    rw [numbersGiven, entrances, entrances, List.append_nil, given?]
    cases last.entrance? move with
    | none => rfl
    | some entrance => cases entrance <;> rfl
  rw [numbersGiven_append, one]

/-- A number is read off a registration. -/
theorem registering_of_entrance {phase later : Acceptor.Phase}
    (numbered : phase.entrance? later = some (.numbered id wire)) :
    ∃ admission next, phase = .registering admission ∧ later = .greeting id next ∧
      admission.wire = wire := by
  unfold Acceptor.Phase.entrance? at numbered
  split at numbered
  · cases numbered
  · cases numbered
  · next admission other next =>
      cases numbered
      exact ⟨admission, next, rfl, rfl, rfl⟩
  · cases numbered

/-- A number is given to the connection that the acceptor is about to register, and the peer
is greeted next. -/
theorem Sound.registering_of_given (sound : situation.Sound) {move : Move}
    (given : situation.given? move = some (id, wire)) :
    ∃ listener admission delivery, situation.Admits listener (.registering admission) ∧
      move = .step (.acceptor (port listener)) delivery ∧ admission.wire = wire ∧
        id = situation.server.service.nextId := by
  obtain ⟨entrance, entered, numbered⟩ := Option.bind_eq_some_iff.1 given
  obtain rfl : entrance = .numbered id wire := by
    cases entrance with
    | accepted | dropped => cases numbered
    | numbered =>
        cases numbered
        rfl
  rw [entrance?] at entered
  split at entered
  · next phase later here there =>
      obtain ⟨admission, next, rfl, rfl, own⟩ := registering_of_entrance entered
      cases sound.steers move with
      | steps listener phase delivery admits =>
          obtain rfl := Option.some.inj ((phase_of_at admits.at).symm.trans here)
          rw [admits.phase_registered] at there
          cases there
          exact ⟨listener, admission, delivery, admits, rfl, own, rfl⟩
      | spares _ _ same => cases (there.symm.trans same).trans here
      | begins _ _ nobody => cases nobody.symm.trans here
  · cases entered

/-! ## Getting to know a peer -/

/-- A wire was given one number. -/
def Named (given : List (UInt64 × Nat)) (id : UInt64) (wire : Nat) : Prop :=
  ∀ other, (other, wire) ∈ given ↔ other = id

/-- How far the application has got to know the peer on a wire. -/
inductive Acquaintance (situation : Situation) (wire : Nat) (given : List (UInt64 × Nat))
    (notices : List (Notice UInt64)) : Prop
  /-- It has no number, and nothing was told of it. -/
  | strange (nameless : ∀ id, (id, wire) ∉ given) (silent : notices = [])
      (ungreeted : situation.server.stage wire ≠ .greeting)
      (unserved : situation.server.worker? wire = none)
  /-- The acceptor is about to tell that there is a peer. -/
  | awaited (id : UInt64) (named : Named given id wire) (admission : Admission)
      (own : admission.wire = wire)
      (here : situation.server.acceptorPhase? = some (.greeting id admission))
      (silent : notices = [])
  /-- The acceptor has told that, and is about to start the worker. -/
  | greeted (id : UInt64) (named : Named given id wire) (admission : Admission)
      (own : admission.wire = wire)
      (here : situation.server.acceptorPhase? = some (.spawning id admission))
      (introduced : Introduced (situation.server.farAddress wire) id notices)
  /-- If anybody tells more of it, then its worker. -/
  | met (id : UInt64) (named : Named given id wire)
      (beyond : (situation.connection wire).Beyond)
      (mans : ∀ worker, situation.server.worker? wire = some worker → worker.id = id)
      (introduced : Introduced (situation.server.farAddress wire) id notices)

/-- Who is not greeted and has no worker is not spoken of. -/
theorem Sound.silent (sound : situation.Sound)
    (ungreeted : ∀ id admission,
      situation.server.acceptorPhase? = some (.greeting id admission) → admission.wire ≠ wire)
    (unserved : situation.server.worker? wire = none) (move : Move) :
    situation.notice? wire move = none := by
  cases told : situation.notice? wire move with
  | none => rfl
  | some notice =>
      cases tells_of_notice told with
      | greeting port acceptor id admission delivery here phase own =>
          have greeting := sound.phase_of_acceptor here
          rw [phase] at greeting
          exact absurd own (ungreeted id admission greeting)
      | announcing worker chunk delivery alive => cases unserved.symm.trans alive

/-- The acceptor goes on to another phase, or is gone. -/
theorem Admits.phase_after {listener : Listener} {phase : Acceptor.Phase}
    (admits : situation.Admits listener phase) (delivery : Delivery) :
    let later := (situation.after (.step (.acceptor (port listener)) delivery)).server
    later.acceptorPhase? = none ∨ ∃ after next, later.acceptorPhase? = some next ∧
      Advance situation.server listener phase after next := by
  intro later
  rw [show later = _ from admits.server_after delivery]
  rcases admits.goes_or_ends delivery with ended | ⟨after, next, here, advance⟩
  · left
    rw [Server.acceptorPhase?, (Prod.mk.inj ended).2]
    rfl
  · exact Or.inr ⟨after, next, phase_of_at here, advance⟩

/-- A connection is to be greeted once it was given its number, or it was to be greeted
before. -/
theorem Sound.given_of_greeting (sound : situation.Sound) {move : Move}
    (before : situation.server.stage wire ≠ .greeting)
    (after : (situation.after move).server.stage wire = .greeting) :
    ∃ id, situation.given? move = some (id, wire) := by
  have changed : (situation.after move).server.stage wire ≠ situation.server.stage wire :=
    fun same => before (same.symm.trans after)
  obtain ⟨listener, phase, delivery, admits, rfl⟩ := sound.admits_of_stage changed
  have here := phase_of_at admits.at
  rcases admits.phase_after delivery with ended | ⟨_, next, there, advance⟩
  · rw [Server.stage_eq, ended] at after
    cases after
  · rw [Server.stage_of_phase here] at before
    rw [Server.stage_of_phase there] at after
    have entered := show situation.entrance? (.step (.acceptor (port listener)) delivery) =
        phase.entrance? next by rw [entrance?, here, there]
    cases advance with
    | registered id admission =>
        dsimp only [Acceptor.Phase.stage] at after
        split at after
        · next own =>
            refine ⟨id, ?_⟩
            rw [given?, entered, ← own]
            rfl
        · cases after
    | greeted => exact absurd after before
    | took | configured | spawned =>
        dsimp only [Acceptor.Phase.stage] at after
        split at after <;> cases after
    | looked | retried | idle | refused | unserved | stored => cases after

end Situation

namespace Connection

variable {own : Bool} {c later : Connection}

/-- Once the acceptor is done with a greeting, it will not come back to the connection. -/
theorem Turn.beyond_of_greeting (turn : Turn own c later) (placed : c.Placed)
    (greeting : c.stage = .greeting) (moved : later.stage ≠ .greeting) : later.Beyond := by
  have busy : c.stage ≠ .absent := by
    rw [greeting]
    nofun
  have waits : c.waits = false := Bool.eq_false_iff.2 (placed.taken busy)
  cases turn with
  | unwelcome | unserved => exact ⟨nofun, waits, nofun, nofun⟩
  | served => exact ⟨placed.made busy, waits, nofun, nofun⟩
  | accepted here => cases waits.symm.trans here
  | refused _ _ stage | registered _ stage | stored stage => cases greeting.symm.trans stage
  | _ => exact absurd greeting moved

end Connection

namespace Situation

variable {situation : Situation} {wire : Nat} {id : UInt64} {given : List (UInt64 × Nat)}
  {notices : List (Notice UInt64)}

theorem Named.append (named : Named given id wire) {more : Option (UInt64 × Nat)}
    (others : ∀ other, more ≠ some (other, wire)) : Named (given ++ more.toList) id wire := by
  intro other
  rw [List.mem_append, named other, Option.mem_toList]
  exact or_iff_left (others other)

/-- Only an acceptor that registers a connection gives a number to it. -/
theorem Sound.not_given (sound : situation.Sound)
    (busy : ∀ admission, situation.server.acceptorPhase? = some (.registering admission) →
      admission.wire ≠ wire) (move : Move) (other : UInt64) :
    situation.given? move ≠ some (other, wire) := by
  intro given
  obtain ⟨listener, admission, delivery, admits, _, own, _⟩ := sound.registering_of_given given
  exact busy admission (phase_of_at admits.at) own

/-- A connection without a number is given one, and is to be greeted next, or it stays as it
is. -/
theorem Sound.acquaintance_strange (sound : situation.Sound)
    (nameless : ∀ id, (id, wire) ∉ given) (ungreeted : situation.server.stage wire ≠ .greeting)
    (unserved : situation.server.worker? wire = none) (move : Move) :
    (situation.after move).Acquaintance wire (given ++ (situation.given? move).toList)
      (situation.notice? wire move).toList := by
  have quiet : situation.notice? wire move = none := by
    refine sound.silent (fun id admission here own => ungreeted ?_) unserved move
    rw [Server.stage_of_phase here]
    exact if_pos own
  have free : (situation.after move).server.worker? wire = none :=
    ((turns_after sound move).turn wire).stays_unserved ungreeted unserved
  rw [quiet]
  by_cases numbered : ∃ id, situation.given? move = some (id, wire)
  · obtain ⟨id, numbered⟩ := numbered
    obtain ⟨listener, admission, delivery, admits, rfl, own, rfl⟩ :=
      sound.registering_of_given numbered
    refine .awaited _ (fun other => ?_) admission own (admits.phase_registered delivery) rfl
    rw [numbered, List.mem_append, Option.mem_toList, Option.some.injEq, Prod.mk.injEq]
    simp [nameless, eq_comm]
  · refine .strange (fun id => ?_) rfl (fun after => ?_) free
    · rw [List.mem_append, Option.mem_toList, not_or]
      exact ⟨nameless id, fun same => numbered ⟨id, same⟩⟩
    · exact numbered (sound.given_of_greeting ungreeted after)

/-- A peer that is to be greeted is spoken of when the acceptor steps, and not before. -/
theorem Sound.acquaintance_awaited (sound : situation.Sound) (named : Named given id wire)
    {admission : Admission} (own : admission.wire = wire)
    (here : situation.server.acceptorPhase? = some (.greeting id admission)) (move : Move) :
    (situation.after move).Acquaintance wire (given ++ (situation.given? move).toList)
      (situation.notice? wire move).toList := by
  have greeting : (situation.connection wire).stage = .greeting :=
    (Server.stage_of_phase here wire).trans (if_pos own)
  have placed := (sound.connections wire).placed
  have made := placed.made (by rw [greeting]; nofun)
  have unserved : situation.server.worker? wire = none := placed.greeted greeting
  have turn := (turns_after sound move).turn wire
  have still := named.append (sound.not_given
    (fun other registering => nomatch here.symm.trans registering) move)
  cases sound.steers move with
  | steps listener phase delivery admits =>
      obtain rfl := Option.some.inj ((phase_of_at admits.at).symm.trans here)
      have told : situation.notice? wire (.step (.acceptor (port listener)) delivery) =
          some (.joined (situation.server.farAddress wire) id situation.server.onNewPeer) := by
        rw [notice?, Server.notice?, admits.alive, ← own]
        exact if_pos rfl
      have introduced : Introduced
          ((situation.after (.step (.acceptor (port listener)) delivery)).server.farAddress wire)
          id [.joined (situation.server.farAddress wire) id situation.server.onNewPeer] := by
        rw [farAddress_after made]
        exact .first _ id _
      rw [told]
      rcases admits.phase_after delivery with ended | ⟨_, next, there, advance⟩
      · have absent : ((situation.after
            (.step (.acceptor (port listener)) delivery)).connection wire).stage = .absent :=
          (Server.stage_eq _ wire).trans (by rw [ended]; rfl)
        refine .met id still ?_ ?_ introduced
        · exact turn.beyond_of_greeting placed greeting (by rw [absent]; nofun)
        · intro worker alive
          cases (turn.recruited unserved alive).2.1.symm.trans absent
      · cases advance
        exact .greeted id still admission own there introduced
  | spares _ other same =>
      have quiet : situation.notice? wire move = none := by
        cases told : situation.notice? wire move with
        | none => rfl
        | some notice =>
            cases tells_of_notice told with
            | greeting port acceptor _ _ delivery here => cases (other _ _ rfl).symm.trans here
            | announcing worker chunk delivery alive => cases unserved.symm.trans alive
      rw [quiet]
      exact .awaited id still admission own (same.trans here) rfl
  | begins _ _ nobody => cases nobody.symm.trans here

/-- After the greeting its worker is started for a peer, or none. -/
theorem Sound.acquaintance_greeted (sound : situation.Sound) (named : Named given id wire)
    {admission : Admission} (own : admission.wire = wire)
    (here : situation.server.acceptorPhase? = some (.spawning id admission))
    (introduced : Introduced (situation.server.farAddress wire) id notices) (move : Move) :
    (situation.after move).Acquaintance wire (given ++ (situation.given? move).toList)
      (notices ++ (situation.notice? wire move).toList) := by
  have greeting : (situation.connection wire).stage = .greeting :=
    (Server.stage_of_phase here wire).trans (if_pos own)
  have placed := (sound.connections wire).placed
  have made := placed.made (by rw [greeting]; nofun)
  have unserved : situation.server.worker? wire = none := placed.greeted greeting
  have turn := (turns_after sound move).turn wire
  have still := named.append (sound.not_given
    (fun other registering => nomatch here.symm.trans registering) move)
  rw [sound.silent (fun _ _ greeting => nomatch here.symm.trans greeting) unserved move,
    Option.toList_none, List.append_nil]
  rw [← farAddress_after made move] at introduced
  cases sound.steers move with
  | steps listener phase delivery admits =>
      obtain rfl := Option.some.inj ((phase_of_at admits.at).symm.trans here)
      have moved : (situation.after
          (.step (.acceptor (port listener)) delivery)).server.stage wire ≠ .greeting := by
        rcases admits.phase_after delivery with ended | ⟨_, next, there, advance⟩
        · rw [Server.stage_eq, ended]
          nofun
        · rw [Server.stage_of_phase there]
          cases advance with
          | unserved => nofun
          | spawned =>
              dsimp only [Acceptor.Phase.stage]
              split <;> nofun
      refine .met id still (turn.beyond_of_greeting placed greeting moved) ?_ introduced
      intro worker alive
      obtain ⟨_, _, same, _, started, _⟩ := admits.recruits sound unserved alive
      cases same
      exact started
  | spares _ _ same => exact .greeted id still admission own (same.trans here) introduced
  | begins _ _ nobody => cases nobody.symm.trans here

/-- A worker tells of its own peer what that sent. -/
theorem Sound.acquaintance_met (sound : situation.Sound) (named : Named given id wire)
    (beyond : (situation.connection wire).Beyond)
    (mans : ∀ worker, situation.server.worker? wire = some worker → worker.id = id)
    (introduced : Introduced (situation.server.farAddress wire) id notices) (move : Move) :
    (situation.after move).Acquaintance wire (given ++ (situation.given? move).toList)
      (notices ++ (situation.notice? wire move).toList) := by
  have turn := (turns_after sound move).turn wire
  have still := named.append (sound.not_given (fun other registering own => beyond.prepared
    ((Server.stage_of_phase registering wire).trans (if_pos own))) move)
  refine .met id still (turn.stays_beyond beyond) ?_ ?_
  · intro after alive
    cases before : situation.server.worker? wire with
    | none => cases (turn.stays_unserved beyond.greeted before).symm.trans alive
    | some worker =>
        rw [turn.same_worker (sound.connections wire).placed before alive]
        exact mans worker before
  · rw [farAddress_after beyond.made]
    cases told : situation.notice? wire move with
    | none =>
        rw [Option.toList_none, List.append_nil]
        exact introduced
    | some notice =>
        cases tells_of_notice told with
        | greeting port acceptor other admission delivery here phase own =>
            have greeting := sound.phase_of_acceptor here
            rw [phase] at greeting
            exact absurd ((Server.stage_of_phase greeting wire).trans (if_pos own)) beyond.greeted
        | announcing worker chunk delivery alive =>
            rw [mans worker alive]
            exact introduced.further chunk _

theorem Acquaintance.after (acquaintance : situation.Acquaintance wire given notices)
    (sound : situation.Sound) (move : Move) :
    (situation.after move).Acquaintance wire (given ++ (situation.given? move).toList)
      (notices ++ (situation.notice? wire move).toList) := by
  cases acquaintance with
  | strange nameless silent ungreeted unserved =>
      rw [silent]
      exact sound.acquaintance_strange nameless ungreeted unserved move
  | awaited id named admission own here silent =>
      rw [silent]
      exact sound.acquaintance_awaited named own here move
  | greeted id named admission own here introduced =>
      exact sound.acquaintance_greeted named own here introduced move
  | met id named beyond mans introduced =>
      exact sound.acquaintance_met named beyond mans introduced move

/-- In every run the application gets to know each peer in that order. -/
theorem acquaintance_run (settings : Settings) (isolated : Bool) (moves : List Move)
    (wire : Nat) :
    ((initial settings isolated).run moves).Acquaintance wire
      ((initial settings isolated).numbersGiven moves)
      ((initial settings isolated).notices wire moves) := by
  induction moves using List.reverseRecOn with
  | nil => exact .strange (fun id none => nomatch none) rfl nofun rfl
  | append_singleton moves move inductionHypothesis =>
      rw [run_append, numbersGiven_snoc, notices_snoc]
      exact inductionHypothesis.after (sound_run settings isolated moves) move

end Situation
end Tcp
end Framelink
