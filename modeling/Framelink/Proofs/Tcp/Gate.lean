import Framelink.Proofs.Tcp.Faults

/-!
# Where connections arrive

Connections arrive at the listener of a server, and its acceptor takes them from there one
after the other.  Nothing but far ends that connect, the acceptor itself and a start has
anything to do with either.  Here stands everything that a step of the acceptor can come to
while the server runs: it goes on, or it ends and takes the listener with it, which happens
when an accept fails for good and when the new-peer callback panics.
-/

namespace Framelink
namespace Tcp

/-- Whether a move has to do with where connections arrive and who accepts them. -/
def Move.enters : Move → Bool
  | .connect _ _ | .step (.acceptor _) _ | .setUp => true
  | _ => false

namespace Server

/-- Where connections arrive, and who accepts them. -/
def gate (server : Server) : List Listener × List Acceptor :=
  (server.network.listeners, server.service.acceptors)

theorem gate_forsake (server : Server) (wire : Nat) : (server.forsake wire).gate = server.gate := by
  rw [forsake]
  split <;> rfl

theorem gate_steady {server : Server} {network : Network}
    (steady : server.network.Steady network) : (server.withNetwork network).gate = server.gate :=
  congrArg (Prod.mk · server.service.acceptors) steady.listeners

theorem gate_receive (server : Server) (worker : Worker) :
    (server.receive worker).gate = server.gate := by
  rw [receive]
  split <;> rfl

theorem WorkerStep.gate {delivery : Delivery} {server later : Server} {worker : Worker}
    (step : WorkerStep delivery server worker later) : later.gate = server.gate := by
  cases step with
  | struck _ _ _ struck => exact gate_steady (Network.Tried.of_consult struck).steady
  | received _ _ spared =>
      exact (gate_receive _ worker).trans (gate_steady (Network.Tried.of_consult spared).steady)
  | paused _ _ spared => exact gate_steady (Network.Tried.of_consult spared).steady
  | resumed => exact server.gate_receive worker
  | _ => rfl

end Server

namespace Situation

variable {situation : Situation} {listener : Listener} {phase : Acceptor.Phase}

theorem Leads.gate {move : Move} {later : Situation} (leads : situation.Leads move later)
    (elsewhere : move.enters = false) : later.server.gate = situation.server.gate := by
  cases leads with
  | connected | setUpFailed | setUpMade => cases elsewhere
  | stepped thread delivery =>
      have stepped := situation.server.threadStep delivery thread
      change (situation.server.step (.answering delivery) thread).gate = _
      generalize situation.server.step (.answering delivery) thread = server at stepped ⊢
      cases stepped with
      | noAcceptor | noWorker => rfl
      | acceptor => cases elsewhere
      | worker _ _ _ _ step => exact step.gate
  | transmitted _ _ _ sends | broadcast _ _ sends =>
      exact congrArg (Prod.mk · situation.server.service.acceptors) sends.alike.listeners
  | kept wire => exact Server.gate_forsake (situation.server.detach wire) wire
  | _ => rfl

/-- All other moves leave alone where connections arrive, and who accepts them. -/
theorem gate_after (situation : Situation) {move : Move} (elsewhere : move.enters = false) :
    (situation.after move).server.gate = situation.server.gate :=
  (situation.leads_after move).gate elsewhere

/-- Nobody but an acceptor moves it on; a start lets one begin where there is none. -/
theorem acceptors_after (sound : situation.Sound) {move : Move}
    (other : ∀ port delivery, move ≠ .step (.acceptor port) delivery) :
    (situation.after move).server.service.acceptors = situation.server.service.acceptors ∨
      situation.server.service.acceptors = [] ∧
        ∃ port, (situation.after move).server.service.acceptors = [⟨port, .looking⟩] := by
  cases enters : move.enters with
  | false => exact Or.inl (congrArg Prod.snd (situation.gate_after enters))
  | true =>
      have leads := situation.leads_after move
      generalize situation.after move = later at leads ⊢
      cases leads with
      | nothing | connected | setUpFailed => exact Or.inl rfl
      | stepped thread delivery =>
          cases thread with
          | acceptor port => exact absurd rfl (other port delivery)
          | worker index => cases enters
      | setUpMade starting address network =>
          obtain ⟨_, nobody⟩ := sound.starting starting
          refine Or.inr ⟨nobody, address.port, ?_⟩
          have listed : ((situation.server.withNetwork network).admitAt address).service.acceptors =
              situation.server.service.acceptors ++ [⟨address.port, .looking⟩] := rfl
          exact listed.trans (by rw [nobody, List.nil_append])
      | _ => cases enters

/-- Nobody but an acceptor brings a connection on from where it stands with it. -/
theorem stage_after (sound : situation.Sound) {move : Move}
    (other : ∀ port delivery, move ≠ .step (.acceptor port) delivery) (wire : Nat) :
    (situation.after move).server.stage wire = situation.server.stage wire := by
  rw [Server.stage, Server.stage]
  rcases acceptors_after sound other with same | ⟨nobody, port, one⟩
  · rw [same]
  · rw [nobody, one]
    rfl

/-- A connection gets to another stage at the steps of the acceptor only. -/
theorem Sound.admits_of_stage (sound : situation.Sound) {move : Move} {wire : Nat}
    (changed : (situation.after move).server.stage wire ≠ situation.server.stage wire) :
    ∃ listener phase delivery, situation.Admits listener phase ∧
      move = .step (.acceptor (port listener)) delivery := by
  have accepts : ∃ port delivery, move = .step (.acceptor port) delivery :=
    Classical.byContradiction fun other =>
      changed (stage_after sound (fun port delivery same => other ⟨port, delivery, same⟩) wire)
  obtain ⟨at', delivery, rfl⟩ := accepts
  cases manned : situation.server.acceptor? at' with
  | none =>
      have same : situation.after (.step (.acceptor at') delivery) = situation :=
        step_of_no_acceptor manned delivery
      exact absurd (congrArg (fun situation => situation.server.stage wire) same) changed
  | some acceptor =>
      obtain ⟨listener, phase, admits, rfl, rfl⟩ := sound.admits manned
      exact ⟨listener, phase, delivery, admits, rfl⟩

/-! ## Steps of the acceptor -/

/-- Whether a move ends the acceptor although the server runs: an accept fails for good, or
the new-peer callback panics. -/
def shuts (situation : Situation) : Move → Bool
  | .step (.acceptor port) delivery =>
      match (situation.server.acceptor? port).map Acceptor.phase with
      | some .accepting =>
          ((situation.server.network.consult .accept).1.map fun fault =>
            !Server.isRetried fault.failure).getD false
      | some (.greeting _ _) => delivery == .panicked
      | _ => false
  | _ => false

/-- How an acceptor gets from one phase to the next, and what becomes of its listener. -/
inductive Advance (server : Server) (listener : Listener) :
    Acceptor.Phase → Listener → Acceptor.Phase → Prop
  | looked : Advance server listener .looking listener .accepting
  | retried (fault : Fault) (struck : (server.network.consult .accept).1 = some fault) :
      Advance server listener .accepting listener .looking
  | idle (empty : listener.waiting = []) : Advance server listener .accepting listener .looking
  | took (wire : Nat) (rest : List Nat) (waiting : listener.waiting = wire :: rest) :
      Advance server listener .accepting { listener with waiting := rest }
        (.configuring (server.admission wire))
  | refused (admission : Admission)
      (failed : (server.network.attemptAll (Server.setUpCalls admission)).1 ≠ .ok ()) :
      Advance server listener (.configuring admission) listener .looking
  | configured (admission : Admission) :
      Advance server listener (.configuring admission) listener (.registering admission)
  | registered (id : UInt64) (admission : Admission) :
      Advance server listener (.registering admission) listener (.greeting id admission)
  | greeted (id : UInt64) (admission : Admission) :
      Advance server listener (.greeting id admission) listener (.spawning id admission)
  | unserved (id : UInt64) (admission : Admission) :
      Advance server listener (.spawning id admission) listener .looking
  | spawned (id : UInt64) (admission : Admission) :
      Advance server listener (.spawning id admission) listener (.storing admission.wire)
  | stored (wire : Nat) : Advance server listener (.storing wire) listener .looking

/-- The acceptor of a server is in a phase, and its listener is there. -/
def At (server : Server) (listener : Listener) (phase : Acceptor.Phase) : Prop :=
  server.gate = ([listener], [⟨port listener, phase⟩])

theorem Admits.at (admits : situation.Admits listener phase) : At situation.server listener phase :=
  Prod.ext admits.listeners admits.acceptors

theorem at_steady {server : Server} (here : At server listener phase) {network : Network}
    (steady : server.network.Steady network) : At (server.withNetwork network) listener phase :=
  (Server.gate_steady steady).trans here

theorem at_moveAcceptor {server : Server} (here : At server listener phase)
    (later : Acceptor.Phase) :
    At (server.moveAcceptor (port listener) later) listener later := by
  obtain ⟨listeners, acceptors⟩ := Prod.mk.inj here
  refine Prod.ext listeners ?_
  dsimp only [Server.gate, Server.moveAcceptor]
  rw [acceptors, List.map_cons, List.map_nil, if_pos (beq_self_eq_true _)]

theorem gate_endAcceptor {server : Server} (here : At server listener phase) :
    (server.endAcceptor (port listener)).gate = ([], []) := by
  obtain ⟨listeners, acceptors⟩ := Prod.mk.inj here
  refine Prod.ext ?_ ?_
  · dsimp only [Server.gate, Server.endAcceptor, Server.network, Network.removeListener]
    rw [show server.service.network.listeners = [listener] from listeners]
    simp [port]
  · dsimp only [Server.gate, Server.endAcceptor]
    rw [acceptors]
    simp

theorem Admits.shuts_eq (admits : situation.Admits listener phase) (delivery : Delivery) :
    situation.shuts (.step (.acceptor (port listener)) delivery) =
      match phase with
      | .accepting =>
          ((situation.server.network.consult .accept).1.map fun fault =>
            !Server.isRetried fault.failure).getD false
      | .greeting _ _ => delivery == .panicked
      | _ => false := by
  rw [shuts, admits.alive, Option.map_some]
  cases phase <;> rfl

/-- A connection that is registered gets the next number. -/
theorem Admits.at_register {admission : Admission}
    (admits : situation.Admits listener (.registering admission)) :
    At (situation.server.register (port listener) admission) listener
      (.greeting situation.server.service.nextId admission) := by
  rw [register_eq]
  refine at_moveAcceptor (show At _ listener (.registering admission) from ?_) _
  split
  · exact (Server.gate_forsake _ _).trans admits.at
  · exact admits.at

/-- What comes of a step of an acceptor that does not come to see that the server stopped. -/
theorem Admits.of_step (admits : situation.Admits listener phase)
    (awake : phase = .looking → situation.server.running = true) {delivery : Delivery}
    {later : Server}
    (step : Server.AcceptorStep delivery situation.server ⟨port listener, phase⟩ later) :
    situation.shuts (.step (.acceptor (port listener)) delivery) = true ∧ later.gate = ([], []) ∨
      situation.shuts (.step (.acceptor (port listener)) delivery) = false ∧
        ∃ after next, At later after next ∧ Advance situation.server listener phase after next := by
  have here := admits.at
  rw [admits.shuts_eq delivery]
  cases step with
  | looked now =>
      obtain rfl : phase = .looking := now
      exact Or.inr ⟨rfl, listener, _, at_moveAcceptor here _, .looked⟩
  | ended now down =>
      obtain rfl : phase = .looking := now
      cases down.symm.trans (awake rfl)
  | retried now fault _ struck passes =>
      obtain rfl : phase = .accepting := now
      have still := at_steady here (Network.Tried.of_consult struck).steady
      refine Or.inr ⟨?_, listener, _, at_moveAcceptor still _,
        .retried fault (congrArg Prod.fst struck)⟩
      simp [struck, passes]
  | gaveUp now _ _ struck lasts =>
      obtain rfl : phase = .accepting := now
      refine Or.inl ⟨?_, gate_endAcceptor
        (at_steady here (Network.Tried.of_consult struck).steady)⟩
      simp [struck, lasts]
  | took now network _ _ spared taken =>
      obtain rfl : phase = .accepting := now
      have steady := (Network.Tried.of_consult spared).steady
      obtain ⟨rest, waiting, rfl⟩ :=
        of_takeWaiting (steady.listeners.trans admits.listeners) taken
      have shorter : At (situation.server.withNetwork
          { network with listeners := [{ listener with waiting := rest }] })
          { listener with waiting := rest } .accepting := Prod.ext rfl admits.acceptors
      refine Or.inr ⟨?_, { listener with waiting := rest }, _, at_moveAcceptor shorter _,
        .took _ rest waiting⟩
      simp [spared]
  | idled now _ spared nobody =>
      obtain rfl : phase = .accepting := now
      have steady := (Network.Tried.of_consult spared).steady
      have empty := nobody_waits (steady.listeners.trans admits.listeners) nobody
      refine Or.inr ⟨?_, listener, _, at_moveAcceptor (at_steady here steady) _, .idle empty⟩
      simp [spared]
  | configured admission now _ made =>
      obtain rfl : phase = .configuring admission := now
      have still := at_steady here (Network.Tried.of_attemptAll made).steady
      exact Or.inr ⟨rfl, listener, _, at_moveAcceptor still _, .configured admission⟩
  | refused admission now _ _ failed =>
      obtain rfl : phase = .configuring admission := now
      have still := at_steady here (Network.Tried.of_attemptAll failed).steady
      refine Or.inr ⟨rfl, listener, _, at_moveAcceptor still _, .refused admission ?_⟩
      rw [failed]
      rintro ⟨⟩
  | registered admission now =>
      obtain rfl : phase = .registering admission := now
      exact Or.inr ⟨rfl, listener, _, admits.at_register, .registered _ admission⟩
  | greeted id admission now returns =>
      obtain rfl : phase = .greeting id admission := now
      exact Or.inr ⟨beq_false_of_ne returns, listener, _, at_moveAcceptor here _,
        .greeted id admission⟩
  | startled id admission now panics | deserted id admission now panics =>
      obtain rfl : phase = .greeting id admission := now
      exact Or.inl ⟨beq_iff_eq.2 panics, gate_endAcceptor here⟩
  | unserved id admission now _ _ failed =>
      obtain rfl : phase = .spawning id admission := now
      have still := at_steady here (Network.Tried.of_attempt failed).steady
      exact Or.inr ⟨rfl, listener, _, at_moveAcceptor still _, .unserved id admission⟩
  | spawned id admission now _ made =>
      obtain rfl : phase = .spawning id admission := now
      have still := at_steady here (Network.Tried.of_attempt made).steady
      exact Or.inr ⟨rfl, listener, _, at_moveAcceptor still _, .spawned id admission⟩
  | stored wire now =>
      obtain rfl : phase = .storing wire := now
      exact Or.inr ⟨rfl, listener, _, at_moveAcceptor here _, .stored wire⟩

/-- An acceptor that does not come to see that the server stopped goes on or ends, and what
ends it is known. -/
theorem Admits.stepped (admits : situation.Admits listener phase)
    (awake : phase = .looking → situation.server.running = true) (delivery : Delivery) :
    let later := situation.server.stepAcceptor (.answering delivery) ⟨port listener, phase⟩
    let shut := situation.shuts (.step (.acceptor (port listener)) delivery)
    (shut = true → later.gate = ([], [])) ∧
      (shut = false → ∃ after next, At later after next ∧
        Advance situation.server listener phase after next) := by
  intro later shut
  rcases admits.of_step awake (situation.server.acceptorStep delivery ⟨port listener, phase⟩) with
    ⟨shuts, ends⟩ | ⟨goesOn, goes⟩
  · exact ⟨fun _ => ends, fun same => absurd (same.symm.trans shuts) Bool.false_ne_true⟩
  · exact ⟨fun same => absurd (goesOn.symm.trans same) Bool.false_ne_true, fun _ => goes⟩

/-- At each of its steps an acceptor goes on, or it ends and takes its listener with it. -/
theorem Admits.goes_or_ends (admits : situation.Admits listener phase) (delivery : Delivery) :
    let later := situation.server.stepAcceptor (.answering delivery) ⟨port listener, phase⟩
    later.gate = ([], []) ∨ ∃ after next, At later after next ∧
      Advance situation.server listener phase after next := by
  intro later
  by_cases awake : phase = .looking → situation.server.running = true
  · obtain ⟨ends, goes⟩ := admits.stepped awake delivery
    cases shut : situation.shuts (.step (.acceptor (port listener)) delivery) with
    | true => exact Or.inl (ends shut)
    | false => exact Or.inr (goes shut)
  · obtain ⟨rfl, down⟩ := Classical.not_imp.1 awake
    have ended : later = situation.server.endAcceptor (port listener) := if_neg down
    exact Or.inl (ended ▸ gate_endAcceptor admits.at)

end Situation
end Tcp
end Framelink
