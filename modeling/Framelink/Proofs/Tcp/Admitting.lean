import Framelink.Proofs.Tcp.Gate
import Framelink.Proofs.Tcp.Keeping
import Framelink.Proofs.Tcp.Life
import Mathlib.Data.List.Infix

/-!
# How long a server admits connections

From the end of a start that succeeded, and as long as the server goes on running, its
acceptor is there until an accept fails for good or the new-peer callback panics.  Up to then
every connection to the address of the server is tracked after so many steps of the acceptor,
whatever accepts fail and are made again.  From then on nobody can connect, although the
server still runs.
-/

namespace Framelink
namespace Tcp

/-- Whether a move is a step of a thread. -/
def Move.drives (thread : Thread) : Move → Bool
  | .step other _ => other == thread
  | _ => false

/-- The steps of an acceptor until it accepts the next connection. -/
def Acceptor.Phase.untilAccept : Acceptor.Phase → Nat
  | .accepting => 0
  | .looking => 1
  | .storing _ => 2
  | .spawning _ _ => 3
  | .greeting _ _ => 4
  | .registering _ => 5
  | .configuring _ => 6

/-- The calls that set up a connection that was accepted. -/
def Server.admissionCalls : List SystemCall := [.control, .setOption, .duplicate]

theorem Server.setUpCalls_subset (admission : Admission) :
    setUpCalls admission ⊆ admissionCalls := by
  intro call
  cases quickAck : admission.quickAck <;> simp +contextual [setUpCalls, admissionCalls, quickAck]

namespace Situation

open Fault

variable {situation : Situation} {address : SocketAddress} {listener : Listener}
  {phase : Acceptor.Phase} {wire : Nat}

/-! ## A server that goes on running -/

/-- No call starts or stops the server, which runs and is bound to an address. -/
structure Up (situation : Situation) (address : SocketAddress) : Prop where
  idle : situation.control = .idle
  running : situation.server.running = true
  bound : situation.server.localAddress = some address

/-- A server that goes on running is still bound to its address. -/
theorem Up.after (up : situation.Up address) {move : Move}
    (running : (situation.after move).server.running = true) :
    (situation.after move).Up address := by
  obtain ⟨idle, runs, bound⟩ := up
  cases kind : move.kind with
  | service =>
      cases move with
      | step thread delivery =>
          obtain ⟨control, _, standing⟩ := situation.standing_step thread delivery
          exact ⟨control.trans idle, running, (congrArg Prod.snd standing).trans bound⟩
      | _ => cases kind
  | governing =>
      have leads := situation.leads_after move
      generalize situation.after move = later at leads running ⊢
      cases leads with
      | nothing => exact ⟨idle, runs, bound⟩
      | startRefused => exact ⟨rfl, runs, bound⟩
      | startBegun _ down | stopNeedless _ down => cases down.symm.trans runs
      | stopBegun => cases running
      | setUpFailed control | setUpMade control | listed control | collected _ _ control
      | gathered control | searched control | drained control | closed control =>
          cases idle.symm.trans control
      | _ => cases kind
  | other =>
      have same := life_after situation move kind
      have control := congrArg Prod.fst same
      have local' := congrArg (fun life => life.2.2.1.2) same
      exact ⟨control.trans idle, running, local'.trans bound⟩

/-- The server runs, and its acceptor is there. -/
structure Attended (situation : Situation) (address : SocketAddress) (listener : Listener)
    (phase : Acceptor.Phase) : Prop extends situation.Up address where
  here : listener.address = address
  gate : At situation.server listener phase

/-- The server runs, and nobody admits connections any more. -/
structure Deserted (situation : Situation) (address : SocketAddress) : Prop
    extends situation.Up address where
  gate : situation.server.gate = ([], [])

theorem Sound.admits_of_at (sound : situation.Sound) (gate : At situation.server listener phase) :
    situation.Admits listener phase := by
  obtain ⟨listeners, acceptors⟩ := Prod.mk.inj gate
  refine ⟨listeners, acceptors, ?_⟩
  cases sound.ordered.door with
  | shut none nobody => cases nobody.symm.trans acceptors
  | ajar other phase one only backlog =>
      have same : [other] = [listener] := one.symm.trans listeners
      cases same
      exact backlog

/-! ## One move -/

/-- What a move does to an acceptor and its listener, unless it ends them. -/
inductive Follows (situation : Situation) (listener : Listener) (phase : Acceptor.Phase) :
    Move → Listener → Acceptor.Phase → Prop
  | elsewhere (move : Move) (other : move.drives (.acceptor (port listener)) = false) :
      Follows situation listener phase move listener phase
  | joined (address : SocketAddress) (reachable : situation.server.network.isolated = false) :
      Follows situation listener phase (.connect (port listener) address)
        { listener with waiting := listener.waiting ++ [situation.server.network.wires.length] }
        phase
  | stepped (delivery : Delivery) (after : Listener) (next : Acceptor.Phase)
      (advance : Advance situation.server listener phase after next) :
      Follows situation listener phase (.step (.acceptor (port listener)) delivery) after next

theorem Advance.address_eq {server : Server} {after : Listener} {next : Acceptor.Phase}
    (advance : Advance server listener phase after next) : after.address = listener.address := by
  cases advance <;> rfl

/-- A far end that connects to the listener waits there behind all others. -/
theorem at_connect (gate : At situation.server listener phase)
    (reachable : situation.server.network.isolated = false) (address : SocketAddress) :
    At (situation.after (.connect (port listener) address)).server
      { listener with waiting := listener.waiting ++ [situation.server.network.wires.length] }
      phase := by
  obtain ⟨listeners, acceptors⟩ := Prod.mk.inj gate
  have found : situation.server.network.listener? (port listener) = some listener := by
    rw [Network.listener?, listeners]
    simp
  have connected : situation.after (.connect (port listener) address) =
      situation.disturb fun network => (network.establish (port listener) address).2 := by
    dsimp only [after, connect]
    rw [reachable, found]
    rfl
  rw [connected]
  exact Prod.ext (listeners_establish listeners address) acceptors

/-- Where nobody listens nobody can connect. -/
theorem connect_refused (situation : Situation) {port : UInt16}
    (nobody : situation.server.network.listener? port = none) (address : SocketAddress) :
    situation.after (.connect port address) = situation := by
  dsimp only [after, connect]
  rw [nobody, Option.isNone_none, Bool.or_true, if_pos rfl]

/-- A far end that connects elsewhere is refused. -/
theorem connect_elsewhere (gate : At situation.server listener phase) {at' : UInt16}
    (other : at' ≠ port listener) (address : SocketAddress) :
    situation.after (.connect at' address) = situation := by
  refine situation.connect_refused ?_ address
  rw [Network.listener?, (Prod.mk.inj gate).1]
  simp [Ne.symm other]

theorem Deserted.refuses (deserted : situation.Deserted address) (at' : UInt16)
    (visitor : SocketAddress) : situation.after (.connect at' visitor) = situation := by
  refine situation.connect_refused ?_ visitor
  have listeners : situation.server.network.listeners = [] := congrArg Prod.fst deserted.gate
  rw [Network.listener?, listeners]
  rfl

/-- While the server goes on running, each move lets its acceptor be, or ends it. -/
theorem Attended.after (attended : situation.Attended address listener phase)
    (sound : situation.Sound) {move : Move}
    (running : (situation.after move).server.running = true) :
    (situation.shuts move = true → (situation.after move).Deserted address) ∧
      (situation.shuts move = false → ∃ after next,
        (situation.after move).Attended address after next ∧
          situation.Follows listener phase move after next) := by
  obtain ⟨up, here, gate⟩ := attended
  have later := up.after running
  have stays (other : move.drives (.acceptor (port listener)) = false)
      (same : (situation.after move).server.gate = situation.server.gate)
      (unshut : situation.shuts move = false) :
      (situation.shuts move = true → (situation.after move).Deserted address) ∧
        (situation.shuts move = false → ∃ after next,
          (situation.after move).Attended address after next ∧
            situation.Follows listener phase move after next) :=
    ⟨fun shuts => (nomatch unshut.symm.trans shuts),
      fun _ => ⟨listener, phase, ⟨later, here, same.trans gate⟩, .elsewhere move other⟩⟩
  cases enters : move.enters with
  | false =>
      have elsewhere : move.drives (.acceptor (port listener)) = false ∧
          situation.shuts move = false := by
        cases move with
        | step thread delivery =>
            cases thread with
            | acceptor at' => cases enters
            | worker index => exact ⟨rfl, rfl⟩
        | _ => exact ⟨rfl, rfl⟩
      exact stays elsewhere.1 (situation.gate_after enters) elsewhere.2
  | true =>
      cases move with
      | connect at' visitor =>
          by_cases same : at' = port listener
          · subst same
            cases isolated : situation.server.network.isolated with
            | false =>
                refine ⟨nofun, fun _ => ⟨{ listener with
                  waiting := listener.waiting ++ [situation.server.network.wires.length] }, phase,
                  ⟨later, here, at_connect gate isolated visitor⟩, .joined visitor isolated⟩⟩
            | true =>
                refine stays rfl ?_ rfl
                dsimp only [Situation.after, connect]
                rw [isolated]
                rfl
          · refine stays rfl ?_ rfl
            rw [connect_elsewhere gate same]
      | step thread delivery =>
          cases thread with
          | worker index => cases enters
          | acceptor at' =>
              by_cases same : at' = port listener
              · subst same
                have admits := sound.admits_of_at gate
                have stepped := admits.server_after delivery
                obtain ⟨ends, goes⟩ := admits.stepped (fun _ => up.running) delivery
                rw [← stepped] at ends goes
                refine ⟨fun shuts => ⟨later, ends shuts⟩, fun unshut => ?_⟩
                obtain ⟨after, next, still, advance⟩ := goes unshut
                exact ⟨after, next, ⟨later, advance.address_eq.trans here, still⟩,
                  .stepped delivery after next advance⟩
              · have gone : situation.server.acceptor? at' = none := by
                  rw [Server.acceptor?, (Prod.mk.inj gate).2]
                  simp [Ne.symm same]
                refine stays ?_ ?_ ?_
                · simpa [Move.drives] using same
                · exact congrArg (·.server.gate) (step_of_no_acceptor gone delivery)
                · rw [shuts, gone]
                  rfl
      | setUp =>
          refine stays rfl ?_ rfl
          dsimp only [Situation.after, governedBy, governed, Governed.setUp]
          rw [up.idle]
      | _ => cases enters

/-- Once nobody admits connections any more, nobody does as long as the server goes on
running. -/
theorem Deserted.after (deserted : situation.Deserted address) {move : Move}
    (running : (situation.after move).server.running = true) :
    (situation.after move).Deserted address := by
  obtain ⟨up, gate⟩ := deserted
  refine ⟨up.after running, ?_⟩
  cases enters : move.enters with
  | false => exact (situation.gate_after enters).trans gate
  | true =>
      cases move with
      | connect at' visitor => rw [Deserted.refuses ⟨up, gate⟩ at' visitor, gate]
      | step thread delivery =>
          cases thread with
          | worker index => cases enters
          | acceptor at' =>
              have gone : situation.server.acceptor? at' = none := by
                rw [Server.acceptor?, (Prod.mk.inj gate).2]
                rfl
              exact (congrArg (·.server.gate) (step_of_no_acceptor gone delivery)).trans gate
      | setUp =>
          dsimp only [Situation.after, governedBy, governed, Governed.setUp]
          rw [up.idle]
          exact gate
      | _ => cases enters

/-! ## A row of moves -/

/-- One of the moves ends the acceptor. -/
def Shuts (situation : Situation) (moves : List Move) : Prop :=
  ∃ early move late, moves = early ++ move :: late ∧ (situation.run early).shuts move = true

theorem shuts_cons {move : Move} {rest : List Move} :
    situation.Shuts (move :: rest) ↔
      situation.shuts move = true ∨ (situation.after move).Shuts rest := by
  constructor
  · rintro ⟨early, last, late, split, shut⟩
    cases early with
    | nil =>
        obtain ⟨rfl, rfl⟩ := List.cons.inj split
        exact Or.inl shut
    | cons first early =>
        obtain ⟨rfl, rfl⟩ := List.cons.inj split
        exact Or.inr ⟨early, last, late, rfl, shut⟩
  · rintro (shut | ⟨early, last, late, rfl, shut⟩)
    · exact ⟨[], move, rest, rfl, shut⟩
    · exact ⟨move :: early, last, late, rfl, shut⟩

theorem Deserted.run (deserted : situation.Deserted address) {moves : List Move}
    (runs : situation.Runs moves) : (situation.run moves).Deserted address := by
  induction moves generalizing situation with
  | nil => exact deserted
  | cons move rest inductionHypothesis =>
      exact inductionHypothesis (deserted.after runs.first) runs.rest

/-- As long as the server goes on running its acceptor is there, until it is ended. -/
theorem Attended.run (attended : situation.Attended address listener phase)
    (sound : situation.Sound) {moves : List Move} (runs : situation.Runs moves) :
    (situation.Shuts moves → (situation.run moves).Deserted address) ∧
      (¬ situation.Shuts moves →
        ∃ after next, (situation.run moves).Attended address after next) := by
  induction moves generalizing situation listener phase with
  | nil =>
      refine ⟨fun shuts => ?_, fun _ => ⟨listener, phase, attended⟩⟩
      obtain ⟨early, move, late, split, _⟩ := shuts
      simp at split
  | cons move rest inductionHypothesis =>
      obtain ⟨ends, goes⟩ := attended.after sound runs.first
      rw [shuts_cons]
      cases shut : situation.shuts move with
      | true =>
          exact ⟨fun _ => (ends shut).run runs.rest, fun never => absurd (Or.inl rfl) never⟩
      | false =>
          obtain ⟨after, next, still, _⟩ := goes shut
          obtain ⟨ends, goes⟩ := inductionHypothesis still (sound.after move) runs.rest
          exact ⟨fun shuts => ends (shuts.resolve_left nofun),
            fun never => goes fun later => never (Or.inr later)⟩

/-- The acceptor of a server that goes on running is gone exactly if it was ended. -/
theorem Attended.gone_iff (attended : situation.Attended address listener phase)
    (sound : situation.Sound) {moves : List Move} (runs : situation.Runs moves) :
    (situation.run moves).server.service.acceptors = [] ↔ situation.Shuts moves := by
  obtain ⟨ends, goes⟩ := attended.run sound runs
  refine ⟨fun nobody => Classical.byContradiction fun never => ?_,
    fun shuts => congrArg Prod.snd (ends shuts).gate⟩
  obtain ⟨after, next, still⟩ := goes never
  cases nobody.symm.trans (congrArg Prod.snd still.gate)

/-! ## How far a connection is from being tracked -/

/-- A connection on a wire is so many steps of the acceptor away from being tracked, not
counting accepts that are made again. -/
inductive Nears (wire : Nat) (listener : Listener) : Acceptor.Phase → Nat → Prop
  | waiting (phase : Acceptor.Phase) (ahead behind : List Nat)
      (waits : listener.waiting = ahead ++ wire :: behind) :
      Nears wire listener phase (phase.untilAccept + 7 * ahead.length + 3)
  | configuring (admission : Admission) (own : admission.wire = wire) :
      Nears wire listener (.configuring admission) 2
  | registering (admission : Admission) (own : admission.wire = wire) :
      Nears wire listener (.registering admission) 1

theorem Nears.positive {distance : Nat} (nears : Nears wire listener phase distance) :
    1 ≤ distance := by
  cases nears with
  | waiting => omega
  | configuring | registering => decide

/-- Each step of the acceptor brings a connection nearer, unless the step is an accept that is
made again; the last one tracks it. -/
theorem Advance.nears {server : Server} {after : Listener} {next : Acceptor.Phase}
    (advance : Advance server listener phase after next) {distance : Nat}
    (nears : Nears wire listener phase distance)
    (ready : ∀ admission, (server.network.attemptAll (Server.setUpCalls admission)).1 = .ok ()) :
    (∃ admission, phase = .registering admission ∧ admission.wire = wire) ∨
      (∃ shorter, Nears wire after next shorter ∧ shorter < distance) ∨
      (phase = .accepting ∧ (server.network.consult .accept).1.isSome ∧
        Nears wire after next (distance + 1)) := by
  cases nears with
  | registering admission own => exact Or.inl ⟨admission, rfl, own⟩
  | configuring admission own =>
      cases advance with
      | refused admission failed => exact absurd (ready admission) failed
      | configured admission => exact Or.inr (Or.inl ⟨1, .registering admission own, by decide⟩)
  | waiting phase ahead behind waits =>
      have nearer {next : Acceptor.Phase} (less : next.untilAccept < phase.untilAccept) :
          ∃ shorter, Nears wire listener next shorter ∧
            shorter < phase.untilAccept + 7 * ahead.length + 3 :=
        ⟨_, .waiting next ahead behind waits, by omega⟩
      cases advance with
      | retried fault struck =>
          refine Or.inr (Or.inr ⟨rfl, by rw [struck]; rfl, ?_⟩)
          have again := Nears.waiting .looking ahead behind waits
          have more : Acceptor.Phase.untilAccept .looking + 7 * ahead.length + 3 =
              Acceptor.Phase.untilAccept .accepting + 7 * ahead.length + 3 + 1 := by
            simp only [Acceptor.Phase.untilAccept]
            omega
          exact more ▸ again
      | idle empty => simp [empty] at waits
      | took first rest waiting =>
          rw [waiting] at waits
          cases ahead with
          | nil =>
              obtain ⟨rfl, rfl⟩ := List.cons.inj waits
              refine Or.inr (Or.inl ⟨2, .configuring _ rfl, ?_⟩)
              exact Nat.lt_of_lt_of_le (by decide) (Nat.le_add_left 3 _)
          | cons other ahead =>
              obtain ⟨rfl, rfl⟩ := List.cons.inj waits
              refine Or.inr (Or.inl ⟨_, .waiting _ ahead behind rfl, ?_⟩)
              simp only [Acceptor.Phase.untilAccept, List.length_cons]
              omega
      | looked | refused | configured | registered | greeted | unserved | spawned | stored =>
          exact Or.inr (Or.inl (nearer (by simp [Acceptor.Phase.untilAccept])))

/-- A move that leaves the acceptor alone leaves a connection as near as it is. -/
theorem Follows.nears {move : Move} {after : Listener} {next : Acceptor.Phase}
    (follows : situation.Follows listener phase move after next)
    (other : move.drives (.acceptor (port listener)) = false) {distance : Nat}
    (nears : Nears wire listener phase distance) : Nears wire after next distance := by
  cases follows with
  | elsewhere => exact nears
  | stepped delivery =>
      have own : Move.drives (.acceptor (port listener))
          (.step (.acceptor (port listener)) delivery) = true := beq_self_eq_true _
      cases other.symm.trans own
  | joined =>
      cases nears with
      | waiting phase ahead behind waits =>
          refine .waiting phase ahead (behind ++ [situation.server.network.wires.length]) ?_
          dsimp only
          rw [waits, List.append_assoc, List.cons_append]
      | configuring admission own => exact .configuring admission own
      | registering admission own => exact .registering admission own

/-! ## Connections get tracked -/

/-- The connection on a wire is tracked, and open. -/
def Tracks (situation : Situation) (wire : Nat) : Prop :=
  ∃ id peer, situation.server.peer? id = some peer ∧ peer.line.wire = wire ∧ peer.isOpen = true

/-- The acceptor tracks the connection that it registers. -/
theorem tracks_registered {admission : Admission}
    (gate : At situation.server listener (.registering admission)) (sound : situation.Sound)
    (delivery : Delivery) :
    (situation.after (.step (.acceptor (port listener)) delivery)).Tracks admission.wire := by
  have stepped : (situation.after (.step (.acceptor (port listener)) delivery)).server =
      situation.server.register (port listener) admission :=
    Server.step_acceptor _ _ (sound.admits_of_at gate).alive
  refine ⟨situation.server.service.nextId,
    Server.freshPeer (situation.server.farAddress admission.wire) admission.wire, ?_, rfl, rfl⟩
  rw [stepped, Framelink.Server.peer?, Server.peers_register]
  exact (PeerTable.find?_insert situation.server.peers _ _ _).trans (if_pos rfl)

/-- An accept that runs into a fault uses it up. -/
theorem fewer_troubles (gate : At situation.server listener .accepting) (sound : situation.Sound)
    (struck : (situation.server.network.consult .accept).1.isSome) (delivery : Delivery)
    (rest : List Move) :
    let move := Move.step (.acceptor (port listener)) delivery
    pending .accept ((situation.after move).troubles rest) + 1 ≤
      pending .accept (situation.troubles (move :: rest)) := by
  intro move
  obtain ⟨fault, hit⟩ := Option.isSome_iff_exists.1 struck
  have fewer : pending .accept (strike .accept situation.server.faults).2 + 1 =
      pending .accept situation.server.faults := (of_strike hit).2.2
  have none : move.faults = [] := rfl
  have stepped : (situation.after move).server = situation.server.accept (port listener) :=
    Server.step_acceptor _ _ (sound.admits_of_at gate).alive
  rw [troubles, troubles, stepped, Server.faults_accept, pending_append, pending_append,
    List.flatMap_cons, none, List.nil_append]
  omega

/-- A connection that is on its way to the acceptor is tracked after enough steps of it. -/
theorem Attended.tracks (attended : situation.Attended address listener phase)
    (sound : situation.Sound) {distance : Nat} (nears : Nears wire listener phase distance)
    {moves : List Move} (runs : situation.Runs moves) (never : ¬ situation.Shuts moves)
    (spared : ∀ fault ∈ situation.troubles moves, fault.call ∉ Server.admissionCalls)
    (enough : distance + 2 * pending .accept (situation.troubles moves) ≤
      moves.countP (Move.drives (.acceptor address.port))) :
    ∃ sooner, sooner <+: moves ∧ (situation.run sooner).Tracks wire := by
  induction moves generalizing situation listener phase distance with
  | nil =>
      have none : distance + _ ≤ 0 := enough
      have positive := nears.positive
      omega
  | cons move rest inductionHypothesis =>
      rw [shuts_cons, not_or, Bool.not_eq_true] at never
      obtain ⟨unshut, never⟩ := never
      obtain ⟨after, next, still, follows⟩ := (attended.after sound runs.first).2 unshut
      have worn := situation.worn_troubles move rest
      have fewer := worn.fewer .accept
      have sparedLater : ∀ fault ∈ (situation.after move).troubles rest,
          fault.core.call ∉ Server.admissionCalls :=
        @Worn.all _ _ worn (fun fault => fault.call ∉ Server.admissionCalls) spared
      have later {shorter : Nat} (nearer : Nears wire after next shorter)
          (count : shorter + 2 * pending .accept ((situation.after move).troubles rest) ≤
            rest.countP (Move.drives (.acceptor address.port))) :
          ∃ sooner, sooner <+: move :: rest ∧ (situation.run sooner).Tracks wire := by
        obtain ⟨sooner, within, tracks⟩ := inductionHypothesis still (sound.after move) nearer
          runs.rest never sparedLater count
        exact ⟨move :: sooner, List.cons_prefix_cons.2 ⟨rfl, within⟩, tracks⟩
      have same : port listener = address.port := congrArg SocketAddress.port attended.here
      cases drives : move.drives (.acceptor (port listener)) with
      | false =>
          rw [same] at drives
          rw [List.countP_cons_of_neg (by simp [drives])] at enough
          refine later (follows.nears (same ▸ drives) nears) ?_
          omega
      | true =>
          have counted : (move :: rest).countP (Move.drives (.acceptor address.port)) =
              rest.countP (Move.drives (.acceptor address.port)) + 1 :=
            List.countP_cons_of_pos (same ▸ drives)
          rw [counted] at enough
          cases follows with
          | elsewhere _ other => cases other.symm.trans drives
          | joined => cases drives
          | stepped delivery after next advance =>
              have ready (admission : Admission) :
                  (situation.server.network.attemptAll (Server.setUpCalls admission)).1 =
                    .ok () := by
                rw [Network.attemptAll_of_spared]
                intro fault waits listed
                exact spared fault (List.mem_append_left _ waits)
                  (Server.setUpCalls_subset admission listed)
              rcases advance.nears nears ready with
                ⟨admission, rfl, rfl⟩ | ⟨shorter, nearer, less⟩ | ⟨rfl, struck, again⟩
              · exact ⟨[_], List.cons_prefix_cons.2 ⟨rfl, List.nil_prefix⟩,
                  tracks_registered attended.gate sound delivery⟩
              · exact later nearer (by omega)
              · have used := fewer_troubles attended.gate sound struck delivery rest
                exact later again (by omega)

/-! ## From a start to the next stop -/

/-- A start that succeeds leaves an acceptor at the address that the server is bound to. -/
theorem Sound.attended (sound : situation.Sound) (control : situation.control = .starting)
    (running : (situation.after .setUp).server.running = true) :
    ∃ address listener phase, (situation.after .setUp).Attended address listener phase := by
  obtain ⟨listeners, acceptors⟩ := sound.starting control
  dsimp only [Situation.after, governedBy, governed, Governed.setUp] at running ⊢
  rw [control] at running ⊢
  dsimp only at running ⊢
  obtain ⟨network, tried, ⟨error, failed⟩ | ⟨address, made⟩⟩ := situation.server.listen_cases
  · rw [Framelink.Server.setUp, show Serving.listen situation.server = _ from failed] at running
    cases running
  · rw [Framelink.Server.setUp, show Serving.listen situation.server = _ from made] at running ⊢
    have bare : (situation.server.withNetwork network).network.listeners = [] :=
      tried.steady.listeners.trans listeners
    obtain ⟨opened, manned⟩ := Server.admitAt_door bare acceptors address
    exact ⟨address, ⟨address, true, []⟩, .looking, ⟨rfl, running, rfl⟩, rfl,
      Prod.ext opened manned⟩

/-- From the end of a start, and as long as the server goes on running, nobody admits
connections exactly if the acceptor was ended, and then nobody can connect.  Otherwise every
connection to the address of the server is tracked after so many steps of the acceptor, given
that it goes on being there and that no call fails that sets the connection up. -/
theorem server_admits_until_acceptor_ends (settings : Settings) (isolated : Bool)
    (early late : List Move)
    (begun : ((initial settings isolated).run early).control = .starting)
    (runs : (((initial settings isolated).run early).after .setUp).Runs late) :
    let started := ((initial settings isolated).run early).after .setUp
    let situation := started.run late
    (situation.server.service.acceptors = [] ↔ started.Shuts late) ∧
      (situation.server.service.acceptors = [] →
        ∀ at' visitor, situation.after (.connect at' visitor) = situation) ∧
      (situation.server.service.acceptors ≠ [] → ∃ listener phase,
        At situation.server listener phase ∧
          situation.server.localAddress = some listener.address ∧
          (situation.server.network.isolated = false → ∀ visitor more,
            let visited := situation.after (.connect (port listener) visitor)
            visited.Runs more → (visited.run more).server.service.acceptors ≠ [] →
            (∀ fault ∈ visited.troubles more, fault.call ∉ Server.admissionCalls) →
            phase.untilAccept + 7 * listener.waiting.length + 3 +
                2 * pending .accept (visited.troubles more) ≤
              more.countP (Move.drives (.acceptor (port listener))) →
            ∃ sooner, sooner <+: more ∧
              (visited.run sooner).Tracks situation.server.network.wires.length)) := by
  intro started situation
  have before : ((initial settings isolated).run early).Sound := sound_run settings isolated early
  have sound : started.Sound := before.after .setUp
  have soundNow : situation.Sound := sound.run late
  obtain ⟨address, listener, phase, attended⟩ := before.attended begun (runs [] List.nil_prefix)
  have gone := attended.gone_iff sound runs
  obtain ⟨ends, goes⟩ := attended.run sound runs
  refine ⟨gone, fun nobody => (ends (gone.1 nobody)).refuses, fun somebody => ?_⟩
  obtain ⟨listener, phase, now⟩ := goes fun shuts => somebody (gone.2 shuts)
  have same : listener.address = address := now.here
  subst same
  refine ⟨listener, phase, now.gate, now.bound, ?_⟩
  intro reachable visitor more visited stays alive spared enough
  have visit : visited.Attended listener.address
      { listener with waiting := listener.waiting ++ [situation.server.network.wires.length] }
      phase :=
    ⟨now.toUp.after (stays [] List.nil_prefix), rfl, at_connect now.gate reachable visitor⟩
  have soundThen : visited.Sound := soundNow.after _
  exact visit.tracks soundThen (.waiting phase listener.waiting [] rfl) stays
    (fun shuts => alive ((visit.gone_iff soundThen stays).2 shuts)) spared enough

/-- A far end. -/
def caller : SocketAddress := ⟨.loopback4, 50000, 0⟩

/-- An accept finds that its connection was aborted, and is made again. -/
def abortedAccept : List Move :=
  .hinder [⟨.accept, 0, Failure.Code.connectionAborted, none⟩] true ::
    List.replicate 2 (.step (.acceptor 40000) .unheard)

theorem server_admits_until_acceptor_ends_of_aborted_accept :
    let started := ((initial .standard false).run [.start]).after .setUp
    let visited := (started.run abortedAccept).after (.connect 40000 caller)
    let more := List.replicate 4 (Move.step (.acceptor 40000) .heard)
    started.Runs abortedAccept ∧ ∃ sooner, sooner <+: more ∧ (visited.run sooner).Tracks 0 := by
  intro started visited more
  have runs : started.Runs abortedAccept := by
    intro within before
    have all : ∀ within ∈ abortedAccept.inits, (started.run within).server.running = true := by
      decide +kernel
    exact all within ((List.mem_inits within abortedAccept).2 before)
  have stays : visited.Runs more := by
    intro within before
    have all : ∀ within ∈ more.inits, (visited.run within).server.running = true := by
      decide +kernel
    exact all within ((List.mem_inits within more).2 before)
  have gate : (started.run abortedAccept).server.gate =
      ([⟨⟨.unspecified4, 40000, 0⟩, true, []⟩], [⟨40000, .looking⟩]) := by decide +kernel
  obtain ⟨_, _, admits⟩ := server_admits_until_acceptor_ends .standard false [.start]
    abortedAccept rfl runs
  obtain ⟨listener, phase, here, _, tracks⟩ := admits fun nobody =>
    nomatch nobody.symm.trans (congrArg Prod.snd gate)
  obtain ⟨listeners, acceptors⟩ := Prod.mk.inj (here.symm.trans gate)
  obtain rfl := (List.cons.inj listeners).1
  obtain rfl := (Acceptor.mk.inj (List.cons.inj acceptors).1).2
  exact ⟨runs, tracks (by decide +kernel) caller more stays (by decide +kernel) (by decide +kernel)
    (by decide +kernel)⟩

/-- For a moment no accept gets a descriptor. -/
def exhaustedAccept : List Move :=
  [.start, .setUp, .hinder [⟨.accept, 0, Failure.Code.tooManyOpenFiles, none⟩] true] ++
    List.replicate 2 (.step (.acceptor 40000) .unheard)

/-- One accept that fails for want of descriptors ends the acceptor of a server that goes on
running, and nobody can connect any more although no fault waits. -/
theorem exhausted_accept_ends_acceptor :
    let situation := (initial .standard false).run exhaustedAccept
    situation.control = .idle ∧ situation.server.running = true ∧
      situation.server.network.faults = [] ∧ situation.server.network.isolated = false ∧
      situation.server.service.acceptors = [] ∧
      (situation.after (.connect 40000 caller)).server.network.wires = [] := by
  decide +kernel

end Situation
end Tcp
end Framelink
