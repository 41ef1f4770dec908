import Framelink.Proofs.Tcp.Turns.FarEnds

/-!
# What the acceptor does

A step of the acceptor is a turn of the connection that it is about to admit.  When
it ends, every connection that still waits for it is closed; when it gives out a
number that is still in use, the peer of that number is given up.
-/

namespace Framelink
namespace Tcp

open Connection

namespace Situation

variable {situation : Situation} {listener : Listener} {phase : Acceptor.Phase}

/-- The acceptor of a situation is in a phase, and its listener is there. -/
structure Admits (situation : Situation) (listener : Listener) (phase : Acceptor.Phase) :
    Prop where
  listeners : situation.server.network.listeners = [listener]
  acceptors : situation.server.service.acceptors = [⟨listener.address.port, phase⟩]
  backlog : listener.waiting.Nodup

/-- The port of the listener, which is that of the acceptor. -/
abbrev port (listener : Listener) : UInt16 := listener.address.port

theorem Admits.alive (admits : situation.Admits listener phase) :
    situation.server.acceptor? (port listener) = some ⟨port listener, phase⟩ := by
  unfold Server.acceptor?
  rw [admits.acceptors]
  simp

/-- A step of the acceptor does what its phase says. -/
theorem Admits.server_after (admits : situation.Admits listener phase) (delivery : Delivery) :
    (situation.after (.step (.acceptor (port listener)) delivery)).server =
      situation.server.stepAcceptor (.answering delivery) ⟨port listener, phase⟩ :=
  Server.step_acceptor _ _ admits.alive

theorem Sound.admits (sound : situation.Sound) {at' : UInt16} {acceptor : Acceptor}
    (alive : situation.server.acceptor? at' = some acceptor) :
    ∃ listener phase, situation.Admits listener phase ∧ at' = port listener ∧
      acceptor = ⟨port listener, phase⟩ := by
  cases sound.ordered.door with
  | shut listeners acceptors =>
      have none : situation.server.service.acceptors = [] := acceptors
      unfold Server.acceptor? at alive
      rw [none] at alive
      cases alive
  | ajar listener phase listeners acceptors backlog =>
      have one : situation.server.service.acceptors = [⟨port listener, phase⟩] := acceptors
      unfold Server.acceptor? at alive
      rw [one] at alive
      by_cases here : port listener = at'
      · refine ⟨listener, phase, ⟨listeners, one, backlog⟩, here.symm, ?_⟩
        simpa [here] using alive.symm
      · simp [here] at alive

theorem Admits.outline_eq (admits : situation.Admits listener phase)
    (acceptors : List Acceptor) :
    { situation.server.outline with acceptors } =
      { situation.server.outline with
        listeners := [{ listener with waiting := listener.waiting }]
        acceptors } := by
  rw [← show situation.server.outline.listeners = [listener] from admits.listeners]

/-- The server of a situation is in order with its acceptor in another phase and other
wires waiting. -/
theorem Admits.ordered (admits : situation.Admits listener phase) (sound : situation.Sound)
    {server : Server} (later : Acceptor.Phase) (waiting : List Nat)
    (outline : server.outline =
      { situation.server.outline with
        listeners := [{ listener with waiting }]
        acceptors := [⟨port listener, later⟩] })
    (backlog : waiting.Nodup) :
    server.outline.Ordered situation.control := by
  obtain ⟨_, handles, wires, admitting, starting, stopping, lodged⟩ := sound.ordered
  rw [outline]
  refine ⟨?_, handles, wires, fun _ => admitting ?_, starting, stopping, lodged⟩
  · exact .ajar _ later rfl rfl backlog
  · have one : situation.server.outline.acceptors = _ := admits.acceptors
    rw [one]
    simp

/-- The server of a situation is in order with its acceptor in another phase. -/
theorem Admits.ordered_moved (admits : situation.Admits listener phase) (sound : situation.Sound)
    {server : Server} (same : server.outline = situation.server.outline)
    (later : Acceptor.Phase) :
    (server.moveAcceptor (port listener) later).outline.Ordered situation.control := by
  have acceptors : server.service.acceptors = [⟨port listener, phase⟩] :=
    (congrArg Outline.acceptors same).trans admits.acceptors
  refine admits.ordered sound later listener.waiting ?_ admits.backlog
  rw [Server.outline_moveAcceptor acceptors, same]
  exact admits.outline_eq _

/-- The server of a situation is in order without its acceptor. -/
theorem Admits.ordered_shut (sound : situation.Sound)
    {server : Server}
    (outline : server.outline =
      { situation.server.outline with listeners := [], acceptors := [] }) :
    server.outline.Ordered situation.control := by
  obtain ⟨_, handles, wires, admitting, starting, stopping, lodged⟩ := sound.ordered
  rw [outline]
  exact ⟨.shut rfl rfl, handles, wires, fun some => absurd rfl some, starting, stopping,
    lodged⟩

/-- A step of the acceptor that keeps the server in order, and is a turn of every
connection. -/
theorem Admits.turns_step (admits : situation.Admits listener phase) {delivery : Delivery}
    {server : Server}
    (stepped : situation.server.stepAcceptor (.answering delivery) ⟨port listener, phase⟩ =
      server)
    (ordered : server.outline.Ordered situation.control)
    (turn : ∀ wire, Turn false (situation.connection wire)
      (server.connection (situation.call wire) (situation.removal? wire)
        ((situation.witness delivery (.acceptor (port listener))).record wire) wire)) :
    situation.Turns (fun _ => false) (situation.step (.acceptor (port listener)) delivery) := by
  have after : situation.step (.acceptor (port listener)) delivery =
      { situation.witness delivery (.acceptor (port listener)) with server } := by
    unfold step
    rw [Server.step_acceptor _ _ admits.alive, stepped]
  have running : server.running = situation.server.running := by
    rw [← stepped]
    exact congrArg (fun bearing => bearing.1.1) (Server.acceptorStep delivery _ _).bearing
  obtain ⟨record, _, witness⟩ := situation.witness_server delivery (.acceptor (port listener))
  rw [witness] at turn
  rw [after, witness]
  refine ⟨ordered, fun wire => ?_⟩
  have same : Situation.connection { situation with server, record } wire =
      server.connection (situation.call wire) (situation.removal? wire) (record wire) wire := by
    unfold connection call
    dsimp only
    rw [running]
    rfl
  rw [same]
  exact turn wire

theorem Admits.stage (admits : situation.Admits listener phase) (wire : Nat) :
    (situation.connection wire).stage = phase.stage wire := by
  change situation.server.stage wire = _
  unfold Server.stage
  rw [admits.acceptors]

/-- Nothing is recorded unless the acceptor is about to track a connection or has
called the new-peer callback. -/
theorem Admits.witness_silent (admits : situation.Admits listener phase) (delivery : Delivery)
    (registers : ∀ admission, phase ≠ .registering admission)
    (greets : ∀ id admission, phase = .greeting id admission → delivery ≠ .panicked) :
    situation.witness delivery (.acceptor (port listener)) = situation := by
  unfold witness
  dsimp only
  rw [admits.alive]
  cases phase with
  | registering admission => exact absurd rfl (registers admission)
  | greeting id admission => exact if_neg (greets id admission rfl)
  | looking => rfl
  | accepting => rfl
  | configuring admission => rfl
  | spawning id admission => rfl
  | storing wire => rfl

/-! ## Moving on -/

/-- A step of the acceptor that moves it on with the same connection. -/
theorem Admits.turns_moved (admits : situation.Admits listener phase) (sound : situation.Sound)
    {delivery : Delivery} {network : Network} (steady : situation.server.network.Steady network)
    (later : Acceptor.Phase) (stage : ∀ wire, later.stage wire = phase.stage wire)
    (stepped : situation.server.stepAcceptor (.answering delivery) ⟨port listener, phase⟩ =
      (situation.server.withNetwork network).moveAcceptor (port listener) later)
    (silent : situation.witness delivery (.acceptor (port listener)) = situation) :
    situation.Turns (fun _ => false) (situation.step (.acceptor (port listener)) delivery) := by
  have acceptors : (situation.server.withNetwork network).service.acceptors =
      [⟨port listener, phase⟩] := admits.acceptors
  have outline := situation.server.outline_withNetwork steady.listeners
  refine admits.turns_step stepped (admits.ordered_moved sound outline later) fun wire => ?_
  rw [silent, Server.connection_moveAcceptor _ _ _ _ acceptors,
    Server.connection_steady _ _ _ _ _ steady, stage wire, ← admits.stage wire]
  exact .rest

/-! ## Ending -/

/-- The turn of a connection that is not with the acceptor when that ends. -/
theorem turn_shut (own : Bool) {c : Connection} (placed : c.Placed) (stage : c.stage = .absent) :
    Turn own c
      { c with
        wire := if c.waits then c.wire.map Wire.closeNear else c.wire
        waits := false
        stage := .absent } := by
  cases waits : c.waits with
  | false =>
      rw [if_neg (by decide), ← waits, ← stage]
      exact .rest
  | true =>
      rw [if_pos rfl]
      cases found : c.wire with
      | none =>
          have quiet := (placed.unmade found).1
          rw [waits] at quiet
          cases quiet
      | some wire =>
          rw [Option.map_some, ← stage]
          exact .abandoned wire found waits

/-- A step of the acceptor that ends it while it has no connection. -/
theorem Admits.turns_ended (admits : situation.Admits listener phase) (sound : situation.Sound)
    {delivery : Delivery} {network : Network} (steady : situation.server.network.Steady network)
    (free : ∀ wire, phase.stage wire = .absent)
    (stepped : situation.server.stepAcceptor (.answering delivery) ⟨port listener, phase⟩ =
      (situation.server.withNetwork network).endAcceptor (port listener))
    (silent : situation.witness delivery (.acceptor (port listener)) = situation) :
    situation.Turns (fun _ => false) (situation.step (.acceptor (port listener)) delivery) := by
  have acceptors : (situation.server.withNetwork network).service.acceptors =
      [⟨port listener, phase⟩] := admits.acceptors
  have listeners : (situation.server.withNetwork network).network.listeners = [listener] :=
    steady.listeners.trans admits.listeners
  have wires : ∀ wire, network.wire? wire = situation.server.network.wire? wire := by
    intro wire
    unfold Network.wire?
    rw [steady.wires]
  refine admits.turns_step stepped ?_ fun wire => ?_
  · refine Admits.ordered_shut sound ?_
    rw [Server.outline_endAcceptor acceptors listeners rfl,
      situation.server.outline_withNetwork steady.listeners]
  · rw [silent, Server.connection_endAcceptor _ _ _ _ acceptors listeners rfl,
      Server.connection_steady _ _ _ _ _ steady]
    have turn := turn_shut false (sound.connections wire).placed
      ((admits.stage wire).trans (free wire))
    rw [show (situation.server.withNetwork network).network = network from rfl, wires wire,
      Server.waits_of_listeners wire steady.listeners]
    exact turn

/-- The acceptor has a connection that was established. -/
theorem Sound.established (sound : situation.Sound) {wire : Nat}
    (stage : (situation.connection wire).stage ≠ .absent) :
    ∃ found, (situation.connection wire).wire = some found := by
  cases found : (situation.connection wire).wire with
  | none => exact absurd ((sound.connections wire).placed.unmade found).2.1 stage
  | some established => exact ⟨established, rfl⟩

/-- A connection with the acceptor does not wait for it. -/
theorem Sound.not_waits (sound : situation.Sound) {wire : Nat}
    (stage : (situation.connection wire).stage ≠ .absent) :
    (situation.connection wire).waits = false := by
  cases waits : (situation.connection wire).waits with
  | false => rfl
  | true => exact absurd ((sound.connections wire).placed.waiting waits) stage

/-! ## Accepting -/

theorem takeWaiting_eq {network : Network} (listeners : network.listeners = [listener]) :
    network.takeWaiting (port listener) =
      match listener.waiting with
      | index :: rest =>
          (some index, { network with listeners := [{ listener with waiting := rest }] })
      | [] => (none, network) := by
  have found : network.listener? (port listener) = some listener := by
    unfold Network.listener?
    rw [listeners]
    simp
  unfold Network.takeWaiting
  rw [found, listeners]
  cases waiting : listener.waiting with
  | nil => simp [waiting]
  | cons index rest => simp [waiting]

/-- What is taken from the one listener is the first connection that waits there. -/
theorem of_takeWaiting {network later : Network} (listeners : network.listeners = [listener])
    {index : Nat} (taken : network.takeWaiting (port listener) = (some index, later)) :
    ∃ rest, listener.waiting = index :: rest ∧
      later = { network with listeners := [{ listener with waiting := rest }] } := by
  rw [takeWaiting_eq listeners] at taken
  split at taken
  · next first rest waiting =>
      cases taken
      exact ⟨rest, waiting, rfl⟩
  · cases taken

/-- Nothing is taken from the one listener when nobody waits there. -/
theorem nobody_waits {network : Network} (listeners : network.listeners = [listener])
    (nobody : (network.takeWaiting (port listener)).1 = none) : listener.waiting = [] := by
  rw [takeWaiting_eq listeners] at nobody
  split at nobody
  · cases nobody
  · next waiting => exact waiting

/-- The step that takes the first connection that waits. -/
theorem Admits.turns_taken (admits : situation.Admits listener .accepting)
    (sound : situation.Sound) {delivery : Delivery} {network : Network}
    (steady : situation.server.network.Steady network) {index : Nat} {rest : List Nat}
    (waiting : listener.waiting = index :: rest)
    (stepped : situation.server.stepAcceptor (.answering delivery) ⟨port listener, .accepting⟩ =
      (situation.server.withNetwork
        { network with listeners := [{ listener with waiting := rest }] }).moveAcceptor
          (port listener) (.configuring (situation.server.admission index)))
    (silent : situation.witness delivery (.acceptor (port listener)) = situation) :
    situation.Turns (fun _ => false) (situation.step (.acceptor (port listener)) delivery) := by
  have acceptors : (situation.server.withNetwork { network with
      listeners := [{ listener with waiting := rest }] }).service.acceptors =
        [⟨port listener, .accepting⟩] := admits.acceptors
  have backlog := admits.backlog
  rw [waiting, List.nodup_cons] at backlog
  refine admits.turns_step stepped ?_ fun wire => ?_
  · refine admits.ordered sound (.configuring (situation.server.admission index)) rest ?_ backlog.2
    rw [Server.outline_moveAcceptor acceptors]
    rfl
  · rw [silent, Server.connection_moveAcceptor _ _ _ _ acceptors, Server.connection_withNetwork]
    have found : Network.wire? { network with
        listeners := [{ listener with waiting := rest }] } wire =
          situation.server.network.wire? wire := by
      unfold Network.wire?
      rw [steady.wires]
    have before : waits situation.server.network wire = (index :: rest).contains wire := by
      unfold waits
      rw [admits.listeners, ← waiting]
      simp
    have after : waits { network with listeners := [{ listener with waiting := rest }] } wire =
        rest.contains wire := by
      unfold waits
      simp
    have stage := admits.stage wire
    rw [found, after]
    by_cases here : index = wire
    · subst here
      have gone : rest.contains index = false := by
        rw [List.contains_eq_mem, decide_eq_false backlog.1]
      have waited : (situation.connection index).waits = true := by
        refine Eq.trans before ?_
        simp
      have preparing : (Acceptor.Phase.configuring (situation.server.admission index)).stage
          index = .preparing := if_pos rfl
      rw [gone, preparing]
      exact .accepted waited
    · have other : rest.contains wire = waits situation.server.network wire := by
        rw [before, List.contains_cons]
        simp [Ne.symm here]
      have absent : (Acceptor.Phase.configuring (situation.server.admission index)).stage wire =
          (situation.connection wire).stage := (if_neg here).trans stage.symm
      rw [other, absent]
      exact .rest

/-- The step in which the acceptor drops a connection that it cannot set up. -/
theorem Admits.turns_refused {admission : Admission}
    (admits : situation.Admits listener (.configuring admission)) (sound : situation.Sound)
    {delivery : Delivery} {network : Network} (steady : situation.server.network.Steady network)
    (stepped : situation.server.stepAcceptor (.answering delivery)
      ⟨port listener, .configuring admission⟩ =
        ((situation.server.withNetwork network).dropWire admission.wire).moveAcceptor
          (port listener) .looking) :
    situation.Turns (fun _ => false) (situation.step (.acceptor (port listener)) delivery) := by
  have silent := admits.witness_silent delivery (by simp) (by simp)
  have acceptors : ((situation.server.withNetwork network).dropWire
      admission.wire).service.acceptors = [⟨port listener, .configuring admission⟩] :=
    admits.acceptors
  have outline : ((situation.server.withNetwork network).dropWire admission.wire).outline =
      situation.server.outline := situation.server.outline_withNetwork steady.listeners
  refine admits.turns_step stepped (admits.ordered_moved sound outline .looking) fun wire => ?_
  rw [silent, Server.connection_moveAcceptor _ _ _ _ acceptors, Server.connection_dropWire,
    Server.connection_steady _ _ _ _ _ steady]
  by_cases here : wire = admission.wire
  · subst here
    have preparing : (situation.connection admission.wire).stage = .preparing :=
      (admits.stage admission.wire).trans (if_pos rfl)
    obtain ⟨established, present⟩ := sound.established (by rw [preparing]; decide)
    have found : (situation.server.withNetwork network).network.wire? admission.wire =
        some established := (congrArg (·[admission.wire]?) steady.wires).trans present
    rw [if_pos rfl, found]
    exact .refused established present preparing
  · have absent : Acceptor.Phase.looking.stage wire = (situation.connection wire).stage :=
      ((admits.stage wire).trans (if_neg (Ne.symm here))).symm
    rw [if_neg here, absent]
    exact .rest

/-! ## Registering -/

/-- What registering comes to: the connection is tracked under the next number, and a
peer that had that number is given up. -/
def registered (server : Server) (admission : Admission) : Server :=
  let id := server.service.nextId
  let tracked : Server :=
    Framelink.Server.track server id
      (Server.freshPeer (server.farAddress admission.wire) admission.wire)
  { tracked with service := { tracked.service with nextId := id + 1 } }

theorem register_eq (server : Server) (at' : UInt16) (admission : Admission) :
    server.register at' admission =
      (match server.peer? server.service.nextId with
      | some old => (registered server admission).forsake old.line.wire
      | none => registered server admission).moveAcceptor at'
        (.greeting server.service.nextId admission) := rfl

theorem connection_registered {server : Server} (distinct : server.Distinct)
    {admission : Admission} (free : server.session? admission.wire = none) (call : Call)
    (removal : Option Bool) (record : Record) (wire : Nat) :
    (registered server admission).connection call removal record wire =
      if wire = admission.wire then
        { server.connection call removal record wire with
          session := some (Server.freshPeer (server.farAddress admission.wire) admission.wire) }
      else if (server.peer? server.service.nextId).map (fun old => old.line.wire) = some wire then
        { server.connection call removal record wire with session := none }
      else server.connection call removal record wire :=
  Server.connection_track call removal record wire distinct server.service.nextId _ free

/-- The server is in order after it registered a connection, whatever happened to wires. -/
theorem Admits.ordered_registered {admission : Admission}
    (admits : situation.Admits listener (.registering admission)) (sound : situation.Sound)
    (free : situation.server.session? admission.wire = none) {server : Server}
    (same : server.outline = (registered situation.server admission).outline) :
    (server.moveAcceptor (port listener)
      (.greeting situation.server.service.nextId admission)).outline.Ordered
        situation.control := by
  obtain ⟨handles, wires⟩ := (sound.ordered.distinct.track situation.server.service.nextId
    (Server.freshPeer (situation.server.farAddress admission.wire) admission.wire) free).outline
  obtain ⟨_, _, _, admitting, starting, stopping, lodged⟩ := sound.ordered
  have acceptors : server.service.acceptors = [⟨port listener, .registering admission⟩] :=
    (congrArg Outline.acceptors same).trans admits.acceptors
  have one : situation.server.outline.acceptors = [⟨port listener, .registering admission⟩] :=
    admits.acceptors
  rw [Server.outline_moveAcceptor acceptors, same]
  refine ⟨.ajar listener _ admits.listeners rfl admits.backlog, handles, wires,
    fun _ => admitting ?_, starting, stopping, lodged⟩
  rw [one]
  simp

/-- A connection that is about to be registered is not tracked. -/
theorem Admits.untracked {admission : Admission}
    (admits : situation.Admits listener (.registering admission)) (sound : situation.Sound) :
    (situation.connection admission.wire).stage = .preparing ∧
      situation.server.session? admission.wire = none := by
  have preparing : (situation.connection admission.wire).stage = .preparing :=
    (admits.stage admission.wire).trans (if_pos rfl)
  exact ⟨preparing, ((sound.connections admission.wire).placed.fresh (Or.inr preparing)).1⟩

theorem Admits.stage_registered {admission : Admission}
    (admits : situation.Admits listener (.registering admission)) (id : UInt64) (wire : Nat) :
    (Acceptor.Phase.greeting id admission).stage wire =
      if wire = admission.wire then .greeting else (situation.connection wire).stage := by
  rw [admits.stage wire]
  by_cases here : wire = admission.wire
  · rw [if_pos here]
    exact if_pos here.symm
  · rw [if_neg here]
    exact (if_neg (Ne.symm here)).trans (if_neg (Ne.symm here)).symm

/-- The step that registers a connection under a number that no peer has. -/
theorem Admits.turns_registered {admission : Admission}
    (admits : situation.Admits listener (.registering admission)) (sound : situation.Sound)
    (delivery : Delivery)
    (unused : situation.server.peer? situation.server.service.nextId = none) :
    situation.Turns (fun _ => false) (situation.step (.acceptor (port listener)) delivery) := by
  obtain ⟨preparing, free⟩ := admits.untracked sound
  have stepped := register_eq situation.server (port listener) admission
  rw [unused] at stepped
  have silent : situation.witness delivery (.acceptor (port listener)) = situation := by
    unfold witness
    dsimp only
    rw [admits.alive]
    dsimp only [Option.map_some]
    rw [unused]
  have acceptors : (registered situation.server admission).service.acceptors =
      [⟨port listener, .registering admission⟩] := admits.acceptors
  refine admits.turns_step stepped (admits.ordered_registered sound free rfl) fun wire => ?_
  rw [silent, Server.connection_moveAcceptor _ _ _ _ acceptors, admits.stage_registered,
    connection_registered sound.ordered.distinct free, unused]
  by_cases here : wire = admission.wire
  · subst here
    rw [if_pos rfl, if_pos rfl]
    exact .registered _ preparing rfl rfl
  · rw [if_neg here, if_neg here, if_neg (by simp)]
    exact .rest

/-- The turn of the connection whose peer has the number that is given out. -/
theorem Admits.turn_replaced {admission : Admission}
    (admits : situation.Admits listener (.registering admission)) (sound : situation.Sound)
    {index : Nat} (present : (situation.connection index).session.isSome = true) :
    Turn false (situation.connection index)
      { situation.connection index with
        wire := ((registered situation.server admission).forsake index).network.wire? index
        session := none
        record := { situation.record index with strayed := true } } := by
  obtain ⟨wire, found⟩ := Option.ne_none_iff_exists'.1
    ((sound.connections index).placed.made_of_session present)
  have door : (registered situation.server admission).outline.Door :=
    .ajar listener _ admits.listeners admits.acceptors admits.backlog
  obtain ⟨later, dropped, forsaken⟩ := door.forsaken found
  have occupied : situation.server.service.acceptors ≠ [] := by
    rw [admits.acceptors]
    simp
  rw [dropped]
  exact .replaced wire later (sound.ordered.serving occupied index) found present forsaken

/-- The step that registers a connection under a number that another peer has. -/
theorem Admits.turns_replaced {admission : Admission}
    (admits : situation.Admits listener (.registering admission)) (sound : situation.Sound)
    (delivery : Delivery) {old : Peer Line}
    (known : situation.server.peer? situation.server.service.nextId = some old) :
    situation.Turns (fun _ => false) (situation.step (.acceptor (port listener)) delivery) := by
  obtain ⟨preparing, free⟩ := admits.untracked sound
  have session := Server.session?_of_peer? sound.ordered.distinct known
  have apart : old.line.wire ≠ admission.wire := by
    intro equal
    rw [equal, free] at session
    cases session
  have stepped := register_eq situation.server (port listener) admission
  rw [known] at stepped
  have witness : situation.witness delivery (.acceptor (port listener)) =
      situation.note old.line.wire fun record => { record with strayed := true } := by
    unfold witness
    dsimp only
    rw [admits.alive]
    dsimp only [Option.map_some]
    rw [known]
  have outline := (registered situation.server admission).outline_forsake old.line.wire
  have acceptors : ((registered situation.server admission).forsake
      old.line.wire).service.acceptors = [⟨port listener, .registering admission⟩] :=
    (congrArg Outline.acceptors outline).trans admits.acceptors
  refine admits.turns_step stepped (admits.ordered_registered sound free outline) fun wire => ?_
  rw [witness, record_note, Server.connection_moveAcceptor _ _ _ _ acceptors,
    admits.stage_registered, Server.connection_forsake,
    connection_registered sound.ordered.distinct free, known]
  by_cases here : wire = admission.wire
  · subst here
    rw [if_neg (Ne.symm apart), if_neg (Ne.symm apart), if_pos rfl, if_pos rfl]
    exact .registered _ preparing rfl rfl
  · rw [if_neg here, if_neg here]
    by_cases there : wire = old.line.wire
    · subst there
      rw [if_pos rfl, if_pos rfl, Option.map_some, if_pos rfl]
      exact admits.turn_replaced sound (congrArg Option.isSome session)
    · rw [if_neg there, if_neg there, if_neg (by simpa using Ne.symm there)]
      exact .rest

/-! ## Panics -/

/-- What becomes of the wire of a connection whose new-peer callback panicked. -/
def dropUntracked (server : Server) (index : Nat) : Server :=
  if server.tracksWire index then server else server.dropWire index

theorem dropUntracked_keeps (server : Server) (index : Nat) :
    (dropUntracked server index).service.acceptors = server.service.acceptors ∧
      (dropUntracked server index).network.listeners = server.network.listeners ∧
      (dropUntracked server index).outline = server.outline := by
  unfold dropUntracked
  split <;> exact ⟨rfl, rfl, rfl⟩

theorem connection_dropUntracked {server : Server} {index : Nat} {wire : Wire}
    (found : server.network.wire? index = some wire) :
    ∃ later, (dropUntracked server index).network.wire? index = some later ∧
      ForsakenAs wire later (server.session? index).isSome ∧
      ∀ call removal record other,
        (dropUntracked server index).connection call removal record other =
          if other = index then
            { server.connection call removal record other with wire := some later }
          else server.connection call removal record other := by
  have tracks := server.tracksWire_eq index
  unfold dropUntracked
  by_cases tracked : server.tracksWire index = true
  · rw [if_pos tracked]
    refine ⟨wire, found, Or.inl rfl, fun call removal record other => ?_⟩
    by_cases here : other = index
    · subst here
      rw [if_pos rfl, ← found]
      rfl
    · rw [if_neg here]
  · rw [if_neg tracked]
    rw [tracks] at tracked
    refine ⟨wire.closeNear, ?_, Or.inr ⟨tracked, rfl⟩, fun call removal record other => ?_⟩
    · have dropped := Network.wire?_modifyWire server.network index index Wire.closeNear
      rw [if_pos rfl, found] at dropped
      exact dropped
    · rw [Server.connection_dropWire]
      by_cases here : other = index
      · subst here
        rw [if_pos rfl, if_pos rfl, found]
        rfl
      · rw [if_neg here, if_neg here]

/-- The step in which the acceptor ends because the new-peer callback panicked. -/
theorem Admits.turns_panicked {id : UInt64} {admission : Admission}
    (admits : situation.Admits listener (.greeting id admission)) (sound : situation.Sound) :
    situation.Turns (fun _ => false) (situation.step (.acceptor (port listener)) .panicked) := by
  have greets : (situation.connection admission.wire).stage = .greeting :=
    (admits.stage admission.wire).trans (if_pos rfl)
  obtain ⟨wire, found⟩ := sound.established (by rw [greets]; decide)
  have quiet := sound.not_waits (by rw [greets]; decide)
  have witness : situation.witness .panicked (.acceptor (port listener)) =
      situation.note admission.wire fun record => { record with panicked := true } := by
    unfold witness
    dsimp only
    rw [admits.alive]
    exact if_pos rfl
  obtain ⟨acceptorsKept, listenersKept, outline⟩ :=
    dropUntracked_keeps situation.server admission.wire
  obtain ⟨later, foundLater, forsaken, connection⟩ := connection_dropUntracked found
  have acceptors := acceptorsKept.trans admits.acceptors
  have listeners := listenersKept.trans admits.listeners
  refine admits.turns_step (show _ = (dropUntracked situation.server
    admission.wire).endAcceptor (port listener) from rfl) ?_ fun other => ?_
  · refine Admits.ordered_shut sound ?_
    rw [Server.outline_endAcceptor acceptors listeners rfl, outline]
  · rw [witness, record_note, Server.connection_endAcceptor _ _ _ _ acceptors listeners rfl,
      connection, Server.waits_of_listeners other listenersKept]
    by_cases here : other = admission.wire
    · subst here
      have waits : waits situation.server.network admission.wire = false := quiet
      rw [if_pos rfl, if_pos rfl, waits, foundLater]
      have turn : Turn false (situation.connection admission.wire) _ :=
        .unwelcome wire later found greets forsaken
      rw [quiet] at turn
      exact turn
    · have kept : (dropUntracked situation.server admission.wire).network.wire? other =
          situation.server.network.wire? other := by
        have same := connection (situation.call other) none .blank other
        rw [if_neg here] at same
        exact congrArg Connection.wire same
      have absent : (situation.connection other).stage = .absent :=
        (admits.stage other).trans (if_neg (Ne.symm here))
      have turn := turn_shut false (sound.connections other).placed absent
      rw [if_neg here, if_neg here, kept]
      exact turn

/-! ## Serving -/

/-- A connection that is about to get a worker has none. -/
theorem Admits.unserved {id : UInt64} {admission : Admission}
    (admits : situation.Admits listener (.spawning id admission)) (sound : situation.Sound) :
    (situation.connection admission.wire).stage = .greeting ∧
      situation.server.worker? admission.wire = none := by
  have greets : (situation.connection admission.wire).stage = .greeting :=
    (admits.stage admission.wire).trans (if_pos rfl)
  exact ⟨greets, (sound.connections admission.wire).placed.greeted greets⟩

/-- The step in which the acceptor starts the worker of its connection. -/
theorem Admits.turns_spawned {id : UInt64} {admission : Admission}
    (admits : situation.Admits listener (.spawning id admission)) (sound : situation.Sound)
    {delivery : Delivery} {network : Network} (steady : situation.server.network.Steady network)
    {worker : Worker} (here : worker.wire = admission.wire)
    (custody : worker.custody = .unstored)
    (phase : worker.phase = .looking)
    (stepped : situation.server.stepAcceptor (.answering delivery)
      ⟨port listener, .spawning id admission⟩ =
        ((situation.server.withNetwork network).addWorker worker).moveAcceptor (port listener)
          (.storing admission.wire)) :
    situation.Turns (fun _ => false) (situation.step (.acceptor (port listener)) delivery) := by
  have silent := admits.witness_silent delivery (by simp) (by simp)
  obtain ⟨greets, unserved⟩ := admits.unserved sound
  have free : (situation.server.withNetwork network).worker? worker.wire = none := by
    rw [here]
    exact unserved
  have acceptors : ((situation.server.withNetwork network).addWorker worker).service.acceptors =
      [⟨port listener, .spawning id admission⟩] := admits.acceptors
  have outline : ((situation.server.withNetwork network).addWorker worker).outline =
      situation.server.outline :=
    ((situation.server.withNetwork network).outline_addWorker worker).trans
      (situation.server.outline_withNetwork steady.listeners)
  refine admits.turns_step stepped (admits.ordered_moved sound outline _) fun other => ?_
  rw [silent, Server.connection_moveAcceptor _ _ _ _ acceptors,
    Server.connection_addWorker _ _ _ _ worker free,
    Server.connection_steady _ _ _ _ _ steady, here]
  by_cases same : other = admission.wire
  · subst same
    have storing : (Acceptor.Phase.storing admission.wire).stage admission.wire = .storing :=
      if_pos rfl
    rw [if_pos rfl, storing]
    exact .served worker greets custody phase
  · have absent : (Acceptor.Phase.storing admission.wire).stage other =
        (situation.connection other).stage := by
      rw [admits.stage other]
      exact (if_neg (Ne.symm same)).trans (if_neg (Ne.symm same)).symm
    rw [if_neg same, absent]
    exact .rest

/-- The step in which the acceptor closes a connection that it cannot serve. -/
theorem Admits.turns_unserved {id : UInt64} {admission : Admission}
    (admits : situation.Admits listener (.spawning id admission)) (sound : situation.Sound)
    {delivery : Delivery} {network : Network} (steady : situation.server.network.Steady network)
    (stepped : situation.server.stepAcceptor (.answering delivery)
      ⟨port listener, .spawning id admission⟩ =
        (((situation.server.withNetwork network).closeSession admission.wire).shutWire
          admission.wire).moveAcceptor (port listener) .looking) :
    situation.Turns (fun _ => false) (situation.step (.acceptor (port listener)) delivery) := by
  have silent := admits.witness_silent delivery (by simp) (by simp)
  obtain ⟨greets, _⟩ := admits.unserved sound
  obtain ⟨wire, found⟩ := sound.established (by rw [greets]; decide)
  have acceptors : (((situation.server.withNetwork network).closeSession
      admission.wire).shutWire admission.wire).service.acceptors =
        [⟨port listener, .spawning id admission⟩] := admits.acceptors
  have outline : (((situation.server.withNetwork network).closeSession
      admission.wire).shutWire admission.wire).outline = situation.server.outline :=
    ((situation.server.withNetwork network).outline_modifySession admission.wire closedPeer
      fun _ => rfl).trans (situation.server.outline_withNetwork steady.listeners)
  refine admits.turns_step stepped (admits.ordered_moved sound outline .looking) fun other => ?_
  rw [silent, Server.connection_moveAcceptor _ _ _ _ acceptors,
    Server.connection_shutWire, Server.connection_closeSession,
    Server.connection_steady _ _ _ _ _ steady]
  by_cases here : other = admission.wire
  · subst here
    have foundLater : ((situation.server.withNetwork network).closeSession
        admission.wire).network.wire? admission.wire = some wire :=
      (congrArg (·[admission.wire]?) steady.wires).trans found
    rw [if_pos rfl, if_pos rfl, foundLater]
    exact .unserved wire found greets
  · have same : Acceptor.Phase.looking.stage other = (situation.connection other).stage :=
      ((admits.stage other).trans (if_neg (Ne.symm here))).symm
    rw [if_neg here, if_neg here, same]
    exact .rest

/-- The step in which the acceptor leaves the handle of a worker with its peer. -/
theorem Admits.turns_storing {index : Nat}
    (admits : situation.Admits listener (.storing index))
    (sound : situation.Sound) (delivery : Delivery) :
    situation.Turns (fun _ => false) (situation.step (.acceptor (port listener)) delivery) := by
  have silent := admits.witness_silent delivery (by simp) (by simp)
  have stores : (situation.connection index).stage = .storing :=
    (admits.stage index).trans (if_pos rfl)
  have acceptors : (situation.server.passHandle index .unstored .stored).service.acceptors =
      [⟨port listener, .storing index⟩] := admits.acceptors
  have stepped : situation.server.stepAcceptor (.answering delivery)
      ⟨port listener, .storing index⟩ = (situation.server.passHandle index .unstored
        .stored).moveAcceptor (port listener) .looking := rfl
  refine admits.turns_step stepped (admits.ordered_moved sound rfl .looking) fun other => ?_
  rw [silent, Server.connection_moveAcceptor _ _ _ _ acceptors, Server.connection_passHandle]
  by_cases here : other = index
  · subst here
    rw [if_pos rfl]
    exact .stored stores
  · have same : Acceptor.Phase.looking.stage other = (situation.connection other).stage :=
      ((admits.stage other).trans (if_neg (Ne.symm here))).symm
    rw [if_neg here, same]
    exact .rest

/-- A step of the acceptor is a turn of every connection. -/
theorem turns_acceptor (sound : situation.Sound) (at' : UInt16) (delivery : Delivery) :
    situation.Turns (fun _ => false) (situation.step (.acceptor at') delivery) := by
  cases alive : situation.server.acceptor? at' with
  | none =>
      rw [step_of_no_acceptor alive]
      exact Turns.refl sound _
  | some acceptor =>
      obtain ⟨listener, phase, admits, rfl, rfl⟩ := sound.admits alive
      have step := situation.server.acceptorStep delivery ⟨port listener, phase⟩
      generalize stepped : situation.server.stepAcceptor (.answering delivery)
        ⟨port listener, phase⟩ = later at step
      cases step with
      | looked here =>
          obtain rfl : phase = _ := here
          exact admits.turns_moved sound (.refl _) .accepting (fun _ => rfl) stepped
            (admits.witness_silent delivery nofun nofun)
      | ended here =>
          obtain rfl : phase = _ := here
          exact admits.turns_ended sound (.refl _) (fun _ => rfl) stepped
            (admits.witness_silent delivery nofun nofun)
      | retried here fault network struck =>
          obtain rfl : phase = _ := here
          have steady := (Network.Tried.of_consult struck).steady
          exact admits.turns_moved sound steady .looking (fun _ => rfl) stepped
            (admits.witness_silent delivery nofun nofun)
      | gaveUp here fault network struck =>
          obtain rfl : phase = _ := here
          have steady := (Network.Tried.of_consult struck).steady
          exact admits.turns_ended sound steady (fun _ => rfl) stepped
            (admits.witness_silent delivery nofun nofun)
      | took here network later index spared taken =>
          obtain rfl : phase = _ := here
          have steady := (Network.Tried.of_consult spared).steady
          obtain ⟨rest, waiting, rfl⟩ :=
            of_takeWaiting (steady.listeners.trans admits.listeners) taken
          exact admits.turns_taken sound steady waiting stepped
            (admits.witness_silent delivery nofun nofun)
      | idled here network spared =>
          obtain rfl : phase = _ := here
          have steady := (Network.Tried.of_consult spared).steady
          exact admits.turns_moved sound steady .looking (fun _ => rfl) stepped
            (admits.witness_silent delivery nofun nofun)
      | configured admission here network made =>
          obtain rfl : phase = _ := here
          have steady := (Network.Tried.of_attemptAll made).steady
          exact admits.turns_moved sound steady (.registering admission) (fun _ => rfl) stepped
            (admits.witness_silent delivery nofun nofun)
      | refused admission here failure network failed =>
          obtain rfl : phase = _ := here
          exact admits.turns_refused sound (Network.Tried.of_attemptAll failed).steady stepped
      | registered admission here =>
          obtain rfl : phase = _ := here
          cases known : situation.server.peer? situation.server.service.nextId with
          | none => exact admits.turns_registered sound delivery known
          | some old => exact admits.turns_replaced sound delivery known
      | greeted id admission here returns =>
          obtain rfl : phase = _ := here
          exact admits.turns_moved sound (.refl _) (.spawning id admission) (fun _ => rfl) stepped
            (admits.witness_silent delivery nofun fun _ _ _ => returns)
      | startled id admission here panics | deserted id admission here panics =>
          obtain rfl : phase = _ := here
          obtain rfl := panics
          exact admits.turns_panicked sound
      | unserved id admission here failure network failed =>
          obtain rfl : phase = _ := here
          exact admits.turns_unserved sound (Network.Tried.of_attempt failed).steady stepped
      | spawned id admission here network made =>
          obtain rfl : phase = _ := here
          exact admits.turns_spawned sound (Network.Tried.of_attempt made).steady rfl rfl rfl
            stepped
      | stored index here =>
          obtain rfl : phase = _ := here
          exact admits.turns_storing sound delivery

end Situation
end Tcp
end Framelink
