import Framelink.Proofs.Tcp.Moves
import Framelink.Proofs.Tcp.Sound

/-!
# What starting and stopping do

A start that fails leaves at most the network different, and there only faults that
were run into and the next port.  A stop takes the handles of the workers of tracked
peers one after the other; meanwhile a peer can be removed, but none can be admitted.
-/

namespace Framelink
namespace Tcp

namespace Server

/-! ## Setting up -/

/-- The door of a server that begins to listen. -/
theorem admitAt_door {server : Server} (listeners : server.network.listeners = [])
    (acceptors : server.service.acceptors = []) (address : SocketAddress) :
    (server.admitAt address).network.listeners = [⟨address, true, []⟩] ∧
      (server.admitAt address).service.acceptors = [⟨address.port, .looking⟩] := by
  unfold admitAt Network.addListener network at *
  dsimp only
  rw [listeners, acceptors]
  exact ⟨rfl, rfl⟩

/-- No connection has anything to do with a server that begins to listen. -/
theorem connection_admitAt (call : Call) (removal : Option Bool) (record : Record) (wire : Nat)
    {server : Server} (listeners : server.network.listeners = [])
    (acceptors : server.service.acceptors = []) (address : SocketAddress) :
    (server.admitAt address).connection call removal record wire =
      server.connection call removal record wire := by
  obtain ⟨opened, manned⟩ := admitAt_door listeners acceptors address
  have quiet : waits (server.admitAt address).network wire = waits server.network wire := by
    unfold waits
    rw [opened, listeners]
    rfl
  have stage : (server.admitAt address).stage wire = server.stage wire := by
    unfold Server.stage
    rw [manned, acceptors]
    rfl
  unfold connection
  rw [quiet, stage]
  rfl

/-! ## Looking for workers -/

theorem trackedWires_contains (server : Server) (wire : Nat) :
    server.trackedWires.contains wire = (server.session? wire).isSome := by
  rw [← tracksWire_eq, Bool.eq_iff_iff]
  unfold trackedWires tracksWire
  rw [List.contains_iff_mem, List.mem_map, List.any_eq_true]
  constructor
  · rintro ⟨entry, listed, here⟩
    exact ⟨entry, listed, beq_iff_eq.2 here⟩
  · rintro ⟨entry, listed, here⟩
    exact ⟨entry, listed, beq_iff_eq.1 here⟩

/-- A place where no handle is holds that of no worker. -/
theorem custodyOf_of_workersIn {server : Server} {custody : Custody}
    (empty : server.workersIn custody = []) (wire : Nat) :
    custodyOf (server.worker? wire) ≠ some custody := by
  intro held
  obtain ⟨worker, found, same⟩ := Option.map_eq_some_iff.1 held
  unfold workersIn at empty
  rw [List.map_eq_nil_iff, List.filter_eq_nil_iff] at empty
  refine empty worker (List.mem_of_find?_eq_some found) ?_
  rw [same]
  simp

end Server

namespace Situation

open Connection

variable {situation : Situation}

/-! ## Starting -/

/-- Where there is no acceptor there is no listener. -/
theorem Sound.listeners_eq_nil (sound : situation.Sound)
    (nobody : situation.server.service.acceptors = []) :
    situation.server.network.listeners = [] := by
  cases sound.ordered.door with
  | shut listeners acceptors => exact listeners
  | ajar listener phase listeners acceptors backlog =>
      have one : situation.server.service.acceptors = [⟨listener.address.port, phase⟩] :=
        acceptors
      rw [nobody] at one
      cases one

/-- A server that is being started has no listener yet. -/
theorem Sound.starting (sound : situation.Sound) (control : situation.control = .starting) :
    situation.server.network.listeners = [] ∧ situation.server.service.acceptors = [] := by
  have nobody : situation.server.service.acceptors = [] := by
    apply Decidable.byContradiction
    intro occupied
    rcases sound.ordered.admitting occupied with ⟨idle, _⟩ | stopping
    · cases control.symm.trans idle
    · cases control.symm.trans stopping
  exact ⟨sound.listeners_eq_nil nobody, nobody⟩

/-- A call that has nothing to do says so, and that is all. -/
theorem turns_concluded (sound : situation.Sound) (idle : situation.control = .idle)
    (outcome : Outcome) (own : Nat → Bool) : situation.Turns own (situation.conclude outcome) := by
  have ordered : (situation.conclude outcome).Ordered :=
    sound.ordered.of_outline rfl idle.symm
  refine ⟨ordered, fun wire => ?_⟩
  have same : (situation.conclude outcome).connection wire = situation.connection wire := by
    unfold connection
    rw [call_congr (show (situation.conclude outcome).control = _ from idle.symm) rfl wire]
    rfl
  rw [same]
  exact .rest

/-- A server that does not run admits nobody. -/
theorem Sound.acceptors_eq_nil (sound : situation.Sound) (idle : situation.control = .idle)
    (down : situation.server.running = false) : situation.server.service.acceptors = [] := by
  apply Decidable.byContradiction
  intro occupied
  rcases sound.ordered.admitting occupied with ⟨_, running⟩ | stopping
  · have up : situation.server.running = true := running
    rw [down] at up
    cases up
  · cases idle.symm.trans stopping

theorem turns_started (sound : situation.Sound) (idle : situation.control = .idle)
    (down : situation.server.running = false) (own : Nat → Bool) :
    situation.Turns own
      { situation with
        server := { situation.server with running := true }
        control := .starting } := by
  have ⟨door, handles, wires, admitting, starting, stopping, lodged⟩ := sound.ordered
  have shut := sound.acceptors_eq_nil idle down
  rw [idle] at lodged
  refine ⟨⟨door.congr rfl rfl, handles, wires, fun occupied => absurd shut occupied,
    fun _ => rfl, fun phase same => (by cases same), lodged.trans down⟩, fun wire => ?_⟩
  have call : Call.resting = situation.call wire := by
    unfold Situation.call
    rw [idle, down]
    rfl
  have same : situation.connection wire =
      situation.server.connection .resting (situation.removal? wire)
        (situation.record wire) wire := by
    rw [call]
    rfl
  rw [same]
  exact .rest

/-- A start that fails leaves the mark as it was, and hardly a trace on the network. -/
theorem turns_refused (sound : situation.Sound) (control : situation.control = .starting)
    {network : Network} (steady : situation.server.network.Steady network) (outcome : Outcome)
    (own : Nat → Bool) :
    situation.Turns own
      (Situation.conclude
        { situation with
          server := { situation.server.withNetwork network with running := false } }
        outcome) := by
  have ⟨door, handles, wires, admitting, starting, stopping, lodged⟩ := sound.ordered
  obtain ⟨listeners, acceptors⟩ := sound.starting control
  rw [control] at lodged
  refine ⟨⟨.shut (steady.listeners.trans listeners) acceptors, handles, wires,
    fun occupied => absurd acceptors occupied, fun same => (by cases same),
    fun _ same => (by cases same), lodged⟩, fun wire => ?_⟩
  have same := situation.server.connection_steady .resting (situation.removal? wire)
    (situation.record wire) wire steady
  have call : Call.resting = situation.call wire := by
    unfold Situation.call
    rw [control]
  refine Eq.subst (motive := fun later => Turn (own wire) (situation.connection wire) later)
    same.symm ?_
  rw [call]
  exact .rest

/-- A start that succeeds opens every connection's way to the server. -/
theorem turns_opened (sound : situation.Sound) (control : situation.control = .starting)
    {network : Network} (steady : situation.server.network.Steady network)
    (address : SocketAddress) (outcome : Outcome) (own : Nat → Bool) :
    situation.Turns own
      (Situation.conclude
        { situation with
          server :=
            { (situation.server.withNetwork network).admitAt address with
              localAddress := some address } }
        outcome) := by
  have ⟨door, handles, wires, admitting, starting, stopping, lodged⟩ := sound.ordered
  obtain ⟨listeners, acceptors⟩ := sound.starting control
  have running : situation.server.running = true := starting control
  have bare : (situation.server.withNetwork network).network.listeners = [] :=
    steady.listeners.trans listeners
  obtain ⟨opened, manned⟩ := Server.admitAt_door bare acceptors address
  refine ⟨⟨.ajar ⟨address, true, []⟩ .looking opened manned List.nodup_nil, handles, wires,
    fun _ => Or.inl ⟨rfl, running⟩, fun same => (by cases same), fun _ same => (by cases same),
    running.symm⟩, fun wire => ?_⟩
  have resting : (situation.connection wire).call = .resting := by
    unfold connection Server.connection Situation.call
    rw [control]
  have serving : Situation.call (Situation.conclude
      { situation with
        server :=
          { (situation.server.withNetwork network).admitAt address with
            localAddress := some address } } outcome) wire = .serving := if_pos running
  have same := Server.connection_admitAt .serving (situation.removal? wire)
    (situation.record wire) wire bare acceptors address
  rw [Server.connection_steady _ _ _ _ _ steady] at same
  unfold connection
  rw [serving]
  refine Eq.subst (motive := fun later => Turn (own wire) (situation.connection wire) later)
    same.symm ?_
  exact .opened resting

/-! ## Stopping -/

theorem turns_stopped (sound : situation.Sound) (idle : situation.control = .idle)
    (running : situation.server.running = true) (own : Nat → Bool) :
    situation.Turns own
      { situation with
        server := { situation.server with running := false }
        control := .stopping .awaitingAcceptor } := by
  have ⟨door, handles, wires, admitting, starting, stopping, lodged⟩ := sound.ordered
  rw [idle] at lodged
  refine ⟨⟨door.congr rfl rfl, handles, wires, fun _ => Or.inr rfl,
    fun same => (by cases same), fun _ _ => rfl, lodged.trans running⟩, fun wire => ?_⟩
  have call : Call.serving = situation.call wire := by
    unfold Situation.call
    rw [idle, running]
    rfl
  have same : situation.connection wire =
      situation.server.connection .serving (situation.removal? wire)
        (situation.record wire) wire := by
    rw [call]
    rfl
  rw [same]
  exact .rest

/-- The call that stops the server goes on past the acceptor; the server stays as it
is, but for the handles of workers. -/
theorem turns_stopping (sound : situation.Sound) {phase : Stopping}
    (control : situation.control = .stopping phase)
    (nobody : situation.server.service.acceptors = []) {later : Situation}
    (outline : later.server.outline = situation.server.outline)
    (stopping : ∃ next, later.control = .stopping next) (own : Nat → Bool)
    (turn : ∀ wire, Turn (own wire) (situation.connection wire) (later.connection wire)) :
    situation.Turns own later := by
  refine ⟨?_, turn⟩
  have ⟨door, handles, wires, admitting, starting, down, lodged⟩ := sound.ordered
  obtain ⟨next, under⟩ := stopping
  rw [control] at lodged
  unfold Situation.Ordered
  rw [outline, under]
  exact ⟨door, handles, wires, fun occupied => absurd nobody occupied,
    fun same => (by cases same), fun _ _ => down phase control, lodged⟩

/-- A call that stops the server gets past the acceptor when that has ended. -/
theorem Sound.past_acceptor (sound : situation.Sound) {phase : Stopping}
    (control : situation.control = .stopping phase) (past : phase ≠ .awaitingAcceptor) :
    situation.server.service.acceptors = [] := by
  apply Decidable.byContradiction
  intro occupied
  rcases sound.ordered.admitting occupied with ⟨idle, _⟩ | awaiting
  · cases control.symm.trans idle
  · cases control.symm.trans awaiting
    exact past rfl

theorem turns_listed (sound : situation.Sound)
    (control : situation.control = .stopping .awaitingAcceptor)
    (nobody : situation.server.service.acceptors = []) (own : Nat → Bool) :
    situation.Turns own
      { situation with
        control := .stopping (.collecting situation.server.trackedWires) } := by
  refine turns_stopping sound control nobody ?_ ?_ own fun wire => ?_
  · rfl
  · exact ⟨_, rfl⟩
  have serving : (situation.connection wire).call = .serving := by
    unfold connection Server.connection Situation.call
    rw [control]
  have stage : (situation.connection wire).stage = .absent := by
    unfold connection Server.connection Server.stage
    rw [nobody]
  have quiet : (situation.connection wire).waits = false := by
    have listeners := sound.listeners_eq_nil nobody
    unfold connection Server.connection waits
    rw [listeners]
    rfl
  have later : Situation.connection { situation with
      control := .stopping (.collecting situation.server.trackedWires) } wire =
        { situation.connection wire with
          call := .collecting (situation.connection wire).session.isSome } := by
    unfold connection Situation.call
    dsimp only
    rw [situation.server.trackedWires_contains wire]
    rfl
  rw [later]
  exact .listed serving quiet stage

theorem turns_collected (sound : situation.Sound) {index : Nat} {rest : List Nat}
    (control : situation.control = .stopping (.collecting (index :: rest))) (own : Nat → Bool) :
    situation.Turns own
      { situation with
        server := situation.server.collect index
        control := .stopping (.collecting rest) } := by
  have nobody := sound.past_acceptor control (by simp)
  refine turns_stopping sound control nobody ?_ ?_ own fun wire => ?_
  · rfl
  · exact ⟨_, rfl⟩
  have before : (situation.connection wire).call =
      .collecting ((index :: rest).contains wire) := by
    unfold connection Server.connection Situation.call
    rw [control]
  have turned := situation.server.connection_passHandle (.collecting (rest.contains wire))
    (situation.removal? wire) (situation.record wire) wire index .stored .awaited
  refine Eq.subst (motive := fun later => Turn (own wire) (situation.connection wire) later)
    turned.symm ?_
  by_cases here : wire = index
  · subst here
    rw [if_pos rfl]
    have listed : (situation.connection wire).call = .collecting true := by
      rw [before]
      simp
    exact .collected (rest.contains wire) listed
  · rw [if_neg here]
    have same : situation.connection wire = situation.server.connection
        (.collecting (rest.contains wire)) (situation.removal? wire) (situation.record wire)
        wire := by
      have call : situation.call wire = .collecting (rest.contains wire) := by
        refine Eq.trans before ?_
        rw [List.contains_cons]
        simp [here]
      rw [← call]
      rfl
    rw [same]
    exact .rest

theorem turns_gathered (sound : situation.Sound)
    (control : situation.control = .stopping (.collecting [])) (own : Nat → Bool) :
    situation.Turns own { situation with control := .stopping .awaitingWorkers } := by
  have nobody := sound.past_acceptor control (by simp)
  refine turns_stopping sound control nobody ?_ ?_ own fun wire => ?_
  · rfl
  · exact ⟨_, rfl⟩
  have call : (situation.connection wire).call = .collecting false := by
    unfold connection Server.connection Situation.call
    rw [control]
    rfl
  exact .gathered call

theorem removals_any (situation : Situation) (wire : Nat) :
    situation.removals.any (·.wire == wire) = (situation.removal? wire).isSome := by
  unfold removal?
  rw [Option.isSome_map, Bool.eq_iff_iff, List.any_eq_true, List.find?_isSome]

theorem turns_searched (sound : situation.Sound)
    (control : situation.control = .stopping .awaitingWorkers)
    (joined : situation.server.workersIn .awaited = [])
    (empty : situation.server.workersIn .detached = []) (own : Nat → Bool) :
    situation.Turns own { situation.noteLate with control := .stopping .closing } := by
  have nobody := sound.past_acceptor control (by simp)
  refine turns_stopping sound control nobody ?_ ?_ own fun wire => ?_
  · rfl
  · exact ⟨_, rfl⟩
  have call : (situation.connection wire).call = .awaitingWorkers := by
    unfold connection Server.connection Situation.call
    rw [control]
  have record : situation.noteLate.record wire =
      { situation.record wire with
        late := (situation.record wire).late || (situation.removal? wire).isSome } := by
    unfold noteLate
    dsimp only
    rw [situation.removals_any wire]
    cases (situation.removal? wire).isSome with
    | true => simp
    | false => simp
  have turn : Turn (own wire) (situation.connection wire) _ :=
    .searched call (Server.custodyOf_of_workersIn joined wire)
      (Server.custodyOf_of_workersIn empty wire)
  have later : Situation.connection
      { situation.noteLate with control := .stopping .closing } wire =
        situation.server.connection .closing (situation.removal? wire)
          (situation.noteLate.record wire) wire := rfl
  rw [later, record]
  exact turn

theorem turns_drained (sound : situation.Sound)
    (control : situation.control = .stopping .awaitingWorkers) (own : Nat → Bool) :
    situation.Turns own { situation with server := situation.server.drain } := by
  have nobody := sound.past_acceptor control (by simp)
  refine turns_stopping sound control nobody ?_ ?_ own fun wire => ?_
  · rfl
  · exact ⟨_, control⟩
  have call : (situation.connection wire).call = .awaitingWorkers := by
    unfold connection Server.connection Situation.call
    rw [control]
  have turned := situation.server.connection_passHandles (situation.call wire)
    (situation.removal? wire) (situation.record wire) wire .detached .awaited
  refine Eq.subst (motive := fun later =>
    Turn (own wire) (situation.connection wire) later) turned.symm ?_
  exact .drained call

theorem turns_closed (sound : situation.Sound)
    (control : situation.control = .stopping .closing) (outcome : Outcome) (own : Nat → Bool) :
    situation.Turns own
      (Situation.conclude
        { situation with server := { situation.server with localAddress := none } } outcome) := by
  have nobody := sound.past_acceptor control (by simp)
  have ⟨door, handles, wires, admitting, starting, stopping, lodged⟩ := sound.ordered
  have down : situation.server.running = false := stopping .closing control
  refine ⟨⟨door.congr rfl rfl, handles, wires, fun occupied => absurd nobody occupied,
    fun same => (by cases same), fun _ same => (by cases same), ?_⟩, fun wire => ?_⟩
  · exact down.symm
  · have call : (situation.connection wire).call = .closing := by
      unfold connection Server.connection Situation.call
      rw [control]
    have resting : Situation.call (Situation.conclude
        { situation with server := { situation.server with localAddress := none } } outcome)
          wire = .resting := by
      refine if_neg ?_
      intro running
      cases down.symm.trans running
    unfold connection
    rw [resting]
    exact .closed call

end Situation
end Tcp
end Framelink
