import Framelink.Proofs.Tcp.Sound

/-!
# What far ends do

Whatever a far end does happens to its own connection, and the order of the server
does not depend on it, except for where new connections wait.
-/

namespace Framelink
namespace Tcp
namespace Situation

open Connection

variable {situation : Situation}

theorem connection_disturb_wire (situation : Situation) (index : Nat) (change : Wire → Wire)
    (wire : Nat) :
    (situation.disturb (·.modifyWire index change)).connection wire =
      if wire = index then
        { situation.connection wire with
          wire := (situation.server.network.wire? wire).map change }
      else situation.connection wire :=
  situation.server.connection_modifyWire (situation.call wire) (situation.removal? wire)
    (situation.record wire) wire index change

theorem connection_note (situation : Situation) (index : Nat) (change : Record → Record)
    (wire : Nat) :
    (situation.note index change).connection wire =
      if wire = index then
        { situation.connection wire with record := change (situation.record wire) }
      else situation.connection wire := by
  by_cases here : wire = index
  · subst here
    rw [if_pos rfl]
    unfold connection note
    dsimp only
    rw [if_pos rfl]
    rfl
  · rw [if_neg here]
    unfold connection note
    dsimp only
    rw [if_neg here]
    rfl

/-- A change of one wire that no receive at its near end could tell. -/
theorem turns_alike (sound : situation.Sound) (index : Nat) (change : Wire → Wire)
    (alike : ∀ wire, situation.server.network.wire? index = some wire →
      wire.Alike (change wire)) (own : Nat → Bool) :
    situation.Turns own (situation.disturb (·.modifyWire index change)) := by
  refine ⟨sound.ordered.of_outline rfl rfl, fun wire => ?_⟩
  rw [connection_disturb_wire]
  by_cases here : wire = index
  · subst here
    rw [if_pos rfl]
    cases found : situation.server.network.wire? wire with
    | none =>
        have same : (situation.connection wire).wire = none := found
        rw [Option.map_none, ← same]
        exact .rest
    | some established => exact .touched established _ found (alike established found)
  · rw [if_neg here]
    exact .rest

/-- A wire that waits was established before. -/
theorem Sound.not_waiting (sound : situation.Sound) {listener : Listener}
    (listeners : situation.server.network.listeners = [listener]) {index : Nat}
    (absent : situation.server.network.wire? index = none) : index ∉ listener.waiting := by
  have quiet := ((sound.connections index).placed.unmade absent).1
  have waits : waits situation.server.network index = false := quiet
  unfold Framelink.Tcp.waits at waits
  rw [listeners] at waits
  simpa using waits

/-- The network after a far end connected to the one listener there is. -/
theorem listeners_establish {network : Network} {listener : Listener}
    (listeners : network.listeners = [listener]) (address : SocketAddress) :
    (network.establish listener.address.port address).2.listeners =
      [{ listener with waiting := listener.waiting ++ [network.wires.length] }] := by
  unfold Network.establish
  rw [listeners]
  simp

theorem turns_connected (sound : situation.Sound) {port : UInt16} (address : SocketAddress)
    (listens : (situation.server.network.listener? port).isSome = true) (own : Nat → Bool) :
    situation.Turns own
      (situation.disturb fun network => (network.establish port address).2) := by
  obtain ⟨door, handles, wires, admitting, starting, stopping, lodged⟩ := sound.ordered
  cases door with
  | shut listeners acceptors =>
      have none : situation.server.network.listeners = [] := listeners
      simp [Network.listener?, none] at listens
  | ajar listener phase listeners acceptors backlog =>
      have only : situation.server.network.listeners = [listener] := listeners
      have here : listener.address.port = port := by
        apply Decidable.byContradiction
        intro elsewhere
        simp [Network.listener?, only, elsewhere] at listens
      subst here
      have absent := situation.server.network.wire?_length
      have fresh := sound.not_waiting only absent
      have added := listeners_establish only address
      refine ⟨⟨?_, handles, wires, admitting, starting, stopping, lodged⟩, fun wire => ?_⟩
      · refine .ajar _ phase added acceptors ?_
        rw [List.nodup_append]
        refine ⟨backlog, by simp, ?_⟩
        intro other waiting another single
        rw [List.mem_singleton.1 single]
        rintro rfl
        exact fresh waiting
      · have occupied : situation.server.service.acceptors ≠ [] := by
          rw [show situation.server.service.acceptors = _ from acceptors]
          simp
        have turned : (situation.disturb fun network =>
            (network.establish listener.address.port address).2).connection wire =
            { situation.connection wire with
              wire := ((situation.server.network.establish listener.address.port
                address).2.wire? wire)
              waits := waits (situation.server.network.establish listener.address.port
                address).2 wire } := rfl
        have waits : waits (situation.server.network.establish listener.address.port
            address).2 wire = (waits situation.server.network wire ||
              decide (wire = situation.server.network.wires.length)) := by
          unfold waits
          rw [added, only]
          simp
        rw [turned, waits, Network.wire?_establish]
        by_cases new : wire = situation.server.network.wires.length
        · subst new
          rw [if_pos rfl, decide_eq_true rfl, Bool.or_true]
          exact .established address absent (sound.ordered.serving occupied _)
        · rw [if_neg new, decide_eq_false new, Bool.or_false]
          exact .rest

theorem turns_sent (sound : situation.Sound) {index : Nat} (bytes : Bytes)
    (connected : (situation.server.network.wire? index).map Wire.far = some .connected)
    (own : Nat → Bool) :
    situation.Turns own
      (situation.note index fun record => { record with transit := record.transit ++ bytes }) := by
  obtain ⟨established, found, far⟩ := Option.map_eq_some_iff.1 connected
  refine ⟨sound.ordered.of_outline rfl rfl, fun wire => ?_⟩
  rw [connection_note]
  by_cases here : wire = index
  · subst here
    rw [if_pos rfl]
    exact .sent established bytes found far
  · rw [if_neg here]
    exact .rest

/-- All that arrives at a near end that is open waits there. -/
theorem Sound.farSend_carried (sound : situation.Sound) {index : Nat} {established : Wire}
    (found : situation.server.network.wire? index = some established)
    (near : established.near.isOpen = true) (count : Nat) :
    (established.farSend ((situation.record index).transit.take count)).2 =
      { established with
        inbound := established.inbound ++ (situation.record index).transit.take count } := by
  by_cases far : established.far = .connected
  · exact established.farSend_arrives _ near far
  · have none : (situation.record index).transit = [] :=
      (sound.connections index).conserved.settled established found far
    rw [none, List.take_nil, List.append_nil]
    exact established.farSend_nil

theorem turns_carried (sound : situation.Sound) {index : Nat} (count : Nat)
    (isOpen : ((situation.server.network.wire? index).map fun wire =>
      wire.near.isOpen).getD false = true) (own : Nat → Bool) :
    situation.Turns own
      ((situation.disturb (·.modifyWire index fun wire =>
        (wire.farSend ((situation.record index).transit.take count)).2)).note index fun record =>
          { record with
            arrived := record.arrived ++ (situation.record index).transit.take count
            transit := record.transit.drop count }) := by
  refine ⟨sound.ordered.of_outline rfl rfl, fun wire => ?_⟩
  rw [connection_note, connection_disturb_wire]
  by_cases here : wire = index
  · subst here
    rw [if_pos rfl, if_pos rfl]
    cases found : situation.server.network.wire? wire with
    | none =>
        rw [found] at isOpen
        cases isOpen
    | some established =>
        rw [found] at isOpen
        have near : established.near.isOpen = true := isOpen
        rw [Option.map_some, sound.farSend_carried found near]
        exact .arrived established count found near
  · rw [if_neg here, if_neg here]
    exact .rest

theorem turns_lost (sound : situation.Sound) {index : Nat} (bytes : Bytes)
    (shut : ((situation.server.network.wire? index).map fun wire =>
      wire.near.isOpen).getD false = false) (own : Nat → Bool) :
    situation.Turns own
      (situation.disturb (·.modifyWire index fun wire => (wire.farSend bytes).2)) := by
  refine turns_alike sound index _ (fun wire found => ?_) own
  rw [found] at shut
  exact wire.alike_farSend bytes shut

/-- What ending a stream at the far end does to a wire. -/
structure Ends (change : Wire → Wire) : Prop where
  inbound : ∀ wire, (change wire).inbound = wire.inbound
  near : ∀ wire, (change wire).near = wire.near
  far : ∀ wire, (change wire).far ≠ .connected

theorem ends_farFinish : Ends Wire.farFinish := by
  refine ⟨fun wire => ?_, fun wire => ?_, fun wire => ?_⟩
  · unfold Wire.farFinish
    split <;> rfl
  · unfold Wire.farFinish
    split <;> rfl
  · unfold Wire.farFinish
    split
    · simp
    · next differs => simpa using differs

theorem ends_farClose : Ends Wire.farClose :=
  ⟨fun _ => rfl, fun _ => rfl, fun _ => by simp [Wire.farClose]⟩

theorem ends_farReset : Ends Wire.farReset :=
  ⟨fun _ => rfl, fun _ => rfl, fun _ => by simp [Wire.farReset]⟩

/-- The turn of a connection whose far end ends the stream. -/
theorem turn_end {c : Connection} {change : Wire → Wire} (ends : Ends change) (own : Bool)
    (blank : c.wire = none → c.record = .blank) :
    Turn own c
      { c with wire := c.wire.map change, record := { c.record with transit := [] } } := by
  cases found : c.wire with
  | none =>
      have record : c.record = { c.record with transit := [] } := by
        rw [blank found]
        rfl
      rw [← record, Option.map_none, ← found]
      exact .rest
  | some wire =>
      exact .finished wire (change wire) found (ends.inbound wire) (ends.near wire)
        (ends.far wire)

theorem turns_ended (sound : situation.Sound) {index : Nat} {change : Wire → Wire}
    (ends : Ends change) (settled : (situation.record index).transit = []) (own : Nat → Bool) :
    situation.Turns own (situation.disturb (·.modifyWire index change)) := by
  refine ⟨sound.ordered.of_outline rfl rfl, fun wire => ?_⟩
  rw [connection_disturb_wire]
  by_cases here : wire = index
  · subst here
    rw [if_pos rfl]
    have turn := turn_end ends (own wire) fun absent =>
      ((sound.connections wire).placed.unmade absent).2.2.2.2.2
    have record : (situation.connection wire).record =
        { (situation.connection wire).record with transit := [] } := by
      rw [← settled]
      rfl
    rw [← record] at turn
    exact turn
  · rw [if_neg here]
    exact .rest

theorem turns_aborted (sound : situation.Sound) (index : Nat) (own : Nat → Bool) :
    situation.Turns own
      ((situation.disturb (·.modifyWire index Wire.farReset)).note index fun record =>
        { record with transit := [] }) := by
  refine ⟨sound.ordered.of_outline rfl rfl, fun wire => ?_⟩
  rw [connection_note, connection_disturb_wire]
  by_cases here : wire = index
  · subst here
    rw [if_pos rfl, if_pos rfl]
    exact turn_end ends_farReset (own wire) fun absent =>
      ((sound.connections wire).placed.unmade absent).2.2.2.2.2
  · rw [if_neg here, if_neg here]
    exact .rest

theorem turns_heard (sound : situation.Sound) (index wanted : Nat) (own : Nat → Bool) :
    situation.Turns own
      (situation.disturb (·.modifyWire index fun wire => (wire.farReceive wanted).2.2)) :=
  turns_alike sound index _ (fun wire _ => wire.alike_farReceive wanted) own

theorem turns_hindered (sound : situation.Sound) (faults : List Fault) (descriptorsLeft : Bool)
    (own : Nat → Bool) :
    situation.Turns own
      (situation.disturb fun network => { network with faults, descriptorsLeft }) :=
  ⟨sound.ordered.of_outline rfl rfl, fun _ => .rest⟩

end Situation
end Tcp
end Framelink
