import Framelink.Proofs.Faults
import Mathlib.Logic.Relation

/-!
# What calls leave alone

A call of the library that exchanges no data changes at most the faults that wait
and the next port to be given out, and it never brings a fault.  One that does exchange
data leaves alone what the other direction of its wire holds.
-/

namespace Framelink

/-! ## Wires -/

/-- A wire that differs at most in what no receive at the near end depends on. -/
structure Wire.Alike (wire later : Wire) : Prop where
  inbound : later.inbound = wire.inbound
  near : later.near.isOpen = wire.near.isOpen
  far : later.far = .connected ↔ wire.far = .connected

namespace Wire

theorem Alike.refl (wire : Wire) : wire.Alike wire := ⟨rfl, rfl, Iff.rfl⟩

theorem Alike.trans {first second third : Wire} (early : first.Alike second)
    (late : second.Alike third) : first.Alike third :=
  ⟨late.inbound.trans early.inbound, late.near.trans early.near, late.far.trans early.far⟩

theorem isOpen_silence (wireEnd : WireEnd) : wireEnd.silence.2.isOpen = wireEnd.isOpen := by
  unfold WireEnd.silence
  split <;> rfl

theorem delivery_connected (bytes : Bytes) (wireEnd : WireEnd) :
    (wireEnd.delivery bytes).2 = .connected ↔ wireEnd = .connected := by
  unfold WireEnd.delivery
  split <;> simp

/-- A send from the near end takes nothing from it. -/
theorem alike_send (wire : Wire) (bytes : Bytes) : wire.Alike (wire.send bytes).2 := by
  unfold send
  split
  · exact Alike.refl wire
  · have far := delivery_connected bytes wire.far
    cases sent : wire.far.delivery bytes with
    | mk result later =>
        rw [sent] at far
        cases result with
        | ok arriving => exact ⟨rfl, rfl, far⟩
        | error failure => exact ⟨rfl, rfl, far⟩

/-- A receive at the far end takes nothing from the near end. -/
theorem alike_farReceive (wire : Wire) (wanted : Nat) :
    wire.Alike (wire.farReceive wanted).2.2 := by
  unfold farReceive
  dsimp only
  split
  · exact ⟨rfl, rfl, Iff.rfl⟩
  · have near := isOpen_silence wire.near
    split
    · next silent =>
        rw [silent] at near
        exact ⟨rfl, near, Iff.rfl⟩
    · next silent =>
        rw [silent] at near
        exact ⟨rfl, near, Iff.rfl⟩

/-- Nothing arrives at a near end that has closed. -/
theorem alike_farSend (wire : Wire) (bytes : Bytes) (shut : wire.near.isOpen = false) :
    wire.Alike (wire.farSend bytes).2 := by
  unfold farSend
  split
  · exact Alike.refl wire
  · split
    · next connected =>
        cases near : wire.near with
        | connected => rw [near] at shut; cases shut
        | finished spent => rw [near] at shut; cases shut
        | closed probed unsettled =>
            cases probed <;>
              exact ⟨by simp [WireEnd.delivery], by simp [WireEnd.delivery, near, WireEnd.isOpen],
                by simp [WireEnd.delivery]⟩
        | aborted told =>
            cases told <;>
              exact ⟨by simp [WireEnd.delivery], by simp [WireEnd.delivery, near, WireEnd.isOpen],
                by simp [WireEnd.delivery]⟩
    · next spent => exact ⟨rfl, rfl, by simp [spent]⟩
    · exact Alike.refl wire

/-- All bytes arrive at a near end that is open. -/
theorem farSend_arrives (wire : Wire) (bytes : Bytes) (isOpen : wire.near.isOpen = true)
    (connected : wire.far = .connected) :
    (wire.farSend bytes).2 = { wire with inbound := wire.inbound ++ bytes } := by
  unfold farSend
  split
  · next empty => simp [List.isEmpty_iff.1 empty]
  · rw [connected]
    cases near : wire.near with
    | connected => simp [WireEnd.delivery]
    | finished spent => simp [WireEnd.delivery]
    | closed probed unsettled => rw [near] at isOpen; cases isOpen
    | aborted told => rw [near] at isOpen; cases isOpen

/-- No bytes, nothing sent. -/
theorem farSend_nil (wire : Wire) : (wire.farSend []).2 = wire := rfl

/-- What a receive with room finds: the front of the bytes, the end of the stream
after the last of them, or an error. -/
theorem receive_cases (wire : Wire) (room : Nat) (positive : room ≠ 0)
    (isOpen : wire.near.isOpen = true) :
    (wire.inbound ≠ [] ∧ wire.receive room =
        (.ok (wire.inbound.take room), { wire with inbound := wire.inbound.drop room })) ∨
      (wire.inbound = [] ∧ wire.far ≠ .connected ∧ wire.receive room = (.ok [], wire)) ∨
      ∃ failure later, wire.receive room = (.error failure, later) ∧ wire.Alike later := by
  unfold receive
  rw [if_neg positive]
  split
  · next waiting =>
      left
      exact ⟨by simpa using waiting, rfl⟩
  · next empty =>
      have inbound : wire.inbound = [] := by simpa using empty
      rw [isOpen]
      right
      cases far : wire.far with
      | connected =>
          right
          exact ⟨_, _, rfl, rfl, rfl, by simp [far]⟩
      | finished spent =>
          left
          exact ⟨inbound, by simp, by simp [WireEnd.silence, ← far]⟩
      | closed probed unsettled =>
          cases unsettled with
          | false =>
              left
              exact ⟨inbound, by simp, by simp [WireEnd.silence, ← far]⟩
          | true =>
              right
              exact ⟨_, _, rfl, rfl, rfl, by simp [far]⟩
      | aborted told =>
          cases told with
          | false =>
              right
              exact ⟨_, _, rfl, rfl, rfl, by simp [far]⟩
          | true =>
              left
              exact ⟨inbound, by simp, by simp [WireEnd.silence, ← far]⟩

end Wire

/-! ## Networks -/

namespace Network

/-- A network that differs at most in the faults that wait and in the next port. -/
def Steady (network later : Network) : Prop :=
  later = { network with faults := later.faults, nextPort := later.nextPort }

theorem Steady.refl (network : Network) : network.Steady network := rfl

theorem Steady.trans {first second third : Network} (early : first.Steady second)
    (late : second.Steady third) : first.Steady third := by
  unfold Steady at early late ⊢
  rw [late, early]

theorem Steady.wires {network later : Network} (steady : network.Steady later) :
    later.wires = network.wires := by
  rw [steady]

theorem Steady.listeners {network later : Network} (steady : network.Steady later) :
    later.listeners = network.listeners := by
  rw [steady]

theorem Steady.mailboxes {network later : Network} (steady : network.Steady later) :
    later.mailboxes = network.mailboxes := by
  rw [steady]

/-- What calls that exchange no data make of a network: it differs at most in the next port
and in the faults that wait, which wear off. -/
structure Tried (network later : Network) : Prop where
  steady : network.Steady later
  worn : Fault.Worn network.faults later.faults

theorem Tried.refl (network : Network) : network.Tried network :=
  ⟨Steady.refl network, Fault.Worn.refl network.faults⟩

theorem Tried.trans {first second third : Network} (early : first.Tried second)
    (late : second.Tried third) : first.Tried third :=
  ⟨early.steady.trans late.steady, early.worn.trans late.worn⟩

theorem tried_consult (network : Network) (call : SystemCall) :
    network.Tried (network.consult call).2 :=
  ⟨rfl, Fault.worn_strike call network.faults⟩

theorem tried_attempt (network : Network) (call : SystemCall) :
    network.Tried (network.attempt call).2 := by
  unfold attempt
  have tried := network.tried_consult call
  split
  · next struck => rwa [struck] at tried
  · next spared => rwa [spared] at tried

theorem tried_attemptAll (network : Network) (calls : List SystemCall) :
    network.Tried (network.attemptAll calls).2 := by
  induction calls generalizing network with
  | nil => exact Tried.refl network
  | cons call rest inductionHypothesis =>
      unfold attemptAll
      have tried := network.tried_attempt call
      split
      · next failed => rwa [failed] at tried
      · next made =>
          rw [made] at tried
          exact tried.trans (inductionHypothesis _)

theorem Tried.of_consult {network later : Network} {call : SystemCall} {struck : Option Fault}
    (consulted : network.consult call = (struck, later)) : network.Tried later := by
  have tried := network.tried_consult call
  rwa [consulted] at tried

theorem Tried.of_attempt {network later : Network} {call : SystemCall}
    {result : Except Failure Unit} (attempted : network.attempt call = (result, later)) :
    network.Tried later := by
  have tried := network.tried_attempt call
  rwa [attempted] at tried

theorem Tried.of_attemptAll {network later : Network} {calls : List SystemCall}
    {result : Except Failure Unit} (attempted : network.attemptAll calls = (result, later)) :
    network.Tried later := by
  have tried := network.tried_attemptAll calls
  rwa [attempted] at tried

theorem tried_openSocket (network : Network) : network.Tried network.openSocket.2 := by
  unfold openSocket
  have tried := network.tried_attempt .socket
  split
  · next made =>
      rw [made] at tried
      split <;> exact tried
  · exact tried

theorem tried_freePort (network : Network) : network.Tried network.freePort.2 :=
  ⟨rfl, Fault.Worn.refl network.faults⟩

theorem tried_bindAddress (network : Network) (taken : List UInt16)
    (address : SocketAddress) : network.Tried (network.bindAddress taken address).2 := by
  unfold bindAddress
  split
  · exact Tried.refl network
  · split
    · exact network.tried_freePort
    · split <;> exact Tried.refl network

/-! ## The wires of a network -/

theorem wire?_modifyWire (network : Network) (index other : Nat) (change : Wire → Wire) :
    (network.modifyWire index change).wire? other =
      if other = index then (network.wire? other).map change else network.wire? other := by
  unfold modifyWire wire?
  rw [List.getElem?_modify]
  by_cases same : index = other
  · subst same
    cases network.wires[index]? <;> simp
  · rw [if_neg (Ne.symm same)]
    cases network.wires[other]? <;> simp [same]

theorem wire?_establish (network : Network) (port : UInt16) (address : SocketAddress)
    (other : Nat) :
    (network.establish port address).2.wire? other =
      if other = network.wires.length then some (.fresh address) else network.wire? other := by
  unfold establish wire?
  by_cases same : other = network.wires.length
  · subst same
    simp
  · rw [if_neg same]
    by_cases before : other < network.wires.length
    · exact List.getElem?_append_left before
    · rw [List.getElem?_eq_none (by simp; omega), List.getElem?_eq_none (by omega)]

theorem wire?_length (network : Network) : network.wire? network.wires.length = none :=
  List.getElem?_eq_none (Nat.le_refl _)

/-- A network whose wires differ at most in what no receive at a near end depends on,
and whose listeners do not differ. -/
structure Alike (network later : Network) : Prop where
  listeners : later.listeners = network.listeners
  wires : ∀ index, Option.Rel Wire.Alike (network.wire? index) (later.wire? index)

theorem Alike.refl (network : Network) : network.Alike network := by
  refine ⟨rfl, fun index => ?_⟩
  cases network.wire? index with
  | none => exact .none
  | some wire => exact .some (Wire.Alike.refl wire)

theorem Alike.trans {first second third : Network} (early : first.Alike second)
    (late : second.Alike third) : first.Alike third := by
  refine ⟨late.listeners.trans early.listeners, fun index => ?_⟩
  have before := early.wires index
  have after := late.wires index
  generalize first.wire? index = start at before ⊢
  generalize second.wire? index = middle at before after
  generalize third.wire? index = final at after ⊢
  cases before with
  | none =>
      cases after
      exact .none
  | some near =>
      cases after with
      | some far => exact .some (near.trans far)

theorem Steady.alike {network later : Network} (steady : network.Steady later) :
    network.Alike later := by
  refine ⟨steady.listeners, fun index => ?_⟩
  have same : later.wire? index = network.wire? index := by
    unfold wire?
    rw [steady.wires]
  rw [same]
  exact (Alike.refl network).wires index

theorem alike_modifyWire (network : Network) (index : Nat) (change : Wire → Wire)
    (alike : ∀ wire, network.wire? index = some wire → wire.Alike (change wire)) :
    network.Alike (network.modifyWire index change) := by
  refine ⟨rfl, fun other => ?_⟩
  rw [wire?_modifyWire]
  by_cases same : other = index
  · subst same
    rw [if_pos rfl]
    cases found : network.wire? other with
    | none => exact .none
    | some wire => exact .some (alike wire found)
  · rw [if_neg same]
    exact (Alike.refl network).wires other

/-- A send from a near end takes nothing from any near end. -/
theorem alike_sendStream (network : Network) (index : Nat) (bytes : Bytes) :
    network.Alike (network.sendStream index bytes).2 := by
  have deliver : ∀ (network : Network) (bytes : Bytes) (wire : Wire),
      network.wire? index = some wire →
        network.Alike (network.modifyWire index fun _ => (wire.send bytes).2) := by
    intro network bytes wire found
    refine alike_modifyWire network index _ ?_
    intro same present
    cases found.symm.trans present
    exact Wire.alike_send wire bytes
  have steady := (network.tried_consult .send).steady.alike
  unfold sendStream
  dsimp only
  split
  · next fault later struck =>
      rw [struck] at steady
      split
      · split
        · exact steady
        · next wire found => exact steady.trans (deliver later _ wire found)
      · exact steady
  · next later spared =>
      rw [spared] at steady
      split
      · exact steady
      · next wire found => exact steady.trans (deliver later _ wire found)

theorem worn_sendStream (network : Network) (index : Nat) (bytes : Bytes) :
    Fault.Worn network.faults (network.sendStream index bytes).2.faults := by
  have worn := (network.tried_consult .send).worn
  unfold sendStream
  dsimp only
  split
  · next struck =>
      rw [struck] at worn
      split
      · split <;> exact worn
      · exact worn
  · next spared =>
      rw [spared] at worn
      split <;> exact worn

/-! ## Rows of sends -/

/-- A network after a row of sends from near ends. -/
def Sends : Network → Network → Prop :=
  Relation.ReflTransGen fun before after =>
    ∃ index bytes, after = (before.sendStream index bytes).2

theorem sends_sendStream (network : Network) (index : Nat) (bytes : Bytes) :
    network.Sends (network.sendStream index bytes).2 :=
  .single ⟨index, bytes, rfl⟩

theorem Sends.alike {network later : Network} (sends : network.Sends later) :
    network.Alike later := by
  induction sends with
  | refl => exact .refl network
  | @tail before _ _ sent alike =>
      obtain ⟨index, bytes, rfl⟩ := sent
      exact alike.trans (before.alike_sendStream index bytes)

theorem Sends.worn {network later : Network} (sends : network.Sends later) :
    Fault.Worn network.faults later.faults := by
  induction sends with
  | refl => exact .refl network.faults
  | @tail before _ _ sent worn =>
      obtain ⟨index, bytes, rfl⟩ := sent
      exact worn.trans (before.worn_sendStream index bytes)

end Network
end Framelink
