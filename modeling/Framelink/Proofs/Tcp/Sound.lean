import Framelink.Proofs.Tcp.Conservation
import Framelink.Proofs.Tcp.Custody
import Framelink.Proofs.Tcp.Ordered

/-!
# Sound situations

A situation is sound if its server is in order and everything that every turn keeps
holds of every connection.
-/

namespace Framelink
namespace Tcp

/-- Everything that every turn keeps holds of a connection. -/
structure Connection.Sound (c : Connection) : Prop where
  placed : c.Placed
  held : c.Held
  conserved : c.Conserved
  traced : c.Traced
  quieted : c.Quieted
  unsought : c.Unsought

theorem Connection.Turn.sound {own : Bool} {c later : Connection} (turn : Turn own c later)
    (sound : c.Sound) : later.Sound where
  placed := turn.placed sound.placed
  held := turn.held sound.placed sound.held
  conserved := turn.conserved sound.placed sound.conserved
  traced := turn.traced sound.placed sound.traced
  quieted := turn.quieted sound.traced sound.quieted
  unsought := turn.unsought sound.placed sound.traced sound.quieted sound.unsought

/-- A wire that was never established is a sound connection. -/
theorem Connection.sound_unmade (call : Call) :
    Connection.Sound ⟨call, none, false, .absent, none, none, none, .blank⟩ := by
  refine ⟨?_, ?_, ?_, ?_, ?_, ?_⟩
  · constructor <;> simp
  · constructor <;> simp
  · constructor <;> simp [Record.blank]
  · constructor <;> simp [custodyOf]
  · constructor <;> simp
  · constructor <;> simp [Record.blank]

namespace Situation

/-- The server is in order and every connection is sound. -/
structure Sound (situation : Situation) : Prop where
  ordered : situation.Ordered
  connections : ∀ wire, (situation.connection wire).Sound

/-- A later situation of a server in order, where every connection took a turn; `own`
says for which of them it was a step of its own worker. -/
structure Turns (situation : Situation) (own : Nat → Bool) (later : Situation) : Prop where
  ordered : later.Ordered
  turn : ∀ wire, Connection.Turn (own wire) (situation.connection wire) (later.connection wire)

theorem Turns.sound {situation later : Situation} {own : Nat → Bool}
    (turns : situation.Turns own later) (sound : situation.Sound) : later.Sound where
  ordered := turns.ordered
  connections := fun wire => (turns.turn wire).sound (sound.connections wire)

theorem Turns.refl {situation : Situation} (sound : situation.Sound) (own : Nat → Bool) :
    situation.Turns own situation where
  ordered := sound.ordered
  turn := fun _ => .rest

variable {situation : Situation}

/-- A living worker has a wire whose near end is open. -/
theorem Sound.worker_wire (sound : situation.Sound) {index : Nat} {worker : Worker}
    (alive : situation.server.worker? index = some worker) :
    ∃ wire, situation.server.network.wire? index = some wire ∧ wire.near.isOpen = true := by
  have ⟨placed, held, _, _, _, _⟩ := sound.connections index
  have present : (situation.connection index).worker = some worker := alive
  cases found : situation.server.network.wire? index with
  | none =>
      obtain ⟨_, _, _, gone, _, _⟩ := placed.unmade found
      rw [present] at gone
      cases gone
  | some wire =>
      refine ⟨wire, rfl, held.near wire found ?_⟩
      rw [present]
      exact Or.inr (Or.inr (Or.inr rfl))

end Situation
end Tcp
end Framelink
