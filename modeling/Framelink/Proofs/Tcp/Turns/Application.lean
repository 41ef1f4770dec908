import Framelink.Proofs.Tcp.Turns.FarEnds

/-!
# What the application does

The application takes bytes from the inbox of one peer at a time, sends to peers,
which nobody else notices, and removes them.
-/

namespace Framelink
namespace Tcp

open Connection

namespace Situation

variable {situation : Situation}

/-! ## Taking bytes -/

/-- The outcome of taking bytes from the inbox of a tracked peer. -/
theorem turns_consumed (sound : situation.Sound) {id : UInt64} {peer : Peer Line}
    (tracked : situation.server.peer? id = some peer) (inbox : Inbox) (bytes : Bytes)
    (contents : peer.inbox.contents = bytes ++ inbox.contents) (change : Inbox → Inbox)
    (changed : change peer.inbox = inbox) (own : Nat → Bool) :
    situation.Turns own
      { situation.note peer.line.wire fun record =>
          { record with taken := record.taken ++ bytes } with
        server := Framelink.Server.modifyPeer situation.server id fun peer =>
          { peer with inbox := change peer.inbox } } := by
  have distinct := sound.ordered.distinct
  have session := Server.session?_of_peer? distinct tracked
  refine ⟨sound.ordered.of_outline (situation.server.outline_modifyPeer id _ fun _ => rfl) rfl,
    fun wire => ?_⟩
  have turned := Server.connection_modifyPeer (situation.call wire) (situation.removal? wire)
    ((situation.note peer.line.wire fun record =>
      { record with taken := record.taken ++ bytes }).record wire) wire distinct tracked
      (fun peer => { peer with inbox := change peer.inbox }) rfl
  refine Eq.subst (motive := fun later => Turn (own wire) (situation.connection wire) later)
    turned.symm ?_
  unfold note
  dsimp only
  by_cases here : wire = peer.line.wire
  · subst here
    rw [if_pos rfl, if_pos rfl, changed]
    exact .consumed peer { peer with inbox } bytes session contents rfl
  · rw [if_neg here, if_neg here]
    exact .rest

theorem turns_read (sound : situation.Sound) {id : UInt64} {peer : Peer Line}
    (tracked : situation.server.peer? id = some peer) (size : Nat) (erase : Bool)
    (own : Nat → Bool) :
    situation.Turns own
      { situation.note peer.line.wire fun record =>
          { record with
            taken := record.taken ++ if erase then (peer.inbox.read size erase).1 else [] } with
        server := Framelink.Server.modifyPeer situation.server id fun found =>
          { found with inbox := (peer.inbox.read size erase).2 } } := by
  cases erase with
  | false => exact turns_consumed sound tracked peer.inbox [] rfl (fun _ => peer.inbox) rfl own
  | true =>
      refine turns_consumed sound tracked (peer.inbox.read size true).2
        (peer.inbox.contents.take size) ?_ (fun _ => (peer.inbox.read size true).2) rfl own
      rw [Inbox.contents_read_erase, List.take_append_drop]

theorem turns_cleared (sound : situation.Sound) {id : UInt64} {peer : Peer Line}
    (tracked : situation.server.peer? id = some peer) (own : Nat → Bool) :
    situation.Turns own
      { situation.note peer.line.wire fun record =>
          { record with taken := record.taken ++ peer.inbox.contents } with
        server := Framelink.Server.modifyPeer situation.server id fun found =>
          { found with inbox := found.inbox.clear } } := by
  refine turns_consumed sound tracked peer.inbox.clear peer.inbox.contents ?_ Inbox.clear rfl own
  rw [Inbox.contents_clear, List.append_nil]

/-! ## Sending -/

/-- Only the network of a server changed, and it looks alike. -/
def OnlySent (server later : Server) : Prop :=
  ∃ network, server.network.Alike network ∧ later = server.withNetwork network

/-- No connection could tell that something was sent. -/
theorem turns_onlySent (sound : situation.Sound) {server : Server}
    (sent : OnlySent situation.server server) (own : Nat → Bool) :
    situation.Turns own { situation with server } := by
  obtain ⟨network, alike, rfl⟩ := sent
  refine ⟨sound.ordered.of_outline (situation.server.outline_withNetwork alike.listeners) rfl,
    fun wire => ?_⟩
  have turned := situation.server.connection_withNetwork (situation.call wire)
    (situation.removal? wire) (situation.record wire) wire network
  rw [Server.waits_of_listeners wire alike.listeners] at turned
  refine Eq.subst (motive := fun later => Turn (own wire) (situation.connection wire) later)
    turned.symm ?_
  have related := alike.wires wire
  cases found : situation.server.network.wire? wire with
  | none =>
      rw [found] at related
      generalize network.wire? wire = after at related ⊢
      cases related
      have same : (situation.connection wire).wire = none := found
      rw [← same]
      exact .rest
  | some established =>
      rw [found] at related
      generalize network.wire? wire = after at related ⊢
      cases related with
      | some alike => exact .touched established _ found alike

theorem turns_replaced (sound : situation.Sound) (onData onNewPeer : Option Reaction)
    (own : Nat → Bool) :
    situation.Turns own
      { situation with server := { situation.server with onData, onNewPeer } } :=
  ⟨sound.ordered.of_outline rfl rfl, fun _ => .rest⟩

theorem turns_adjusted (sound : situation.Sound) (settings : Settings) (own : Nat → Bool) :
    situation.Turns own { situation with server := { situation.server with settings } } :=
  ⟨sound.ordered.of_outline rfl rfl, fun _ => .rest⟩

/-! ## Removing -/

theorem removal?_begun (situation : Situation) (index wire : Nat)
    (free : situation.removal? index = none) :
    ((situation.removals ++ [Removal.mk index false]).find? (·.wire == wire)).map Removal.asked =
      if wire = index then some false else situation.removal? wire := by
  unfold removal? at free ⊢
  rw [List.find?_append]
  by_cases here : wire = index
  · subst here
    rw [Option.map_eq_none_iff] at free
    rw [free]
    simp
  · simp [here, Ne.symm here]

theorem turns_removed (sound : situation.Sound) {id : UInt64} {peer : Peer Line}
    (tracked : situation.server.peer? id = some peer) (own : Nat → Bool) :
    situation.Turns own
      { situation with
        server := situation.server.untrack id
        removals := situation.removals ++ [⟨peer.line.wire, false⟩] } := by
  have distinct := sound.ordered.distinct
  have session : (situation.connection peer.line.wire).session = some peer :=
    Server.session?_of_peer? distinct tracked
  have present : (situation.connection peer.line.wire).session.isSome := by
    rw [session]
    rfl
  have free := (sound.connections peer.line.wire).placed.tracked present
  obtain ⟨handles, wires⟩ := (distinct.untrack id).outline
  obtain ⟨door, _, _, admitting, starting, stopping, lodged⟩ := sound.ordered
  refine ⟨⟨door.congr rfl rfl, handles, wires, admitting, starting, stopping, lodged⟩,
    fun wire => ?_⟩
  have turned := Server.connection_untrack (situation.call wire)
    (((situation.removals ++ [Removal.mk peer.line.wire false]).find? (·.wire == wire)).map
      Removal.asked) (situation.record wire) wire distinct tracked
  refine Eq.subst (motive := fun later => Turn (own wire) (situation.connection wire) later)
    turned.symm ?_
  rw [situation.removal?_begun peer.line.wire wire free]
  by_cases here : wire = peer.line.wire
  · subst here
    rw [if_pos rfl, if_pos rfl]
    exact .untracked present
  · rw [if_neg here, if_neg here]
    exact .rest

theorem removal?_asked (situation : Situation) (index wire : Nat)
    (begun : situation.removal? index = some false) :
    ((situation.removals.map fun removal =>
      if removal.wire == index then { removal with asked := true } else removal).find?
        (·.wire == wire)).map Removal.asked =
      if wire = index then some true else situation.removal? wire := by
  unfold removal? at begun ⊢
  rw [find?_map_change Removal.wire index wire (fun removal => { removal with asked := true })
    (fun _ => rfl)]
  by_cases here : wire = index
  · subst here
    rw [if_pos rfl, if_pos rfl]
    obtain ⟨removal, found, _⟩ := Option.map_eq_some_iff.1 begun
    rw [found]
    rfl
  · rw [if_neg here, if_neg here]

theorem removal?_over (situation : Situation) (index wire : Nat) :
    ((situation.removals.filter fun removal => !(removal.wire == index)).find?
        (·.wire == wire)).map Removal.asked =
      if wire = index then none else situation.removal? wire := by
  unfold removal?
  rw [List.find?_filter]
  by_cases here : wire = index
  · subst here
    simp
  · rw [if_neg here]
    congr 2
    funext removal
    by_cases there : removal.wire = wire
    · simp [there, here]
    · simp [there]

theorem turns_asked (sound : situation.Sound) (index : Nat)
    (begun : situation.removal? index = some false) (own : Nat → Bool) :
    situation.Turns own (situation.ask index) := by
  have awaits := sound.ordered.door.awaits_iff index
  refine ⟨sound.ordered.of_outline rfl rfl, fun wire => ?_⟩
  have turned := situation.server.connection_passHandle (situation.call wire)
    ((situation.ask index).removal? wire) ((situation.ask index).record wire) wire index
    .stored .seized
  refine Eq.subst (motive := fun later => Turn (own wire) (situation.connection wire) later)
    turned.symm ?_
  have removal : (situation.ask index).removal? wire =
      if wire = index then some true else situation.removal? wire :=
    situation.removal?_asked index wire begun
  rw [removal]
  unfold ask note
  dsimp only
  by_cases here : wire = index
  · subst here
    rw [if_pos rfl, if_pos rfl, if_pos rfl]
    exact .asked begun _ awaits
  · rw [if_neg here, if_neg here, if_neg here]
    exact .rest

theorem turns_kept (sound : situation.Sound) (index : Nat)
    (asked : situation.removal? index = some true) (own : Nat → Bool) :
    situation.Turns own (situation.keep index) := by
  have door : (situation.server.detach index).outline.Door := sound.ordered.door
  have outline := (situation.server.detach index).outline_forsake index
  obtain ⟨established, found⟩ : ∃ established,
      situation.server.network.wire? index = some established := by
    cases found : situation.server.network.wire? index with
    | some established => exact ⟨established, rfl⟩
    | none =>
        obtain ⟨_, _, _, _, removal, _⟩ := (sound.connections index).placed.unmade found
        cases asked.symm.trans removal
  have held : (situation.server.detach index).network.wire? index = some established := found
  obtain ⟨later, kept, forsaken⟩ := door.forsaken held
  refine ⟨sound.ordered.of_outline outline rfl, fun wire => ?_⟩
  have call : (situation.keep index).call wire = situation.call wire := by
    refine call_congr ?_ ?_ wire
    · rfl
    · exact congrArg Outline.running outline
  have removal : (situation.keep index).removal? wire =
      if wire = index then none else situation.removal? wire :=
    situation.removal?_over index wire
  have turned := (situation.server.detach index).connection_forsake (situation.call wire)
    ((situation.keep index).removal? wire) (situation.record wire) wire index
  rw [removal] at turned
  unfold connection
  rw [call, removal]
  refine Eq.subst (motive := fun later => Turn (own wire) (situation.connection wire) later)
    turned.symm ?_
  by_cases here : wire = index
  · subst here
    rw [if_pos rfl, if_pos rfl, kept]
    have detached := situation.server.connection_passHandle (situation.call wire) none
      (situation.record wire) wire wire .seized .detached
    rw [if_pos rfl] at detached
    unfold Server.detach at *
    rw [detached]
    refine .kept established later found asked ?_
    have worker : ((situation.server.passHandle wire .seized .detached).worker? wire).isSome =
        (situation.server.worker? wire).isSome := by
      have alive := congrArg Connection.worker detached
      exact (congrArg Option.isSome alive).trans Option.isSome_map
    rw [worker] at forsaken
    exact forsaken
  · rw [if_neg here, if_neg here]
    have detached := situation.server.connection_passHandle (situation.call wire)
      (situation.removal? wire) (situation.record wire) wire index .seized .detached
    rw [if_neg here] at detached
    unfold Server.detach at *
    rw [detached]
    exact .rest

end Situation
end Tcp
end Framelink
