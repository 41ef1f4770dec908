import Framelink.Proofs.Tcp.Connection
import Mathlib.Data.List.Nodup

/-!
# What each operation of a server does to each connection

One equation for each operation that the steps of the threads and the calls of the
application are made of.  Every proof about a step works with these equations and
never looks into the lists of a server.
-/

namespace Framelink
namespace Tcp

/-- Changing the entries of one key changes what is found under it and nothing else. -/
theorem find?_map_change {Entry : Type} (key : Entry → Nat) (index wire : Nat)
    (change : Entry → Entry) (keeps : ∀ entry, key (change entry) = key entry)
    (entries : List Entry) :
    (entries.map fun entry => if key entry == index then change entry else entry).find?
        (key · == wire) =
      if wire = index then (entries.find? (key · == wire)).map change
      else entries.find? (key · == wire) := by
  have apart : ((key · == wire) ∘ fun entry =>
      if key entry == index then change entry else entry) = (key · == wire) := by
    funext entry
    by_cases same : key entry = index
    · simp [same, keeps]
    · simp [same]
  rw [List.find?_map, apart]
  cases found : entries.find? (key · == wire) with
  | none => simp
  | some entry =>
      have here : key entry = wire := by simpa using List.find?_some found
      by_cases same : wire = index
      · simp [here, same]
      · simp [here, same]

namespace Server

variable (server : Server) (call : Call) (removal : Option Bool) (record : Record) (wire : Nat)

/-! ## The network -/

theorem connection_withNetwork (network : Network) :
    (server.withNetwork network).connection call removal record wire =
      { server.connection call removal record wire with
        wire := network.wire? wire
        waits := waits network wire } := rfl

theorem waits_of_listeners {network later : Network}
    (listeners : later.listeners = network.listeners) : waits later wire = waits network wire := by
  unfold waits
  rw [listeners]

theorem connection_steady {network : Network} (steady : server.network.Steady network) :
    (server.withNetwork network).connection call removal record wire =
      server.connection call removal record wire := by
  have same : network.wire? wire = server.network.wire? wire := by
    unfold Network.wire?
    rw [steady.wires]
  rw [connection_withNetwork, same, waits_of_listeners wire steady.listeners]
  rfl

theorem connection_modifyWire (index : Nat) (change : Wire → Wire) :
    (server.modifyNetwork (·.modifyWire index change)).connection call removal record wire =
      if wire = index then
        { server.connection call removal record wire with
          wire := (server.network.wire? wire).map change }
      else server.connection call removal record wire := by
  unfold modifyNetwork
  rw [connection_withNetwork, Network.wire?_modifyWire]
  by_cases same : wire = index
  · rw [if_pos same, if_pos same]
    rfl
  · rw [if_neg same, if_neg same]
    rfl

theorem connection_shutWire (index : Nat) :
    (server.shutWire index).connection call removal record wire =
      if wire = index then
        { server.connection call removal record wire with
          wire := (server.network.wire? wire).map Wire.shutNear }
      else server.connection call removal record wire :=
  server.connection_modifyWire call removal record wire index Wire.shutNear

theorem connection_dropWire (index : Nat) :
    (server.dropWire index).connection call removal record wire =
      if wire = index then
        { server.connection call removal record wire with
          wire := (server.network.wire? wire).map Wire.closeNear }
      else server.connection call removal record wire :=
  server.connection_modifyWire call removal record wire index Wire.closeNear

/-! ## Workers -/

/-- Where only the workers changed, each connection differs by its own. -/
theorem connection_of_worker {server later : Server} {index : Nat} {worker : Option Worker}
    (elsewhere : later.connection call removal record wire =
      { server.connection call removal record wire with worker := later.worker? wire })
    (found : later.worker? wire = if wire = index then worker else server.worker? wire) :
    later.connection call removal record wire =
      if wire = index then { server.connection call removal record wire with worker }
      else server.connection call removal record wire := by
  rw [elsewhere, found]
  by_cases same : wire = index
  · rw [if_pos same, if_pos same]
  · rw [if_neg same, if_neg same]
    rfl

theorem worker?_modifyWorker (index : Nat) (change : Worker → Worker)
    (keeps : ∀ worker, (change worker).wire = worker.wire) :
    (server.modifyWorker index change).worker? wire =
      if wire = index then (server.worker? wire).map change else server.worker? wire :=
  find?_map_change Worker.wire index wire change keeps server.service.workers

theorem connection_modifyWorker (index : Nat) (change : Worker → Worker)
    (keeps : ∀ worker, (change worker).wire = worker.wire) :
    (server.modifyWorker index change).connection call removal record wire =
      if wire = index then
        { server.connection call removal record wire with
          worker := (server.worker? wire).map change }
      else server.connection call removal record wire := by
  exact connection_of_worker call removal record wire rfl
    (server.worker?_modifyWorker wire index change keeps)

theorem connection_moveWorker (index : Nat) (phase : Worker.Phase) :
    (server.moveWorker index phase).connection call removal record wire =
      if wire = index then
        { server.connection call removal record wire with
          worker := (server.worker? wire).map fun worker => { worker with phase } }
      else server.connection call removal record wire :=
  server.connection_modifyWorker call removal record wire index _ fun _ => rfl

theorem connection_passHandle (index : Nat) (source target : Custody) :
    (server.passHandle index source target).connection call removal record wire =
      if wire = index then
        { server.connection call removal record wire with
          worker := (server.worker? wire).map (Worker.pass source target) }
      else server.connection call removal record wire :=
  server.connection_modifyWorker call removal record wire index _
    (Worker.wire_pass source target)

theorem connection_passHandles (source target : Custody) :
    (server.passHandles source target).connection call removal record wire =
      { server.connection call removal record wire with
        worker := (server.worker? wire).map (Worker.pass source target) } := by
  have found : (server.passHandles source target).worker? wire =
      (server.worker? wire).map (Worker.pass source target) := by
    unfold worker? passHandles
    dsimp only
    have keeps : ((fun worker : Worker => worker.wire == wire) ∘ fun worker : Worker =>
        if worker.custody = source then { worker with custody := target } else worker) =
        fun worker => worker.wire == wire := by
      funext worker
      exact congrArg (· == wire) (Worker.wire_pass source target worker)
    rw [List.find?_map, keeps]
    rfl
  unfold connection
  rw [found]
  rfl

theorem connection_endWorker (index : Nat) :
    (server.endWorker index).connection call removal record wire =
      if wire = index then
        { server.connection call removal record wire with worker := none }
      else server.connection call removal record wire := by
  have found : (server.endWorker index).worker? wire =
      if wire = index then none else server.worker? wire := by
    unfold worker? endWorker
    dsimp only
    rw [List.find?_filter]
    by_cases same : wire = index
    · subst same
      simp
    · rw [if_neg same]
      congr 1
      funext worker
      by_cases here : worker.wire = wire
      · simp [here, same]
      · simp [here]
  exact connection_of_worker call removal record wire rfl found

/-! ## Tracked peers -/

/-- No two tracked peers have one number or one wire. -/
structure Distinct : Prop where
  handles : server.peers.handles.Nodup
  wires : server.trackedWires.Nodup

/-- Where only the tracked peers changed, each connection differs by its own. -/
theorem connection_of_session {server later : Server} {index : Nat} {session : Option (Peer Line)}
    (elsewhere : later.connection call removal record wire =
      { server.connection call removal record wire with session := later.session? wire })
    (found : later.session? wire = if wire = index then session else server.session? wire) :
    later.connection call removal record wire =
      if wire = index then { server.connection call removal record wire with session }
      else server.connection call removal record wire := by
  rw [elsewhere, found]
  by_cases same : wire = index
  · rw [if_pos same, if_pos same]
  · rw [if_neg same, if_neg same]
    rfl

theorem connection_modifySession (index : Nat) (change : Peer Line → Peer Line)
    (keeps : ∀ peer, (change peer).line.wire = peer.line.wire) :
    (server.modifySession index change).connection call removal record wire =
      if wire = index then
        { server.connection call removal record wire with
          session := (server.session? wire).map change }
      else server.connection call removal record wire := by
  have found : (server.modifySession index change).session? wire =
      if wire = index then (server.session? wire).map change else server.session? wire := by
    unfold session? modifySession
    rw [← find?_map_change (fun peer : Peer Line => peer.line.wire) index wire change keeps,
      List.map_map, List.map_map]
    rfl
  exact connection_of_session call removal record wire rfl found

theorem connection_pushSession (index : Nat) (bytes : Bytes) :
    (server.pushSession index bytes).connection call removal record wire =
      if wire = index then
        { server.connection call removal record wire with
          session := (server.session? wire).map (pushedPeer bytes) }
      else server.connection call removal record wire :=
  server.connection_modifySession call removal record wire index _ fun _ => rfl

theorem connection_closeSession (index : Nat) :
    (server.closeSession index).connection call removal record wire =
      if wire = index then
        { server.connection call removal record wire with
          session := (server.session? wire).map closedPeer }
      else server.connection call removal record wire :=
  server.connection_modifySession call removal record wire index _ fun _ => rfl

theorem mem_of_peer? {server : Server} {id : UInt64} {peer : Peer Line}
    (tracked : server.peer? id = some peer) : (id, peer) ∈ server.peers := by
  obtain ⟨front, back, listed, _⟩ := List.lookup_eq_some_iff.1
    (show List.lookup id server.peers = some peer from tracked)
  rw [listed]
  exact List.mem_append_right front List.mem_cons_self

/-- A tracked peer is the one that is found under its number. -/
theorem peer?_of_mem {server : Server} (distinct : server.Distinct) {id : UInt64}
    {peer : Peer Line} (member : (id, peer) ∈ server.peers) : server.peer? id = some peer := by
  have tracked : server.peers.tracks id = true :=
    (server.peers.tracks_iff_mem id).2 (List.mem_map_of_mem (f := Prod.fst) member)
  obtain ⟨other, found⟩ := Option.isSome_iff_exists.1 tracked
  have same := List.inj_on_of_nodup_map distinct.handles member (mem_of_peer? found) rfl
  rw [(Prod.mk.inj same).2]
  exact found

/-- Peers of different numbers are on different wires. -/
theorem Distinct.wires_apart {server : Server} (distinct : server.Distinct) {id other : UInt64}
    {peer neighbour : Peer Line} (tracked : server.peer? id = some peer)
    (known : server.peer? other = some neighbour) (apart : id ≠ other) :
    peer.line.wire ≠ neighbour.line.wire := by
  intro same
  have one := List.inj_on_of_nodup_map distinct.wires (mem_of_peer? tracked)
    (mem_of_peer? known) same
  exact apart (Prod.mk.inj one).1

/-- A tracked peer stands in one place of the table. -/
theorem peers_eq {server : Server} (distinct : server.Distinct) {id : UInt64} {peer : Peer Line}
    (tracked : server.peer? id = some peer) :
    ∃ front back : PeerTable UInt64 Line, server.peers = front ++ (id, peer) :: back ∧
      (∀ entry ∈ front ++ back, entry.1 ≠ id) ∧
      ∀ entry ∈ front ++ back, entry.2.line.wire ≠ peer.line.wire := by
  obtain ⟨front, back, same⟩ := List.append_of_mem (mem_of_peer? tracked)
  have handles := distinct.handles
  have wires := distinct.wires
  unfold PeerTable.handles at handles
  unfold trackedWires at wires
  rw [same, List.map_append, List.map_cons, List.perm_middle.nodup_iff, List.nodup_cons,
    ← List.map_append] at handles wires
  refine ⟨front, back, same, ?_, ?_⟩
  · intro entry listed equal
    exact handles.1 (List.mem_map.2 ⟨entry, listed, equal⟩)
  · intro entry listed equal
    exact wires.1 (List.mem_map.2 ⟨entry, listed, equal⟩)

/-- The peer on a wire in a table. -/
def sessionIn (table : PeerTable UInt64 Line) (wire : Nat) : Option (Peer Line) :=
  (table.map Prod.snd).find? fun peer => peer.line.wire == wire

theorem sessionIn_eq_none {table : PeerTable UInt64 Line} {wire : Nat}
    (other : ∀ entry ∈ table, entry.2.line.wire ≠ wire) : sessionIn table wire = none := by
  unfold sessionIn
  rw [List.find?_eq_none]
  intro peer listed
  obtain ⟨entry, member, rfl⟩ := List.mem_map.1 listed
  simpa using other entry member

theorem sessionIn_middle (front back : PeerTable UInt64 Line) (id : UInt64) (peer : Peer Line)
    (other : ∀ entry ∈ front ++ back, entry.2.line.wire ≠ peer.line.wire) (wire : Nat) :
    sessionIn (front ++ (id, peer) :: back) wire =
      if wire = peer.line.wire then some peer else sessionIn (front ++ back) wire := by
  have split : ∀ first second : PeerTable UInt64 Line,
      sessionIn (first ++ second) wire = (sessionIn first wire).or (sessionIn second wire) := by
    intro first second
    unfold sessionIn
    rw [List.map_append, List.find?_append]
  rw [split, split]
  by_cases here : wire = peer.line.wire
  · subst here
    have missing : sessionIn front peer.line.wire = none :=
      sessionIn_eq_none fun entry listed => other entry (List.mem_append_left back listed)
    rw [missing]
    simp [sessionIn]
  · rw [if_neg here]
    simp [sessionIn, Ne.symm here]

theorem erase_middle {front back : PeerTable UInt64 Line} {id : UInt64} (peer : Peer Line)
    (other : ∀ entry ∈ front ++ back, entry.1 ≠ id) :
    PeerTable.erase (front ++ (id, peer) :: back) id = front ++ back := by
  have kept : ∀ table : PeerTable UInt64 Line, (∀ entry ∈ table, entry.1 ≠ id) →
      table.filter (fun entry => !(entry.1 == id)) = table := by
    intro table apart
    rw [List.filter_eq_self]
    intro entry listed
    simpa using apart entry listed
  unfold PeerTable.erase
  rw [List.filter_append, List.filter_cons,
    kept front fun entry listed => other entry (List.mem_append_left back listed),
    kept back fun entry listed => other entry (List.mem_append_right front listed)]
  simp

theorem modify_middle {front back : PeerTable UInt64 Line} {id : UInt64} (peer : Peer Line)
    (change : Peer Line → Peer Line) (other : ∀ entry ∈ front ++ back, entry.1 ≠ id) :
    PeerTable.modify (front ++ (id, peer) :: back) id change =
      front ++ (id, change peer) :: back := by
  have kept : ∀ table : PeerTable UInt64 Line, (∀ entry ∈ table, entry.1 ≠ id) →
      PeerTable.modify table id change = table := by
    intro table apart
    induction table with
    | nil => rfl
    | cons entry rest inductionHypothesis =>
        have first := apart entry List.mem_cons_self
        have others := inductionHypothesis fun entry listed =>
          apart entry (List.mem_cons_of_mem _ listed)
        unfold PeerTable.modify at others ⊢
        rw [List.map_cons, others]
        simp [first]
  have early := kept front fun entry listed => other entry (List.mem_append_left back listed)
  have late := kept back fun entry listed => other entry (List.mem_append_right front listed)
  unfold PeerTable.modify at early late ⊢
  rw [List.map_append, List.map_cons, early, late]
  simp

/-- The tracked peer of a number is the one on its wire. -/
theorem session?_of_peer? {server : Server} (distinct : server.Distinct) {id : UInt64}
    {peer : Peer Line} (tracked : server.peer? id = some peer) :
    server.session? peer.line.wire = some peer := by
  obtain ⟨front, back, same, _, wires⟩ := peers_eq distinct tracked
  have found := sessionIn_middle front back id peer wires peer.line.wire
  rw [← same, if_pos rfl] at found
  exact found

theorem tracksWire_eq : server.tracksWire wire = (server.session? wire).isSome := by
  rw [Bool.eq_iff_iff]
  unfold tracksWire session?
  rw [List.any_eq_true, List.find?_isSome]
  constructor
  · rintro ⟨entry, listed, here⟩
    exact ⟨entry.2, List.mem_map_of_mem listed, here⟩
  · rintro ⟨peer, listed, here⟩
    obtain ⟨entry, member, rfl⟩ := List.mem_map.1 listed
    exact ⟨entry, member, here⟩

theorem connection_modifyPeer {server : Server} (distinct : server.Distinct) {id : UInt64}
    {peer : Peer Line} (tracked : server.peer? id = some peer) (change : Peer Line → Peer Line)
    (keeps : (change peer).line.wire = peer.line.wire) :
    Server.connection (Framelink.Server.modifyPeer server id change) call removal record wire =
      if wire = peer.line.wire then
        { server.connection call removal record wire with session := some (change peer) }
      else server.connection call removal record wire := by
  obtain ⟨front, back, same, handles, wires⟩ := peers_eq distinct tracked
  have found : Server.session? (Framelink.Server.modifyPeer server id change) wire =
      if wire = peer.line.wire then some (change peer) else server.session? wire := by
    have before := sessionIn_middle front back id peer wires wire
    have after := sessionIn_middle front back id (change peer) (keeps ▸ wires) wire
    rw [← same] at before
    rw [← modify_middle peer change handles, ← same, keeps] at after
    refine Eq.trans after ?_
    by_cases here : wire = peer.line.wire
    · rw [if_pos here, if_pos here]
    · rw [if_neg here] at before
      rw [if_neg here, if_neg here]
      exact before.symm
  exact connection_of_session call removal record wire rfl found

theorem connection_untrack {server : Server} (distinct : server.Distinct) {id : UInt64}
    {peer : Peer Line} (tracked : server.peer? id = some peer) :
    Server.connection (Framelink.Server.untrack server id) call removal record wire =
      if wire = peer.line.wire then
        { server.connection call removal record wire with session := none }
      else server.connection call removal record wire := by
  obtain ⟨front, back, same, handles, wires⟩ := peers_eq distinct tracked
  have found : Server.session? (Framelink.Server.untrack server id) wire =
      if wire = peer.line.wire then none else server.session? wire := by
    have before := sessionIn_middle front back id peer wires wire
    have left : (Framelink.Server.untrack server id).peers = front ++ back := by
      unfold Framelink.Server.untrack
      rw [same]
      exact erase_middle peer handles
    have after : Server.session? (Framelink.Server.untrack server id) wire =
        sessionIn (front ++ back) wire := by
      rw [← left]
      rfl
    rw [← same] at before
    rw [after]
    by_cases here : wire = peer.line.wire
    · rw [if_pos here, here]
      exact sessionIn_eq_none wires
    · rw [if_neg here] at before ⊢
      exact before.symm
  exact connection_of_session call removal record wire rfl found

theorem session?_eq_none {server : Server} {wire : Nat} (free : server.session? wire = none) :
    ∀ entry ∈ server.peers, entry.2.line.wire ≠ wire := by
  intro entry listed
  unfold session? at free
  rw [List.find?_eq_none] at free
  simpa using free entry.2 (List.mem_map_of_mem listed)

/-- The table after a peer was tracked: a peer of its number gives its place up. -/
theorem peers_track {server : Server} (distinct : server.Distinct) (id : UInt64)
    (peer : Peer Line) :
    (server.peer? id = none ∧
        (Framelink.Server.track server id peer).peers = server.peers ++ [(id, peer)]) ∨
      ∃ old front back, server.peer? id = some old ∧
        server.peers = front ++ (id, old) :: back ∧
        (Framelink.Server.track server id peer).peers = front ++ (id, peer) :: back ∧
        ∀ entry ∈ front ++ back, entry.2.line.wire ≠ old.line.wire := by
  unfold Framelink.Server.track PeerTable.insert
  cases tracked : server.peer? id with
  | none =>
      have untracked : server.peers.tracks id = false := by
        unfold PeerTable.tracks
        rw [show server.peers.find? id = none from tracked]
        rfl
      rw [if_neg (by rw [untracked]; decide)]
      exact Or.inl ⟨rfl, rfl⟩
  | some old =>
      have present : server.peers.tracks id = true := by
        unfold PeerTable.tracks
        rw [show server.peers.find? id = some old from tracked]
        rfl
      obtain ⟨front, back, same, handles, wires⟩ := peers_eq distinct tracked
      rw [if_pos present]
      refine Or.inr ⟨old, front, back, rfl, same, ?_, wires⟩
      rw [same]
      exact modify_middle old (fun _ => peer) handles

/-- A peer that is tracked takes the place of the one of its number. -/
theorem connection_track {server : Server} (distinct : server.Distinct) (id : UInt64)
    (peer : Peer Line) (free : server.session? peer.line.wire = none) :
    Server.connection (Framelink.Server.track server id peer) call removal record wire =
      if wire = peer.line.wire then
        { server.connection call removal record wire with session := some peer }
      else if (server.peer? id).map (fun old => old.line.wire) = some wire then
        { server.connection call removal record wire with session := none }
      else server.connection call removal record wire := by
  have apart := session?_eq_none free
  have found : Server.session? (Framelink.Server.track server id peer) wire =
      if wire = peer.line.wire then some peer
      else if (server.peer? id).map (fun old => old.line.wire) = some wire then none
      else server.session? wire := by
    rcases peers_track distinct id peer with
      ⟨untracked, table⟩ | ⟨old, front, back, tracked, same, table, wires⟩
    · have after := sessionIn_middle server.peers [] id peer (by simpa using apart) wire
      rw [← table, List.append_nil] at after
      rw [untracked, if_neg (show ¬ Option.map (fun old : Peer Line => old.line.wire) none =
        some wire by simp)]
      exact after
    · have others : ∀ entry ∈ front ++ back, entry.2.line.wire ≠ peer.line.wire := by
        intro entry listed
        refine apart entry ?_
        rw [same]
        rcases List.mem_append.1 listed with early | late
        · exact List.mem_append_left _ early
        · exact List.mem_append_right _ (List.mem_cons_of_mem _ late)
      have before := sessionIn_middle front back id old wires wire
      have after := sessionIn_middle front back id peer others wire
      rw [← same] at before
      rw [← table] at after
      rw [tracked]
      refine Eq.trans after ?_
      by_cases here : wire = peer.line.wire
      · rw [if_pos here, if_pos here]
      · rw [if_neg here, if_neg here]
        by_cases there : wire = old.line.wire
        · rw [there, sessionIn_eq_none wires]
          simp
        · rw [if_neg there] at before
          rw [if_neg (by simpa using Ne.symm there)]
          exact before.symm
  unfold connection
  rw [found]
  split
  · rfl
  · split <;> rfl

/-- Tracking a peer on a wire of its own keeps numbers and wires apart. -/
theorem Distinct.track {server : Server} (distinct : server.Distinct) (id : UInt64)
    (peer : Peer Line) (free : server.session? peer.line.wire = none) :
    Server.Distinct (Framelink.Server.track server id peer) := by
  have apart := session?_eq_none free
  obtain ⟨handles, wires⟩ := distinct
  rcases peers_track ⟨handles, wires⟩ id peer with
    ⟨untracked, table⟩ | ⟨old, front, back, tracked, same, table, _⟩
  · have unknown : id ∉ server.peers.handles := by
      intro listed
      have tracks := (PeerTable.tracks_iff_mem server.peers id).2 listed
      unfold PeerTable.tracks at tracks
      rw [show server.peers.find? id = none from untracked] at tracks
      cases tracks
    constructor
    · unfold PeerTable.handles at handles unknown ⊢
      rw [table, List.map_append, List.nodup_append]
      refine ⟨handles, by simp, ?_⟩
      intro other listed another single
      rw [List.mem_singleton.1 single]
      rintro rfl
      exact unknown listed
    · unfold trackedWires at wires ⊢
      rw [table, List.map_append, List.nodup_append]
      refine ⟨wires, by simp, ?_⟩
      intro other listed another single
      rw [List.mem_singleton.1 single]
      rintro rfl
      obtain ⟨entry, member, equal⟩ := List.mem_map.1 listed
      exact apart entry member equal
  · constructor
    · unfold PeerTable.handles at handles ⊢
      rw [same, List.map_append, List.map_cons] at handles
      rw [table, List.map_append, List.map_cons]
      exact handles
    · unfold trackedWires at wires ⊢
      rw [same, List.map_append, List.map_cons, List.perm_middle.nodup_iff, List.nodup_cons,
        ← List.map_append] at wires
      rw [table, List.map_append, List.map_cons, List.perm_middle.nodup_iff, List.nodup_cons,
        ← List.map_append]
      refine ⟨?_, wires.2⟩
      intro listed
      obtain ⟨entry, member, equal⟩ := List.mem_map.1 listed
      refine apart entry ?_ equal
      rw [same]
      rcases List.mem_append.1 member with early | late
      · exact List.mem_append_left _ early
      · exact List.mem_append_right _ (List.mem_cons_of_mem _ late)

/-- A peer that is given up leaves numbers and wires apart. -/
theorem Distinct.untrack {server : Server} (distinct : server.Distinct) (id : UInt64) :
    Server.Distinct (Framelink.Server.untrack server id) := by
  have less : (Framelink.Server.untrack server id).peers.Sublist server.peers :=
    List.filter_sublist
  refine ⟨distinct.handles.sublist (less.map Prod.fst), ?_⟩
  have wires := distinct.wires
  unfold trackedWires at wires ⊢
  exact wires.sublist (less.map _)

/-! ## Acceptors -/

theorem connection_forsake (index : Nat) :
    (server.forsake index).connection call removal record wire =
      if wire = index then
        { server.connection call removal record wire with
          wire := (server.forsake index).network.wire? wire }
      else server.connection call removal record wire := by
  unfold forsake
  split
  · split <;> rfl
  · rw [connection_dropWire]
    by_cases here : wire = index
    · rw [if_pos here, if_pos here]
      have dropped := Network.wire?_modifyWire server.network index wire Wire.closeNear
      rw [if_pos here] at dropped
      rw [← dropped]
      rfl
    · rw [if_neg here, if_neg here]

theorem connection_moveAcceptor {server : Server} {port : UInt16} {old : Acceptor.Phase}
    (acceptors : server.service.acceptors = [⟨port, old⟩]) (phase : Acceptor.Phase) :
    (server.moveAcceptor port phase).connection call removal record wire =
      { server.connection call removal record wire with stage := phase.stage wire } := by
  have found : (server.moveAcceptor port phase).stage wire = phase.stage wire := by
    unfold stage moveAcceptor
    rw [acceptors]
    simp
  unfold connection
  rw [found]
  rfl

theorem connection_addWorker {server : Server} (worker : Worker)
    (free : server.worker? worker.wire = none) :
    (server.addWorker worker).connection call removal record wire =
      if wire = worker.wire then
        { server.connection call removal record wire with worker := some worker }
      else server.connection call removal record wire := by
  have found : (server.addWorker worker).worker? wire =
      if wire = worker.wire then some worker else server.worker? wire := by
    unfold worker? addWorker at *
    dsimp only
    rw [List.find?_append]
    by_cases here : wire = worker.wire
    · subst here
      rw [free]
      simp
    · simp [here, Ne.symm here]
  exact connection_of_worker call removal record wire rfl found

theorem waits_removeListener {network : Network} {port : UInt16} {listener : Listener}
    (listeners : network.listeners = [listener]) (here : listener.address.port = port) :
    waits (network.removeListener port) wire = false := by
  unfold waits Network.removeListener
  rw [listeners]
  simp [here]

theorem wire?_removeListener {network : Network} {port : UInt16} {listener : Listener}
    (listeners : network.listeners = [listener]) (here : listener.address.port = port) :
    (network.removeListener port).wire? wire =
      if waits network wire then (network.wire? wire).map Wire.closeNear
      else network.wire? wire := by
  unfold waits Network.removeListener Network.wire?
  rw [listeners]
  simp only [List.getElem?_mapIdx]
  cases network.wires[wire]? with
  | none => simp
  | some established =>
      by_cases waiting : wire ∈ listener.waiting
      · simp [here, waiting]
      · simp [here, waiting]

theorem connection_endAcceptor {server : Server} {port : UInt16} {phase : Acceptor.Phase}
    {listener : Listener} (acceptors : server.service.acceptors = [⟨port, phase⟩])
    (listeners : server.network.listeners = [listener]) (here : listener.address.port = port) :
    (server.endAcceptor port).connection call removal record wire =
      { server.connection call removal record wire with
        wire :=
          if waits server.network wire then (server.network.wire? wire).map Wire.closeNear
          else server.network.wire? wire
        waits := false
        stage := .absent } := by
  have found : (server.endAcceptor port).stage wire = .absent := by
    unfold stage endAcceptor
    rw [acceptors]
    simp
  have shut := wire?_removeListener wire listeners here
  have quiet := waits_removeListener wire listeners here
  unfold connection
  rw [found, show (server.endAcceptor port).network = server.network.removeListener port from rfl,
    shut, quiet]
  rfl

end Server
end Tcp
end Framelink
