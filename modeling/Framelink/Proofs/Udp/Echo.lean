import Framelink.Proofs.Calls
import Framelink.Udp.Server

/-!
# Rounds of a server without a data callback

A datagram server without a data callback takes the first of the datagrams that wait,
puts it into the inbox of its sender and sends it back.  A new-peer callback comes
first if the sender is not tracked, and must not get in the way of that.
-/

namespace Framelink

/-- Whether a callback that a new peer meets sends nothing, removes and stops nothing,
does not panic and puts no data callback in place. -/
def Reaction.isQuiet : Reaction → Bool
  | .log | .drain | .peek | .clear | .start | .recover => true
  | .replace none onNewPeer =>
      match onNewPeer with
      | some reaction => reaction.isQuiet
      | none => true
  | _ => false

namespace Udp
namespace Server

/-- The bytes in the inbox of a peer, if it is tracked. -/
def held (server : Server) (peer : SocketAddress) : Option Bytes :=
  (Framelink.Server.peer? server peer).map fun tracked => tracked.inbox.contents

variable {server : Server} {peer bound : SocketAddress}

theorem isSome_held (server : Server) (peer : SocketAddress) :
    (server.held peer).isSome = server.peers.tracks peer :=
  Option.isSome_map

theorem held_modifyPeer (server : Server) (peer other : SocketAddress)
    (change : Peer Unit → Peer Unit) :
    held (Framelink.Server.modifyPeer server peer change) other =
      if other = peer then
        (Framelink.Server.peer? server other).map fun tracked => (change tracked).inbox.contents
      else server.held other := by
  rw [held, Framelink.Server.peer?, Framelink.Server.modifyPeer, PeerTable.find?_modify]
  split
  · rw [Option.map_map]
    rfl
  · rfl

/-- Bytes that are pushed stand behind those that were held. -/
theorem held_push (server : Server) (peer other : SocketAddress) (bytes : Bytes) :
    held (Framelink.Server.push server peer bytes) other =
      if other = peer then (server.held other).map (· ++ bytes) else server.held other := by
  rw [Framelink.Server.push, held_modifyPeer, held, Option.map_map]
  rfl

/-! ## Quiet callbacks -/

/-- A server goes on as it is: only the tallies of its inboxes, its reports and its
new-peer callback may be others, and that one is quiet. -/
structure Unmoved (server later : Server) : Prop where
  running : later.running = server.running
  onData : later.onData = server.onData
  service : later.service = server.service
  held : ∀ peer, later.held peer = server.held peer
  quiet : later.onNewPeer.all Reaction.isQuiet = true

theorem Unmoved.of_modifyPeer {change : Peer Unit → Peer Unit}
    (quiet : server.onNewPeer.all Reaction.isQuiet = true)
    (same : ∀ tracked, Framelink.Server.peer? server peer = some tracked →
      (change tracked).inbox.contents = tracked.inbox.contents) :
    Unmoved server (Framelink.Server.modifyPeer server peer change) where
  running := rfl
  onData := rfl
  service := rfl
  quiet := quiet
  held := by
    intro other
    rw [held_modifyPeer]
    split
    · next here =>
        subst here
        rw [Server.held]
        cases found : Framelink.Server.peer? server other with
        | none => rfl
        | some tracked => rw [Option.map_some, Option.map_some, same tracked found]
    · rfl

/-- A quiet callback for a peer whose inbox is empty leaves the server as it is. -/
theorem unmoved_perform (running : server.running = true) (free : server.onData = none)
    (quiet : server.onNewPeer.all Reaction.isQuiet = true)
    (blank : ∀ tracked, Framelink.Server.peer? server peer = some tracked →
      tracked.inbox.contents = [])
    {reaction : Reaction} (calm : reaction.isQuiet = true) :
    Unmoved server (Framelink.Server.perform server peer [] reaction).2 := by
  have still : Unmoved server server := ⟨rfl, rfl, rfl, fun _ => rfl, quiet⟩
  -- A read of no bytes, whether it erases them or not.
  have reads (erase : Bool) :
      Unmoved server (Framelink.Server.read server peer 0 erase).2 := by
    rw [Framelink.Server.read, Framelink.Server.require]
    cases found : Framelink.Server.peer? server peer with
    | none => exact still
    | some tracked =>
        refine Unmoved.of_modifyPeer quiet ?_
        intro same present
        cases found.symm.trans present
        cases erase with
        | false => rfl
        | true => rfl
  cases reaction with
  | log | recover => exact still
  | drain => exact reads true
  | peek => exact reads false
  | clear =>
      dsimp only [Framelink.Server.perform]
      rw [Framelink.Server.clear, Framelink.Server.require]
      cases found : Framelink.Server.peer? server peer with
      | none => exact still
      | some tracked =>
          refine Unmoved.of_modifyPeer quiet ?_
          intro same present
          rw [Inbox.contents_clear, blank same present]
  | start =>
      dsimp only [Framelink.Server.perform]
      rw [Framelink.Server.start_of_running running]
      exact still
  | replace onData onNewPeer =>
      cases onData with
      | some callback => cases calm
      | none =>
          refine ⟨rfl, free.symm, rfl, fun _ => rfl, ?_⟩
          cases onNewPeer with
          | none => rfl
          | some callback => exact calm
  | echo | reverse | greet | remove | stop | panic => cases calm

/-- A quiet new-peer callback returns and leaves the server as it is. -/
theorem unmoved_dispatchNewPeer (running : server.running = true) (free : server.onData = none)
    (quiet : server.onNewPeer.all Reaction.isQuiet = true)
    (blank : ∀ tracked, Framelink.Server.peer? server peer = some tracked →
      tracked.inbox.contents = []) :
    (Framelink.Server.dispatchNewPeer server peer peer).1 ≠ .panicked ∧
      Unmoved server (Framelink.Server.dispatchNewPeer server peer peer).2 := by
  rw [Framelink.Server.dispatchNewPeer]
  cases installed : server.onNewPeer with
  | none => exact ⟨Delivery.noConfusion, rfl, rfl, rfl, fun _ => rfl, quiet⟩
  | some reaction =>
      have calm : reaction.isQuiet = true := by
        rw [installed] at quiet
        exact quiet
      have performed := @unmoved_perform { server with reports := [] } peer running free quiet
        blank reaction calm
      refine ⟨?_, performed.running, performed.onData, performed.service, performed.held,
        performed.quiet⟩
      cases reaction with
      | panic => cases calm
      | _ => exact Delivery.noConfusion

/-! ## Rounds -/

/-- The new-peer callback will not be heard, or is quiet: whoever is expected is tracked. -/
def Calm (server : Server) (expected : List SocketAddress) : Prop :=
  server.onNewPeer.all Reaction.isQuiet = true ∨
    ∀ sender ∈ expected, server.peers.tracks sender = true

/-- What meeting a sender comes to: nothing is in the way, and the sender is tracked. -/
theorem meet_calm (running : server.running = true) (free : server.onData = none)
    {expected : List SocketAddress} (calm : server.Calm (peer :: expected)) :
    ∃ delivery met, server.meet .live peer = (delivery, met) ∧ delivery ≠ .panicked ∧
      met.running = true ∧ met.onData = none ∧ met.service = server.service ∧
      met.held peer = some ((server.held peer).getD []) ∧
      (∀ other, other ≠ peer → met.held other = server.held other) ∧
      met.Calm expected := by
  rw [meet, Framelink.Server.trackNew]
  cases known : server.peers.tracks peer with
  | true =>
      have tracked := isSome_held server peer
      rw [known, Option.isSome_iff_exists] at tracked
      obtain ⟨bytes, present⟩ := tracked
      refine ⟨.unheard, server, rfl, Delivery.noConfusion, running, free, rfl, ?_,
        fun _ _ => rfl, ?_⟩
      · rw [present, Option.getD_some]
      · exact calm.imp_right fun all sender expects =>
          all sender (List.mem_cons_of_mem peer expects)
  | false =>
      have quiet : server.onNewPeer.all Reaction.isQuiet = true := by
        rcases calm with quiet | all
        · exact quiet
        · have tracked := all peer List.mem_cons_self
          rw [known] at tracked
          cases tracked
      have unknown : server.held peer = none := by
        rw [← Option.isSome_eq_false_iff.trans Option.isNone_iff_eq_none, isSome_held, known]
      let tracking : Server := Framelink.Server.track server peer (freshPeer peer)
      have found (other : SocketAddress) : Framelink.Server.peer? tracking other =
          if other = peer then some (freshPeer peer) else Framelink.Server.peer? server other :=
        PeerTable.find?_insert server.peers peer other (freshPeer peer)
      have blank (tracked : Peer Unit)
          (present : Framelink.Server.peer? tracking peer = some tracked) :
          tracked.inbox.contents = [] := by
        rw [found, if_pos rfl] at present
        cases present
        rfl
      obtain ⟨returned, unmoved⟩ :=
        @unmoved_dispatchNewPeer tracking peer running free quiet blank
      refine ⟨(Framelink.Server.dispatchNewPeer tracking peer peer).1,
        (Framelink.Server.dispatchNewPeer tracking peer peer).2, rfl, returned,
        unmoved.running.trans running, unmoved.onData.trans free, unmoved.service, ?_, ?_,
        .inl unmoved.quiet⟩
      · rw [unmoved.held, held, found, if_pos rfl, unknown]
        rfl
      · intro other apart
        rw [unmoved.held, held, found, if_neg apart, held]

/-- Without a data callback, a datagram is kept and sent back. -/
theorem digest_free (free : server.onData = none) (bound : SocketAddress)
    (datagram : Datagram) :
    server.digest .live bound datagram =
      (.unheard,
        Server.withNetwork (Framelink.Server.push server datagram.source datagram.payload)
          (server.network.sendDatagram bound datagram.source false datagram.payload).2) := by
  have unheard : Framelink.Server.dispatchData
      (Framelink.Server.push server datagram.source datagram.payload) datagram.source
        datagram.payload =
      (.unheard, Framelink.Server.push server datagram.source datagram.payload) := by
    rw [Framelink.Server.dispatchData]
    have still : (Framelink.Server.push server datagram.source datagram.payload).onData = none :=
      free
    rw [still]
  rw [digest]
  dsimp only [Callbacks.live]
  rw [unheard]
  rfl

/-- What a round comes to that takes a datagram off the network: the datagram is kept for
its sender and sent back, and the server is ready for the next. -/
structure Echoed (server later : Server) (bound : SocketAddress) (datagram : Datagram)
    (network : Network) : Prop where
  running : later.running = true
  free : later.onData = none
  network :
    later.network = (network.sendDatagram bound datagram.source false datagram.payload).2
  kept : later.held datagram.source =
    some ((server.held datagram.source).getD [] ++ datagram.payload)
  others : ∀ other, other ≠ datagram.source → later.held other = server.held other

/-- A round of a server without a data callback keeps what it receives and sends it back. -/
theorem receiverRound_echoes (running : server.running = true) (free : server.onData = none)
    {datagram : Datagram} {network : Network}
    (received : server.network.receiveDatagram bound.port bufferSize = (.ok datagram, network))
    {expected : List SocketAddress} (calm : server.Calm (datagram.source :: expected)) :
    Echoed server (server.receiverRound .live bound) bound datagram network ∧
      (server.receiverRound .live bound).Calm expected := by
  let called : Server :=
    { server.withNetwork network with
      service := { (server.withNetwork network).service with caller := some bound } }
  obtain ⟨delivery, met, meeting, returned, running', free', service, here, others, calmer⟩ :=
    @meet_calm called datagram.source running free expected calm
  let kept : Server := Framelink.Server.push met datagram.source datagram.payload
  let sent := (network.sendDatagram bound datagram.source false datagram.payload).2
  have ends : server.receiverRound .live bound =
      { kept with
        service := { met.service with network := sent, caller := server.service.caller } } := by
    have ingested : Server.ingest .live called bound datagram =
        (.unheard, Server.withNetwork kept sent) := by
      have onNetwork : met.network = network := congrArg Service.network service
      rw [ingest, meeting]
      cases delivery with
      | panicked => exact absurd rfl returned
      | heard | unheard =>
          dsimp only
          rw [digest_free free', onNetwork]
    rw [receiverRound, if_pos running, received]
    dsimp only [inReceiver]
    rw [show Server.ingest .live _ bound datagram = _ from ingested]
    rfl
  have pushed (other : SocketAddress) : held kept other =
      if other = datagram.source then (met.held other).map (· ++ datagram.payload)
      else met.held other :=
    held_push met datagram.source other datagram.payload
  rw [ends]
  refine ⟨⟨running', free', rfl, ?_, ?_⟩, calmer.imp_right fun all sender expects => ?_⟩
  · change held kept datagram.source = _
    rw [pushed, if_pos rfl, here]
    rfl
  · intro other apart
    change held kept other = _
    rw [pushed, if_neg apart, others other apart]
    rfl
  · have tracked := all sender expects
    rw [← isSome_held] at tracked ⊢
    change (held kept sender).isSome = true
    rw [pushed]
    split
    · rw [Option.isSome_map, tracked]
    · exact tracked

end Server
end Udp
end Framelink
