import Framelink.Proofs.Network
import Framelink.Proofs.Tcp.Steps

/-!
# What moves come to

Everything that a move can make of a situation, and what it takes for that.  What holds in
every run is shown for these outcomes, so that a call that comes to something else is looked
into here once, and elsewhere only where the outcome is told apart from others.
-/

namespace Framelink
namespace Tcp

namespace Server

/-! ## Setting up -/

theorem tried_bind (network : Network) (address : SocketAddress) :
    network.Tried (bind network address).2 := by
  have created := network.tried_openSocket
  unfold bind
  split
  · next failed => rwa [failed] at created
  · next made first =>
      rw [first] at created
      have prepared := made.tried_attemptAll [.setOption, .bind]
      split
      · next failed =>
          rw [failed] at prepared
          exact created.trans prepared
      · next ready second =>
          rw [second] at prepared
          have bound := ready.tried_bindAddress (ready.listeners.map (·.address.port)) address
          unfold Network.bindStream
          split
          · next failed =>
              rw [failed] at bound
              exact created.trans (prepared.trans bound)
          · next held third =>
              rw [third] at bound
              have listening := held.tried_attempt .listen
              split
              · next failed =>
                  rw [failed] at listening
                  exact created.trans (prepared.trans (bound.trans listening))
              · next fourth =>
                  rw [fourth] at listening
                  exact created.trans (prepared.trans (bound.trans listening))

/-- What setting a listener up comes to: an error and hardly a trace, or a listener
with its acceptor. -/
theorem listen_cases (server : Server) :
    ∃ network, server.network.Tried network ∧
      ((∃ error, server.listen = (.error error, server.withNetwork network)) ∨
        ∃ address, server.listen =
          (.ok address, (server.withNetwork network).admitAt address)) := by
  have bound := tried_bind server.network server.settings.socketAddress
  unfold listen
  split
  · next failure network failed =>
      rw [failed] at bound
      exact ⟨network, bound, Or.inl ⟨_, rfl⟩⟩
  · next address network made =>
      rw [made] at bound
      have served := network.tried_attemptAll serveCalls
      split
      · next failure later failed =>
          rw [failed] at served
          exact ⟨later, bound.trans served, Or.inl ⟨_, rfl⟩⟩
      · next later ready =>
          rw [ready] at served
          exact ⟨later, bound.trans served, Or.inr ⟨address, rfl⟩⟩

/-! ## Sending -/

theorem sends_transmit (id : UInt64) (peer : Peer Line) (bytes : Bytes) (server : Server) :
    ∃ network, server.network.Sends network ∧
      (Server.transmit id peer bytes server).2 = server.withNetwork network := by
  unfold transmit
  split
  · exact ⟨_, server.network.sends_sendStream peer.line.wire bytes, rfl⟩
  · exact ⟨server.network, .refl, rfl⟩

theorem sends_sendToEach (bytes : Bytes) (peers : PeerTable UInt64 Line) (server : Server) :
    ∃ network, server.network.Sends network ∧
      Framelink.Server.sendToEach Server.transmit bytes server peers =
        server.withNetwork network := by
  unfold Framelink.Server.sendToEach
  induction peers generalizing server with
  | nil => exact ⟨server.network, .refl, rfl⟩
  | cons entry rest inductionHypothesis =>
      rw [List.foldl_cons]
      dsimp only
      split
      · obtain ⟨middle, first, sent⟩ := sends_transmit entry.1 entry.2 bytes server
        obtain ⟨network, others, sentOn⟩ := inductionHypothesis (server.withNetwork middle)
        rw [sent, sentOn]
        exact ⟨network, first.trans others, rfl⟩
      · exact inductionHypothesis server

end Server

/-- The number whose peer a move of the application draws from or gives up. -/
def Move.handled? : Move → Option UInt64
  | .read id _ _ | .clear id | .remove id => some id
  | _ => none

namespace Situation

/-- What a situation becomes by a move. -/
inductive Leads (situation : Situation) : Move → Situation → Prop
  /-- A move that is not possible changes nothing. -/
  | nothing (move : Move) (waits : ∀ thread delivery, move ≠ .step thread delivery)
      (unknown : ∀ id, move.handled? = some id → situation.server.peer? id = none) :
      Leads situation move situation
  | connected (port : UInt16) (address : SocketAddress)
      (listens : (situation.server.network.listener? port).isSome = true) :
      Leads situation (.connect port address)
        (situation.disturb fun network => (network.establish port address).2)
  | sent (wire : Nat) (bytes : Bytes)
      (connected : (situation.server.network.wire? wire).map Wire.far = some .connected) :
      Leads situation (.send wire bytes)
        (situation.note wire fun record => { record with transit := record.transit ++ bytes })
  | carried (wire count : Nat)
      (isOpen : ((situation.server.network.wire? wire).map fun wire =>
        wire.near.isOpen).getD false = true) :
      Leads situation (.carry wire count)
        ((situation.disturb (·.modifyWire wire fun found =>
          (found.farSend ((situation.record wire).transit.take count)).2)).note wire fun record =>
            { record with
              arrived := record.arrived ++ (situation.record wire).transit.take count
              transit := record.transit.drop count })
  | lost (wire count : Nat)
      (shut : ((situation.server.network.wire? wire).map fun wire =>
        wire.near.isOpen).getD false = false) :
      Leads situation (.carry wire count)
        (situation.disturb (·.modifyWire wire fun found =>
          (found.farSend ((situation.record wire).transit.take count)).2))
  | finished (wire : Nat) (arrived : (situation.record wire).transit = []) :
      Leads situation (.finish wire) (situation.disturb (·.modifyWire wire Wire.farFinish))
  | departed (wire : Nat) (arrived : (situation.record wire).transit = []) :
      Leads situation (.depart wire) (situation.disturb (·.modifyWire wire Wire.farClose))
  | aborted (wire : Nat) :
      Leads situation (.abort wire)
        ((situation.disturb (·.modifyWire wire Wire.farReset)).note wire fun record =>
          { record with transit := [] })
  | heard (wire wanted : Nat) :
      Leads situation (.hear wire wanted)
        (situation.disturb (·.modifyWire wire fun found => (found.farReceive wanted).2.2))
  | hindered (faults : List Fault) (descriptorsLeft : Bool) :
      Leads situation (.hinder faults descriptorsLeft)
        (situation.disturb fun network => { network with faults, descriptorsLeft })
  | stepped (thread : Thread) (delivery : Delivery) :
      Leads situation (.step thread delivery) (situation.step thread delivery)
  | read (id : UInt64) (size : Nat) (erase : Bool) (peer : Peer Line)
      (tracked : situation.server.peer? id = some peer) :
      Leads situation (.read id size erase)
        { situation.note peer.line.wire fun record =>
            { record with
              taken := record.taken ++ if erase then (peer.inbox.read size erase).1 else [] } with
          server := Framelink.Server.modifyPeer situation.server id fun found =>
            { found with inbox := (peer.inbox.read size erase).2 } }
  | cleared (id : UInt64) (peer : Peer Line) (tracked : situation.server.peer? id = some peer) :
      Leads situation (.clear id)
        { situation.note peer.line.wire fun record =>
            { record with taken := record.taken ++ peer.inbox.contents } with
          server := Framelink.Server.modifyPeer situation.server id fun found =>
            { found with inbox := found.inbox.clear } }
  | transmitted (id : UInt64) (bytes : Bytes) (network : Network)
      (sends : situation.server.network.Sends network) :
      Leads situation (.transmit id bytes)
        { situation with server := situation.server.withNetwork network }
  | broadcast (bytes : Bytes) (network : Network)
      (sends : situation.server.network.Sends network) :
      Leads situation (.broadcast bytes)
        { situation with server := situation.server.withNetwork network }
  | replaced (onData onNewPeer : Option Reaction) :
      Leads situation (.replace onData onNewPeer)
        { situation with server := { situation.server with onData, onNewPeer } }
  | adjusted (settings : Settings) :
      Leads situation (.adjust settings)
        { situation with server := { situation.server with settings } }
  | removed (id : UInt64) (peer : Peer Line) (tracked : situation.server.peer? id = some peer) :
      Leads situation (.remove id)
        { situation with
          server := situation.server.untrack id
          removals := situation.removals ++ [⟨peer.line.wire, false⟩] }
  | asked (wire : Nat) (begun : situation.removal? wire = some false) :
      Leads situation (.proceed wire) (situation.ask wire)
  | kept (wire : Nat) (asked : situation.removal? wire = some true) :
      Leads situation (.proceed wire) (situation.keep wire)
  | startRefused (idle : situation.control = .idle) (running : situation.server.running = true) :
      Leads situation .start (situation.conclude (.started (.error .alreadyRunning)))
  | startBegun (idle : situation.control = .idle) (down : situation.server.running = false) :
      Leads situation .start
        { situation with
          server := { situation.server with running := true }
          control := .starting }
  | setUpFailed (starting : situation.control = .starting) (error : LinkError)
      (network : Network) (tried : situation.server.network.Tried network) :
      Leads situation .setUp
        (Situation.conclude
          { situation with
            server := { situation.server.withNetwork network with running := false } }
          (.started (.error error)))
  | setUpMade (starting : situation.control = .starting) (address : SocketAddress)
      (network : Network) (tried : situation.server.network.Tried network) :
      Leads situation .setUp
        (Situation.conclude
          { situation with
            server :=
              { (situation.server.withNetwork network).admitAt address with
                localAddress := some address } }
          (.started (.ok ())))
  | stopNeedless (idle : situation.control = .idle) (down : situation.server.running = false) :
      Leads situation .stop (situation.conclude .stopped)
  | stopBegun (idle : situation.control = .idle) (running : situation.server.running = true) :
      Leads situation .stop
        { situation with
          server := { situation.server with running := false }
          control := .stopping .awaitingAcceptor }
  | listed (control : situation.control = .stopping .awaitingAcceptor)
      (nobody : situation.server.service.acceptors = []) :
      Leads situation .advance
        { situation with control := .stopping (.collecting situation.server.trackedWires) }
  | collected (wire : Nat) (wires : List Nat)
      (control : situation.control = .stopping (.collecting (wire :: wires))) :
      Leads situation .advance
        { situation with
          server := situation.server.collect wire
          control := .stopping (.collecting wires) }
  | gathered (control : situation.control = .stopping (.collecting [])) :
      Leads situation .advance { situation with control := .stopping .awaitingWorkers }
  | searched (control : situation.control = .stopping .awaitingWorkers)
      (joined : situation.server.workersIn .awaited = [])
      (empty : situation.server.workersIn .detached = []) :
      Leads situation .advance { situation.noteLate with control := .stopping .closing }
  | drained (control : situation.control = .stopping .awaitingWorkers)
      (joined : situation.server.workersIn .awaited = [])
      (more : situation.server.workersIn .detached ≠ []) :
      Leads situation .advance { situation with server := situation.server.drain }
  | closed (control : situation.control = .stopping .closing) :
      Leads situation .advance
        (Situation.conclude
          { situation with server := { situation.server with localAddress := none } } .stopped)

variable {situation : Situation}

/-- A move that draws from no peer, and is no step of a thread, may change nothing. -/
theorem Leads.unchanged {move : Move} (waits : ∀ thread delivery, move ≠ .step thread delivery)
    (nobody : move.handled? = none) : situation.Leads move situation :=
  .nothing move waits fun _ handled => nomatch nobody.symm.trans handled

/-- A call with a number that no peer has changes nothing. -/
theorem Leads.untracked {move : Move} {id : UInt64} (handled : move.handled? = some id)
    (waits : ∀ thread delivery, move ≠ .step thread delivery)
    (unknown : situation.server.peer? id = none) : situation.Leads move situation := by
  refine .nothing move waits fun other same => ?_
  cases handled.symm.trans same
  exact unknown

/-! ## Far ends -/

theorem leads_connect (situation : Situation) (port : UInt16) (address : SocketAddress) :
    situation.Leads (.connect port address) (situation.connect port address) := by
  unfold connect
  split
  · exact .unchanged nofun rfl
  · next reachable =>
      rw [Bool.or_eq_true, not_or, Option.isNone_iff_eq_none] at reachable
      exact .connected port address (Option.isSome_iff_ne_none.2 reachable.2)

theorem leads_send (situation : Situation) (wire : Nat) (bytes : Bytes) :
    situation.Leads (.send wire bytes) (situation.send wire bytes) := by
  unfold send
  split
  · next connected => exact .sent wire bytes connected
  · exact .unchanged nofun rfl

theorem leads_carry (situation : Situation) (wire count : Nat) :
    situation.Leads (.carry wire count) (situation.carry wire count) := by
  unfold carry
  dsimp only
  split
  · next isOpen => exact .carried wire count isOpen
  · next shut => exact .lost wire count (by simpa using shut)

theorem leads_finish (situation : Situation) (wire : Nat) :
    situation.Leads (.finish wire) (situation.endFar wire Wire.farFinish) := by
  unfold endFar
  split
  · next arrived => exact .finished wire arrived
  · exact .unchanged nofun rfl

theorem leads_depart (situation : Situation) (wire : Nat) :
    situation.Leads (.depart wire) (situation.endFar wire Wire.farClose) := by
  unfold endFar
  split
  · next arrived => exact .departed wire arrived
  · exact .unchanged nofun rfl

/-! ## Calls of the application -/

theorem leads_read (situation : Situation) (id : UInt64) (size : Nat) (erase : Bool) :
    situation.Leads (.read id size erase) (situation.read id size erase) := by
  unfold Situation.read Framelink.Server.read Framelink.Server.require noteTaken
  cases tracked : Framelink.Server.peer? situation.server id with
  | none => exact .untracked rfl nofun tracked
  | some peer => exact .read id size erase peer tracked

theorem leads_clear (situation : Situation) (id : UInt64) :
    situation.Leads (.clear id) (situation.clear id) := by
  unfold Situation.clear Framelink.Server.clear Framelink.Server.require noteTaken
  cases tracked : Framelink.Server.peer? situation.server id with
  | none => exact .untracked rfl nofun tracked
  | some peer => exact .cleared id peer tracked

theorem leads_transmit (situation : Situation) (id : UInt64) (bytes : Bytes) :
    situation.Leads (.transmit id bytes) (situation.after (.transmit id bytes)) := by
  dsimp only [after, Framelink.Server.transmit, Framelink.Server.sendTracked]
  split
  · exact .transmitted id bytes situation.server.network .refl
  · next peer tracked =>
      obtain ⟨network, sends, sent⟩ := Server.sends_transmit id peer bytes situation.server
      rw [show (Serving.transmit id peer bytes situation.server).2 = _ from sent]
      exact .transmitted id bytes network sends

theorem leads_broadcast (situation : Situation) (bytes : Bytes) :
    situation.Leads (.broadcast bytes) (situation.after (.broadcast bytes)) := by
  obtain ⟨network, sends, sent⟩ :=
    Server.sends_sendToEach bytes situation.server.peers situation.server
  dsimp only [after, Framelink.Server.sendToOpen]
  rw [sent]
  exact .broadcast bytes network sends

theorem leads_remove (situation : Situation) (id : UInt64) :
    situation.Leads (.remove id) (situation.remove id) := by
  unfold Situation.remove
  cases tracked : Framelink.Server.peer? situation.server id with
  | none => exact .untracked rfl nofun tracked
  | some peer => exact .removed id peer tracked

theorem leads_proceed (situation : Situation) (wire : Nat) :
    situation.Leads (.proceed wire) (situation.proceed wire) := by
  unfold proceed
  split
  · next begun => exact .asked wire begun
  · next asked => exact .kept wire asked
  · exact .unchanged nofun rfl

/-! ## Calls that start and stop the server -/

theorem leads_start (situation : Situation) :
    situation.Leads .start (situation.governedBy situation.governed.start) := by
  unfold Governed.start
  split
  · next idle =>
      split
      · next running => exact .startRefused idle running
      · next down => exact .startBegun idle (Bool.eq_false_iff.2 down)
  · exact .unchanged nofun rfl

theorem leads_setUp (situation : Situation) :
    situation.Leads .setUp (situation.governedBy situation.governed.setUp) := by
  unfold Governed.setUp Framelink.Server.setUp
  split
  · next starting =>
      obtain ⟨network, tried, ⟨error, failed⟩ | ⟨address, made⟩⟩ := situation.server.listen_cases
      · rw [show Serving.listen situation.governed.server = _ from failed]
        exact .setUpFailed starting error network tried
      · rw [show Serving.listen situation.governed.server = _ from made]
        exact .setUpMade starting address network tried
  · exact .unchanged nofun rfl

theorem leads_stop (situation : Situation) :
    situation.Leads .stop
      (situation.governedBy (situation.governed.stop .awaitingAcceptor)) := by
  unfold Governed.stop
  split
  · next idle =>
      split
      · next running => exact .stopBegun idle running
      · next down => exact .stopNeedless idle (Bool.eq_false_iff.2 down)
  · exact .unchanged nofun rfl

theorem leads_advance (situation : Situation) : situation.Leads .advance situation.advance := by
  unfold advance
  split
  · next control =>
      split
      · next nobody => exact .listed control nobody
      · exact .unchanged nofun rfl
  · next wire wires control => exact .collected wire wires control
  · next control => exact .gathered control
  · next control =>
      unfold joinWorkers
      split
      · next joined =>
          split
          · next empty => exact .searched control joined empty
          · next more => exact .drained control joined more
      · exact .unchanged nofun rfl
  · next control => exact .closed control
  · exact .unchanged nofun rfl

/-! ## All moves -/

theorem leads_after (situation : Situation) (move : Move) :
    situation.Leads move (situation.after move) := by
  cases move with
  | connect port address => exact situation.leads_connect port address
  | send wire bytes => exact situation.leads_send wire bytes
  | carry wire count => exact situation.leads_carry wire count
  | finish wire => exact situation.leads_finish wire
  | depart wire => exact situation.leads_depart wire
  | abort wire => exact .aborted wire
  | hear wire wanted => exact .heard wire wanted
  | hinder faults descriptorsLeft => exact .hindered faults descriptorsLeft
  | step thread delivery => exact .stepped thread delivery
  | read id size erase => exact situation.leads_read id size erase
  | clear id => exact situation.leads_clear id
  | transmit id bytes => exact situation.leads_transmit id bytes
  | broadcast bytes => exact situation.leads_broadcast bytes
  | replace onData onNewPeer => exact .replaced onData onNewPeer
  | adjust settings => exact .adjusted settings
  | remove id => exact situation.leads_remove id
  | proceed wire => exact situation.leads_proceed wire
  | start => exact situation.leads_start
  | setUp => exact situation.leads_setUp
  | stop => exact situation.leads_stop
  | advance => exact situation.leads_advance

end Situation
end Tcp
end Framelink
