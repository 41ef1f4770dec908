import Framelink.Proofs.Udp.History

/-!
# Datagram servers step by step

A watch is a datagram server whose receivers go step by step: a receiver takes a
datagram, has its sender greeted, keeps the datagram and answers it.  Between any two
steps the network may become another and the application may read, clear, remove, send,
put other callbacks in place or adjust the settings.  It starts the server between
passages.  It has the server stop at any time, and the stop ends when no passage is under
way.  A passage that nothing comes between is a round of the receiver.
-/

namespace Framelink

/-- What a reaction that is performed for a peer does to inboxes, tracking and callbacks. -/
def Reaction.marks (peer : SocketAddress) (payload : Bytes) : Reaction → List Udp.Event
  | .drain => [.read peer payload.length true]
  | .peek => [.read peer payload.length false]
  | .clear => [.cleared peer]
  | .remove => [.removed peer]
  | .replace onData onNewPeer => [.replaced onData onNewPeer]
  | .log | .echo | .reverse | .greet | .stop | .start | .panic | .recover => []

namespace Udp

/-! ## The application -/

/-- What the application does, or the network around the server. -/
inductive Act
  /-- The network becomes another. -/
  | disturb (network : Network)
  | read (peer : SocketAddress) (size : Nat) (erase : Bool)
  | clear (peer : SocketAddress)
  | remove (peer : SocketAddress)
  | send (target : SocketAddress) (bytes : Bytes)
  | broadcast (bytes : Bytes)
  | replace (onData onNewPeer : Option Reaction)
  | adjust (settings : Settings)

namespace Act

/-- A server after an act. -/
def on (server : Server) : Act → Server
  | .disturb network => server.withNetwork network
  | .read peer size erase => (Framelink.Server.read server peer size erase).2
  | .clear peer => (Framelink.Server.clear server peer).2
  | .remove peer => (Framelink.Server.remove server peer).2
  | .send target bytes => (Server.sendTo target bytes server).2
  | .broadcast bytes => (Server.broadcast bytes server).2
  | .replace onData onNewPeer => { server with onData, onNewPeer }
  | .adjust settings => { server with settings }

/-- What an act does to inboxes, tracking and callbacks. -/
def marks : Act → List Event
  | .read peer size erase => [.read peer size erase]
  | .clear peer => [.cleared peer]
  | .remove peer => [.removed peer]
  | .replace onData onNewPeer => [.replaced onData onNewPeer]
  | .disturb _ | .send _ _ | .broadcast _ | .adjust _ => []

end Act

/-! ## The receivers -/

/-- How far a datagram has come. -/
inductive Stage
  /-- Its sender was not tracked and is to be greeted. -/
  | met
  /-- It is to be kept. -/
  | known
  /-- It is to be answered. -/
  | kept
  deriving DecidableEq

/-- A passage that is under way. -/
structure Pass where
  /-- The socket of the receiver. -/
  bound : SocketAddress
  /-- Who called back before. -/
  caller : Option SocketAddress
  datagram : Datagram
  /-- How the sender was greeted, if it was. -/
  greeting : Option (Option Reaction)
  stage : Stage

/-- What happened in a passage so far. -/
def Pass.soFar (pass : Pass) : List Event :=
  match pass.stage with
  | .met => [.arrived pass.datagram true]
  | .known => Passage.opening pass.datagram pass.greeting
  | .kept => Passage.opening pass.datagram pass.greeting ++ [.kept pass.datagram]

/-- A server in which somebody calls back, or nobody. -/
def Server.calledBy (server : Server) (caller : Option SocketAddress) : Server :=
  { server with service := { server.service with caller } }

/-- A server whose receiver is done with a passage; a panic ends the receiver. -/
def Pass.leave (pass : Pass) (server : Server) : Delivery → Server
  | .panicked => (server.calledBy pass.caller).endReceiver pass.bound
  | .heard | .unheard => server.calledBy pass.caller

/-- A datagram server, the passage that is under way, and what happened. -/
structure Watch where
  server : Server
  pass : Option Pass
  history : History

namespace Watch

/-- A server that was never started. -/
def initial (settings : Settings) (network : Network) : Watch :=
  ⟨.stopped settings network, none, []⟩

/-- A receiver takes a datagram and tracks its sender. -/
def take (watch : Watch) (bound : SocketAddress) (network : Network) (datagram : Datagram) :
    Watch :=
  let server := (watch.server.withNetwork network).calledBy (some bound)
  let (unknown, server) :=
    Framelink.Server.trackNew server datagram.source (Server.freshPeer datagram.source)
  { server
    pass := some
      { bound, datagram
        caller := watch.server.service.caller
        greeting := none
        stage := if unknown then .met else .known }
    history := watch.history ++ [.arrived datagram unknown] }

/-- The receiver of a socket begins a round; between passages only. -/
def receive (watch : Watch) (bound : SocketAddress) : Watch :=
  if watch.pass.isNone && watch.server.service.receivers.contains bound then
    if watch.server.running then
      match watch.server.network.receiveDatagram bound.port Server.bufferSize with
      | (.error _, network) => { watch with server := watch.server.withNetwork network }
      | (.ok datagram, network) => watch.take bound network datagram
    else { watch with server := watch.server.endReceiver bound }
  else watch

/-- The new-peer callback has its turn. -/
def greet (watch : Watch) (pass : Pass) : Watch :=
  let peer := pass.datagram.source
  let callback := watch.server.onNewPeer
  let marks := (callback.map (Reaction.marks peer [])).getD []
  let history := watch.history ++ [.greeted peer callback] ++ marks
  match Framelink.Server.dispatchNewPeer watch.server peer peer with
  | (.panicked, server) => ⟨pass.leave server .panicked, none, history⟩
  | (_, server) =>
      ⟨server, some { pass with greeting := some callback, stage := .known }, history⟩

/-- The datagram is put into the inbox of its sender. -/
def keep (watch : Watch) (pass : Pass) : Watch where
  server := Framelink.Server.push watch.server pass.datagram.source pass.datagram.payload
  pass := some { pass with stage := .kept }
  history := watch.history ++ [.kept pass.datagram]

/-- The data callback is told, or the datagram is sent back. -/
def answer (watch : Watch) (pass : Pass) : Watch :=
  let peer := pass.datagram.source
  let payload := pass.datagram.payload
  match watch.server.onData with
  | none =>
      let (_, network) := watch.server.network.sendDatagram pass.bound peer false payload
      { server := pass.leave (watch.server.withNetwork network) .unheard
        pass := none
        history := watch.history ++ [.echoed pass.datagram] }
  | some callback =>
      let (delivery, server) := Framelink.Server.dispatchData watch.server peer payload
      { server := pass.leave server delivery
        pass := none
        history :=
          watch.history ++ [.told pass.datagram callback] ++ callback.marks peer payload }

/-- The passage that is under way goes on, if there is one. -/
def proceed (watch : Watch) : Watch :=
  match watch.pass with
  | none => watch
  | some pass =>
      match pass.stage with
      | .met => watch.greet pass
      | .known => watch.keep pass
      | .kept => watch.answer pass

end Watch

/-! ## Runs -/

/-- What can happen next. -/
inductive Turn
  | act (act : Act)
  | start
  /-- A stop begins: from now on, no receiver begins a passage. -/
  | halt
  /-- A stop ends: no receiver is left, and the socket is given up. -/
  | join
  | receive (bound : SocketAddress)
  | proceed

namespace Watch

/-- A watch after a turn.  A turn that is not possible changes nothing. -/
def after (watch : Watch) : Turn → Watch
  | .act act => { watch with server := act.on watch.server, history := watch.history ++ act.marks }
  | .start =>
      if watch.pass.isNone then
        { watch with server := (Framelink.Server.start watch.server).2 }
      else watch
  | .halt => { watch with server := { watch.server with running := false } }
  | .join =>
      if watch.pass.isNone && !watch.server.running then
        { watch with server := { watch.server.windDown with localAddress := none } }
      else watch
  | .receive bound => watch.receive bound
  | .proceed => watch.proceed

/-- A watch after a row of turns. -/
def run (watch : Watch) (turns : List Turn) : Watch := turns.foldl after watch

/-! ## Stops -/

variable {watch : Watch}

/-- A stop that nothing comes between is a stop of the server. -/
theorem run_stop (quiet : watch.pass = none) (running : watch.server.running = true) :
    watch.run [.halt, .join] = { watch with server := Framelink.Server.stop watch.server } := by
  rw [Framelink.Server.stop, if_pos running]
  change ({ watch with server := { watch.server with running := false } } : Watch).after .join = _
  rw [after, if_pos (by simp [quiet])]
  rfl

/-! ## Rounds -/

/-- A callback that is called is heard, or it panics. -/
theorem delivery_dispatchData {server : Server} {callback : Reaction}
    (inPlace : server.onData = some callback) (peer : SocketAddress) (payload : Bytes) :
    (Framelink.Server.dispatchData server peer payload).1 ≠ .unheard := by
  rw [Framelink.Server.dispatchData, inPlace]
  dsimp only [Framelink.Server.callBack]
  split <;> exact Delivery.noConfusion

/-- From a known sender on, a passage is digesting the datagram. -/
theorem proceed_known (watch : Watch) (pass : Pass) (underWay : watch.pass = some pass)
    (known : pass.stage = .known) :
    ∃ history, watch.proceed.proceed =
      ⟨pass.leave (Server.digest .live watch.server pass.bound pass.datagram).2
        (Server.digest .live watch.server pass.bound pass.datagram).1, none, history⟩ := by
  have step : watch.proceed = watch.keep pass := by
    simp only [proceed, underWay, known]
  rw [step, proceed, Server.digest]
  dsimp only [Callbacks.live, keep]
  rw [answer]
  dsimp only
  split
  · next free =>
      rw [Framelink.Server.dispatchData, free]
      exact ⟨_, rfl⟩
  · next callback inPlace =>
      have heard := delivery_dispatchData inPlace pass.datagram.source pass.datagram.payload
      split
      · next later unheard =>
          rw [unheard] at heard
          exact absurd rfl heard
      · exact ⟨_, rfl⟩

/-- From an unknown sender on, a passage is calling the new-peer callback and, unless that
panics, digesting the datagram. -/
theorem proceed_met (watch : Watch) (pass : Pass) (underWay : watch.pass = some pass)
    (met : pass.stage = .met) :
    let greeted : Delivery × Server :=
      match Framelink.Server.dispatchNewPeer watch.server pass.datagram.source
          pass.datagram.source with
      | (.panicked, server) => (.panicked, server)
      | (_, server) => Server.digest .live server pass.bound pass.datagram
    ∃ history, watch.proceed.proceed.proceed =
      ⟨pass.leave greeted.2 greeted.1, none, history⟩ := by
  have step : watch.proceed = watch.greet pass := by
    simp only [proceed, underWay, met]
  rw [step, greet]
  dsimp only
  cases Framelink.Server.dispatchNewPeer watch.server pass.datagram.source
      pass.datagram.source with
  | mk delivery later =>
      cases delivery with
      | panicked => exact ⟨_, rfl⟩
      | heard | unheard =>
          exact proceed_known ⟨later, some _, _⟩
            { pass with greeting := some watch.server.onNewPeer, stage := .known } rfl rfl

/-- A round that takes a datagram ends as a passage of it does. -/
theorem receiverRound_of_received {server : Server} {bound : SocketAddress}
    {datagram : Datagram} {network : Network} (running : server.running = true)
    (received : server.network.receiveDatagram bound.port Server.bufferSize =
      (.ok datagram, network)) (greeting : Option (Option Reaction)) (stage : Stage) :
    let ingested := Server.ingest .live
      ((server.withNetwork network).calledBy (some bound)) bound datagram
    server.receiverRound .live bound =
      (Pass.mk bound server.service.caller datagram greeting stage).leave ingested.2
        ingested.1 := by
  rw [Server.receiverRound, if_pos running, received]
  dsimp only [Server.inReceiver, Server.calledBy]
  generalize Server.ingest .live _ bound datagram = ingested
  obtain ⟨delivery, later⟩ := ingested
  cases delivery <;> rfl

/-- A datagram that was taken passes as it is ingested. -/
theorem proceed_take (watch : Watch) (bound : SocketAddress) (network : Network)
    (datagram : Datagram) :
    let ingested := Server.ingest .live
      ((watch.server.withNetwork network).calledBy (some bound)) bound datagram
    ∃ history, (watch.take bound network datagram).proceed.proceed.proceed =
      ⟨(Pass.mk bound watch.server.service.caller datagram none .known).leave ingested.2
        ingested.1, none, history⟩ := by
  dsimp only
  rw [take, Server.ingest, Server.meet]
  cases Framelink.Server.trackNew ((watch.server.withNetwork network).calledBy (some bound))
      datagram.source (Server.freshPeer datagram.source) with
  | mk unknown server =>
      cases unknown with
      | false =>
          obtain ⟨history, ended⟩ := proceed_known
            ⟨server, some ⟨bound, watch.server.service.caller, datagram, none, .known⟩,
              watch.history ++ [.arrived datagram false]⟩ _ rfl rfl
          exact ⟨history, congrArg proceed ended⟩
      | true =>
          exact proceed_met
            ⟨server, some ⟨bound, watch.server.service.caller, datagram, none, .met⟩,
              watch.history ++ [.arrived datagram true]⟩ _ rfl rfl

/-- A receiver of which there is one begins a round between passages. -/
theorem receive_of_present {bound : SocketAddress} (quiet : watch.pass = none)
    (present : bound ∈ watch.server.service.receivers) :
    watch.receive bound =
      if watch.server.running then
        match watch.server.network.receiveDatagram bound.port Server.bufferSize with
        | (.error _, network) => { watch with server := watch.server.withNetwork network }
        | (.ok datagram, network) => watch.take bound network datagram
      else { watch with server := watch.server.endReceiver bound } := by
  rw [receive, if_pos]
  rw [quiet, List.contains_iff_mem.2 present]
  rfl

/-- A passage that nothing comes between is a round of the receiver. -/
theorem run_round {bound : SocketAddress} (quiet : watch.pass = none)
    (present : bound ∈ watch.server.service.receivers) :
    ∃ history, watch.run [.receive bound, .proceed, .proceed, .proceed] =
      ⟨watch.server.receiverRound .live bound, none, history⟩ := by
  change ∃ history, (watch.receive bound).proceed.proceed.proceed = _
  rw [receive_of_present quiet present]
  cases running : watch.server.running with
  | false =>
      rw [if_neg Bool.false_ne_true, Server.receiverRound, if_neg (by simp [running])]
      refine ⟨watch.history, ?_⟩
      simp only [proceed, quiet]
  | true =>
      rw [if_pos rfl]
      cases received : watch.server.network.receiveDatagram bound.port Server.bufferSize with
      | mk result network =>
          cases result with
          | error failure =>
              rw [Server.receiverRound, if_pos running, received]
              refine ⟨watch.history, ?_⟩
              simp only [proceed, quiet]
          | ok datagram =>
              rw [receiverRound_of_received running received none .known]
              exact proceed_take watch bound network datagram

end Watch
end Udp
end Framelink
