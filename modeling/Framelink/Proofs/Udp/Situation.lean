import Framelink.Proofs.Calls
import Framelink.Udp.Server

/-!
# Runs of a datagram server

A run is any order of moves.  Between two moves the network may become any other:
datagrams come and go, other sockets are bound and closed, faults wait for calls.  A
receiver makes one round at a time, with all that its callbacks do.  One call of the
application at a time starts or stops the server; it is never made by a callback, so
the callbacks of these runs leave stopping alone.
-/

namespace Framelink

namespace Udp

/-- How far a call that stops the server has come. -/
inductive Stopping
  /-- It waits for the receivers. -/
  | awaitingReceivers
  /-- It has given the socket up and forgets the local address. -/
  | closing
  deriving DecidableEq, Repr

/-- A server in the middle of a run. -/
abbrev Situation := Governed Server Stopping

/-- What happens next in a run. -/
inductive Move
  /-- The network becomes another. -/
  | disturb (network : Network)
  /-- The receiver of a socket makes a round. -/
  | receive (bound : SocketAddress)
  /-- The application reads from the inbox of a peer. -/
  | read (peer : SocketAddress) (size : Nat) (erase : Bool)
  /-- The application empties the inbox of a peer. -/
  | clear (peer : SocketAddress)
  /-- The application removes a peer. -/
  | remove (peer : SocketAddress)
  /-- The application sends to an address. -/
  | send (target : SocketAddress) (bytes : Bytes)
  /-- The application sends to everybody. -/
  | broadcast (bytes : Bytes)
  /-- The application replaces the callbacks. -/
  | replace (onData onNewPeer : Option Reaction)
  /-- The application changes the settings. -/
  | adjust (settings : Settings)
  /-- The application begins to start the server. -/
  | start
  /-- The server that is being started is set up. -/
  | setUp
  /-- The application begins to stop the server. -/
  | stop
  /-- The call that stops the server goes on. -/
  | advance

namespace Situation

/-- A server that was never started. -/
def initial (settings : Settings) (network : Network) : Situation where
  server := .stopped settings network
  control := .idle
  log := []

/-- Let the receiver of a socket make a round, if there is one. -/
def receive (situation : Situation) (bound : SocketAddress) : Situation :=
  if situation.server.service.receivers.contains bound then
    { situation with server := situation.server.receiverRound .live bound }
  else situation

/-- Put other callbacks in place. -/
def replace (situation : Situation) (onData onNewPeer : Option Reaction) : Situation :=
  if (Reaction.replace onData onNewPeer).sparing then
    { situation with server := { situation.server with onData, onNewPeer } }
  else situation

/-- Go on stopping the server. -/
def advance (situation : Situation) : Situation :=
  match situation.control with
  | .stopping .awaitingReceivers =>
      if situation.server.service.receivers = [] then
        { situation with
          server := situation.server.dropSocket
          control := .stopping .closing }
      else situation
  | .stopping .closing => situation.forget
  | _ => situation

/-- The situation after a move.  A move that is not possible changes nothing. -/
def after (situation : Situation) : Move → Situation
  | .disturb network => { situation with server := situation.server.withNetwork network }
  | .receive bound => situation.receive bound
  | .read peer size erase =>
      { situation with server := (Framelink.Server.read situation.server peer size erase).2 }
  | .clear peer =>
      { situation with server := (Framelink.Server.clear situation.server peer).2 }
  | .remove peer =>
      { situation with server := (Framelink.Server.remove situation.server peer).2 }
  | .send target bytes =>
      { situation with server := (Server.sendTo target bytes situation.server).2 }
  | .broadcast bytes => { situation with server := (Server.broadcast bytes situation.server).2 }
  | .replace onData onNewPeer => situation.replace onData onNewPeer
  | .adjust settings => { situation with server := { situation.server with settings } }
  | .start => situation.start
  | .setUp => situation.setUp
  | .stop => situation.stop .awaitingReceivers
  | .advance => situation.advance

/-- The situation after a row of moves. -/
def run (situation : Situation) (moves : List Move) : Situation := moves.foldl after situation

end Situation
end Udp
end Framelink
