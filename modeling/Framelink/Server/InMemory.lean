import Framelink.Server.BlockingRead
import Framelink.Server.Dispatch

/-!
# In-memory servers

A server without a network.  Peers are numbered by the application, which also
says what they sent.  What is sent to a peer is written down, as far as the
peer's limit goes.
-/

namespace Framelink
namespace InMemory

/-- What an in-memory server keeps of a peer. -/
structure Line where
  /-- The most bytes that one send takes, if there is a limit. -/
  limit : Option Nat
  /-- Nothing can be sent to the peer. -/
  broken : Bool
  /-- What was sent, oldest first. -/
  sent : List Bytes

/-- What an in-memory server keeps of itself. -/
structure Service where
  /-- Why setting up the socket will fail. -/
  obstacle : Option LinkError

/-- An in-memory server. -/
abbrev Server := Framelink.Server UInt64 Line Service

namespace Server

/-- Set up the socket: note it, and fail if there is an obstacle. -/
def listen (server : Server) : Except LinkError SocketAddress × Server :=
  let server := server.report (.listening server.running)
  match server.service.obstacle with
  | some error => (.error error, server)
  | none => (.ok server.settings.socketAddress, server)

/-- Give the socket up: note it. -/
def windDown (server : Server) : Server := server.report (.released server.running)

/-- Write down what is sent to a peer. -/
def transmit (handle : UInt64) (peer : Peer Line) (bytes : Bytes) (server : Server) :
    Except LinkError Nat × Server :=
  if peer.line.broken then (.error .notConnected, server)
  else
    let taken := bytes.take (peer.line.limit.getD bytes.length)
    (.ok taken.length,
      server.modifyPeer handle fun peer =>
        { peer with line := { peer.line with sent := peer.line.sent ++ [taken] } })

instance : Serving UInt64 Line Service where
  title := "Mock-Server"
  describe := toString
  listen := listen
  windDown := windDown
  transmit := transmit
  release := fun _ _ server => server

/-- A server that was never started. -/
def stopped (settings : Settings) : Server := Framelink.Server.stopped settings ⟨none⟩

/-- Start a server whose socket cannot be set up because of an obstacle. -/
def startAgainst (server : Server) (obstacle : Option LinkError) :
    Except LinkError Unit × Server :=
  let hindered : Server := { server with service := ⟨obstacle⟩ }
  let (result, started) := hindered.start
  (result, { started with service := ⟨none⟩ })

/-- A peer that has sent nothing yet. -/
def freshPeer (address : SocketAddress) (limit : Option Nat) : Peer Line where
  address := address
  inbox := .empty
  isOpen := true
  line := ⟨limit, false, []⟩

/-- Let a tracked peer send data: it is kept in the inbox, then the data callback
is called.  Gives the size of the inbox before the call. -/
def deliver (server : Server) (handle : UInt64) (data : Bytes) :
    Except LinkError (Nat × Delivery) × Server :=
  match server.require handle with
  | .error error => (.error error, server)
  | .ok peer =>
      let (delivery, server) := (server.push handle data).dispatchData handle data
      (.ok ((peer.inbox.push data).size, delivery), server)

/-- Take what was sent to a peer. -/
def takeSent (server : Server) (handle : UInt64) : Except LinkError (List Bytes) × Server :=
  match server.require handle with
  | .error error => (.error error, server)
  | .ok peer =>
      (.ok peer.line.sent,
        server.modifyPeer handle fun peer => { peer with line := { peer.line with sent := [] } })

end Server
end InMemory
end Framelink
