import Framelink.Server.Dispatch
import Framelink.Server.Networked

/-!
# Datagram servers

A datagram server knows its peers by their addresses: whoever sends a datagram
is tracked from then on.  One receiver takes datagrams one after the other.  Each
is kept in the sender's inbox and then either told to the data callback or, if
there is none, sent back as it came.

The socket belongs to the server while it runs, and to the receiver for as long
as that is alive; a receiver whose callback stopped the server outlives the stop.
-/

namespace Framelink
namespace Udp

/-- What a datagram server keeps of itself. -/
structure Service where
  network : Network
  /-- The address of the socket that is sent from, while there is one. -/
  socket : Option SocketAddress
  /-- The addresses of the sockets that living receivers receive from. -/
  receivers : List SocketAddress
  /-- The socket of the receiver whose callback is being called. -/
  caller : Option SocketAddress

/-- A datagram server; there is nothing to keep of a peer. -/
abbrev Server := Framelink.Server SocketAddress Unit Service

/-- How the receiver of a datagram server calls back. -/
abbrev Callbacks := Framelink.Callbacks SocketAddress Unit Service

namespace Server

/-- A server that was never started. -/
def stopped (settings : Settings) (network : Network) : Server :=
  Framelink.Server.stopped settings ⟨network, none, [], none⟩

/-- The network of a server. -/
def network (server : Server) : Network := server.service.network

/-- A server on a network in another state. -/
def withNetwork (server : Server) (network : Network) : Server :=
  { server with service := { server.service with network } }

/-- Let the network of a server change. -/
def modifyNetwork (server : Server) (change : Network → Network) : Server :=
  server.withNetwork (change server.network)

/-! ## The socket -/

/-- Let the server have another socket to send from, or none. -/
def holdSocket (server : Server) (socket : Option SocketAddress) : Server :=
  { server with service := { server.service with socket } }

/-- Give an address up that nobody sends from or receives from any more. -/
def releaseSocket (server : Server) (address : SocketAddress) : Server :=
  if server.service.socket == some address || server.service.receivers.contains address then
    server
  else server.modifyNetwork (·.removeMailbox address.port)

/-- Let the server have no socket to send from. -/
def dropSocket (server : Server) : Server :=
  match server.service.socket with
  | none => server
  | some address =>
      (server.holdSocket none).releaseSocket address

/-- End the receiver of a socket. -/
def endReceiver (server : Server) (address : SocketAddress) : Server :=
  let receivers := server.service.receivers.filter fun other => !(other == address)
  let server : Server := { server with service := { server.service with receivers } }
  server.releaseSocket address

/-! ## Starting and stopping -/

/-- Bind an address. -/
def bind (network : Network) (address : SocketAddress) :
    Except Failure SocketAddress × Network :=
  match network.openSocket with
  | (.error failure, network) => (.error failure, network)
  | (.ok (), network) =>
      match network.attempt .bind with
      | (.error failure, network) => (.error failure, network)
      | (.ok (), network) => network.bindDatagram address

/-- The calls between binding and serving: do not block, learn the address. -/
def serveCalls : List SystemCall := [.control, .socketName]

/-- Let datagrams arrive at an address, where a receiver takes them. -/
def receiveAt (server : Server) (address : SocketAddress) : Server :=
  { server with
    service :=
      { server.service with
        network := server.network.addMailbox address false
        receivers := server.service.receivers ++ [address] } }

/-- Set the socket and its receiver up.  The socket is there before the receiver is
started, and is given up again if that fails. -/
def listen (server : Server) : Except LinkError SocketAddress × Server :=
  match bind server.network server.settings.socketAddress with
  | (.error failure, network) =>
      (.error (server.settings.bindError failure), server.withNetwork network)
  | (.ok address, network) =>
      match network.attemptAll serveCalls with
      | (.error failure, network) => (.error (.exchange failure), server.withNetwork network)
      | (.ok (), network) =>
          let server := server.holdSocket (some address)
          match network.attempt .thread with
          | (.error failure, network) =>
              (.error (.exchange failure), (server.withNetwork network).holdSocket none)
          | (.ok (), network) => (.ok address, (server.withNetwork network).receiveAt address)

/-- Let all receivers end but the one that stops the server, and give the socket
up. -/
def windDown (server : Server) : Server :=
  let joined := server.service.receivers.filter fun address =>
    !(server.service.caller == some address)
  (joined.foldl endReceiver server).dropSocket

/-! ## Sending -/

/-- Send a datagram to an address, tracked or not. -/
def sendTo (target : SocketAddress) (bytes : Bytes) (server : Server) :
    Except LinkError Nat × Server :=
  match server.service.socket with
  | none => (.error .notConnected, server)
  | some source =>
      let (sent, network) := server.network.sendDatagram source target false bytes
      (sent.mapError .exchange, server.withNetwork network)

/-- The port that broadcasts go to: the one that is bound, else the one of the
settings. -/
def broadcastPort (server : Server) : UInt16 :=
  (server.localAddress.map SocketAddress.port).getD server.settings.port

/-- Send one datagram to everybody, from a socket made for it. -/
def broadcast (bytes : Bytes) (server : Server) : Except LinkError Unit × Server :=
  let target : SocketAddress := ⟨.broadcast4, server.broadcastPort, 0⟩
  match bind server.network ⟨.unspecified4, 0, 0⟩ with
  | (.error failure, network) => (.error (.socketCreate failure), server.withNetwork network)
  | (.ok source, network) =>
      match network.setOption with
      | (.error error, network) => (.error error, server.withNetwork network)
      | (.ok (), network) =>
          let (sent, network) := network.sendDatagram source target true bytes
          ((sent.mapError .exchange).map fun _ => (), server.withNetwork network)

instance : Serving SocketAddress Unit Service where
  title := "UDP-Server"
  describe := SocketAddress.text
  listen := listen
  windDown := windDown
  transmit := fun handle _ bytes server => sendTo handle bytes server
  sendTo := sendTo
  broadcast := broadcast
  release := fun _ _ server => server

/-! ## Receiving -/

/-- A peer that was just seen for the first time. -/
def freshPeer (address : SocketAddress) : Peer Unit where
  address := address
  inbox := .empty
  isOpen := true
  line := ()

/-- Call back in the name of a receiver. -/
def inReceiver (server : Server) (address : SocketAddress) (act : Server → α × Server) :
    α × Server :=
  let caller := server.service.caller
  let (result, after) :=
    act { server with service := { server.service with caller := some address } }
  (result, { after with service := { after.service with caller } })

/-- Track the sender of a datagram; if it was not tracked, call the new-peer
callback. -/
def meet (callbacks : Callbacks) (server : Server) (sender : SocketAddress) :
    Delivery × Server :=
  match server.trackNew sender (freshPeer sender) with
  | (true, server) => callbacks.newPeer server sender sender
  | (false, server) => (.unheard, server)

/-- Keep a datagram and tell the data callback about it; without one, send it
back. -/
def digest (callbacks : Callbacks) (server : Server) (bound : SocketAddress)
    (datagram : Datagram) : Delivery × Server :=
  let server : Server := server.push datagram.source datagram.payload
  match callbacks.data server datagram.source datagram.payload with
  | (.unheard, server) =>
      let (_, network) :=
        server.service.network.sendDatagram bound datagram.source false datagram.payload
      (.unheard, { server with service := { server.service with network } })
  | called => called

/-- Take a datagram in that arrived at a socket; says whether a callback
panicked. -/
def ingest (callbacks : Callbacks) (server : Server) (bound : SocketAddress)
    (datagram : Datagram) : Delivery × Server :=
  match server.meet callbacks datagram.source with
  | (.panicked, server) => (.panicked, server)
  | (_, server) => Server.digest callbacks server bound datagram

/-- The room for one datagram. -/
def bufferSize : Nat := Network.longestDatagram

/-- One round of the receiver of a socket: end if the server does not run, else
try to receive.  Every failure is passed over; a panic ends the receiver. -/
def receiverRound (callbacks : Callbacks) (server : Server) (bound : SocketAddress) :
    Server :=
  if server.running then
    match server.network.receiveDatagram bound.port bufferSize with
    | (.error _, network) => server.withNetwork network
    | (.ok datagram, network) =>
        match (server.withNetwork network).inReceiver bound fun server =>
            Server.ingest callbacks server bound datagram with
        | (.panicked, server) => server.endReceiver bound
        | (_, server) => server
  else server.endReceiver bound

/-! ## Settling -/

/-- Whether the receiver of a socket has something to do. -/
def isReceiverBusy (server : Server) (bound : SocketAddress) : Bool :=
  !server.running || Fault.awaits .receive server.network.faults ||
    ((server.network.mailbox? bound.port).map fun mailbox => !mailbox.waiting.isEmpty).getD false

/-- Let receivers that have something to do go on, one round at a time. -/
def settleWithin : (fuel : Nat) → Server → Server
  | 0, server => server
  | fuel + 1, server =>
      match server.service.receivers.find? server.isReceiverBusy with
      | some bound => settleWithin fuel (server.receiverRound .live bound)
      | none => server

/-- What there is to do at most: datagrams to take, faults to run into, receivers
to end. -/
def workload (server : Server) : Nat :=
  let network := server.network
  total (·.waiting.length) network.mailboxes + total (·.skip + 1) network.faults +
    server.service.receivers.length

/-- Let the receivers go on until none has anything to do. -/
def settle (server : Server) : Server := settleWithin (2 * (server.workload + 1)) server

instance : Networked SocketAddress Unit Service where
  network := Service.network
  withNetwork := fun service network => { service with network }
  settle := settle
  holdPort := fun port network => network.addMailbox ⟨.loopback4, port, 0⟩ false
  freePort := fun port network => network.removeMailbox port

/-- Give a server up: its receivers end by themselves and its socket is closed. -/
def abandon (server : Server) : Server :=
  let server : Server := { server with running := false }
  server.settle.dropSocket

end Server
end Udp
end Framelink
