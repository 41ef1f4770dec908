import Framelink.Link.Basic
import Framelink.Network.Host
import Framelink.Network.Basic

/-!
# Datagram clients

A datagram client is a link over a bound socket and the address of one peer.
Connecting it asks nothing of the peer.  Each receive takes one datagram, from
whomever it comes; what does not fit into the buffer is lost.
-/

namespace Framelink
namespace Udp

/-- The handle of an open datagram client. -/
structure Socket where
  /-- The local address. -/
  bound : SocketAddress
  /-- Where every datagram goes. -/
  peer : SocketAddress
  deriving DecidableEq, Repr

/-- A datagram client. -/
abbrev Client := Link Socket

namespace Client

/-- A client that was never connected. -/
def closed : Client := Link.closed .udp

/-- Give the socket of a client up. -/
def release (client : Client) (network : Network) : Network :=
  match client.handle with
  | some socket => network.removeMailbox socket.bound.port
  | none => network

/-- The unspecified address of the family of an address, with a port to be chosen. -/
def anyLocal (peer : IpAddress) : SocketAddress :=
  { ip := if peer.isV4 then .unspecified4 else .unspecified6, port := 0 }

/-- Bind a local address. -/
def bind (network : Network) (address : SocketAddress) :
    Except Failure SocketAddress × Network :=
  match network.openSocket with
  | (.error failure, network) => (.error failure, network)
  | (.ok (), network) =>
      match network.attempt .bind with
      | (.error failure, network) => (.error failure, network)
      | (.ok (), network) =>
          match network.bindDatagram address with
          | (.error failure, network) => (.error failure, network)
          | (.ok bound, network) => (.ok bound, network.addMailbox bound false)

/-- Take the first address of a host as the peer, given what a look-up of it found, what
becomes of binding a local address, and how the socket of a client is given up. -/
def connectWith {World : Type}
    (bind : SocketAddress → World → Except Failure SocketAddress × World)
    (release : Client → World → World) (client : Client) (world : World) (host : String)
    (port : UInt16) (found : Except Failure (List ScopedAddress)) :
    Except LinkError Unit × Client × World :=
  match Host.candidates host port found with
  | .error error => (.error error, client, world)
  | .ok [] => (.error (.hostResolution host), client, world)
  | .ok (peer :: _) =>
      match bind (anyLocal peer.ip) world with
      | (.error failure, world) => (.error (.socketCreate failure), client, world)
      | (.ok bound, world) =>
          (.ok (), client.install ⟨bound, peer⟩ s!"{host}:{port}", release client world)

/-- Take the first address of a host that was found to have these addresses as
the peer. -/
def connectAmong (client : Client) (network : Network) (host : String) (port : UInt16)
    (found : List ScopedAddress) : Except LinkError Unit × Client × Network :=
  connectWith (fun address network => bind network address) release client network host port
    (.ok found)

/-- Take a host and a port as the peer. -/
def connect (client : Client) (network : Network) (host : String) (port : UInt16) :
    Except LinkError Unit × Client × Network :=
  client.connectAmong network host port (Host.addresses network.descriptorsLeft host)

/-- Connect with the port as an option. -/
def openAt (client : Client) (network : Network) (host : String) (option : UInt32) :
    Except LinkError Unit × Client × Network :=
  match Host.portOfOption option with
  | .error error => (.error error, client, network)
  | .ok port => client.connect network host port

/-- Close the socket; closing a closed client does nothing. -/
def close (client : Client) (network : Network) : Client × Network :=
  (Link.close client, client.release network)

/-! ## Exchanging datagrams -/

/-- Receive at most `room` bytes of one datagram. -/
def receive (room : Nat) (channel : Socket × Network) : Receipt × (Socket × Network) :=
  let (received, network) := channel.2.receiveDatagram channel.1.bound.port room
  (received.map Datagram.payload, channel.1, network)

/-- The failure of a datagram that is too long to be sent. -/
def tooLong (length : Nat) : Failure :=
  .custom .invalidInput s!"datagram of {length} bytes exceeds {Network.longestDatagram} bytes"

/-- What the network makes of a datagram to the peer of a socket. -/
def post (socket : Socket) (bytes : Bytes) (network : Network) :
    Except Failure Nat × Network :=
  network.sendDatagram socket.bound socket.peer false bytes

/-- Post one datagram, unless it is too long. -/
def postFitting {World : Type} (post : Socket → Bytes → World → Except Failure Nat × World)
    (socket : Socket) (bytes : Bytes) (world : World) : Except Failure Nat × World :=
  if Network.longestDatagram < bytes.length then (.error (tooLong bytes.length), world)
  else post socket bytes world

/-- Send one datagram to the peer, unless it is too long. -/
def send (bytes : Bytes) (channel : Socket × Network) :
    Except Failure Nat × (Socket × Network) :=
  Link.sendThrough (postFitting post) bytes channel

/-- Enough receives for any read that ends: each runs into a fault, takes a
datagram or ends the read. -/
def patience (network : Network) (client : Client) : Nat :=
  let waiting :=
    (client.handle.bind fun socket => network.mailbox? socket.bound.port).map
      fun mailbox => mailbox.waiting.length
  network.faults.length + waiting.getD 0 + 1

/-- Read `size` bytes; an empty datagram is no more than silence. -/
def read (client : Client) (network : Network) (size : Nat) (checked untilFull : Bool) :
    Link.Reading × Client × Network :=
  Link.read client network receive ⟨untilFull, .quiet⟩ checked size (patience network client)

/-- Send a payload, with its trailer if that is wanted, as one datagram, given what the
system makes of a datagram. -/
def writeWith {World : Type} (post : Socket → Bytes → World → Except Failure Nat × World)
    (client : Client) (world : World) (payload : Bytes) (withTrailer : Bool) :
    Except LinkError Nat × Client × World :=
  Link.write client world (Link.sendThrough (postFitting post)) payload withTrailer

/-- Send a payload, with its trailer if that is wanted, as one datagram. -/
def write (client : Client) (network : Network) (payload : Bytes) (withTrailer : Bool) :
    Except LinkError Nat × Client × Network :=
  writeWith post client network payload withTrailer

/-! ## Options and addresses -/

/-- Bound the waits for data, or for room to send. -/
def setTimeout (client : Client) (network : Network) (timeout : Option Duration) :
    Except LinkError Unit × Client × Network :=
  client.withHandle network fun (socket, network) =>
    let (result, network) := network.setTimeout timeout
    (result, socket, network)

/-- The address of the peer. -/
def remoteAddress (client : Client) : Except LinkError SocketAddress :=
  match client.handle with
  | some socket => .ok socket.peer
  | none => .error .notConnected

/-- The local address. -/
def localAddress (client : Client) (network : Network) :
    Except LinkError IpAddress × Client × Network :=
  client.withHandle network fun (socket, network) =>
    let (result, network) := network.attempt .socketName
    ((result.mapError .exchange).map fun _ => socket.bound.ip, socket, network)

/-! ## Building -/

/-- What a client is built from. -/
structure Plan where
  host : String
  port : UInt16
  readTimeout : Option Duration
  writeTimeout : Option Duration

/-- Build a client; one that cannot be configured is closed again. -/
def build (network : Network) (plan : Plan) : Except LinkError Client × Network :=
  match closed.connect network plan.host plan.port with
  | (.error error, _, network) => (.error error, network)
  | (.ok (), client, network) =>
      match client.setTimeout network plan.readTimeout with
      | (.error error, client, network) => (.error error, client.release network)
      | (.ok (), client, network) =>
          match client.setTimeout network plan.writeTimeout with
          | (.error error, client, network) => (.error error, client.release network)
          | (.ok (), client, network) => (.ok client, network)

end Client
end Udp
end Framelink
