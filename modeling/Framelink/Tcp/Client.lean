import Framelink.Link.Basic
import Framelink.Network.Host
import Framelink.Network.Basic

/-!
# Stream clients

A stream client is a link over a wire.  Connecting tries the addresses of the
host one after the other and adopts the first wire that is established; the error
of a failed attempt is decided by the last address alone.  A connection that
fails leaves the link as it was.
-/

namespace Framelink
namespace Tcp

/-- The handle of an open stream client. -/
structure Stream where
  /-- The number of its wire. -/
  wire : Nat
  /-- The address that was connected to, without its scope. -/
  remote : SocketAddress
  deriving DecidableEq, Repr

/-- A stream client. -/
abbrev Client := Link Stream

namespace Client

/-- A client that was never connected. -/
def closed : Client := Link.closed .tcp

/-! ## Connecting -/

/-- Pass the faults that wait for a connect.  Without a bound on the wait, an
interrupted connect is made again. -/
def passConnect (bounded : Bool) : (fuel : Nat) → Network → Except Failure Unit × Network
  | 0, network => (.ok (), network)
  | fuel + 1, network =>
      match network.attempt .connect with
      | (.error failure, network) =>
          if failure.isInterrupted && !bounded then passConnect bounded fuel network
          else (.error failure, network)
      | passed => passed

/-- What the network makes of a connect to an address. -/
def reach (network : Network) (target : SocketAddress) (bounded : Bool) :
    Except Failure Stream × Network :=
  if network.isolated then
    let code :=
      if target.ip.holdsV4 then Failure.Code.networkUnreachable
      else Failure.Code.addressNotAvailable
    (.error (.system code), network)
  else
    match network.listener? target.port with
    | none => (.error (.system Failure.Code.connectionRefused), network)
    | some listener =>
        if listener.answers then
          let (wire, network) := network.establish target.port target
          (.ok ⟨wire, { target with scope := 0 }⟩, network)
        else if bounded then (.error (.custom .timedOut "connection timed out"), network)
        else (.error (.system Failure.Code.timedOut), network)

/-- Connect a socket to one address. -/
def join (network : Network) (target : SocketAddress) (bounded : Bool) :
    Except Failure Stream × Network :=
  match passConnect bounded (network.faults.length + 1) network with
  | (.error failure, network) => (.error failure, network)
  | (.ok (), network) => reach network target bounded

/-- Connect a socket to one address with a bound on the wait.  The socket must not
block meanwhile; if it cannot be made to block again afterwards, the attempt fails
for that, whatever became of it. -/
def joinBounded (network : Network) (target : SocketAddress) :
    Except Failure Stream × Network :=
  match network.attempt .control with
  | (.error failure, network) => (.error failure, network)
  | (.ok (), network) =>
      let (joined, network) := join network target true
      match network.attempt .control, joined with
      | (.ok (), network), joined => (joined, network)
      | (.error failure, network), .ok stream =>
          (.error failure, network.closeNear stream.wire)
      | (.error failure, network), .error _ => (.error failure, network)

/-- Connect to one address. -/
def attempt (network : Network) (target : SocketAddress) (bounded : Bool) :
    Except Failure Stream × Network :=
  match network.openSocket with
  | (.error failure, network) => (.error failure, network)
  | (.ok (), network) =>
      if bounded then joinBounded network target else join network target false

/-- The shortest bound on the wait for a connection. -/
def shortestWait : Duration := .ofMilliseconds 1

/-- The bound on the wait for each attempt, where there is a timeout. -/
def connectWait (timeout : Option Duration) : Option Duration :=
  timeout.map fun timeout => timeout.longer shortestWait

/-- What a failed connection to an endpoint is reported as. -/
def connectError (endpoint : String) (timeout : Option Duration) (failure : Failure) :
    LinkError :=
  if failure.isSocketCreation then .socketCreate failure
  else
    match timeout with
    | some timeout =>
        if failure.isTimedOut then .connectionTimeout endpoint timeout
        else .connect endpoint failure
    | none => .connect endpoint failure

/-- Give the wire of a client up. -/
def release (client : Client) (network : Network) : Network :=
  match client.handle with
  | some stream => network.closeNear stream.wire
  | none => network

/-- Connect to a host, given what a look-up of it found, what becomes of an attempt to
connect to an address with a bound on the wait, and how the wire of a client is given up. -/
def connectWith {World : Type}
    (attempt : Option Duration → SocketAddress → World → Except Failure Stream × World)
    (release : Client → World → World) (client : Client) (world : World) (host : String)
    (port : UInt16) (timeout : Option Duration)
    (found : Except Failure (List ScopedAddress)) : Except LinkError Unit × Client × World :=
  let endpoint := s!"{host}:{port}"
  match Host.candidates host port found with
  | .error error => (.error error, client, world)
  | .ok targets =>
      match tryEach (attempt (connectWait timeout)) (.plain .addressNotAvailable) targets
          world with
      | (.ok stream, world) => (.ok (), client.install stream endpoint, release client world)
      | (.error failure, world) =>
          (.error (connectError endpoint timeout failure), client, world)

/-- Connect to a host that was found to have these addresses. -/
def connectAmong (client : Client) (network : Network) (host : String) (port : UInt16)
    (timeout : Option Duration) (found : List ScopedAddress) :
    Except LinkError Unit × Client × Network :=
  connectWith (fun wait target network => attempt network target wait.isSome) release client
    network host port timeout (.ok found)

/-- Connect to a host and a port, waiting at most as long as `timeout` says. -/
def connect (client : Client) (network : Network) (host : String) (port : UInt16)
    (timeout : Option Duration) : Except LinkError Unit × Client × Network :=
  client.connectAmong network host port timeout (Host.addresses network.descriptorsLeft host)

/-- Connect with the port as an option and the timeout, in seconds, as flags. -/
def openAt (client : Client) (network : Network) (host : String) (option : UInt32)
    (flags : Int32) : Except LinkError Unit × Client × Network :=
  match Host.portOfOption option with
  | .error error => (.error error, client, network)
  | .ok port => client.connect network host port (Network.timeoutOfFlags flags)

/-- Close the connection; closing a closed client does nothing. -/
def close (client : Client) (network : Network) : Client × Network :=
  (Link.close client, client.release network)

/-! ## Exchanging bytes -/

/-- Receive at most `room` bytes. -/
def receive (room : Nat) (channel : Stream × Network) : Receipt × (Stream × Network) :=
  let (receipt, network) := channel.2.receiveStream channel.1.wire room
  (receipt, channel.1, network)

/-- What the network makes of a send to a stream. -/
def put (stream : Stream) (bytes : Bytes) (network : Network) : Except Failure Nat × Network :=
  network.sendStream stream.wire bytes

/-- Send bytes as far as the wire takes them. -/
def send (bytes : Bytes) (channel : Stream × Network) :
    Except Failure Nat × (Stream × Network) :=
  Link.sendThrough put bytes channel

/-- Enough receives for any read that ends: each runs into a fault, takes bytes
or ends the read. -/
def patience (network : Network) (size : Nat) : Nat := network.faults.length + size + 1

/-- Read `size` bytes of a stream, given how it is received from; a receive of none is the
end of the stream. -/
def readFrom {World : Type} (receive : Nat → Stream × World → Receipt × (Stream × World))
    (client : Client) (world : World) (size : Nat) (checked untilFull : Bool) (patience : Nat) :
    Link.Reading × Client × World :=
  Link.read client world receive ⟨untilFull, .endOfStream⟩ checked size patience

/-- Read `size` bytes. -/
def read (client : Client) (network : Network) (size : Nat) (checked untilFull : Bool) :
    Link.Reading × Client × Network :=
  readFrom receive client network size checked untilFull (patience network size)

/-- What an exact read makes of the result of a read. -/
def exactResult (size : Nat) : Except LinkError Nat → Except LinkError Nat
  | .ok count =>
      if count < size then .error (.exchange (.plain .unexpectedEnd)) else .ok count
  | failed => failed

/-- Read exactly `size` bytes of a stream, given how it is received from. -/
def readExactFrom {World : Type}
    (receive : Nat → Stream × World → Receipt × (Stream × World)) (client : Client)
    (world : World) (size patience : Nat) : Link.Reading × Client × World :=
  let (reading, client, world) := readFrom receive client world size false true patience
  ({ reading with result := reading.result.map (exactResult size) }, client, world)

/-- Read exactly `size` bytes. -/
def readExact (client : Client) (network : Network) (size : Nat) :
    Link.Reading × Client × Network :=
  readExactFrom receive client network size (patience network size)

/-- Send a payload, with its trailer if that is wanted, in one send, given what the system
makes of a send. -/
def writeWith {World : Type} (put : Stream → Bytes → World → Except Failure Nat × World)
    (client : Client) (world : World) (payload : Bytes) (withTrailer : Bool) :
    Except LinkError Nat × Client × World :=
  Link.write client world (Link.sendThrough put) payload withTrailer

/-- Send a payload, with its trailer if that is wanted, in one send. -/
def write (client : Client) (network : Network) (payload : Bytes) (withTrailer : Bool) :
    Except LinkError Nat × Client × Network :=
  writeWith put client network payload withTrailer

/-- The failure of a send that takes nothing. -/
def nothingTaken : Failure := .custom .writeZero "failed to write whole buffer"

/-- Send bytes until all are taken; an interrupted send is made again. -/
def sendAll : (fuel : Nat) → Bytes → Stream × Network →
    Except Failure Unit × (Stream × Network)
  | 0, _, channel => (.ok (), channel)
  | fuel + 1, bytes, channel =>
      if bytes.isEmpty then (.ok (), channel)
      else
        match send bytes channel with
        | (.ok 0, channel) => (.error nothingTaken, channel)
        | (.ok (count + 1), channel) => sendAll fuel (bytes.drop (count + 1)) channel
        | (.error failure, channel) =>
            if failure.isInterrupted then sendAll fuel bytes channel
            else (.error failure, channel)

/-- Write all bytes, with as many sends as it takes. -/
def writeAll (client : Client) (network : Network) (bytes : Bytes) :
    Except LinkError Unit × Client × Network :=
  client.withHandle network fun channel =>
    let fuel := bytes.length + channel.2.faults.length + 1
    let (result, channel) := sendAll fuel bytes channel
    (result.mapError .exchange, channel)

/-! ## Options and addresses -/

/-- Bound the waits for data, or for room to send. -/
def setTimeout (client : Client) (network : Network) (timeout : Option Duration) :
    Except LinkError Unit × Client × Network :=
  client.withHandle network fun (stream, network) =>
    let (result, network) := network.setTimeout timeout
    (result, stream, network)

/-- Set any other option. -/
def setOption (client : Client) (network : Network) :
    Except LinkError Unit × Client × Network :=
  client.withHandle network fun (stream, network) =>
    let (result, network) := network.setOption
    (result, stream, network)

/-- The address at the far end. -/
def remoteAddress (client : Client) : Except LinkError SocketAddress :=
  match client.handle with
  | some stream => .ok stream.remote
  | none => .error .notConnected

/-- The local address of a wire to an address: the host itself, in its family. -/
def localOf (remote : IpAddress) : IpAddress :=
  if remote.isV4 then .loopback4 else .loopback6

/-- The address at the near end. -/
def localAddress (client : Client) (network : Network) :
    Except LinkError IpAddress × Client × Network :=
  client.withHandle network fun (stream, network) =>
    let (result, network) := network.attempt .socketName
    ((result.mapError .exchange).map fun _ => localOf stream.remote.ip, stream, network)

/-! ## Building -/

/-- What a client is built from. -/
structure Plan where
  host : String
  port : UInt16
  connectTimeout : Option Duration
  noDelay : Bool
  readTimeout : Option Duration
  writeTimeout : Option Duration

/-- Apply the options of a plan to a connected client. -/
def configure (client : Client) (network : Network) (plan : Plan) :
    Except LinkError Unit × Client × Network :=
  let (result, client, network) :=
    if plan.noDelay then client.setOption network else (.ok (), client, network)
  match result with
  | .error error => (.error error, client, network)
  | .ok () =>
      match client.setTimeout network plan.readTimeout with
      | (.error error, client, network) => (.error error, client, network)
      | (.ok (), client, network) => client.setTimeout network plan.writeTimeout

/-- Build a connected client; one that cannot be configured is closed again. -/
def build (network : Network) (plan : Plan) : Except LinkError Client × Network :=
  match closed.connect network plan.host plan.port plan.connectTimeout with
  | (.error error, _, network) => (.error error, network)
  | (.ok (), client, network) =>
      match client.configure network plan with
      | (.ok (), client, network) => (.ok client, network)
      | (.error error, client, network) => (.error error, client.release network)

end Client
end Tcp
end Framelink
