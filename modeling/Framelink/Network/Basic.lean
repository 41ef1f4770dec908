import Framelink.LinkError
import Framelink.Network.Fault
import Framelink.Network.Wire

/-!
# The loopback network

One host that reaches itself.  Streams find their way by port alone, whatever the
address; so do datagrams to any loopback address.  Nothing is lost, doubled or
reordered on the way.  A host may be isolated: then addresses can still be bound, but nothing
can be sent anywhere.  Planned faults strike the calls of the library, never
those of far ends.
-/

namespace Framelink

/-- A place where streams arrive. -/
structure Listener where
  address : SocketAddress
  /-- Connections to it are answered at all. -/
  answers : Bool
  /-- Wires that wait to be accepted, first come first. -/
  waiting : List Nat
  deriving DecidableEq, Repr

/-- A datagram on its way. -/
structure Datagram where
  source : SocketAddress
  payload : Bytes
  deriving DecidableEq, Repr

/-- A bound datagram socket. -/
structure Mailbox where
  address : SocketAddress
  /-- Datagrams to everybody arrive here too. -/
  hearsBroadcasts : Bool
  /-- Datagrams that wait to be received. -/
  waiting : List Datagram
  deriving DecidableEq, Repr

/-- The state of the network. -/
structure Network where
  /-- Nothing can be sent anywhere. -/
  isolated : Bool
  /-- The process may open another descriptor. -/
  descriptorsLeft : Bool
  faults : List Fault
  /-- The next port to be given out. -/
  nextPort : Nat
  listeners : List Listener
  /-- All wires ever established, in the order of their numbers. -/
  wires : List Wire
  mailboxes : List Mailbox
  deriving DecidableEq, Repr

namespace Network

/-- The most bytes that one datagram carries: a packet of 65535 octets without
its two headers. -/
def longestDatagram : Nat := 65535 - 20 - 8

/-- The bound on the wait for a connection that open flags ask for, in seconds;
negative flags set none. -/
def timeoutOfFlags (flags : Int32) : Option Duration :=
  if 0 ≤ flags then some (.ofSeconds flags.toInt64.toUInt64) else none

/-- A network on which nothing has happened yet. -/
def idle (isolated : Bool) : Network where
  isolated := isolated
  descriptorsLeft := true
  faults := []
  nextPort := 40000
  listeners := []
  wires := []
  mailboxes := []

/-! ## Calls -/

/-- Let a call run into the faults that wait for it. -/
def consult (network : Network) (call : SystemCall) : Option Fault × Network :=
  let (struck, faults) := Fault.strike call network.faults
  (struck, { network with faults })

/-- Make a call that does nothing else of interest. -/
def attempt (network : Network) (call : SystemCall) : Except Failure Unit × Network :=
  match network.consult call with
  | (some fault, network) => (.error fault.failure, network)
  | (none, network) => (.ok (), network)

/-- Make calls one after the other until one fails. -/
def attemptAll (network : Network) : List SystemCall → Except Failure Unit × Network
  | [] => (.ok (), network)
  | call :: rest =>
      match network.attempt call with
      | (.error failure, network) => (.error failure, network)
      | (.ok (), network) => network.attemptAll rest

/-- The failure of setting a timeout of no time at all. -/
def zeroTimeout : Failure := .custom .invalidInput "cannot set a 0 duration timeout"

/-- Set an option of a socket. -/
def setOption (network : Network) : Except LinkError Unit × Network :=
  let (result, network) := network.attempt .setOption
  (result.mapError .exchange, network)

/-- Bound the waits of a socket, or let them be unbounded.  A timeout of no time at all is
refused before the call. -/
def setTimeout (network : Network) (timeout : Option Duration) :
    Except LinkError Unit × Network :=
  if (timeout.map Duration.isZero).getD false then (.error (.exchange zeroTimeout), network)
  else network.setOption

/-- Create a socket. -/
def openSocket (network : Network) : Except Failure Unit × Network :=
  match network.attempt .socket with
  | (.ok (), network) =>
      if network.descriptorsLeft then (.ok (), network)
      else (.error (.system Failure.Code.tooManyOpenFiles), network)
  | failed => failed

/-! ## Ports -/

/-- Whether a local address can be bound on this host. -/
def isLocal (network : Network) (address : IpAddress) : Bool :=
  if network.isolated then address == .loopback4 || address.isUnspecified
  else address.isLoopback || address.isUnspecified

/-- Whether datagrams to an address reach this host. -/
def isReachable (address : IpAddress) : Bool :=
  address.isLoopback || address.isUnspecified

/-- The ports that are taken, for streams or for datagrams. -/
def takenPorts (network : Network) : List UInt16 :=
  network.listeners.map (·.address.port) ++ network.mailboxes.map (·.address.port)

/-- The first port, counting up, that is not taken; the counter moves behind it. -/
def freePort (network : Network) : UInt16 × Network :=
  let candidates :=
    List.range' network.nextPort (network.takenPorts.length + 1)
  let port :=
    (candidates.find? fun port => !network.takenPorts.contains (UInt16.ofNat port)).getD
      network.nextPort
  (UInt16.ofNat port, { network with nextPort := port + 1 })

/-- The address that binding gives, where `taken` ports are not to be had. -/
def bindAddress (network : Network) (taken : List UInt16) (address : SocketAddress) :
    Except Failure SocketAddress × Network :=
  if !network.isLocal address.ip then
    (.error (.system Failure.Code.addressNotAvailable), network)
  else if address.port = 0 then
    let (port, network) := network.freePort
    (.ok { address with port }, network)
  else if taken.contains address.port then
    (.error (.system Failure.Code.addressInUse), network)
  else (.ok address, network)

/-! ## Streams -/

/-- Bind an address for streams. -/
def bindStream (network : Network) (address : SocketAddress) :
    Except Failure SocketAddress × Network :=
  network.bindAddress (network.listeners.map (·.address.port)) address

/-- Let streams arrive at an address. -/
def addListener (network : Network) (address : SocketAddress) (answers : Bool) : Network :=
  { network with listeners := network.listeners ++ [⟨address, answers, []⟩] }

/-- Let no more streams arrive at a port; those that wait are closed. -/
def removeListener (network : Network) (port : UInt16) : Network :=
  let abandoned :=
    (network.listeners.filter (·.address.port == port)).flatMap (·.waiting)
  { network with
    listeners := network.listeners.filter (·.address.port != port)
    wires := network.wires.mapIdx fun index wire =>
      if abandoned.contains index then wire.closeNear else wire }

/-- The listener at a port. -/
def listener? (network : Network) (port : UInt16) : Option Listener :=
  network.listeners.find? (·.address.port == port)

/-- Establish a wire to a listener, where it waits behind all others. -/
def establish (network : Network) (port : UInt16) (farAddress : SocketAddress) :
    Nat × Network :=
  let index := network.wires.length
  (index,
    { network with
      wires := network.wires ++ [Wire.fresh farAddress]
      listeners := network.listeners.map fun listener =>
        if listener.address.port == port then
          { listener with waiting := listener.waiting ++ [index] }
        else listener })

/-- Take the first of the wires that wait at a port. -/
def takeWaiting (network : Network) (port : UInt16) : Option Nat × Network :=
  match (network.listener? port).map (·.waiting) with
  | some (index :: rest) =>
      (some index,
        { network with
          listeners := network.listeners.map fun listener =>
            if listener.address.port == port then { listener with waiting := rest }
            else listener })
  | _ => (none, network)

/-- The wire of a number. -/
def wire? (network : Network) (index : Nat) : Option Wire := network.wires[index]?

/-- Change one wire. -/
def modifyWire (network : Network) (index : Nat) (change : Wire → Wire) : Network :=
  { network with wires := network.wires.modify index change }

/-- Shut the near end of a wire down in order. -/
def shutNear (network : Network) (index : Nat) : Network :=
  network.modifyWire index Wire.shutNear

/-- Close the near end of a wire. -/
def closeNear (network : Network) (index : Nat) : Network :=
  network.modifyWire index Wire.closeNear

/-- Receive at most `room` bytes at the near end of a wire. -/
def receiveStream (network : Network) (index room : Nat) : Receipt × Network :=
  match network.consult .receive with
  | (some fault, network) => (.error fault.failure, network)
  | (none, network) =>
      match network.wire? index with
      | none => (.ok [], network)
      | some wire =>
          let (receipt, wire) := wire.receive room
          (receipt, network.modifyWire index fun _ => wire)

/-- Send bytes from the near end of a wire. -/
def sendStream (network : Network) (index : Nat) (bytes : Bytes) :
    Except Failure Nat × Network :=
  let deliver := fun (network : Network) (bytes : Bytes) =>
    match network.wire? index with
    | none => (Except.error (Failure.system Failure.Code.brokenPipe), network)
    | some wire =>
        let (sent, wire) := wire.send bytes
        (sent, network.modifyWire index fun _ => wire)
  match network.consult .send with
  | (some fault, network) =>
      match fault.takes with
      | some limit => deliver network (bytes.take limit)
      | none => (.error fault.failure, network)
  | (none, network) => deliver network bytes

/-! ## Datagrams -/

/-- Bind an address for datagrams. -/
def bindDatagram (network : Network) (address : SocketAddress) :
    Except Failure SocketAddress × Network :=
  network.bindAddress (network.mailboxes.map (·.address.port)) address

/-- Let datagrams arrive at an address. -/
def addMailbox (network : Network) (address : SocketAddress) (hearsBroadcasts : Bool) :
    Network :=
  { network with mailboxes := network.mailboxes ++ [⟨address, hearsBroadcasts, []⟩] }

/-- Give a datagram address up. -/
def removeMailbox (network : Network) (port : UInt16) : Network :=
  { network with mailboxes := network.mailboxes.filter (·.address.port != port) }

/-- The mailbox at a port. -/
def mailbox? (network : Network) (port : UInt16) : Option Mailbox :=
  network.mailboxes.find? (·.address.port == port)

/-- Take the first datagram that waits at a port. -/
def takeDatagram (network : Network) (port : UInt16) : Option Datagram × Network :=
  match (network.mailbox? port).map (·.waiting) with
  | some (datagram :: rest) =>
      (some datagram,
        { network with
          mailboxes := network.mailboxes.map fun mailbox =>
            if mailbox.address.port == port then { mailbox with waiting := rest }
            else mailbox })
  | _ => (none, network)

/-- Put a datagram into the mailboxes that it is meant for. -/
def deliver (network : Network) (target : SocketAddress) (datagram : Datagram) : Network :=
  let toAll := target.ip == .broadcast4
  { network with
    mailboxes := network.mailboxes.map fun mailbox =>
      if mailbox.address.port == target.port && (!toAll || mailbox.hearsBroadcasts) then
        { mailbox with waiting := mailbox.waiting ++ [datagram] }
      else mailbox }

/-- Why a datagram cannot be sent, if it cannot. -/
def datagramObstacle? (network : Network) (source target : SocketAddress)
    (mayBroadcast : Bool) (length : Nat) : Option Failure :=
  if source.ip.isV4 && !target.ip.isV4 then
    some (.system Failure.Code.familyNotSupported)
  else if network.isolated then some (.system Failure.Code.networkUnreachable)
  else if source.ip.isV4 != target.ip.isV4 then
    some (.system Failure.Code.familyNotSupported)
  else if longestDatagram < length then some (.system Failure.Code.messageTooLong)
  else if target.ip == .broadcast4 then
    if mayBroadcast then none else some (.system Failure.Code.permissionDenied)
  else if isReachable target.ip then none
  else some (.system Failure.Code.networkUnreachable)

/-- The address that datagrams from a bound address show: the loopback address
stands for every interface. -/
def shownSource (bound : SocketAddress) : SocketAddress :=
  if bound.ip.isUnspecified then
    { bound with ip := if bound.ip.isV4 then .loopback4 else .loopback6 }
  else bound

/-- Send a datagram as it is, without running into faults. -/
def post (network : Network) (source target : SocketAddress) (mayBroadcast : Bool)
    (payload : Bytes) : Except Failure Nat × Network :=
  match network.datagramObstacle? source target mayBroadcast payload.length with
  | some failure => (.error failure, network)
  | none => (.ok payload.length, network.deliver target ⟨shownSource source, payload⟩)

/-- Send a datagram. -/
def sendDatagram (network : Network) (source target : SocketAddress) (mayBroadcast : Bool)
    (payload : Bytes) : Except Failure Nat × Network :=
  match network.consult .send with
  | (some fault, network) =>
      match fault.takes with
      | some limit => network.post source target mayBroadcast (payload.take limit)
      | none => (.error fault.failure, network)
  | (none, network) => network.post source target mayBroadcast payload

/-- Receive a datagram at a port, as far as there is room; the rest of it is lost. -/
def receiveDatagram (network : Network) (port : UInt16) (room : Nat) :
    Except Failure Datagram × Network :=
  match network.consult .receive with
  | (some fault, network) => (.error fault.failure, network)
  | (none, network) =>
      match network.takeDatagram port with
      | (some datagram, network) =>
          (.ok { datagram with payload := datagram.payload.take room }, network)
      | (none, network) => (.error (.system Failure.Code.wouldBlock), network)

end Network
end Framelink
