import Framelink.Udp.Server

/-!
# Correspondents of a datagram server

A scene is a datagram server together with other sockets that exchange datagrams
with it.  Each of them goes by a name.  Whatever a correspondent does, the server
settles before anything else happens.
-/

namespace Framelink
namespace Udp

/-- A socket that corresponds with the server. -/
structure Correspondent where
  name : String
  /-- The address that it is bound to. -/
  address : SocketAddress
  deriving DecidableEq, Repr

/-- A server and those who correspond with it. -/
structure Scene where
  server : Server
  correspondents : List Correspondent
  /-- The address that the server was bound to when it was started last. -/
  doorway : Option SocketAddress

namespace Scene

/-- A server that corresponds with nobody. -/
def empty (server : Server) : Scene := ⟨server, [], none⟩

/-- Take note of the address that the server is bound to. -/
def noteDoorway (scene : Scene) : Scene :=
  match scene.server.localAddress with
  | some address => { scene with doorway := some address }
  | none => scene

/-- Let the server settle. -/
def settle (scene : Scene) : Scene :=
  { scene.noteDoorway with server := scene.server.settle }

/-- Bind a socket for a correspondent: at a port of its own at the loopback
address, or at a port on every interface, where it hears broadcasts too. -/
def join (scene : Scene) (name : String) (port : Option UInt16) : Scene :=
  let network := scene.server.network
  let (address, network) : SocketAddress × Network :=
    match port with
    | some port => (⟨.unspecified4, port, 0⟩, network)
    | none =>
        let (port, network) := network.freePort
        (⟨.loopback4, port, 0⟩, network)
  { scene with
    server := scene.server.withNetwork (network.addMailbox address port.isSome)
    correspondents := scene.correspondents ++ [⟨name, address⟩] }

/-- The correspondent of a name. -/
def correspondent? (scene : Scene) (name : String) : Option Correspondent :=
  scene.correspondents.find? (·.name == name)

/-- The correspondent at an address. -/
def correspondentAt? (scene : Scene) (address : SocketAddress) : Option Correspondent :=
  scene.correspondents.find? (·.address == address)

/-- Let a correspondent send a datagram to the server; says whether it could be
sent, whether or not anybody receives it. -/
def say (scene : Scene) (correspondent : Correspondent) (payload : Bytes) : Bool × Scene :=
  if scene.server.network.isolated then (false, scene)
  else
    match scene.doorway with
    | none => (true, scene)
    | some target =>
        let (sent, network) :=
          scene.server.network.post correspondent.address target false payload
        (sent matches .ok _, { scene with server := scene.server.withNetwork network }.settle)

/-- Let a correspondent receive a datagram, if one waits. -/
def hear (scene : Scene) (correspondent : Correspondent) : Option Datagram × Scene :=
  let (datagram, network) :=
    scene.server.network.takeDatagram correspondent.address.port
  (datagram, { scene with server := scene.server.withNetwork network })

/-- Whether a datagram shows the address that the server was bound to; one that
was bound to every interface is not known by that. -/
def isFromServer (scene : Scene) (datagram : Datagram) : Bool :=
  scene.doorway == some datagram.source

/-- Whether no datagram waits for a correspondent. -/
def isSilent (scene : Scene) (correspondent : Correspondent) : Bool :=
  ((scene.server.network.mailbox? correspondent.address.port).map fun mailbox =>
    mailbox.waiting.isEmpty).getD true

/-- Give the server up. -/
def abandon (scene : Scene) : Scene := { scene with server := scene.server.abandon }

end Scene
end Udp
end Framelink
