import Framelink.Tcp.Server.Settling

/-!
# Visitors of a stream server

A scene is a stream server together with the far ends that connect to it.  Each
of them goes by a name.  Whatever a visitor does, the server settles before
anything else happens.
-/

namespace Framelink
namespace Tcp

/-- A far end that connected to the server. -/
structure Visitor where
  name : String
  address : SocketAddress
  wire : Nat
  /-- It can still be addressed by its name. -/
  present : Bool
  deriving DecidableEq, Repr

/-- A server and all its visitors. -/
structure Scene where
  server : Server
  visitors : List Visitor

/-- What became of an attempt to connect. -/
inductive Visit
  /-- Nobody listens. -/
  | refused
  /-- A peer of this number is tracked for the visitor, or none. -/
  | established (peer : Option UInt64)
  deriving DecidableEq, Repr

namespace Scene

/-- A server that nobody has visited. -/
def empty (server : Server) : Scene := ⟨server, []⟩

/-- Let the server settle. -/
def settle (scene : Scene) : Scene := { scene with server := scene.server.settle }

/-- Let the network change, then let the server settle. -/
def disturb (scene : Scene) (change : Network → Network) : Scene :=
  { scene with server := (scene.server.modifyNetwork change).settle }

/-- The visitor of a name. -/
def visitor? (scene : Scene) (name : String) : Option Visitor :=
  scene.visitors.find? fun visitor => visitor.present && visitor.name == name

/-- The name of the visitor at an address. -/
def nameAt? (scene : Scene) (address : SocketAddress) : Option String :=
  (scene.visitors.find? (·.address == address)).map Visitor.name

/-- The port at which the server can be reached, if it can. -/
def doorway? (server : Server) : Option UInt16 :=
  match server.localAddress with
  | none => none
  | some address =>
      if server.network.isolated then none
      else (server.network.listener? address.port).map (·.address.port)

/-- No visitor goes by a name any more. -/
def forget (scene : Scene) (name : String) : Scene :=
  { scene with
    visitors := scene.visitors.map fun visitor =>
      if visitor.name == name then { visitor with present := false } else visitor }

/-- Close the far end of a visitor; its name is free again. -/
def leave (scene : Scene) (visitor : Visitor) : Scene :=
  (scene.disturb (·.modifyWire visitor.wire Wire.farClose)).forget visitor.name

/-- Abort at the far end of a visitor; its name is free again. -/
def abort (scene : Scene) (visitor : Visitor) : Scene :=
  (scene.disturb (·.modifyWire visitor.wire Wire.farReset)).forget visitor.name

/-- Let a visitor send no more. -/
def finish (scene : Scene) (visitor : Visitor) : Scene :=
  scene.disturb (·.modifyWire visitor.wire Wire.farFinish)

/-- Let a visitor send bytes; says whether it could. -/
def say (scene : Scene) (visitor : Visitor) (bytes : Bytes) : Bool × Scene :=
  match scene.server.network.wire? visitor.wire with
  | none => (false, scene)
  | some wire =>
      let (sent, wire) := wire.farSend bytes
      (sent, scene.disturb (·.modifyWire visitor.wire fun _ => wire))

/-- Let a visitor receive so many bytes. -/
def hear (scene : Scene) (visitor : Visitor) (wanted : Nat) :
    Bytes × Wire.FarReceiveEnd × Scene :=
  match scene.server.network.wire? visitor.wire with
  | none => ([], .endOfStream, scene)
  | some wire =>
      let (bytes, ending, wire) := wire.farReceive wanted
      (bytes, ending, scene.disturb (·.modifyWire visitor.wire fun _ => wire))

/-- Whether nothing waits for a visitor and its connection is open. -/
def isSilent (scene : Scene) (visitor : Visitor) : Bool :=
  match scene.server.network.wire? visitor.wire with
  | none => false
  | some wire => wire.outbound.isEmpty && wire.near.isOpen

/-- The number of the tracked peer at an address. -/
def peerAt? (server : Server) (address : SocketAddress) : Option UInt64 :=
  (List.find? (fun (_, peer) => peer.address == address) server.peers).map Prod.fst

/-- Connect under a name.  A visitor who had the name before leaves once the
connection stands. -/
def visit (scene : Scene) (name : String) : Visit × Scene :=
  match doorway? scene.server with
  | none => (.refused, scene)
  | some port =>
      let (ownPort, network) := scene.server.network.freePort
      let address : SocketAddress := ⟨.loopback4, ownPort, 0⟩
      let (wire, network) := network.establish port address
      let admitted := { scene with server := (scene.server.withNetwork network).settle }
      let peer := peerAt? admitted.server address
      let parted :=
        match scene.visitor? name with
        | some visitor => admitted.leave visitor
        | none => admitted
      (.established peer,
        { parted with visitors := parted.visitors ++ [⟨name, address, wire, true⟩] })

/-- Let one fault strike the server if it finds a call now. -/
def strike (scene : Scene) (fault : Fault) : Scene :=
  let struck := scene.disturb fun network => { network with faults := fault :: network.faults }
  if struck.server.network.faults.head? = some fault then
    struck.disturb fun network => { network with faults := network.faults.drop 1 }
  else struck

/-- Let every accept fail for a moment for want of descriptors. -/
def exhaustDescriptors (scene : Scene) : Scene :=
  scene.strike ⟨.accept, 0, Failure.Code.tooManyOpenFiles, none⟩

/-- Give the server up. -/
def abandon (scene : Scene) : Scene := { scene with server := scene.server.abandon }

end Scene
end Tcp
end Framelink
