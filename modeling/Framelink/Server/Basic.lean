import Framelink.Server.Peer
import Framelink.Server.Report

/-!
# Servers

A server tracks peers, keeps what each of them sent in an inbox of its own, and
tells the application through callbacks.  Its transport supplies the socket and
the way in which bytes reach a peer; everything else is the same for all
transports and stands here.

`start` sets up the socket with the server marked as running, and takes the mark
back if that fails.  `stop` takes the mark away, lets the service threads end,
and forgets the local address; it keeps the tracked peers and their inboxes.
-/

namespace Framelink

/-- A server: peers are known by `Handle`, the transport keeps `Line` of each of
them and `Service` of itself. -/
structure Server (Handle Line Service : Type) where
  settings : Settings
  running : Bool
  /-- The address that is bound, while there is one. -/
  localAddress : Option SocketAddress
  peers : PeerTable Handle Line
  onData : Option Reaction
  onNewPeer : Option Reaction
  /-- What happened, oldest first. -/
  reports : List (Report Handle)
  service : Service

/-- How bytes are sent to a tracked peer. -/
abbrev Transmission (Handle Line Service : Type) :=
  Handle → Peer Line → Bytes → Server Handle Line Service →
    Except LinkError Nat × Server Handle Line Service

namespace Server

variable {Handle Line Service : Type} [DecidableEq Handle]

/-- A server that was never started. -/
def stopped (settings : Settings) (service : Service) : Server Handle Line Service where
  settings := settings
  running := false
  localAddress := none
  peers := []
  onData := none
  onNewPeer := none
  reports := []
  service := service

/-- Add a report. -/
def report (server : Server Handle Line Service) (report : Report Handle) :
    Server Handle Line Service :=
  { server with reports := server.reports ++ [report] }

/-! ## Peers -/

/-- The tracked peer of a handle. -/
def peer? (server : Server Handle Line Service) (handle : Handle) : Option (Peer Line) :=
  server.peers.find? handle

/-- Change the peer of a handle, if it is tracked. -/
def modifyPeer (server : Server Handle Line Service) (handle : Handle)
    (change : Peer Line → Peer Line) : Server Handle Line Service :=
  { server with peers := server.peers.modify handle change }

/-- Track a peer, in place of any other of the same handle. -/
def track (server : Server Handle Line Service) (handle : Handle) (peer : Peer Line) :
    Server Handle Line Service :=
  { server with peers := server.peers.insert handle peer }

/-- Track a peer unless its handle is tracked already; says whether it was not. -/
def trackNew (server : Server Handle Line Service) (handle : Handle) (peer : Peer Line) :
    Bool × Server Handle Line Service :=
  if server.peers.tracks handle then (false, server) else (true, server.track handle peer)

/-- Stop tracking a handle. -/
def untrack (server : Server Handle Line Service) (handle : Handle) :
    Server Handle Line Service :=
  { server with peers := server.peers.erase handle }

/-- Append bytes to the inbox of a peer, if it is tracked. -/
def push (server : Server Handle Line Service) (handle : Handle) (bytes : Bytes) :
    Server Handle Line Service :=
  server.modifyPeer handle fun peer => { peer with inbox := peer.inbox.push bytes }

/-! ## Sending -/

/-- Send bytes to the peer of a handle, if it is tracked. -/
def sendTracked (describe : Handle → String) (transmit : Transmission Handle Line Service)
    (handle : Handle) (bytes : Bytes) (server : Server Handle Line Service) :
    Except LinkError Nat × Server Handle Line Service :=
  match server.peer? handle with
  | none => (.error (.unknownPeer (describe handle)), server)
  | some peer => transmit handle peer bytes server

/-- Send bytes to every open peer of a table, whatever becomes of each. -/
def sendToEach (transmit : Transmission Handle Line Service) (bytes : Bytes)
    (server : Server Handle Line Service) (peers : PeerTable Handle Line) :
    Server Handle Line Service :=
  peers.foldl
    (fun server (handle, peer) =>
      if peer.isOpen then (transmit handle peer bytes server).2 else server)
    server

/-- Send bytes to every tracked peer that is open. -/
def sendToOpen (transmit : Transmission Handle Line Service) (bytes : Bytes)
    (server : Server Handle Line Service) :
    Except LinkError Unit × Server Handle Line Service :=
  (.ok (), server.sendToEach transmit bytes server.peers)

end Server

/-- What a transport supplies. -/
class Serving (Handle Line Service : Type) [DecidableEq Handle] where
  /-- The name of the kind of server. -/
  title : String
  /-- A handle in words. -/
  describe : Handle → String
  /-- Set up the socket and the service threads. -/
  listen : Server Handle Line Service → Except LinkError SocketAddress × Server Handle Line Service
  /-- Let the service threads of a server that no longer runs end, and give the
  socket up. -/
  windDown : Server Handle Line Service → Server Handle Line Service
  /-- Send bytes to a tracked peer. -/
  transmit : Transmission Handle Line Service
  /-- Send bytes to a handle; only tracked peers can be sent to, unless the
  transport says otherwise. -/
  sendTo : Handle → Bytes → Server Handle Line Service →
      Except LinkError Nat × Server Handle Line Service :=
    Server.sendTracked describe transmit
  /-- Send bytes to everybody; those are the tracked peers that are open, unless
  the transport says otherwise. -/
  broadcast : Bytes → Server Handle Line Service →
      Except LinkError Unit × Server Handle Line Service :=
    Server.sendToOpen transmit
  /-- Give up what the transport holds for a peer that is no longer tracked. -/
  release : Handle → Peer Line → Server Handle Line Service → Server Handle Line Service

namespace Server

variable {Handle Line Service : Type} [DecidableEq Handle] [Serving Handle Line Service]

/-- The tracked peer of a handle, or the error that there is none. -/
def require (server : Server Handle Line Service) (handle : Handle) :
    Except LinkError (Peer Line) :=
  match server.peer? handle with
  | some peer => .ok peer
  | none => .error (.unknownPeer (Serving.describe Line Service handle))

/-- The remote address of a peer. -/
def remoteAddress (server : Server Handle Line Service) (handle : Handle) :
    Except LinkError SocketAddress :=
  (server.require handle).map Peer.address

omit [Serving Handle Line Service] in
/-- Whether a peer is tracked and open. -/
def isPeerOpen (server : Server Handle Line Service) (handle : Handle) : Bool :=
  ((server.peer? handle).map Peer.isOpen).getD false

/-- Number of bytes in the inbox of a peer. -/
def available (server : Server Handle Line Service) (handle : Handle) :
    Except LinkError Nat :=
  (server.require handle).map fun peer => peer.inbox.size

/-- The tally of the inbox of a peer. -/
def tally (server : Server Handle Line Service) (handle : Handle) :
    Except LinkError Tally :=
  (server.require handle).map fun peer => peer.inbox.tally

/-- Copy at most `size` bytes from the inbox of a peer, and take them away if
`erase` is set. -/
def read (server : Server Handle Line Service) (handle : Handle) (size : Nat)
    (erase : Bool) : Except LinkError Bytes × Server Handle Line Service :=
  match server.require handle with
  | .error error => (.error error, server)
  | .ok peer =>
      let (copied, inbox) := peer.inbox.read size erase
      (.ok copied, server.modifyPeer handle fun peer => { peer with inbox })

/-- Empty the inbox of a peer. -/
def clear (server : Server Handle Line Service) (handle : Handle) :
    Except LinkError Unit × Server Handle Line Service :=
  match server.require handle with
  | .error error => (.error error, server)
  | .ok _ =>
      (.ok (), server.modifyPeer handle fun peer => { peer with inbox := peer.inbox.clear })

/-- Stop tracking a peer; says whether it was tracked. -/
def remove (server : Server Handle Line Service) (handle : Handle) :
    Bool × Server Handle Line Service :=
  match server.peer? handle with
  | none => (false, server)
  | some peer =>
      (true, Serving.release handle peer (server.untrack handle))

/-- Send bytes to a tracked peer. -/
def transmit (server : Server Handle Line Service) (handle : Handle) (bytes : Bytes) :
    Except LinkError Nat × Server Handle Line Service :=
  server.sendTracked (Serving.describe Line Service) Serving.transmit handle bytes

/-! ## Starting and stopping -/

/-- Set up the socket of a server that is marked as running; if that fails, take the
mark back. -/
def setUp (server : Server Handle Line Service) :
    Except LinkError Unit × Server Handle Line Service :=
  match Serving.listen server with
  | (.ok address, server) => (.ok (), { server with localAddress := some address })
  | (.error error, server) => (.error error, { server with running := false })

/-- Start a server that does not run. -/
def start (server : Server Handle Line Service) :
    Except LinkError Unit × Server Handle Line Service :=
  if server.running then (.error .alreadyRunning, server)
  else { server with running := true }.setUp

/-- Stop a server that runs. -/
def stop (server : Server Handle Line Service) : Server Handle Line Service :=
  if server.running then
    { Serving.windDown { server with running := false } with localAddress := none }
  else server

/-! ## Words -/

/-- A server in words. -/
def describe (server : Server Handle Line Service) : String :=
  let address :=
    match server.localAddress with
    | some address => "Some(" ++ address.text ++ ")"
    | none => "None"
  "ServerCore \x7b name: \"" ++ Serving.title Handle Line Service ++ "\", running: " ++
    (if server.running then "true" else "false") ++ ", local_addr: " ++ address ++
    ", peers: " ++ toString server.peers.length ++ " \x7d"

end Server
end Framelink
