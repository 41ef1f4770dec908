import Framelink.Server.Basic

/-!
# Callbacks

Calling a callback performs its reaction and reports it.  The report stands
before those of what the reaction brings about.  A callback that was called goes
on to its end even if it is replaced meanwhile.
-/

namespace Framelink

/-- What became of a call back to the application. -/
inductive Delivery
  /-- There was no callback. -/
  | unheard
  /-- The callback returned. -/
  | heard
  /-- The callback failed in a way that ends the calling thread. -/
  | panicked
  deriving DecidableEq, Repr

namespace Server

variable {Handle Line Service : Type} [DecidableEq Handle] [Serving Handle Line Service]

/-- The greeting that peers are sent. -/
def greeting : Bytes := Bytes.ofText "hello"

/-- Perform a reaction to data from a peer. -/
def perform (server : Server Handle Line Service) (peer : Handle) (data : Bytes) :
    Reaction → Answer × Server Handle Line Service
  | .log => (.nothing, server)
  | .echo => (Serving.sendTo peer data server).map .sent id
  | .reverse => (Serving.sendTo peer data.reverse server).map .sent id
  | .greet => (Serving.sendTo peer greeting server).map .sent id
  | .drain => (server.read peer data.length true).map (.copied data.length) id
  | .peek => (server.read peer data.length false).map (.copied data.length) id
  | .clear => (server.clear peer).map .cleared id
  | .remove => (server.remove peer).map .removed id
  | .replace onData onNewPeer => (.replaced, { server with onData, onNewPeer })
  | .stop =>
      let server := server.stop
      (.stopped server.running, server)
  | .start => server.start.map .started id
  | .panic | .recover => (.nothing, server)

/-- Call a callback: perform its reaction, and report it before all that it
brings about. -/
def callBack (server : Server Handle Line Service) (peer : Handle) (data : Bytes)
    (reaction : Reaction) (report : Answer → Report Handle) :
    Delivery × Server Handle Line Service :=
  let (answer, after) := { server with reports := [] }.perform peer data reaction
  (if reaction matches .panic then .panicked else .heard,
    { after with reports := server.reports ++ report answer :: after.reports })

/-- Call the data callback for data from a peer. -/
def dispatchData (server : Server Handle Line Service) (peer : Handle) (data : Bytes) :
    Delivery × Server Handle Line Service :=
  match server.onData with
  | none => (.unheard, server)
  | some reaction => server.callBack peer data reaction (.received data peer reaction)

/-- Call the new-peer callback for a peer. -/
def dispatchNewPeer (server : Server Handle Line Service) (peer : Handle)
    (address : SocketAddress) : Delivery × Server Handle Line Service :=
  match server.onNewPeer with
  | none => (.unheard, server)
  | some reaction => server.callBack peer [] reaction (.joined address peer reaction)

end Server

/-- How a server calls back. -/
structure Callbacks (Handle Line Service : Type) where
  /-- Call the data callback for data from a peer. -/
  data : Server Handle Line Service → Handle → Bytes → Delivery × Server Handle Line Service
  /-- Call the new-peer callback for a peer. -/
  newPeer : Server Handle Line Service → Handle → SocketAddress →
    Delivery × Server Handle Line Service

namespace Callbacks

variable {Handle Line Service : Type}

/-- Every call comes out the same and leaves the server as it is. -/
def answering (delivery : Delivery) : Callbacks Handle Line Service where
  data := fun server _ _ => (delivery, server)
  newPeer := fun server _ _ => (delivery, server)

/-- Nobody is called back. -/
def silent : Callbacks Handle Line Service := answering .unheard

/-- The callbacks of the application. -/
def live [DecidableEq Handle] [Serving Handle Line Service] :
    Callbacks Handle Line Service where
  data := Server.dispatchData
  newPeer := Server.dispatchNewPeer

end Callbacks
end Framelink
