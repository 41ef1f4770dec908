import Framelink.Network.Basic
import Framelink.Server.Basic

/-!
# Servers on a network

What the servers of all transports do with the network under them: run into
faults that were planned, find a port taken, run out of descriptors.
-/

namespace Framelink

/-- What a measure of the items of a list adds up to. -/
def total {α : Type} (measure : α → Nat) (items : List α) : Nat :=
  items.foldr (fun item sum => measure item + sum) 0

/-- What a failure to bind the address of the settings is reported as. -/
def Settings.bindError (settings : Settings) (failure : Failure) : LinkError :=
  if failure.isSocketCreation then .socketCreate failure
  else .bind settings.socketAddress.text failure

/-- A server whose service holds a network. -/
class Networked (Handle Line Service : Type) [DecidableEq Handle] extends
    Serving Handle Line Service where
  network : Service → Network
  withNetwork : Service → Network → Service
  /-- Let the service threads step until none has anything to do. -/
  settle : Server Handle Line Service → Server Handle Line Service
  /-- Take a port away from the transport. -/
  holdPort : UInt16 → Network → Network
  /-- Give a port that was taken away back. -/
  freePort : UInt16 → Network → Network

namespace Server

variable {Handle Line Service : Type} [DecidableEq Handle] [Networked Handle Line Service]

/-- Let the network of a server change. -/
def onNetwork (server : Server Handle Line Service) (change : Network → Network) :
    Server Handle Line Service :=
  { server with
    service :=
      Networked.withNetwork Handle Line server.service
        (change (Networked.network Handle Line server.service)) }

/-- Let or do not let the process open descriptors. -/
def withDescriptors (server : Server Handle Line Service) (descriptorsLeft : Bool) :
    Server Handle Line Service :=
  server.onNetwork fun network => { network with descriptorsLeft }

/-- Plan faults and let the server settle; says whether the service threads have
run into as many faults of a call as were added. -/
def plan (server : Server Handle Line Service) (call : SystemCall) (faults : List Fault) :
    Bool × Server Handle Line Service :=
  let waiting := fun (server : Server Handle Line Service) =>
    Fault.pending call (Networked.network Handle Line server.service).faults
  let planned := Networked.settle (server.onNetwork fun network =>
    { network with faults := network.faults ++ faults })
  (waiting planned ≤ waiting server, planned)

/-- Start a server at a port that somebody else holds; gives the port too. -/
def startAtTakenPort (server : Server Handle Line Service) :
    UInt16 × Except LinkError Unit × Server Handle Line Service :=
  let (port, network) := (Networked.network Handle Line server.service).freePort
  let server := server.onNetwork fun _ => Networked.holdPort Handle Line Service port network
  (port, { server with settings := { server.settings with port } }.start)

/-- Give a port back that somebody held, and let the system choose the server's. -/
def releasePort (server : Server Handle Line Service) (port : UInt16) :
    Server Handle Line Service :=
  let server := server.onNetwork (Networked.freePort Handle Line Service port)
  { server with settings := { server.settings with port := 0 } }

end Server
end Framelink
