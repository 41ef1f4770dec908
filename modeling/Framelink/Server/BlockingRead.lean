import Framelink.Server.Basic

/-!
# Blocking reads

A blocking read looks, in this order, whether enough bytes are in the inbox,
whether the peer is open, and whether the server runs.  It waits and looks again
as long as there are too few bytes from an open peer of a running server;
otherwise it copies what is there.
-/

namespace Framelink

/-- Where a blocking read stands. -/
inductive ReadPhase
  /-- About to count the bytes in the inbox. -/
  | counting
  /-- About to look whether the peer is open. -/
  | askingPeer
  /-- About to look whether the server runs. -/
  | askingServer
  /-- About to copy. -/
  | copying
  deriving DecidableEq, Repr

namespace ReadPhase

/-- The phase after one look at a peer and its server. -/
def next (phase : ReadPhase) (size : Nat) (peer : Peer Line) (running : Bool) : ReadPhase :=
  match phase with
  | .counting => if peer.inbox.size < size then .askingPeer else .copying
  | .askingPeer => if peer.isOpen then .askingServer else .copying
  | .askingServer => if running then .counting else .copying
  | .copying => .copying

/-- The phase after a round of looks, while nothing changes. -/
def afterRound (size : Nat) (peer : Peer Line) (running : Bool) : ReadPhase :=
  ((ReadPhase.counting.next size peer running).next size peer running).next size peer running

end ReadPhase

namespace Server

variable {Handle Line Service : Type} [DecidableEq Handle] [Serving Handle Line Service]

/-- A blocking read while nothing changes: nothing if it would wait for ever. -/
def readBlocking (server : Server Handle Line Service) (handle : Handle) (size : Nat)
    (erase : Bool) : Option (Except LinkError Bytes × Server Handle Line Service) :=
  match server.peer? handle with
  | none => some (server.read handle size erase)
  | some peer =>
      if ReadPhase.afterRound size peer server.running = .copying then
        some (server.read handle size erase)
      else none

end Server
end Framelink
