import Framelink.Network.Basic

/-!
# The threads of a stream server

A stream server runs one acceptor, which admits connections one after the other,
and one worker for each connection that it admitted.  A thread is a program
counter: the phase it is in says what it does next.  Between two of its steps
any other thread may run.
-/

namespace Framelink
namespace Tcp

/-- A connection on its way to becoming a peer, with the settings of the moment
when it was accepted. -/
structure Admission where
  /-- The number of its wire. -/
  wire : Nat
  /-- The most bytes that its worker takes at once. -/
  chunk : UInt64
  /-- Its worker waits for data no longer than the poll interval. -/
  bounded : Bool
  /-- Its segments are to be acknowledged at once. -/
  quickAck : Bool
  deriving DecidableEq, Repr

/-- What an acceptor does next. -/
inductive Acceptor.Phase
  /-- See whether the server runs. -/
  | looking
  /-- Accept a connection. -/
  | accepting
  /-- Set a connection up. -/
  | configuring (admission : Admission)
  /-- Give a connection its number and track it. -/
  | registering (admission : Admission)
  /-- Call the new-peer callback. -/
  | greeting (id : UInt64) (admission : Admission)
  /-- Start the worker. -/
  | spawning (id : UInt64) (admission : Admission)
  /-- Leave the handle of the worker on a wire with its peer. -/
  | storing (wire : Nat)
  deriving DecidableEq, Repr

/-- A thread that accepts connections at a port. -/
structure Acceptor where
  port : UInt16
  phase : Acceptor.Phase
  deriving DecidableEq, Repr

/-- The wire of the peer that is being admitted and has no worker yet. -/
def Acceptor.admits? (acceptor : Acceptor) : Option Nat :=
  match acceptor.phase with
  | .greeting _ admission | .spawning _ admission => some admission.wire
  | _ => none

/-- What a worker does next. -/
inductive Worker.Phase
  /-- See whether the server runs. -/
  | looking
  /-- Receive. -/
  | receiving
  /-- Go on with a receive that waits without bound. -/
  | waiting
  /-- Put a chunk into the inbox. -/
  | queueing (chunk : Bytes)
  /-- See whether the server still runs. -/
  | confirming (chunk : Bytes)
  /-- Call the data callback. -/
  | announcing (chunk : Bytes)
  /-- Close the peer and end. -/
  | leaving
  deriving DecidableEq, Repr

/-- Where the handle is kept that a worker is joined by. -/
inductive Custody
  /-- Still with the acceptor. -/
  | unstored
  /-- With the peer, tracked or not. -/
  | stored
  /-- With somebody who removes the peer. -/
  | seized
  /-- With those of the peers that were removed while they were served. -/
  | detached
  /-- With somebody who stops the server. -/
  | awaited
  /-- Nowhere: nobody can join the worker. -/
  | lost
  deriving DecidableEq, Repr

/-- A thread that serves the connection of a peer.  A wire has at most one worker,
while the number of its peer can be given out again once all numbers were. -/
structure Worker where
  /-- The number of its peer. -/
  id : UInt64
  /-- The number of its wire. -/
  wire : Nat
  /-- The most bytes that it takes at once. -/
  chunk : Nat
  /-- Its receives wait no longer than the poll interval. -/
  bounded : Bool
  phase : Worker.Phase
  custody : Custody
  deriving DecidableEq, Repr

/-- A service thread. -/
inductive Thread
  /-- The acceptor at a port. -/
  | acceptor (port : UInt16)
  /-- The worker on a wire. -/
  | worker (wire : Nat)
  deriving DecidableEq, Repr

end Tcp
end Framelink
