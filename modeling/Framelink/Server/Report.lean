import Framelink.Inbox
import Framelink.LinkError
import Framelink.Settings.Basic

/-!
# Reactions and reports

An application hears from a server through two callbacks: one for data that a
peer sent, and one for a peer that was not tracked before.  What a callback does
is a `Reaction`.  What it was called with, and what came of it, is a `Report`.
Reports also tell when an in-memory server sets up its socket and gives it up.
-/

namespace Framelink

/-- What a callback does. -/
inductive Reaction
  /-- Nothing but take note. -/
  | log
  /-- Send the data back. -/
  | echo
  /-- Send the data back in reverse order. -/
  | reverse
  /-- Send a greeting. -/
  | greet
  /-- Take as many bytes as were received out of the peer's inbox. -/
  | drain
  /-- Copy as many bytes as were received from the peer's inbox. -/
  | peek
  /-- Empty the peer's inbox. -/
  | clear
  /-- Stop tracking the peer. -/
  | remove
  /-- Put other callbacks in place. -/
  | replace (onData onNewPeer : Option Reaction)
  /-- Stop the server. -/
  | stop
  /-- Start the server. -/
  | start
  /-- Fail in a way that ends the calling thread. -/
  | panic
  /-- Fail in that way and catch it before the calling thread ends. -/
  | recover

namespace Reaction

/-- The name of a reaction. -/
def name : Reaction → String
  | .log => "log"
  | .echo => "echo"
  | .reverse => "reverse"
  | .greet => "greet"
  | .drain => "drain"
  | .peek => "peek"
  | .clear => "clear"
  | .remove => "remove"
  | .replace _ _ => "unset"
  | .stop => "stop"
  | .start => "start"
  | .panic => "panic"
  | .recover => "recover"

/-- The reactions that have names of their own; to unset is to put no callbacks
in place. -/
def named : List Reaction :=
  [.log, .echo, .reverse, .greet, .drain, .peek, .clear, .remove, .replace none none, .stop,
    .start, .panic, .recover]

/-- The reaction of a name. -/
def ofName? (name : String) : Option Reaction :=
  named.find? fun reaction => reaction.name == name

end Reaction

/-- What came of a reaction. -/
inductive Answer
  /-- There is nothing to say. -/
  | nothing
  /-- Bytes were sent, or not. -/
  | sent (result : Except LinkError Nat)
  /-- Bytes were read into a buffer of a size, or not. -/
  | copied (size : Nat) (result : Except LinkError Bytes)
  /-- An inbox was emptied, or not. -/
  | cleared (result : Except LinkError Unit)
  /-- Whether the peer was tracked before. -/
  | removed (wasTracked : Bool)
  /-- Other callbacks are in place. -/
  | replaced
  /-- Whether the server runs after it was stopped. -/
  | stopped (running : Bool)
  /-- The server was started, or not. -/
  | started (result : Except LinkError Unit)

/-- What happened in a server. -/
inductive Report (Handle : Type)
  /-- The data callback was called. -/
  | received (data : Bytes) (peer : Handle) (reaction : Reaction) (answer : Answer)
  /-- The new-peer callback was called. -/
  | joined (address : SocketAddress) (peer : Handle) (reaction : Reaction) (answer : Answer)
  /-- A socket was about to be set up. -/
  | listening (running : Bool)
  /-- The socket was given up. -/
  | released (running : Bool)

end Framelink
