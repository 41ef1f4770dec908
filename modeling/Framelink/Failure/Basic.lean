import Framelink.Failure.Code

/-!
# Failures of system calls

A failure is a code that the system gave, or a kind of failure that a library
reports of its own accord, with a text of its own or without one.  Reads and
server loops tell three sorts apart: interruptions, which are always tried
again; transient failures, which mean that nothing is there yet; and all others.
-/

namespace Framelink

/-- What sort of failure something is, whatever its code. -/
inductive Failure.Kind
  | notFound
  | permissionDenied
  | connectionRefused
  | connectionReset
  | connectionAborted
  | notConnected
  | addressInUse
  | addressNotAvailable
  | brokenPipe
  | alreadyExists
  | wouldBlock
  | invalidInput
  | invalidData
  | timedOut
  | writeZero
  | interrupted
  | unsupported
  | unexpectedEnd
  | outOfMemory
  | other
  deriving DecidableEq, Repr

/-- All kinds of failure with their names. -/
def Failure.Kind.named : List (String × Failure.Kind) :=
  [("NotFound", .notFound), ("PermissionDenied", .permissionDenied),
    ("ConnectionRefused", .connectionRefused), ("ConnectionReset", .connectionReset),
    ("ConnectionAborted", .connectionAborted), ("NotConnected", .notConnected),
    ("AddrInUse", .addressInUse), ("AddrNotAvailable", .addressNotAvailable),
    ("BrokenPipe", .brokenPipe), ("AlreadyExists", .alreadyExists),
    ("WouldBlock", .wouldBlock), ("InvalidInput", .invalidInput),
    ("InvalidData", .invalidData), ("TimedOut", .timedOut), ("WriteZero", .writeZero),
    ("Interrupted", .interrupted), ("Unsupported", .unsupported),
    ("UnexpectedEof", .unexpectedEnd), ("OutOfMemory", .outOfMemory), ("Other", .other)]

/-- The kind of failure of a name. -/
def Failure.Kind.ofName? (name : String) : Option Failure.Kind := named.lookup name

/-- A kind of failure in words. -/
def Failure.Kind.describe : Failure.Kind → String
  | .notFound => "entity not found"
  | .permissionDenied => "permission denied"
  | .connectionRefused => "connection refused"
  | .connectionReset => "connection reset"
  | .connectionAborted => "connection aborted"
  | .notConnected => "not connected"
  | .addressInUse => "address in use"
  | .addressNotAvailable => "address not available"
  | .brokenPipe => "broken pipe"
  | .alreadyExists => "entity already exists"
  | .wouldBlock => "operation would block"
  | .invalidInput => "invalid input parameter"
  | .invalidData => "invalid data"
  | .timedOut => "timed out"
  | .writeZero => "write zero"
  | .interrupted => "operation interrupted"
  | .unsupported => "unsupported"
  | .unexpectedEnd => "unexpected end of file"
  | .outOfMemory => "out of memory"
  | .other => "other error"

/-- Why a call failed. -/
inductive Failure
  /-- The system gave this code. -/
  | system (code : Int)
  /-- A kind alone. -/
  | plain (kind : Failure.Kind)
  /-- A kind with a text that says more. -/
  | custom (kind : Failure.Kind) (text : String)
  deriving DecidableEq, Repr

namespace Failure

/-- The code that the system gave, if it gave one. -/
def code? : Failure → Option Int
  | .system code => some code
  | .plain _ => none
  | .custom _ _ => none

/-- A failure in words; a code stands behind its meaning. -/
def message : Failure → String
  | .system code => s!"{Code.describe code} (os error {code})"
  | .plain kind => kind.describe
  | .custom _ text => text

/-- Whether a failure is of the kind that has this code. -/
def isOf (code : Int) (kind : Kind) : Failure → Bool
  | .system actual => actual == code
  | .plain actual => actual == kind
  | .custom actual _ => actual == kind

/-- The call was interrupted. -/
def isInterrupted : Failure → Bool := isOf Code.interrupted .interrupted

/-- The call would have had to wait. -/
def isWouldBlock : Failure → Bool := isOf Code.wouldBlock .wouldBlock

/-- The call waited in vain. -/
def isTimedOut : Failure → Bool := isOf Code.timedOut .timedOut

/-- The connection was given up before it was accepted. -/
def isConnectionAborted : Failure → Bool := isOf Code.connectionAborted .connectionAborted

/-- Nothing is there yet, so the call can be made again. -/
def isTransient (failure : Failure) : Bool :=
  failure.isWouldBlock || failure.isTimedOut || failure.isInterrupted

/-- The codes that mean that the system could not create a socket at all. -/
def socketCreationCodes : List Int := [24, 23, 105, 12, 97, 93]

/-- The system could not create a socket at all. -/
def isSocketCreation (failure : Failure) : Bool :=
  match failure.code? with
  | some code => socketCreationCodes.contains code
  | none => false

end Failure
end Framelink
