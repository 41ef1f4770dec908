import Framelink.Failure.Basic

/-!
# Planned faults

A fault makes one system call fail, or take less than it was given.  Faults wait
in a list.  A call looks for the first fault with its name: while that has calls
left to skip it counts one off and spares the call; otherwise it strikes and is
gone.
-/

namespace Framelink

/-- The system calls that faults can strike. -/
inductive SystemCall
  | socket
  | setOption
  | bind
  | listen
  | control
  | socketName
  | thread
  | accept
  | duplicate
  | receive
  | send
  | connect
  | openDevice
  | setLine
  | poll
  deriving DecidableEq, Repr

namespace SystemCall

/-- The calls with the names that the system knows them by. -/
def named : List (String × SystemCall) :=
  [("socket", .socket), ("setsockopt", .setOption), ("bind", .bind), ("listen", .listen),
    ("ioctl", .control), ("getsockname", .socketName), ("thread", .thread),
    ("accept", .accept), ("dup", .duplicate), ("recv", .receive), ("send", .send),
    ("connect", .connect), ("open", .openDevice), ("tcsetattr", .setLine), ("ppoll", .poll)]

/-- The call of a name. -/
def ofName? (name : String) : Option SystemCall := named.lookup name

end SystemCall

/-- A fault that waits for its call. -/
structure Fault where
  call : SystemCall
  /-- How many calls are spared before. -/
  skip : Nat
  /-- The code that the call fails with. -/
  code : Int
  /-- The call does not fail, but takes at most so many bytes. -/
  takes : Option Nat
  deriving DecidableEq, Repr

namespace Fault

/-- The faults after a call, and the one that struck it. -/
def strike (call : SystemCall) : List Fault → Option Fault × List Fault
  | [] => (none, [])
  | fault :: rest =>
      if fault.call = call then
        match fault.skip with
        | 0 => (some fault, rest)
        | skip + 1 => (none, { fault with skip } :: rest)
      else
        let (struck, rest) := strike call rest
        (struck, fault :: rest)

/-- Whether a fault waits for a call. -/
def awaits (call : SystemCall) (faults : List Fault) : Bool :=
  faults.any (·.call == call)

/-- How many faults wait for a call. -/
def pending (call : SystemCall) (faults : List Fault) : Nat :=
  faults.countP (·.call == call)

/-- The failure that a fault stands for. -/
def failure (fault : Fault) : Failure := .system fault.code

end Fault
end Framelink
