import Framelink.Failure.Basic

/-!
# Failures of serial ports

A port that is open for reading and writing reports failures in words of its own,
without the code.
-/

namespace Framelink
namespace Serial

/-- The words for a code: those of the system but for a few, and none for a code
that the system does not give. -/
def describeCode : Int → String
  | 0 => unknownCode
  | 5 => "I/O error"
  | 9 => "Bad file number"
  | 11 => "Try again"
  | 12 => "Out of memory"
  | 18 => "Cross-device link"
  | 23 => "File table overflow"
  | 25 => "Not a typewriter"
  | 33 => "Math argument out of domain of func"
  | 34 => "Math result not representable"
  | 35 => "Resource deadlock would occur"
  | 37 => "No record locks available"
  | 40 => "Too many symbolic links encountered"
  | 74 => "Not a data message"
  | 84 => "Illegal byte sequence"
  | 95 => "Operation not supported on transport endpoint"
  | 102 => "Network dropped connection because of reset"
  | 122 => "Quota exceeded"
  | code => (Failure.Code.meaning? code).getD unknownCode
where
  /-- The words for any other code. -/
  unknownCode : String := "Unknown errno"

/-- What sort of error a port reports. -/
inductive PortError.Sort
  /-- The device is not there, or somebody else has it. -/
  | noDevice
  /-- A parameter has no meaning for the device. -/
  | invalidInput
  | unknown
  /-- A call of the system failed. -/
  | io (kind : Failure.Kind)
  deriving DecidableEq, Repr

/-- An error that a port reports. -/
structure PortError where
  sort : PortError.Sort
  text : String
  deriving DecidableEq, Repr

namespace PortError

/-- The kind of failure that errors of a sort are. -/
def Sort.kind : PortError.Sort → Failure.Kind
  | .noDevice => .notFound
  | .invalidInput => .invalidInput
  | .unknown => .other
  | .io kind => kind

/-- An error as the failure of a call. -/
def failure (error : PortError) : Failure := .custom error.sort.kind error.text

/-- The sorts of error with which opening a path says that it cannot be reached. -/
def unreachableSorts : List PortError.Sort := [.noDevice, .io .notFound, .io .permissionDenied]

/-- The error means that the path cannot be reached. -/
def meansUnreachable (error : PortError) : Bool := unreachableSorts.contains error.sort

/-- The sort of error that a code is. -/
def sortOfCode : Int → PortError.Sort
  | 2 => .io .notFound
  | 4 => .io .interrupted
  | 11 => .io .wouldBlock
  | 13 => .io .permissionDenied
  | 16 => .noDevice
  | 17 => .io .alreadyExists
  | 22 | 36 => .invalidInput
  | 32 => .io .brokenPipe
  | 103 => .io .connectionAborted
  | 104 => .io .connectionReset
  | 110 => .io .timedOut
  | 111 => .io .connectionRefused
  | _ => .unknown

/-- The error that a port makes of a code. -/
def ofCode (code : Int) : PortError := ⟨sortOfCode code, describeCode code⟩

end PortError

/-- The failure that a port reports for a code. -/
def portFailure (code : Int) : Failure := (PortError.ofCode code).failure

/-- The failure of a wait that found the line not ready in time. -/
def notReady : Failure := .custom .timedOut "Operation timed out"

/-- The failure of a transfer in the direction that a port is not open for. -/
def wrongDirection : Failure := portFailure 9

end Serial
end Framelink
