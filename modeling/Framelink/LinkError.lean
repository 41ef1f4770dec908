import Framelink.BindCause
import Framelink.Duration
import Framelink.Frame

/-!
# Errors of links and servers

Every operation that can fail says why with a `LinkError`.  Those that set a
connection up carry the endpoint as the caller wrote it and, where a system call
failed, that failure.
-/

namespace Framelink

/-- What was being done to the line settings of a serial port. -/
inductive LineStage
  | get
  | set
  | configure
  deriving DecidableEq, Repr

/-- A stage in words. -/
def LineStage.describe : LineStage → String
  | .get => "get"
  | .set => "set"
  | .configure => "configure"

/-- Why an operation on a link or a server failed. -/
inductive LinkError
  /-- The host name stands for no address. -/
  | hostResolution (host : String)
  /-- The system could not create a socket. -/
  | socketCreate (failure : Failure)
  /-- A server's address could not be bound. -/
  | bind (address : String) (failure : Failure)
  /-- The remote end could not be connected to. -/
  | connect (address : String) (failure : Failure)
  /-- A bounded wait for a connection ran out. -/
  | connectionTimeout (address : String) (timeout : Duration)
  /-- The line rate is not one of the supported ones. -/
  | unsupportedRate (rate : UInt32)
  /-- The serial device could not be opened. -/
  | serialOpen (path : String) (failure : Failure)
  /-- The line settings of a serial port could not be read or applied. -/
  | serialConfig (path : String) (stage : LineStage) (failure : Failure)
  /-- A frame's trailer is not the checksum of its payload. -/
  | checksumMismatch (mismatch : Frame.Mismatch)
  /-- The server already serves. -/
  | alreadyRunning
  /-- The link is not open. -/
  | notConnected
  /-- The server does not track the peer of this description. -/
  | unknownPeer (peer : String)
  /-- An exchange on an open link failed. -/
  | exchange (failure : Failure)
  deriving DecidableEq, Repr

namespace LinkError

/-- The failed system call behind an error, where there is one. -/
def failure? : LinkError → Option Failure
  | .socketCreate failure | .bind _ failure | .connect _ failure
  | .serialOpen _ failure | .serialConfig _ _ failure | .exchange failure => some failure
  | _ => none

/-- The name of an error's kind. -/
def name : LinkError → String
  | .hostResolution _ => "HostResolution"
  | .socketCreate _ => "SocketCreate"
  | .bind _ _ => "Bind"
  | .connect _ _ => "Connect"
  | .connectionTimeout _ _ => "ConnectionTimeout"
  | .unsupportedRate _ => "UnsupportedBaudRate"
  | .serialOpen _ _ => "SerialOpen"
  | .serialConfig _ _ _ => "SerialConfig"
  | .checksumMismatch _ => "CrcMismatch"
  | .alreadyRunning => "AlreadyRunning"
  | .notConnected => "NotConnected"
  | .unknownPeer _ => "UnknownPeer"
  | .exchange _ => "Io"

/-- An error in words. -/
def message : LinkError → String
  | .hostResolution host => s!"Unknown host {host}"
  | .socketCreate failure => s!"socket() invalid: {failure.message}"
  | .bind address failure =>
      s!"Failed to bind to {address}: " ++ (BindCause.ofFailure failure).describe
  | .connect address failure => s!"Could not connect to {address}: {failure.message}"
  | .connectionTimeout address timeout =>
      s!"Connection to {address} timed out after {timeout.text}"
  | .unsupportedRate rate => s!"Unsupported baud rate {rate}"
  | .serialOpen path failure => s!"Could not open the serial port {path}: {failure.message}"
  | .serialConfig path stage failure =>
      s!"Could not {stage.describe} the serial port settings of {path}: {failure.message}"
  | .checksumMismatch mismatch =>
      "CRC mismatch: expected " ++ Hex.word mismatch.expected ++
        ", got " ++ Hex.word mismatch.actual
  | .alreadyRunning => "Server is already running"
  | .notConnected => "Not connected"
  | .unknownPeer peer => s!"Unknown peer {peer}"
  | .exchange failure => s!"I/O error: {failure.message}"

end LinkError

/-- Accept a received frame with the shared engine, or report the mismatch. -/
def Frame.verify (frame : Bytes) : Except LinkError Unit :=
  (Frame.check Checksum.shared frame).mapError LinkError.checksumMismatch

end Framelink
