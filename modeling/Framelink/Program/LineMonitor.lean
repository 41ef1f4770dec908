import Framelink.Program.FrameTour
import Framelink.Serial.Client
import Framelink.Text.Digits

/-!
# The line monitor

Opens a serial line and notes every read.  With checking turned on, each read is
a frame of a fixed length, and frames whose trailer does not fit are dropped.
-/

namespace Framelink
namespace Program
namespace LineMonitor

/-- The length of a read. -/
def frameLength : Nat := 130

/-- What the arguments ask for. -/
structure Options where
  path : String
  rate : UInt32
  checked : Bool
  deriving DecidableEq, Repr

/-- The rate that the arguments ask for. -/
def rate? : List String → Option UInt32
  | [] => some 115200
  | argument :: _ => (Digits.ofText? UInt32.size argument).map UInt32.ofNat

/-- What the arguments ask for: a path, a rate, and behind them whether to check. -/
def options? (arguments : List String) : Option Options :=
  (rate? (arguments.drop 1)).map fun rate =>
    { path := arguments.head?.getD "/dev/ttyUSB0"
      rate := rate
      checked := (arguments.drop 2).contains "--crc" }

/-- A line of the log. -/
def logLine (level text : String) : String := level ++ " serial_monitor: " ++ text

/-- The first line of the log. -/
def openingLine (label : String) (checked : Bool) : String :=
  logLine "INFO"
    ("Monitoring port=" ++ label ++ " with_crc=" ++ (if checked then "true" else "false"))

/-- The line for bytes that were read. -/
def receivedLine (bytes : Bytes) : String :=
  logLine "INFO"
    (s!"Received bytes={bytes.length} data=[" ++
      String.intercalate ", " (bytes.map fun octet => toString octet.toNat) ++ "]")

/-- The line for a frame that was dropped. -/
def droppedLine (mismatch : Frame.Mismatch) : String :=
  logLine "WARN"
    s!"Dropped corrupted frame expected={mismatch.expected} actual={mismatch.actual}"

/-- What the monitor makes of one read: a line, silence, or its end. -/
inductive Round
  | noted (line : String)
  | quiet
  | failed
  deriving DecidableEq, Repr

/-- The round that a reading makes. -/
def Round.ofReading (reading : Link.Reading) : Round :=
  match reading.result with
  | some (.ok 0) | none => .quiet
  | some (.ok _) => .noted (receivedLine reading.got)
  | some (.error (.checksumMismatch mismatch)) => .noted (droppedLine mismatch)
  | some (.error _) => .failed

/-- Read until nothing waits any more, for at most so many rounds; says whether
a read failed. -/
def drain (checked : Bool) : (fuel : Nat) → Serial.Client → Serial.Devices → List String →
    Bool × List String × Serial.Client × Serial.Devices
  | 0, client, devices, lines => (false, lines, client, devices)
  | fuel + 1, client, devices, lines =>
      if devices.terminal.inbound.isEmpty && !devices.hungUp then
        (false, lines, client, devices)
      else
        let (reading, client, devices) := client.read devices frameLength checked checked
        match Round.ofReading reading with
        | .noted line => drain checked fuel client devices (lines ++ [line])
        | .quiet => drain checked fuel client devices lines
        | .failed => (true, lines, client, devices)

/-- Note what arrives in pieces, and give up when the line is hung up behind the
last of them. -/
def monitor (checked : Bool) (client : Serial.Client) (lines : List String) :
    List Bytes → Serial.Devices → Outcome
  | [], devices =>
      .failure (drain checked 1 client { devices with hungUp := true } lines).2.1
  | piece :: rest, devices =>
      let devices := { devices with terminal := devices.terminal.farSend piece }
      match drain checked piece.length client devices lines with
      | (true, lines, _, _) => .failure lines
      | (false, lines, client, devices) => monitor checked client lines rest devices

/-- Run the monitor over a line on which these pieces arrive. -/
def run (devices : Serial.Devices) (arguments : List String) (pieces : List Bytes) :
    Outcome :=
  match options? arguments with
  | none => .failure []
  | some options =>
      match Serial.Client.build devices ⟨options.path, options.rate, .readWrite⟩ with
      | (.error _, _) => .failure []
      | (.ok client, devices) =>
          monitor options.checked client [openingLine client.label options.checked] pieces
            devices

end LineMonitor
end Program
end Framelink
