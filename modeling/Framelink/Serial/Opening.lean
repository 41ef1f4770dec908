import Framelink.Link.Basic
import Framelink.Serial.Access
import Framelink.Serial.Devices
import Framelink.Serial.Failure

/-!
# Opening a serial device

A path is opened as a terminal and its line settings are applied; whoever has the
terminal open has it alone.  A path that cannot be reached at all may still be the
name of an input device; a path that was reached but has no line to set up is an
error.  A path that is opened both ways is opened and set up in one call, and the sort
of its error alone says which of the two failed.

What the system makes of each call is given.  It is given for the devices around a
serial link at the end.
-/

namespace Framelink
namespace Serial

/-- What an open serial link holds. -/
inductive Line
  /-- The terminal, with its line settings applied. -/
  | terminal (access : Access)
  /-- The input device at a position. -/
  | inputDevice (position : Nat)
  deriving DecidableEq, Repr

/-- Why a path could not be set up as a terminal. -/
inductive Obstacle
  /-- The path itself could not be opened. -/
  | unreachable (failure : Failure)
  /-- The path was opened but its settings failed at a stage. -/
  | settings (stage : LineStage) (failure : Failure)
  deriving DecidableEq, Repr

/-- A setting of a line. -/
inductive LineSetting
  | rate (rate : UInt32)
  | dataBits (count : Nat)
  | parity (checked : Bool)
  | stopBits (count : Nat)
  | flowControl (controlled : Bool)
  | timeout (quiet : Duration)
  deriving DecidableEq, Repr

/-- The settings of a line at a rate, in the order in which they are applied. -/
def lineSettings (rate : UInt32) : List LineSetting :=
  [.rate rate, .dataBits 8, .parity false, .stopBits 1, .flowControl false, .timeout readQuiet]
where
  /-- How long a receive of a terminal waits. -/
  readQuiet : Duration := .ofSeconds 4

/-- What the system makes of the calls that open a serial device.  `File` is what is held of
a path that is opened one way. -/
structure LineCalls (World File : Type) where
  /-- Open a path both ways as a port with these settings. -/
  openPort : String → List LineSetting → World → Except PortError Unit × World
  /-- Whether there is something at a path. -/
  isThere : String → World → Bool
  /-- Open a path one way. -/
  openFile : String → Access → World → Except Failure File × World
  /-- Get the line settings of a file. -/
  getLine : File → World → Except Failure Unit × World
  /-- Set a line to pass everything on as it is. -/
  setLine : File → World → Except Failure Unit × World
  /-- Make a file a port, which nobody else can open from then on. -/
  takeOver : File → World → World
  /-- Apply one setting to a port. -/
  apply : File → LineSetting → World → Except PortError Unit × World
  /-- Open a node of an input device, and give its position. -/
  openNode : String → World → Option Nat × World
  /-- What the input device at a position writes into the room for its name. -/
  reportName : Nat → World → Option Bytes × World

namespace LineCalls

variable {World File : Type} (calls : LineCalls World File)

/-! ## Paths -/

/-- Open a path for reading and writing. -/
def openBothWays (path : String) (rate : UInt32) (world : World) :
    Except Obstacle Unit × World :=
  match calls.openPort path (lineSettings rate) world with
  | (.ok (), world) => (.ok (), world)
  | (.error error, world) =>
      if !calls.isThere path world || error.meansUnreachable then
        (.error (.unreachable error.failure), world)
      else (.error (.settings .configure error.failure), world)

/-- Open a path one way. -/
def openOneWay (path : String) (rate : UInt32) (access : Access) (world : World) :
    Except Obstacle Unit × World :=
  match calls.openFile path access world with
  | (.error failure, world) => (.error (.unreachable failure), world)
  | (.ok file, world) =>
      match calls.getLine file world with
      | (.error failure, world) => (.error (.settings .get failure), world)
      | (.ok (), world) =>
          match calls.setLine file world with
          | (.error failure, world) => (.error (.settings .set failure), world)
          | (.ok (), world) =>
              let (applied, world) :=
                doEach (calls.apply file) (lineSettings rate) (calls.takeOver file world)
              (applied.mapError fun error => .settings .configure error.failure, world)

/-- Open a path as a terminal. -/
def openTerminal (path : String) (rate : UInt32) (access : Access) (world : World) :
    Except Obstacle Unit × World :=
  if access = .readWrite then calls.openBothWays path rate world
  else calls.openOneWay path rate access world

/-! ## Input devices -/

/-- Open the device at a node if it goes by a name. -/
def openNamed (name : String) (node : String) (world : World) : Except Unit Nat × World :=
  match calls.openNode node world with
  | (none, world) => (.error (), world)
  | (some position, world) =>
      match calls.reportName position world with
      | (none, world) => (.error (), world)
      | (some report, world) =>
          (if InputDevice.nameIn report = name then .ok position else .error (), world)

/-- The paths of the nodes that are scanned for an input device. -/
def scannedNodes : List String := (List.range Devices.scannedNodes).map Devices.nodePath

/-- Open the first input device that goes by a name. -/
def findInputDevice (name : String) (world : World) : Except Unit Nat × World :=
  tryEach (calls.openNamed name) () scannedNodes world

/-- Open a path, or the input device of that name. -/
def openLine (path : String) (rate : UInt32) (access : Access) (world : World) :
    Except LinkError Line × World :=
  match calls.openTerminal path rate access world with
  | (.ok (), world) => (.ok (.terminal access), world)
  | (.error (.settings stage failure), world) =>
      (.error (.serialConfig path stage failure), world)
  | (.error (.unreachable failure), world) =>
      match calls.findInputDevice path world with
      | (.ok position, world) => (.ok (.inputDevice position), world)
      | (.error (), world) => (.error (.serialOpen path failure), world)

end LineCalls

/-! ## The devices around a serial link -/

namespace Devices

/-- What a path leads to among the devices. -/
def target (devices : Devices) (path : String) : PathTarget :=
  if (devices.deviceAt? path).isSome then .inputNode else .ofPath path

/-- Take the terminal, which nobody else can open from then on. -/
def takeTerminal (devices : Devices) : Devices := { devices with held := true }

/-- Open the terminal both ways and set it up. -/
def openTerminal (devices : Devices) : Except PortError Unit × Devices :=
  match devices.consult .openDevice with
  | (some fault, devices) => (.error (.ofCode fault.code), devices)
  | (none, devices) =>
      if devices.held then (.error (.ofCode 16), devices)
      else
        match devices.consult .setLine with
        | (some fault, devices) => (.error (.ofCode fault.code), devices)
        | (none, devices) => (.ok (), devices.takeTerminal)

/-- Open a path for reading and writing. -/
def openPort (devices : Devices) (path : String) : Except PortError Unit × Devices :=
  match devices.target path with
  | .terminal => devices.openTerminal
  | .plainDevice | .inputNode => (.error (.ofCode 25), devices)
  | .absentDevice => (.error (.ofCode 6), devices)
  | .directory => (.error (.ofCode 21), devices)
  | .belowDevice => (.error (.ofCode 20), devices)
  | .tooLong => (.error (.ofCode 36), devices)
  | .malformed => (.error (.ofCode 22), devices)
  | .nothing => (.error (.ofCode 2), devices)

/-- Whether there is something at a path.  The node of an input device is there only for
those who open it. -/
def isThere (devices : Devices) (path : String) : Bool :=
  match devices.target path with
  | .terminal | .plainDevice | .absentDevice | .directory => true
  | .inputNode | .belowDevice | .tooLong | .malformed | .nothing => false

/-- The failure of a path that holds a zero character. -/
def zeroInPath : Failure :=
  .custom .invalidInput "file name contained an unexpected NUL byte"

/-- Pass the faults that wait for opening the terminal one way; an interrupted
open is made again. -/
def passOpen : (fuel : Nat) → Devices → Except Failure Unit × Devices
  | 0, devices => (.ok (), devices)
  | fuel + 1, devices =>
      match devices.consult .openDevice with
      | (none, devices) =>
          (if devices.held then .error (.system 16) else .ok (), devices)
      | (some fault, devices) =>
          if fault.failure.isInterrupted then passOpen fuel devices
          else (.error fault.failure, devices)

/-- What is held of a path that was opened one way. -/
inductive OneWay
  | terminal
  /-- Something that has no line settings. -/
  | unlined
  deriving DecidableEq, Repr

/-- Open a path one way. -/
def openFile (devices : Devices) (path : String) (access : Access) :
    Except Failure OneWay × Devices :=
  match devices.target path with
  | .terminal =>
      let (passed, devices) := passOpen (devices.faults.length + 1) devices
      (passed.map fun _ => .terminal, devices)
  | .plainDevice | .inputNode => (.ok .unlined, devices)
  | .absentDevice => (.error (.system 6), devices)
  | .directory =>
      (if access = .writeOnly then .error (.system 21) else .ok .unlined, devices)
  | .belowDevice => (.error (.system 20), devices)
  | .tooLong => (.error (.system 36), devices)
  | .malformed => (.error zeroInPath, devices)
  | .nothing => (.error (.system 2), devices)

/-- Get the line settings of what was opened one way. -/
def getLine (file : OneWay) : Except Failure Unit :=
  match file with
  | .terminal => .ok ()
  | .unlined => .error (.system 25)

/-- Set the line of the terminal to pass everything on as it is. -/
def setLine (devices : Devices) : Except Failure Unit × Devices :=
  match devices.consult .setLine with
  | (none, devices) => (.ok (), devices)
  | (some fault, devices) => (.error fault.failure, devices)

/-- What the input device at a position reports.  The terminal's path stands for the path
of its node, by which no device goes. -/
def reportName (devices : Devices) (position : Nat) : Option Bytes :=
  ((devices.inputs[position]?).bind InputDevice.report?).filter fun report =>
    InputDevice.nameIn report ≠ PathTarget.terminalPath

/-- What the devices around a serial link make of the calls that open one of them. -/
def calls : LineCalls Devices OneWay where
  openPort := fun path _ devices => devices.openPort path
  isThere := fun path devices => devices.isThere path
  openFile := fun path access devices => devices.openFile path access
  getLine := fun file devices => (getLine file, devices)
  setLine := fun _ devices => devices.setLine
  takeOver := fun _ devices => devices.takeTerminal
  apply := fun _ _ devices => (.ok (), devices)
  openNode := fun node devices => (devices.deviceAt? node, devices)
  reportName := fun position devices => (devices.reportName position, devices)

end Devices
end Serial
end Framelink
