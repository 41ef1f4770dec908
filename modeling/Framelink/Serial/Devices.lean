import Framelink.Network.Fault
import Framelink.Serial.Path
import Framelink.Text.Utf8

/-!
# The devices around a serial link

One terminal, and input devices that stand at numbered nodes and report names.
-/

namespace Framelink
namespace Serial

/-- Bytes under way between a device and whoever has it open. -/
structure Channel where
  /-- From the device, not read yet. -/
  inbound : Bytes
  /-- To the device, not taken yet. -/
  outbound : Bytes
  deriving DecidableEq, Repr

namespace Channel

/-- A channel on which nothing is under way. -/
def idle : Channel := ⟨[], []⟩

/-- Read at most `room` bytes. -/
def read (channel : Channel) (room : Nat) : Bytes × Channel :=
  (channel.inbound.take room, { channel with inbound := channel.inbound.drop room })

/-- Write bytes. -/
def write (channel : Channel) (bytes : Bytes) : Channel :=
  { channel with outbound := channel.outbound ++ bytes }

/-- Send bytes from the device. -/
def farSend (channel : Channel) (bytes : Bytes) : Channel :=
  { channel with inbound := channel.inbound ++ bytes }

/-- Take at most `room` bytes at the device. -/
def farReceive (channel : Channel) (room : Nat) : Bytes × Channel :=
  (channel.outbound.take room, { channel with outbound := channel.outbound.drop room })

end Channel

/-- A device at a node. -/
structure InputDevice where
  node : String
  /-- What the device calls itself, before any cut. -/
  name : Bytes
  channel : Channel
  deriving DecidableEq, Repr

namespace InputDevice

/-- The room for a name in a report. -/
def nameRoom : Nat := 256

/-- The name in a report: as much as there is room for, up to the first zero octet. -/
def nameIn (report : Bytes) : String :=
  Utf8.text ((report.take nameRoom).takeWhile (· != 0))

/-- What a device reports.  A device without a name reports nothing. -/
def report? (device : InputDevice) : Option Bytes :=
  if device.name.isEmpty then none else some device.name

end InputDevice

/-- The state of all devices. -/
structure Devices where
  faults : List Fault
  terminal : Channel
  /-- Somebody has the terminal open, so that nobody else can open it. -/
  held : Bool
  /-- The far end of the terminal is gone. -/
  hungUp : Bool
  inputs : List InputDevice
  deriving DecidableEq, Repr

namespace Devices

/-- Devices on which nothing has happened yet. -/
def idle (inputs : List InputDevice) : Devices := ⟨[], .idle, false, false, inputs⟩

/-- Let a call run into the faults that wait for it. -/
def consult (devices : Devices) (call : SystemCall) : Option Fault × Devices :=
  let (struck, faults) := Fault.strike call devices.faults
  (struck, { devices with faults })

/-- Number of nodes that are scanned for an input device. -/
def scannedNodes : Nat := 40

/-- The path of a node. -/
def nodePath (number : Nat) : String := s!"/dev/input/event{number}"

/-- The position of the device at a node. -/
def deviceAt? (devices : Devices) (node : String) : Option Nat :=
  devices.inputs.findIdx? (·.node == node)

/-- Change the channel of the input device at a position. -/
def modifyInput (devices : Devices) (position : Nat) (change : Channel → Channel) : Devices :=
  { devices with
    inputs := devices.inputs.modify position fun device =>
      { device with channel := change device.channel } }

end Devices
end Serial
end Framelink
