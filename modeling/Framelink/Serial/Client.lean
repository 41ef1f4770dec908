import Framelink.Serial.Opening

/-!
# Serial clients

A serial client is a link over a line, which is driven at one of a few rates.
Before each receive and each send of a terminal the line is waited for.  A quiet
period in which nothing arrives is a receive of no bytes, and no more than silence.
-/

namespace Framelink
namespace Serial

/-- The supported line rates, in bits per second. -/
def supportedRates : List UInt32 :=
  [9600, 19200, 38400, 57600, 115200, 230400, 460800, 500000, 921600, 1000000]

/-- The rate itself if it is supported. -/
def checkRate (rate : UInt32) : Except LinkError UInt32 :=
  if supportedRates.contains rate then .ok rate else .error (.unsupportedRate rate)

/-- A serial client. -/
abbrev Client := Link Line

namespace Client

/-- A client that was never opened. -/
def closed : Client := Link.closed .serial

/-- Give the line of a client up. -/
def release (client : Client) (devices : Devices) : Devices :=
  match client.handle with
  | some (.terminal _) => { devices with held := false }
  | _ => devices

/-- Open a path with a line rate and an access, given what the system makes of the calls
for it and how the line of a client is given up. -/
def openPortWith {World File : Type} (calls : LineCalls World File)
    (release : Client → World → World) (client : Client) (world : World) (path : String)
    (rate : UInt32) (access : Access) : Except LinkError Unit × Client × World :=
  match checkRate rate with
  | .error error => (.error error, client, world)
  | .ok rate =>
      match calls.openLine path rate access world with
      | (.error error, world) => (.error error, client, world)
      | (.ok line, world) =>
          (.ok (), client.install line s!"{path}:{access.shortName}", release client world)

/-- Open a path with a line rate and an access. -/
def openPort (client : Client) (devices : Devices) (path : String) (rate : UInt32)
    (access : Access) : Except LinkError Unit × Client × Devices :=
  openPortWith Devices.calls release client devices path rate access

/-- Open a path with the rate as an option and the access as flags. -/
def openAt (client : Client) (devices : Devices) (path : String) (option : UInt32)
    (flags : Int32) : Except LinkError Unit × Client × Devices :=
  client.openPort devices path option (.ofFlags flags)

/-- Close the line; closing a closed client does nothing. -/
def close (client : Client) (devices : Devices) : Client × Devices :=
  (Link.close client, client.release devices)

/-! ## Exchanging bytes -/

/-- Receive at most `room` bytes through the port of the terminal, which waits for a quiet
period at most. -/
def receivePort (access : Access) (room : Nat) (devices : Devices) : Receipt × Devices :=
  match devices.consult .poll with
  | (some fault, devices) =>
      (.error (if fault.code = 0 then notReady else portFailure fault.code), devices)
  | (none, devices) =>
      if access = .writeOnly then (.error wrongDirection, devices)
      else if devices.terminal.inbound.isEmpty then
        (.error (if devices.hungUp then portFailure 5 else notReady), devices)
      else
        let (bytes, terminal) := devices.terminal.read room
        (.ok bytes, { devices with terminal })

/-- Receive at most `room` bytes of the input device at a position. -/
def receiveInput (position room : Nat) (devices : Devices) : Receipt × Devices :=
  match devices.inputs[position]? with
  | none => (.ok [], devices)
  | some device =>
      let (bytes, rest) := device.channel.read room
      (.ok bytes, devices.modifyInput position fun _ => rest)

/-- What a port gives, as a read of the line takes it: a quiet period in which nothing
arrives has no bytes. -/
def hushed : Receipt → Receipt
  | .ok bytes => .ok bytes
  | .error failure => if failure.isTimedOut then .ok [] else .error failure

/-- Receive at most `room` bytes of a line, given how ports and input devices are received
from. -/
def receiveLine {World : Type} (port : Access → Nat → World → Receipt × World)
    (input : Nat → Nat → World → Receipt × World) (room : Nat) (channel : Line × World) :
    Receipt × (Line × World) :=
  match channel.1 with
  | .terminal access =>
      let (receipt, world) := port access room channel.2
      (hushed receipt, channel.1, world)
  | .inputDevice position =>
      let (receipt, world) := input position room channel.2
      (receipt, channel.1, world)

theorem hushed_quiet {failure : Failure} (quiet : failure.isTimedOut = true) :
    hushed (.error failure) = .ok [] := if_pos quiet

theorem hushed_other {failure : Failure} (other : failure.isTimedOut = false) :
    hushed (.error failure) = .error failure := if_neg (ne_true_of_eq_false other)

theorem receiveLine_terminal {World : Type} (port : Access → Nat → World → Receipt × World)
    (input : Nat → Nat → World → Receipt × World) (access : Access) (room : Nat)
    (world : World) :
    receiveLine port input room (.terminal access, world) =
      (hushed (port access room world).1, .terminal access, (port access room world).2) := rfl

/-- Receive at most `room` bytes. -/
def receive (room : Nat) (channel : Line × Devices) : Receipt × (Line × Devices) :=
  receiveLine receivePort receiveInput room channel

/-- Send bytes to the terminal. -/
def sendTerminal (access : Access) (bytes : Bytes) (devices : Devices) :
    Except Failure Nat × Devices :=
  match devices.consult .poll with
  | (some fault, devices) =>
      (.error (if fault.code = 0 then notReady else portFailure fault.code), devices)
  | (none, devices) =>
      if access = .readOnly then (.error wrongDirection, devices)
      else (.ok bytes.length, { devices with terminal := devices.terminal.write bytes })

/-- Send bytes to the input device at a position. -/
def sendInput (position : Nat) (bytes : Bytes) (devices : Devices) :
    Except Failure Nat × Devices :=
  (.ok bytes.length, devices.modifyInput position (·.write bytes))

/-- What comes of a send to a line, given how ports and input devices are sent to. -/
def putLine {World : Type} (port : Access → Bytes → World → Except Failure Nat × World)
    (input : Nat → Bytes → World → Except Failure Nat × World) :
    Line → Bytes → World → Except Failure Nat × World
  | .terminal access => port access
  | .inputDevice position => input position

/-- Send bytes. -/
def send (bytes : Bytes) (channel : Line × Devices) :
    Except Failure Nat × (Line × Devices) :=
  Link.sendThrough (putLine sendTerminal sendInput) bytes channel

/-- Enough receives for any read that ends: each runs into a fault, takes bytes
or ends the read. -/
def patience (devices : Devices) (size : Nat) : Nat := devices.faults.length + size + 1

/-- Read `size` bytes, given how ports and input devices are received from; a receive of
none is no more than silence. -/
def readFrom {World : Type} (port : Access → Nat → World → Receipt × World)
    (input : Nat → Nat → World → Receipt × World) (client : Client) (world : World)
    (size : Nat) (checked untilFull : Bool) (patience : Nat) :
    Link.Reading × Client × World :=
  Link.read client world (receiveLine port input) ⟨untilFull, .quiet⟩ checked size patience

/-- Read `size` bytes. -/
def read (client : Client) (devices : Devices) (size : Nat) (checked untilFull : Bool) :
    Link.Reading × Client × Devices :=
  readFrom receivePort receiveInput client devices size checked untilFull
    (patience devices size)

/-- Send a payload, with its trailer if that is wanted, in one send, given how ports and
input devices are sent to. -/
def writeWith {World : Type} (port : Access → Bytes → World → Except Failure Nat × World)
    (input : Nat → Bytes → World → Except Failure Nat × World) (client : Client)
    (world : World) (payload : Bytes) (withTrailer : Bool) :
    Except LinkError Nat × Client × World :=
  Link.write client world (Link.sendThrough (putLine port input)) payload withTrailer

/-- Send a payload, with its trailer if that is wanted, in one send. -/
def write (client : Client) (devices : Devices) (payload : Bytes) (withTrailer : Bool) :
    Except LinkError Nat × Client × Devices :=
  writeWith sendTerminal sendInput client devices payload withTrailer

/-! ## Building -/

/-- What a client is built from. -/
structure Plan where
  path : String
  rate : UInt32 := 115200
  access : Access := .readWrite

/-- Build an open client.  One that has the terminal open keeps others from it. -/
def build (devices : Devices) (plan : Plan) : Except LinkError Client × Devices :=
  match closed.openPort devices plan.path plan.rate plan.access with
  | (.ok (), client, devices) => (.ok client, devices)
  | (.error error, _, devices) => (.error error, devices)

/-- A client in words. -/
def describe : String := "SerialClient \x7b .. \x7d"

end Client
end Serial
end Framelink
