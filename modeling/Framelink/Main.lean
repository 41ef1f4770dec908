import Framelink.Program.Discovery
import Framelink.Program.EchoServer
import Framelink.Program.FrameTour
import Framelink.Program.LineMonitor

/-!
# The command line

Runs one of the programs, each on a host of its own whose network reaches nobody.
-/

namespace Framelink
namespace Program

/-- How the command line is used. -/
def usage : String := "usage: framelink frames | echo [port] | discover | monitor [path [rate [--crc]]]"

/-- The outcome of the program that the arguments name, with an input to read. -/
def outcome? (input : Bytes) : List String → Option Outcome
  | "frames" :: _ => some FrameTour.run
  | "echo" :: arguments => some (EchoServer.run (Network.idle true) arguments input)
  | "discover" :: _ => some (Discovery.run (Network.idle true))
  | "monitor" :: arguments => some (LineMonitor.run (Serial.Devices.idle []) arguments [])
  | _ => none

end Program
end Framelink

/-- Read the input up to the end of its first line. -/
partial def readLine (input : IO.FS.Stream) (got : Framelink.Bytes) : IO Framelink.Bytes := do
  let octets := (← input.read 1).toList
  if octets.isEmpty || octets.contains 10 then return got ++ octets
  readLine input (got ++ octets)

/-- Print the lines of a program and end with its exit code. -/
def main (arguments : List String) : IO UInt32 := do
  let input ← if arguments.head? = some "echo" then readLine (← IO.getStdin) [] else pure []
  match Framelink.Program.outcome? input arguments with
  | some outcome =>
      for line in outcome.lines do
        IO.println line
      return UInt32.ofNat outcome.exitCode
  | none =>
      IO.eprintln Framelink.Program.usage
      return 2
