import Framelink.Program.FrameTour
import Framelink.Tcp.Server.Settling
import Framelink.Text.Digits
import Framelink.Text.Utf8

/-!
# The echo server

A stream server that sends every chunk back to its sender, until its input has a
line or ends.  The line has to be text.
-/

namespace Framelink
namespace Program
namespace EchoServer

/-- The port that is used if none is given. -/
def standardPort : Nat := 5000

/-- The port that the arguments ask for. -/
def port? : List String → Option Nat
  | [] => some standardPort
  | argument :: _ => Digits.ofText? 65536 argument

/-- The server before it starts. -/
def prepared (port : Nat) (network : Network) : Tcp.Server :=
  { Tcp.Server.stopped { Settings.atPort (UInt16.ofNat port) with noDelay := true } network with
    onData := some .echo
    onNewPeer := some .log }

/-- The first line of an input, or all of an input without an end of line. -/
def firstLine (input : Bytes) : Bytes := input.takeWhile (· != 10)

/-- The line of the log for a server that was started. -/
def openingLine (address : Option SocketAddress) : String :=
  let shown := match address with
    | some address => "Some(" ++ address.text ++ ")"
    | none => "None"
  "INFO main tcp_echo_server: Echo server running, press Enter to stop addr=" ++ shown

/-- Run the server until its input lets it end. -/
def run (network : Network) (arguments : List String) (input : Bytes) : Outcome :=
  match port? arguments with
  | none => .failure []
  | some port =>
      match (prepared port network).start with
      | (.ok (), server) =>
          let lines := [openingLine server.localAddress]
          if Utf8.isWellFormed (firstLine input) then .success lines else .failure lines
      | (.error _, _) => .failure []

end EchoServer
end Program
end Framelink
