import Framelink.Program.FrameTour
import Framelink.Udp.Client
import Framelink.Udp.Server

/-!
# Discovery

A datagram server that sends every datagram back, and one probe of it.
-/

namespace Framelink
namespace Program
namespace Discovery

/-- What the probe sends. -/
def question : Bytes := Bytes.ofText "DISCOVER"

/-- How long the probe waits for its answer. -/
def patience : Duration := .ofSeconds 1

/-- How the probe is built that asks at a port. -/
def plan (port : UInt16) : Udp.Client.Plan := ⟨"127.0.0.1", port, some patience, none⟩

/-- Start the server and send it the probe's question; the answer itself does not
matter to how the program ends. -/
def run (network : Network) : Outcome :=
  let server := { Udp.Server.stopped (.atPort 0) network with onNewPeer := some .log }
  match server.start with
  | (.error _, _) => .failure []
  | (.ok (), server) =>
      match server.localAddress with
      | none => .failure []
      | some address =>
          match Udp.Client.build server.service.network (plan address.port) with
          | (.error _, _) => .failure []
          | (.ok probe, network) =>
              match probe.write network question true with
              | (.ok _, _, _) => .success []
              | (.error _, _, _) => .failure []

end Discovery
end Program
end Framelink
