import Framelink.Proofs.Tcp.Keeping
import Framelink.Proofs.Tcp.Lifecycle
import Framelink.Proofs.Tcp.Stopping
import Framelink.Proofs.Udp.Lifecycle

/-!
# The life of a server

The same holds of stream servers and of datagram servers, in every run: calls that
start and stop them take their turns, and between two of them a server runs, is bound
and has its socket exactly if a start succeeded after the last stop.  Stopping takes no
peer away and nothing out of an inbox.
-/

namespace Framelink

/-- A datagram server is started, started again, and stopped. -/
def restarts : List Udp.Move :=
  [.start, .setUp, .start, .setUp, .stop, .receive ⟨.unspecified4, 40000, 0⟩, .advance,
    .advance]

end Framelink
