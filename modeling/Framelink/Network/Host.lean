import Framelink.Address.Literal
import Framelink.Address.Socket
import Framelink.LinkError

/-!
# Host names

What a host name stands for: a literal address stands for itself and `localhost`,
in any case, for the host.  No other name is looked up.
-/

namespace Framelink
namespace Host

/-- The name of the host itself. -/
def ownName : String := "localhost"

/-- The addresses that a host name stands for.  Names can be looked up only while
the process may open another descriptor; literals need none. -/
def addresses (mayLookUp : Bool) (host : String) : List ScopedAddress :=
  match ScopedAddress.ofText? mayLookUp host with
  | some address => [address]
  | none => if mayLookUp && host.toLower == ownName then [{ ip := .loopback4 }] else []

/-- Addresses of the older family first, otherwise in the given order. -/
def olderFirst (addresses : List ScopedAddress) : List ScopedAddress :=
  addresses.filter (·.ip.isV4) ++ addresses.filter fun address => !address.ip.isV4

/-- The socket addresses to try, in order, given what a look-up of the host gave. -/
def candidates (host : String) (port : UInt16) (found : Except Failure (List ScopedAddress)) :
    Except LinkError (List SocketAddress) :=
  match found with
  | .error _ | .ok [] => .error (.hostResolution host)
  | .ok found =>
      .ok ((olderFirst found).map fun address => ⟨address.ip, port, address.scope⟩)

/-- The port that an option asks for. -/
def portOfOption (option : UInt32) : Except LinkError UInt16 :=
  if option.toNat < 65536 then .ok option.toUInt16
  else .error (.exchange (.custom .invalidInput s!"port {option} out of range"))

end Host
end Framelink
