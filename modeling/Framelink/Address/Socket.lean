import Framelink.Address.Ip

/-!
# Socket addresses

An internet address with a port and, for the newer family, the number of the
interface that the address belongs to where that is not zero.
-/

namespace Framelink

/-- An address that a socket can be bound to. -/
structure SocketAddress where
  ip : IpAddress
  port : UInt16
  scope : UInt32 := 0
  deriving DecidableEq, Repr

namespace SocketAddress

/-- The written form: `1.2.3.4:80`, `[::1]:80` or `[fe80::1%3]:80`. -/
def text (address : SocketAddress) : String :=
  match address.ip with
  | .v4 _ => s!"{address.ip.text}:{address.port}"
  | .v6 _ =>
      if address.scope = 0 then s!"[{address.ip.text}]:{address.port}"
      else s!"[{address.ip.text}%{address.scope}]:{address.port}"

/-- Read a colon and a port. -/
def readPort (text : List Char) : Option (UInt16 × List Char) := do
  let (port, rest) ← Digits.read ⟨10, none, true, 65536⟩ (← IpAddress.readMark ':' text)
  return (UInt16.ofNat port, rest)

/-- Read an optional percent sign and interface number. -/
def readScope (text : List Char) : Option (UInt32 × List Char) :=
  match IpAddress.readMark '%' text with
  | none => some (0, text)
  | some numeral =>
      (Digits.read ⟨10, none, true, UInt32.size⟩ numeral).map fun (scope, rest) =>
        (UInt32.ofNat scope, rest)

/-- The socket address that a text is. -/
def ofText? (text : String) : Option SocketAddress := do
  match IpAddress.readMark '[' text.toList with
  | none =>
      let (octets, rest) ← IpAddress.readQuad text.toList
      let (port, []) ← readPort rest | none
      return { ip := .v4 octets, port }
  | some inside =>
      let (groups, rest) ← IpAddress.readV6 inside
      let (scope, rest) ← readScope rest
      let (port, []) ← readPort (← IpAddress.readMark ']' rest) | none
      return { ip := .v6 groups, port, scope }

end SocketAddress
end Framelink
