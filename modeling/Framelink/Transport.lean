import Framelink.Document.Basic

/-!
# Transports

The three ways in which a link reaches its far end.
-/

namespace Framelink

/-- A way to reach the far end. -/
inductive Transport
  /-- A serial line. -/
  | serial
  /-- A stream over a network. -/
  | tcp
  /-- Datagrams to one peer. -/
  | udp
  deriving DecidableEq, Repr

namespace Transport

/-- The transports. -/
def all : List Transport := [.serial, .tcp, .udp]

/-- The title of a transport in labels. -/
def title : Transport → String
  | .serial => "Serial"
  | .tcp => "TCP"
  | .udp => "UDP"

/-- The name that a transport is stored under. -/
def name : Transport → String
  | .serial => "Serial"
  | .tcp => "Tcp"
  | .udp => "Udp"

/-- The transport that is stored under a name. -/
def ofName (text : String) : Except DocumentError Transport :=
  match all.find? fun transport => transport.name == text with
  | some transport => .ok transport
  | none => .error (.unknownVariant text (all.map name))

/-- The transport that a document stands for: its name, or its name with null. -/
def ofDocument : Document → Except DocumentError Transport
  | .text text => ofName text
  | .mapping [(text, value)] => do
      let transport ← ofName text
      match value with
      | .null => .ok transport
      | document => .error (document.mistyped "unit")
  | .mapping _ => .error (.invalidValue "map" "map with a single key")
  | document => .error (document.mistyped "string or map")

end Transport
end Framelink
