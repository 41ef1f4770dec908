import Framelink.Server.Dispatch

/-!
# What the application is told of a peer

A server tells the application that there is a new peer, and what the peer sent.  It calls a
callback for that, if one is in place.  Here stands the order in which it is bound to do so,
and what the application can ask of a peer that is tracked, wherever it asks from.
-/

namespace Framelink

/-- What the application is told of a peer, with the callback in place for it, if any. -/
inductive Notice (Handle : Type)
  /-- There is a new peer. -/
  | joined (address : SocketAddress) (peer : Handle) (callback : Option Reaction)
  /-- The peer sent a chunk. -/
  | received (chunk : Bytes) (peer : Handle) (callback : Option Reaction)

namespace Notice

variable {Handle : Type}

/-- The callback in place, which is called. -/
def callback : Notice Handle → Option Reaction
  | .joined _ _ callback | .received _ _ callback => callback

/-- Which peer it is about. -/
def peer : Notice Handle → Handle
  | .joined _ peer _ | .received _ peer _ => peer

/-- The bytes that the peer sent. -/
def bytes : Notice Handle → Bytes
  | .joined _ _ _ => []
  | .received chunk _ _ => chunk

/-- The report of the call of a callback that is in place. -/
def report (reaction : Reaction) (answer : Answer) : Notice Handle → Report Handle
  | .joined address peer _ => .joined address peer reaction answer
  | .received chunk peer _ => .received chunk peer reaction answer

end Notice

/-- All bytes that the application was told of. -/
def bytesTold {Handle : Type} (notices : List (Notice Handle)) : Bytes :=
  notices.flatMap Notice.bytes

@[simp] theorem bytesTold_nil {Handle : Type} : bytesTold ([] : List (Notice Handle)) = [] := rfl

@[simp] theorem bytesTold_append {Handle : Type} (early late : List (Notice Handle)) :
    bytesTold (early ++ late) = bytesTold early ++ bytesTold late := List.flatMap_append

/-! ## Introductions -/

/-- The application is told once that there is a peer, with its address and its handle, and
only then what the peer sent. -/
def Introduced {Handle : Type} (address : SocketAddress) (peer : Handle)
    (notices : List (Notice Handle)) : Prop :=
  ∃ (callback : Option Reaction) (chunks : List (Bytes × Option Reaction)),
    notices = .joined address peer callback ::
      chunks.map fun (chunk, callback) => .received chunk peer callback

namespace Introduced

variable {Handle : Type} {address : SocketAddress} {peer : Handle} {notices : List (Notice Handle)}

/-- A peer is introduced by the notice that there is one. -/
theorem first (address : SocketAddress) (peer : Handle) (callback : Option Reaction) :
    Introduced address peer [.joined address peer callback] := ⟨callback, [], rfl⟩

/-- A peer that was introduced can send. -/
theorem further (introduced : Introduced address peer notices) (chunk : Bytes)
    (callback : Option Reaction) :
    Introduced address peer (notices ++ [.received chunk peer callback]) := by
  obtain ⟨first, chunks, rfl⟩ := introduced
  refine ⟨first, chunks ++ [(chunk, callback)], ?_⟩
  rw [List.map_append]
  rfl

end Introduced

/-! ## Tracked peers -/

namespace Server

variable {Handle Line Service : Type} [DecidableEq Handle] [Serving Handle Line Service]

/-- What the application gets of a peer that is tracked. -/
structure Present (server : Server Handle Line Service) (handle : Handle) (peer : Peer Line) :
    Prop where
  tracked : server.peer? handle = some peer
  address : server.remoteAddress handle = .ok peer.address
  available : server.available handle = .ok peer.inbox.size
  tally : server.tally handle = .ok peer.inbox.tally
  read : ∀ size erase, (server.read handle size erase).1 = .ok (peer.inbox.read size erase).1

theorem present_of_tracked {server : Server Handle Line Service} {handle : Handle}
    {peer : Peer Line} (tracked : server.peer? handle = some peer) :
    server.Present handle peer := by
  have required : server.require handle = .ok peer := by
    rw [require, tracked]
  refine ⟨tracked, ?_, ?_, ?_, fun size erase => ?_⟩
  · rw [remoteAddress, required]
    rfl
  · rw [available, required]
    rfl
  · rw [tally, required]
    rfl
  · rw [read, required]

end Server
end Framelink
