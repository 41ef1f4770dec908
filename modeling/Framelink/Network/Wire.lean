import Framelink.Address.Socket
import Framelink.Link.Reading

/-!
# Wires

A wire is an established stream between the near end, which the library holds,
and the far end.  Bytes arrive in the order in which they were sent, and nothing
is lost while both ends are open.  The far end may finish sending and still
receive.  Once a direction has been shut, at whichever end, one more send goes
through and is lost; if an end closed while bytes waited for it, a receive at the other end is told so
once, after the bytes that came before.  An end that aborts is missed by the next
receive or send, whichever comes first.
-/

namespace Framelink

/-- How one end of a wire stands. -/
inductive WireEnd
  | connected
  /-- It sends no more; `spent` says that a send of its own has been lost since. -/
  | finished (spent : Bool)
  /-- It is gone; `probed` says that a send to it has been lost since, and
  `unsettled` that it left bytes behind and the other end does not know yet. -/
  | closed (probed unsettled : Bool)
  /-- It aborted; `told` says that the other end knows. -/
  | aborted (told : Bool)
  deriving DecidableEq, Repr

namespace WireEnd

/-- Whether an end was neither closed nor aborted. -/
def isOpen : WireEnd → Bool
  | .connected | .finished _ => true
  | .closed _ _ | .aborted _ => false

/-- Whether a send to an end has been lost since it closed. -/
def isProbed : WireEnd → Bool
  | .closed probed _ => probed
  | .connected | .finished _ | .aborted _ => false

/-- What a receive finds when no bytes wait, from how the sending end stands. -/
def silence : WireEnd → Receipt × WireEnd
  | .connected => (.error (.system Failure.Code.wouldBlock), .connected)
  | .finished spent => (.ok [], .finished spent)
  | .closed probed false => (.ok [], .closed probed false)
  | .closed probed true =>
      (.error (.system Failure.Code.connectionReset), .closed probed false)
  | .aborted false => (.error (.system Failure.Code.connectionReset), .aborted true)
  | .aborted true => (.ok [], .aborted true)

/-- What becomes of a send, from how the receiving end stands: whether the bytes
arrive, and else why not or that they were lost. -/
def delivery (bytes : Bytes) : WireEnd → Except Failure (Nat × Bytes) × WireEnd
  | .connected => (.ok (bytes.length, bytes), .connected)
  | .finished spent => (.ok (bytes.length, bytes), .finished spent)
  | .closed false unsettled => (.ok (bytes.length, []), .closed true unsettled)
  | .closed true unsettled =>
      (.error (.system Failure.Code.brokenPipe), .closed true unsettled)
  | .aborted false => (.error (.system Failure.Code.connectionReset), .aborted true)
  | .aborted true => (.error (.system Failure.Code.brokenPipe), .aborted true)

end WireEnd

/-- A stream between two ends. -/
structure Wire where
  /-- The address of the far end. -/
  farAddress : SocketAddress
  /-- Sent by the far end and not received yet. -/
  inbound : Bytes
  /-- Sent by the near end and not received yet. -/
  outbound : Bytes
  far : WireEnd
  near : WireEnd
  deriving DecidableEq, Repr

namespace Wire

/-- A wire that was just established. -/
def fresh (farAddress : SocketAddress) : Wire := ⟨farAddress, [], [], .connected, .connected⟩

/-! ## The near end -/

/-- Whether a receive would find anything: bytes, an end or a reset. -/
def isReadable (wire : Wire) : Bool :=
  !wire.inbound.isEmpty || wire.far != .connected || !wire.near.isOpen

/-- Receive at most `room` bytes at the near end. -/
def receive (wire : Wire) (room : Nat) : Receipt × Wire :=
  if room = 0 then (.ok [], wire)
  else if !wire.inbound.isEmpty then
    (.ok (wire.inbound.take room), { wire with inbound := wire.inbound.drop room })
  else if !wire.near.isOpen then (.ok [], wire)
  else
    let (receipt, far) := wire.far.silence
    (receipt, { wire with far })

/-- Send bytes from the near end. -/
def send (wire : Wire) (bytes : Bytes) : Except Failure Nat × Wire :=
  if !wire.near.isOpen then (.error (.system Failure.Code.brokenPipe), wire)
  else
    let (sent, far) := wire.far.delivery bytes
    match sent with
    | .ok (count, arriving) =>
        (.ok count, { wire with far, outbound := wire.outbound ++ arriving })
    | .error failure => (.error failure, { wire with far })

/-- Shut the near end down in order: the far end finds the end of the stream. -/
def shutNear (wire : Wire) : Wire :=
  if wire.near.isOpen then { wire with near := .closed false false } else wire

/-- Close the near end; bytes that wait for it are left behind. -/
def closeNear (wire : Wire) : Wire :=
  if wire.near.isOpen then { wire with near := .closed false (!wire.inbound.isEmpty) }
  else wire

/-! ## The far end -/

/-- Send bytes from the far end; says whether all of them could be sent. -/
def farSend (wire : Wire) (bytes : Bytes) : Bool × Wire :=
  if bytes.isEmpty then (true, wire)
  else
    match wire.far with
    | .connected =>
        let (sent, near) := wire.near.delivery bytes
        match sent with
        | .ok (_, arriving) => (true, { wire with near, inbound := wire.inbound ++ arriving })
        | .error _ => (false, { wire with near })
    | .finished false => (!wire.near.isProbed, { wire with far := .finished true })
    | _ => (false, wire)

/-- How a receive at the far end ended. -/
inductive FarReceiveEnd
  /-- All that was asked for is there. -/
  | complete
  /-- The near end has closed. -/
  | endOfStream
  /-- The near end has closed and left bytes behind. -/
  | reset
  /-- No more is there yet. -/
  | silence
  deriving DecidableEq, Repr

/-- Receive `wanted` bytes at the far end, or as many as there are. -/
def farReceive (wire : Wire) (wanted : Nat) : Bytes × FarReceiveEnd × Wire :=
  let taken := wire.outbound.take wanted
  let wire := { wire with outbound := wire.outbound.drop wanted }
  if taken.length = wanted then (taken, .complete, wire)
  else
    match wire.near.silence with
    | (.ok _, near) => (taken, .endOfStream, { wire with near })
    | (.error failure, near) =>
        (taken, if failure.isWouldBlock then .silence else .reset, { wire with near })

/-- Send no more from the far end. -/
def farFinish (wire : Wire) : Wire :=
  if wire.far == .connected then { wire with far := .finished false } else wire

/-- Close the far end; bytes that wait for it are left behind. -/
def farClose (wire : Wire) : Wire :=
  { wire with far := .closed false (!wire.outbound.isEmpty), outbound := [] }

/-- Abort at the far end. -/
def farReset (wire : Wire) : Wire := { wire with far := .aborted false }

end Wire
end Framelink
