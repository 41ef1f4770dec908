import Framelink.Link.Reading
import Framelink.LinkError
import Framelink.Transport

/-!
# Links

A link joins an application to one far end.  It has a transport, a label for
people to read, and a handle while it is open.  Opening a link goes through calls
that may fail, one after the other; opening it again replaces its handle, and closing
it leaves the label.  Reads and writes go through the handle and leave label and
openness alone.

Whether a link is connected is kept apart from the handle, so that it can be told
without it.  Opening and closing set both, and nothing else sets either.
-/

namespace Framelink

/-! ## One call after the other -/

section

variable {World Item Reason Result : Type}

/-- Attempt items one after the other until one succeeds; `last` is why the one before them
failed. -/
def tryEach (attempt : Item → World → Except Reason Result × World) (last : Reason) :
    List Item → World → Except Reason Result × World
  | [], world => (.error last, world)
  | item :: rest, world =>
      match attempt item world with
      | (.ok result, world) => (.ok result, world)
      | (.error reason, world) => tryEach attempt reason rest world

/-- Do items one after the other until one fails. -/
def doEach (perform : Item → World → Except Reason Unit × World) :
    List Item → World → Except Reason Unit × World
  | [], world => (.ok (), world)
  | item :: rest, world =>
      match perform item world with
      | (.ok (), world) => doEach perform rest world
      | (.error reason, world) => (.error reason, world)

end

/-! ## Opening and closing -/

/-- A link whose handles are of type `Handle`. -/
structure Link (Handle : Type) where
  transport : Transport
  label : String
  handle : Option Handle
  /-- The link was opened and not closed since. -/
  isConnected : Bool

namespace Link

variable {Handle World : Type}

/-- A link that was never open. -/
def closed (transport : Transport) : Link Handle where
  transport := transport
  label := transport.title ++ "-Client"
  handle := none
  isConnected := false

/-- Adopt a handle to an endpoint in place of any earlier one. -/
def install (link : Link Handle) (handle : Handle) (endpoint : String) : Link Handle :=
  { link with
    label := s!"{link.transport.title}-Client - {endpoint}"
    handle := some handle
    isConnected := true }

/-- Give the handle up. -/
def close (link : Link Handle) : Link Handle :=
  { link with
    handle := none
    isConnected := false }

/-- Run an operation on the handle of an open link. -/
def withHandle (link : Link Handle) (world : World)
    (operation : Handle × World → Except LinkError α × (Handle × World)) :
    Except LinkError α × Link Handle × World :=
  match link.handle with
  | none => (.error .notConnected, link, world)
  | some handle =>
      let (result, handle, world) := operation (handle, world)
      (result, { link with handle := some handle }, world)

/-! ## Reading -/

/-- What a read gives: the bytes put at the front of the buffer, and the result
once there is one. -/
structure Reading where
  got : Bytes
  result : Option (Except LinkError Nat)

/-- A buffer after a read: what was read stands at its front. -/
def Reading.fill (reading : Reading) (buffer : Bytes) : Bytes :=
  reading.got ++ buffer.drop reading.got.length

/-- The result of a read, with the trailer checked where that was asked for. -/
def readResult (checked : Bool) (progress : ReadProgress) : Option (Except LinkError Nat) :=
  match progress.state with
  | .waiting => none
  | .failed failure => some (.error (.exchange failure))
  | .finished =>
      if checked then some ((Frame.verify progress.got).map fun _ => progress.got.length)
      else some (.ok progress.got.length)

/-- Read `size` bytes, and check their trailer if `checked` is set. -/
def read (link : Link Handle) (world : World)
    (receive : Nat → Handle × World → Receipt × (Handle × World))
    (policy : ReadPolicy) (checked : Bool) (size patience : Nat) :
    Reading × Link Handle × World :=
  match link.handle with
  | none => (⟨[], some (.error .notConnected)⟩, link, world)
  | some handle =>
      let (progress, handle, world) := policy.run receive size patience (handle, world)
      (⟨progress.got, readResult checked progress⟩, { link with handle := some handle }, world)

/-! ## Writing -/

/-- What goes out for a payload: the payload, or its frame. -/
def outgoing (payload : Bytes) (withTrailer : Bool) : Bytes :=
  if withTrailer then Frame.append Checksum.shared payload else payload

/-- Send through a handle, which stays as it is, given what the system makes of a send. -/
def sendThrough (put : Handle → Bytes → World → Except Failure Nat × World) (bytes : Bytes)
    (channel : Handle × World) : Except Failure Nat × (Handle × World) :=
  let (sent, world) := put channel.1 bytes channel.2
  (sent, channel.1, world)

/-- Send a payload, with its trailer if that is wanted, in one send. -/
def write (link : Link Handle) (world : World)
    (send : Bytes → Handle × World → Except Failure Nat × (Handle × World))
    (payload : Bytes) (withTrailer : Bool) : Except LinkError Nat × Link Handle × World :=
  link.withHandle world fun channel =>
    let (sent, channel) := send (outgoing payload withTrailer) channel
    (sent.mapError .exchange, channel)

/-! ## Whether a link is connected -/

/-- A link is connected exactly if it has a handle. -/
def Agrees (link : Link Handle) : Prop := link.isConnected = link.handle.isSome

theorem agrees_closed (transport : Transport) : (closed transport : Link Handle).Agrees := rfl

theorem agrees_install (link : Link Handle) (handle : Handle) (endpoint : String) :
    (link.install handle endpoint).Agrees := rfl

theorem agrees_close (link : Link Handle) : link.close.Agrees := rfl

end Link
end Framelink
