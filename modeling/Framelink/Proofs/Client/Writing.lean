import Framelink.Proofs.Client.Course
import Framelink.Proofs.ValidFrames

/-!
# Writing whole frames

A write hands the system one frame, complete, or nothing at all.  What the frame is, the
payload alone or the payload with its trailer behind it, is settled before anything else;
then an open link is needed, and then the transport may still refuse a frame for its
length.  What the system makes of the one send is what the write returns.  The sends are
written down by a system that notes each of them and otherwise does as it did.
-/

namespace Framelink
namespace Link

open Checksum

variable {Handle World : Type}

/-! ## The frame that goes out -/

/-- What goes out for a payload is the payload, or the payload with the two octets of its
trailer behind it, a frame that the check accepts. -/
structure Framed (payload : Bytes) : Prop where
  bare : outgoing payload false = payload
  trailed : outgoing payload true = payload ++ Frame.trailer (shared.checksum payload)
  longer : (outgoing payload true).length = payload.length + 2
  accepted : Frame.accepts shared (outgoing payload true) = true

theorem framed (payload : Bytes) : Framed payload where
  bare := rfl
  trailed := rfl
  longer := Frame.length_append shared payload
  accepted := by
    rw [← Frame.verify_eq_ok_iff]
    exact Frame.verify_append payload

/-! ## Writing sends down -/

/-- A send through a handle, with what came of it. -/
structure Sent (Handle : Type) where
  handle : Handle
  bytes : Bytes
  result : Except Failure Nat

/-- What the system makes of a send, with every send written down. -/
def noted (put : Handle → Bytes → World → Except Failure Nat × World) (handle : Handle)
    (bytes : Bytes) (world : World × List (Sent Handle)) :
    Except Failure Nat × (World × List (Sent Handle)) :=
  let (result, later) := put handle bytes world.1
  (result, later, world.2 ++ [⟨handle, bytes, result⟩])

/-- How a transport writes, given what the system makes of a send. -/
abbrev Writer (Handle : Type) :=
  ∀ {World : Type}, (Handle → Bytes → World → Except Failure Nat × World) →
    Link Handle → World → Bytes → Bool → Except LinkError Nat × Link Handle × World

/-- The sends that a write makes. -/
def Writer.sends (write : Writer Handle)
    (put : Handle → Bytes → World → Except Failure Nat × World) (link : Link Handle)
    (world : World) (payload : Bytes) (withTrailer : Bool) : List (Sent Handle) :=
  (write (noted put) link (world, []) payload withTrailer).2.2.2

/-! ## One whole frame or nothing -/

/-- A transport writes one whole frame or nothing, whatever the system makes of a send.
`refusal?` is why the transport refuses a frame of some length, if it does. -/
structure Writer.WholeOrNothing (write : Writer Handle) (refusal? : Nat → Option Failure) :
    Prop where
  /-- The whole frame goes out in one send, and what comes of that is returned. -/
  whole : ∀ {World : Type} (put : Handle → Bytes → World → Except Failure Nat × World)
    (link : Link Handle) (handle : Handle) (world : World) (payload : Bytes)
    (withTrailer : Bool), link.handle = some handle →
      refusal? (outgoing payload withTrailer).length = none →
      ∃ result later, put handle (outgoing payload withTrailer) world = (result, later) ∧
        write put link world payload withTrailer = (result.mapError .exchange, link, later) ∧
        Writer.sends write put link world payload withTrailer =
          [⟨handle, outgoing payload withTrailer, result⟩]
  /-- Of a frame that is refused for its length nothing goes out. -/
  refused : ∀ {World : Type} (put : Handle → Bytes → World → Except Failure Nat × World)
    (link : Link Handle) (handle : Handle) (world : World) (payload : Bytes)
    (withTrailer : Bool) (failure : Failure), link.handle = some handle →
      refusal? (outgoing payload withTrailer).length = some failure →
      write put link world payload withTrailer = (.error (.exchange failure), link, world) ∧
        Writer.sends write put link world payload withTrailer = []
  /-- Without a handle that is the error, whatever the length. -/
  closed : ∀ {World : Type} (put : Handle → Bytes → World → Except Failure Nat × World)
    (link : Link Handle) (world : World) (payload : Bytes) (withTrailer : Bool),
      link.handle = none →
      write put link world payload withTrailer = (.error .notConnected, link, world) ∧
        Writer.sends write put link world payload withTrailer = []

section

variable {link : Link Handle} {handle : Handle} {world : World}

/-- A write through a handle is one send of what goes out for the payload. -/
theorem writeThrough_open (held : link.handle = some handle)
    (put : Handle → Bytes → World → Except Failure Nat × World) (payload : Bytes)
    (withTrailer : Bool) :
    link.writeThrough world put payload withTrailer =
      ((put handle (outgoing payload withTrailer) world).1.mapError .exchange, link,
        (put handle (outgoing payload withTrailer) world).2) := by
  rw [writeThrough, write, withHandle, held]
  dsimp only
  rw [handle_again held rfl]

end

/-- Send only what is not refused for its length. -/
def unlessRefused (refusal? : Nat → Option Failure)
    (put : Handle → Bytes → World → Except Failure Nat × World) (handle : Handle)
    (bytes : Bytes) (world : World) : Except Failure Nat × World :=
  match refusal? bytes.length with
  | some failure => (.error failure, world)
  | none => put handle bytes world

/-- A transport that sends through its handle whatever it does not refuse writes one whole
frame or nothing. -/
theorem wholeOrNothing_of_writeThrough {write : Writer Handle}
    {refusal? : Nat → Option Failure}
    (through : ∀ {World : Type} put (link : Link Handle) (world : World) payload withTrailer,
      write put link world payload withTrailer =
        link.writeThrough world (unlessRefused refusal? put) payload withTrailer) :
    Writer.WholeOrNothing write refusal? where
  whole := by
    intro World put link handle world payload withTrailer held fits
    refine ⟨_, _, rfl, ?_, ?_⟩
    · rw [through, writeThrough_open held]
      simp only [unlessRefused, fits]
    · rw [Writer.sends, through, writeThrough_open held]
      simp only [unlessRefused, fits, noted, List.nil_append]
  refused := by
    intro World put link handle world payload withTrailer failure held refused
    refine ⟨?_, ?_⟩
    · rw [through, writeThrough_open held]
      simp only [unlessRefused, refused, Except.mapError]
    · rw [Writer.sends, through, writeThrough_open held]
      simp only [unlessRefused, refused]
  closed := by
    intro World put link world payload withTrailer unheld
    refine ⟨?_, ?_⟩
    · rw [through, writeThrough_closed unheld]
    · rw [Writer.sends, through, writeThrough_closed unheld]

end Link

/-! ## The three transports -/

namespace Udp
namespace Client

/-- Why a frame of some length is refused, if it is. -/
def refusal? (length : Nat) : Option Failure :=
  if length ≤ 65507 then none
  else some (.custom .invalidInput s!"datagram of {length} bytes exceeds {65507} bytes")

theorem postFitting_eq {World : Type}
    (post : Socket → Bytes → World → Except Failure Nat × World) :
    postFitting post = Link.unlessRefused refusal? post := by
  funext socket bytes world
  rw [postFitting, Link.unlessRefused, refusal?, Network.longestDatagram]
  by_cases fits : bytes.length ≤ 65507
  · rw [if_pos fits, if_neg (Nat.not_lt.mpr fits)]
  · rw [if_neg fits, if_pos (Nat.lt_of_not_le fits)]
    rfl

end Client
end Udp

namespace Serial
namespace Client

/-- How a serial client writes, given what the system makes of a send to a line. -/
def writeLine : Link.Writer Line := fun put client world payload withTrailer =>
  writeWith (fun access => put (.terminal access)) (fun position => put (.inputDevice position))
    client world payload withTrailer

theorem putLine_eta {World : Type} (put : Line → Bytes → World → Except Failure Nat × World) :
    putLine (fun access => put (.terminal access))
      (fun position => put (.inputDevice position)) = put := by
  funext line
  cases line <;> rfl

end Client
end Serial

/-- A write is one whole frame or nothing.  On every transport, whatever the system makes of
a send, an open client makes one send of all that goes out for the payload and returns what
came of it; only a datagram client refuses, and that exactly if what goes out, with its
trailer, is longer than 65507 bytes.  A closed client says that it is not connected, whatever
the length.  The client stays as it is.  What goes out is the payload, or the payload with a
trailer of two octets that the check accepts. -/
theorem writes_one_whole_frame_or_nothing :
    (∀ payload, Link.Framed payload) ∧
      Link.Writer.WholeOrNothing Tcp.Client.writeWith (fun _ => none) ∧
      Link.Writer.WholeOrNothing Udp.Client.writeWith Udp.Client.refusal? ∧
      Link.Writer.WholeOrNothing Serial.Client.writeLine (fun _ => none) ∧
      Tcp.Client.write = Tcp.Client.writeWith Tcp.Client.put ∧
      Udp.Client.write = Udp.Client.writeWith Udp.Client.post ∧
      Serial.Client.write =
        Serial.Client.writeLine
          (Serial.Client.putLine Serial.Client.sendTerminal Serial.Client.sendInput) := by
  refine ⟨Link.framed, ?_, ?_, ?_, rfl, rfl, rfl⟩
  · exact Link.wholeOrNothing_of_writeThrough fun _ _ _ _ _ => rfl
  · apply Link.wholeOrNothing_of_writeThrough
    intro World post client world payload withTrailer
    rw [Udp.Client.writeWith, Udp.Client.postFitting_eq]
    rfl
  · apply Link.wholeOrNothing_of_writeThrough
    intro World put client world payload withTrailer
    rw [Serial.Client.writeLine, Serial.Client.writeWith, Serial.Client.putLine_eta]
    rfl

end Framelink
