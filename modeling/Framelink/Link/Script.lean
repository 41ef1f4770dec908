import Framelink.Link.Basic

/-!
# Scripted channels

A channel whose receipts are written down beforehand.  A receive takes the first
of them: a failure as it is, bytes as far as there is room.  What does not fit is
kept for the next receive in the style of a stream, and lost in the style of
datagrams.
-/

namespace Framelink

/-- What becomes of bytes that a receive has no room for. -/
inductive Surplus
  | kept
  | lost
  deriving DecidableEq, Repr

/-- Receipts that are still to come. -/
structure Script where
  receipts : List Receipt
  surplus : Surplus

namespace Script

/-- The failure of a receive after the last receipt. -/
def exhausted : Failure := .custom .other "script exhausted"

/-- Receive at most `room` bytes. -/
def receive (room : Nat) (script : Script) : Receipt × Script :=
  match script.receipts with
  | [] => (.error exhausted, script)
  | .error failure :: rest => (.error failure, { script with receipts := rest })
  | .ok bytes :: rest =>
      let left := bytes.drop room
      let rest :=
        if script.surplus = .kept ∧ left ≠ [] then .ok left :: rest else rest
      (.ok (bytes.take room), { script with receipts := rest })

/-- Add receipts behind the others. -/
def append (script : Script) (receipts : List Receipt) : Script :=
  { script with receipts := script.receipts ++ receipts }

/-- Enough receives for any read: each takes a receipt or fills the buffer. -/
def patience (script : Script) : Nat := script.receipts.length + 1

end Script

namespace Link

/-- Receive from the script of a link; there is no world around it. -/
def receiveScript (room : Nat) (channel : Script × Unit) : Receipt × (Script × Unit) :=
  let (receipt, script) := channel.1.receive room
  (receipt, script, ())

/-- Read from a scripted link. -/
def readScript (link : Link Script) (policy : ReadPolicy) (checked : Bool) (size : Nat) :
    Reading × Link Script :=
  let patience := (link.handle.map Script.patience).getD 0
  let (reading, link, _) := link.read () receiveScript policy checked size patience
  (reading, link)

end Link
end Framelink
