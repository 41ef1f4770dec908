import Framelink.Bytes

/-!
# Inboxes

The bytes that a peer has sent and the application has not taken yet, first in
first out, with a tally of the traffic.  A read copies from the front; only an
erasing read and a clear take bytes away.
-/

namespace Framelink

/-- The traffic through an inbox so far. -/
structure Tally where
  /-- Bytes appended in total. -/
  received : UInt64
  /-- Bytes taken away in total, by erasing reads and by clears. -/
  consumed : UInt64
  /-- Bytes held now. -/
  current : Nat
  /-- The most bytes ever held. -/
  peak : Nat
  deriving DecidableEq, Repr

namespace Tally

/-- The tally of an inbox that never held anything. -/
def empty : Tally := ⟨0, 0, 0, 0⟩

/-- A tally in words. -/
def describe (tally : Tally) : String :=
  s!"QueueStats \x7b received: {tally.received}, consumed: {tally.consumed}, " ++
  s!"current_size: {tally.current}, peak_size: {tally.peak} \x7d"

end Tally

/-- Bytes waiting for the application, with their tally. -/
structure Inbox where
  contents : Bytes
  tally : Tally
  deriving DecidableEq, Repr

namespace Inbox

/-- The inbox that holds nothing and never did. -/
def empty : Inbox := ⟨[], .empty⟩

/-- Number of bytes held. -/
def size (inbox : Inbox) : Nat := inbox.contents.length

/-- Whether nothing is held. -/
def isEmpty (inbox : Inbox) : Bool := inbox.contents.isEmpty

/-- Append bytes at the back. -/
def push (inbox : Inbox) (bytes : Bytes) : Inbox :=
  let contents := inbox.contents ++ bytes
  { contents
    tally :=
      { inbox.tally with
        received := inbox.tally.received + UInt64.ofNat bytes.length
        current := contents.length
        peak := max inbox.tally.peak contents.length } }

/-- Copy at most `limit` bytes from the front, and take them away if `erase` is set. -/
def read (inbox : Inbox) (limit : Nat) (erase : Bool) : Bytes × Inbox :=
  let copied := inbox.contents.take limit
  if erase then
    let contents := inbox.contents.drop limit
    (copied,
      { contents
        tally :=
          { inbox.tally with
            consumed := inbox.tally.consumed + UInt64.ofNat copied.length
            current := contents.length } })
  else (copied, inbox)

/-- Take everything away. -/
def clear (inbox : Inbox) : Inbox :=
  { contents := []
    tally :=
      { inbox.tally with
        consumed := inbox.tally.consumed + UInt64.ofNat inbox.contents.length
        current := 0 } }

/-- An inbox in words: its tally. -/
def describe (inbox : Inbox) : String :=
  "ByteQueue \x7b stats: " ++ inbox.tally.describe ++ " \x7d"

@[simp] theorem contents_empty : empty.contents = [] := rfl

@[simp] theorem contents_push (inbox : Inbox) (bytes : Bytes) :
    (inbox.push bytes).contents = inbox.contents ++ bytes := rfl

@[simp] theorem contents_clear (inbox : Inbox) : inbox.clear.contents = [] := rfl

@[simp] theorem read_fst (inbox : Inbox) (limit : Nat) (erase : Bool) :
    (inbox.read limit erase).1 = inbox.contents.take limit := by
  cases erase <;> rfl

@[simp] theorem contents_read_erase (inbox : Inbox) (limit : Nat) :
    (inbox.read limit true).2.contents = inbox.contents.drop limit := rfl

@[simp] theorem read_keep (inbox : Inbox) (limit : Nat) :
    (inbox.read limit false).2 = inbox := rfl

end Inbox
end Framelink
