import Framelink.Proofs.Logs
import Framelink.Udp.Server

/-!
# What happens in a datagram server

A history tells, oldest first, which datagrams arrived, when a callback had its turn,
what was taken out of inboxes and who was removed.  It alone says who is tracked, what
every inbox holds and which callbacks are in place: no server is asked.
-/

namespace Framelink

/-- A call of a callback. -/
inductive Call
  | ofData (payload : Bytes) (peer : SocketAddress) (callback : Reaction)
  | ofNewPeer (address peer : SocketAddress) (callback : Reaction)

/-- The call that a report tells of. -/
def Report.call? : Report SocketAddress → Option Call
  | .received payload peer callback _ => some (.ofData payload peer callback)
  | .joined address peer callback _ => some (.ofNewPeer address peer callback)
  | .listening _ | .released _ => none

namespace Udp

/-- What happens in a datagram server. -/
inductive Event
  /-- A datagram was received, from a sender that was not tracked if the mark is set. -/
  | arrived (datagram : Datagram) (unknown : Bool)
  /-- An address that was not tracked before had its turn with the new-peer callback in
  place, if there was one. -/
  | greeted (address : SocketAddress) (callback : Option Reaction)
  /-- A datagram was put into the inbox of its sender. -/
  | kept (datagram : Datagram)
  /-- The data callback in place was called for a datagram. -/
  | told (datagram : Datagram) (callback : Reaction)
  /-- A datagram was sent back. -/
  | echoed (datagram : Datagram)
  /-- Bytes were copied from the inbox of an address. -/
  | read (address : SocketAddress) (size : Nat) (erase : Bool)
  /-- The inbox of an address was emptied. -/
  | cleared (address : SocketAddress)
  /-- An address was removed. -/
  | removed (address : SocketAddress)
  /-- Other callbacks were put in place. -/
  | replaced (onData onNewPeer : Option Reaction)

namespace Event

/-- What an event makes of the inbox that an address has all along. -/
def alter (address : SocketAddress) (inbox : Inbox) : Event → Inbox
  | .kept datagram => if datagram.source = address then inbox.push datagram.payload else inbox
  | .read other size erase => if other = address then (inbox.read size erase).2 else inbox
  | .cleared other => if other = address then inbox.clear else inbox
  | _ => inbox

/-- What an event makes of the inbox of an address, which there is while it is tracked. -/
def session (address : SocketAddress) (inbox : Option Inbox) : Event → Option Inbox
  | .arrived datagram _ =>
      if datagram.source = address then some (inbox.getD .empty) else inbox
  | .removed other => if other = address then none else inbox
  | event => inbox.map fun inbox => event.alter address inbox

/-- What an event makes of the callbacks in place: the data callback and the new-peer
callback. -/
def callbacks (inPlace : Option Reaction × Option Reaction) :
    Event → Option Reaction × Option Reaction
  | .replaced onData onNewPeer => (onData, onNewPeer)
  | _ => inPlace

/-- Whether an event belongs to the passage of a datagram through a receiver. -/
def ofReceiver : Event → Bool
  | .arrived _ _ | .greeted _ _ | .kept _ | .told _ _ | .echoed _ => true
  | .read _ _ _ | .cleared _ | .removed _ | .replaced _ _ => false

/-- Whether an event is the turn of a callback, or what comes in its stead. -/
def isTurn : Event → Bool
  | .greeted _ _ | .told _ _ | .echoed _ => true
  | _ => false

/-- The call that an event comes with. -/
def call? : Event → Option Call
  | .told datagram callback => some (.ofData datagram.payload datagram.source callback)
  | .greeted address (some callback) => some (.ofNewPeer address address callback)
  | _ => none

/-- The turn of a callback itself alters no inbox and replaces no callback. -/
theorem session_of_isTurn {event : Event} (turn : event.isTurn = true)
    (address : SocketAddress) (inbox : Option Inbox) : event.session address inbox = inbox := by
  cases event with
  | greeted _ _ | told _ _ | echoed _ => cases inbox <;> rfl
  | arrived _ _ | kept _ | read _ _ _ | cleared _ | removed _ | replaced _ _ => cases turn

theorem callbacks_of_isTurn {event : Event} (turn : event.isTurn = true)
    (inPlace : Option Reaction × Option Reaction) : event.callbacks inPlace = inPlace := by
  cases event with
  | greeted _ _ | told _ _ | echoed _ => rfl
  | arrived _ _ | kept _ | read _ _ _ | cleared _ | removed _ | replaced _ _ => cases turn

end Event

/-- What happened in a datagram server, oldest first. -/
abbrev History := List Event

namespace History

/-- The inbox of an address after a history, if the address is tracked. -/
def inbox? (history : History) (address : SocketAddress) : Option Inbox :=
  history.foldl (Event.session address) none

/-- The callbacks in place after a history. -/
def callbacks (history : History) : Option Reaction × Option Reaction :=
  history.foldl Event.callbacks (none, none)

/-- The data callback in place after a history. -/
def onData (history : History) : Option Reaction := history.callbacks.1

/-- The new-peer callback in place after a history. -/
def onNewPeer (history : History) : Option Reaction := history.callbacks.2

theorem inbox?_snoc (history : History) (event : Event) (address : SocketAddress) :
    inbox? (history ++ [event]) address = event.session address (history.inbox? address) := by
  rw [inbox?, List.foldl_append]
  rfl

theorem callbacks_snoc (history : History) (event : Event) :
    callbacks (history ++ [event]) = event.callbacks history.callbacks := by
  rw [callbacks, List.foldl_append]
  rfl

/-! ## Who is tracked -/

/-- A datagram from an address arrived, and the address was not removed since. -/
def ArrivedSince (history : History) (address : SocketAddress) : Prop :=
  Since (fun event => ∃ datagram unknown,
    event = .arrived datagram unknown ∧ datagram.source = address) (· = .removed address) history

/-- An address is tracked exactly if a datagram from it arrived after its last removal. -/
theorem isSome_inbox?_iff (history : History) (address : SocketAddress) :
    (history.inbox? address).isSome = true ↔ history.ArrivedSince address := by
  rw [ArrivedSince]
  induction history using List.reverseRecOn with
  | nil => exact iff_of_false Bool.false_ne_true (not_since_nil _ _)
  | append_singleton history event inductionHypothesis =>
      rw [inbox?_snoc, since_snoc, ← inductionHypothesis]
      cases event with
      | arrived datagram unknown =>
          rw [Event.session]
          split
          · next same => simp [same]
          · next differs => simp [differs]
      | removed other =>
          rw [Event.session]
          split
          · next same => simp [same]
          · next differs => simp [differs]
      | _ => simp [Event.session]

/-- The inbox of an address that is not removed is never another one: what happens alters
it, and that is all. -/
theorem inbox?_lasts {early : History} {address : SocketAddress} {inbox : Inbox}
    (tracked : early.inbox? address = some inbox) (late : History)
    (spared : .removed address ∉ late) :
    inbox? (early ++ late) address = some (late.foldl (Event.alter address) inbox) := by
  induction late using List.reverseRecOn with
  | nil =>
      rw [List.append_nil]
      exact tracked
  | append_singleton late event inductionHypothesis =>
      rw [List.mem_append, not_or] at spared
      rw [← List.append_assoc, inbox?_snoc, inductionHypothesis spared.1, List.foldl_append]
      cases event with
      | arrived datagram unknown =>
          rw [Event.session]
          split <;> rfl
      | removed other =>
          rw [Event.session, if_neg]
          · rfl
          · rintro rfl
            exact spared.2 (List.mem_singleton.2 rfl)
      | _ => rfl

end History

/-! ## The passage of a datagram -/

/-- The passage of a datagram through a receiver. -/
structure Passage where
  datagram : Datagram
  /-- If the sender was not tracked before, the new-peer callback in place, if any. -/
  greeting : Option (Option Reaction)
  /-- The data callback in place when it came to that, if any. -/
  answer : Option Reaction

namespace Passage

/-- Whether a new-peer callback failed in a way that ends the receiver. -/
def isLost (greeting : Option (Option Reaction)) : Bool := greeting matches some (some .panic)

/-- How a passage begins: a sender that was not tracked before is greeted. -/
def opening (datagram : Datagram) : Option (Option Reaction) → List Event
  | none => [.arrived datagram false]
  | some callback => [.arrived datagram true, .greeted datagram.source callback]

/-- How a datagram is answered: either a callback is told, or it is sent back. -/
def ending (datagram : Datagram) : Option Reaction → Event
  | some callback => .told datagram callback
  | none => .echoed datagram

/-- What happens in a passage: the datagram is kept and then answered, unless the new-peer
callback ended the receiver. -/
def events (passage : Passage) : List Event :=
  opening passage.datagram passage.greeting ++
    if isLost passage.greeting then []
    else [.kept passage.datagram, ending passage.datagram passage.answer]

/-- What happens in a passage whose new-peer callback returns, if it is called. -/
def complete (passage : Passage) : List Event :=
  opening passage.datagram passage.greeting ++
    [.kept passage.datagram, ending passage.datagram passage.answer]

variable {passage : Passage}

theorem events_of_returned (returned : isLost passage.greeting = false) :
    passage.events = passage.complete := by
  rw [events, returned]
  rfl

/-- A passage that was cut short tells which callback did it. -/
theorem greeted_of_isLost (lost : isLost passage.greeting = true) :
    .greeted passage.datagram.source (some .panic) ∈ passage.events := by
  have panicked : passage.greeting = some (some .panic) := by
    unfold isLost at lost
    split at lost
    · next same => exact same
    · cases lost
  rw [events, panicked]
  exact List.mem_append_left _ (List.mem_cons_of_mem _ List.mem_cons_self)

end Passage

/-- Every new-peer callback that was called returned. -/
def History.Returns (history : History) : Prop :=
  ∀ address, .greeted address (some .panic) ∉ history

/-! ## Events at their moments -/

/-- Whether an event is more of a passage than a greeting. -/
def Event.isStride : Event → Bool
  | .arrived _ _ | .kept _ | .told _ _ | .echoed _ => true
  | _ => false

/-- A datagram arrived, and no more than greetings of a passage came after it. -/
def History.Awaits (history : History) (datagram : Datagram) : Prop :=
  Since (fun event => ∃ unknown, event = .arrived datagram unknown)
    (fun event => event.isStride = true) history

/-- An event fits what happened before: a sender is unknown exactly if it is not tracked,
a datagram is kept after it arrived, and the callback that has its turn is the one in
place. -/
def Event.Fits (history : History) : Event → Prop
  | .arrived datagram unknown => unknown = (history.inbox? datagram.source).isNone
  | .greeted _ callback => history.onNewPeer = callback
  | .kept datagram => history.Awaits datagram
  | .told _ callback => history.onData = some callback
  | .echoed _ => history.onData = none
  | .read _ _ _ | .cleared _ | .removed _ | .replaced _ _ => True

namespace History

/-- Every event of a history fits what happened before. -/
def Faithful (history : History) : Prop :=
  ∀ early event late, history = early ++ event :: late → event.Fits early

theorem faithful_nil : Faithful [] := by
  intro early event late parts
  cases early <;> cases parts

theorem Faithful.snoc {history : History} (faithful : history.Faithful) {event : Event}
    (fits : event.Fits history) : Faithful (history ++ [event]) := by
  intro early other late parts
  rcases snoc_split parts with ⟨rfl, rfl, -⟩ | ⟨between, -, same⟩
  · exact fits
  · exact faithful early other between same

end History
end Udp
end Framelink
