import Framelink.Failure.Basic
import Framelink.Bytes

/-!
# The read loop

A read fills a buffer from the front with what successive receives give.  Each
receive is offered the room that is still free.  A policy says when the read is
over: at the first receive that succeeds, or only when the buffer is full; and
whether a receive of no bytes is the end of the stream or no more than silence.
Interruptions are tried again.  A transient failure ends a read that has bytes to
show; any other failure, and a transient one before the first byte, fails it.

`ReadPolicy.turn` is what one receipt does to a read under way, and
`ReadPolicy.run` takes turns with a channel.  The caller of `run` waits for a
given number of receives; a read that needs more of them is still waiting.
-/

namespace Framelink

/-- What one receive gives: bytes, or the reason why there are none. -/
abbrev Receipt := Except Failure Bytes

/-- What it means that a receive gives no bytes. -/
inductive Silence
  /-- The far end has closed the stream. -/
  | endOfStream
  /-- Nothing has arrived yet. -/
  | quiet
  deriving DecidableEq, Repr

/-- When a read is over. -/
structure ReadPolicy where
  /-- Carry on until the buffer is full. -/
  untilFull : Bool
  /-- What a receive of no bytes means. -/
  silence : Silence
  deriving DecidableEq, Repr

/-- How a read stands. -/
inductive ReadState
  /-- It asks for more. -/
  | waiting
  /-- It is over. -/
  | finished
  /-- It failed. -/
  | failed (failure : Failure)
  deriving DecidableEq, Repr

/-- A read with the bytes that it has put into the buffer. -/
structure ReadProgress where
  got : Bytes
  state : ReadState
  deriving DecidableEq, Repr

namespace ReadPolicy

/-- What a receipt does to a read that has `got` some of `size` bytes. -/
def turn (policy : ReadPolicy) (size : Nat) (got : Bytes) : Receipt → ReadProgress
  | .ok bytes =>
      if bytes.isEmpty && policy.silence == .endOfStream then ⟨got, .finished⟩
      else if policy.untilFull && decide ((got ++ bytes).length < size) then
        ⟨got ++ bytes, .waiting⟩
      else ⟨got ++ bytes, .finished⟩
  | .error failure =>
      if failure.isInterrupted then ⟨got, .waiting⟩
      else if !got.isEmpty && failure.isTransient then ⟨got, .finished⟩
      else ⟨got, .failed failure⟩

/-- Take turns with a channel until the read is over or `patience` receives were made. -/
def loop (policy : ReadPolicy) (receive : Nat → σ → Receipt × σ) (size : Nat) :
    (patience : Nat) → (got : Bytes) → (channel : σ) → ReadProgress × σ
  | 0, got, channel => (⟨got, .waiting⟩, channel)
  | patience + 1, got, channel =>
      let (receipt, channel) := receive (size - got.length) channel
      match policy.turn size got receipt with
      | ⟨got, .waiting⟩ => loop policy receive size patience got channel
      | ended => (ended, channel)

/-- Read `size` bytes from a channel; a read of nothing receives nothing. -/
def run (policy : ReadPolicy) (receive : Nat → σ → Receipt × σ) (size patience : Nat)
    (channel : σ) : ReadProgress × σ :=
  if size = 0 then (⟨[], .finished⟩, channel)
  else policy.loop receive size patience [] channel

end ReadPolicy
end Framelink
