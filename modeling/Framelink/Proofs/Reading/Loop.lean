import Framelink.Proofs.Delivery

/-!
# The read loop, receive by receive

A read takes turns with a channel until it is over, so a receive that does not end it
leads to the same read with more bytes to show and less patience.  Patience is not
part of the result: a read that is over stays as it is, however much of it is left.

Some receipts leave a read as it was: an interruption always does, and so does silence
where the read carries on until its buffer is full.  A channel that gives such receipts
now and then, and otherwise what another channel gives, is read as that other channel.
-/

namespace Framelink
namespace ReadPolicy

variable {Channel Slower : Type} {policy : ReadPolicy} {size patience : Nat} {got : Bytes}
  {receive : Nat → Channel → Receipt × Channel} {channel : Channel}

/-! ## One turn -/

theorem loop_of_waiting {more : Bytes}
    (turned : policy.turn size got (receive (size - got.length) channel).1 = ⟨more, .waiting⟩) :
    policy.loop receive size (patience + 1) got channel =
      policy.loop receive size patience more (receive (size - got.length) channel).2 := by
  rw [loop]
  dsimp only
  rw [turned]

theorem loop_of_ended
    (ended : (policy.turn size got (receive (size - got.length) channel).1).state ≠ .waiting) :
    policy.loop receive size (patience + 1) got channel =
      (policy.turn size got (receive (size - got.length) channel).1,
        (receive (size - got.length) channel).2) := by
  rw [loop]
  dsimp only
  split
  · next turned => exact absurd (congrArg ReadProgress.state turned) ended
  · rfl

/-- A read that asks for more has room for it. -/
theorem free_of_waiting {receipt : Receipt} {more : Bytes} (free : got.length < size)
    (turned : policy.turn size got receipt = ⟨more, .waiting⟩) : more.length < size := by
  cases receipt with
  | ok bytes =>
      rw [turn] at turned
      split at turned
      · cases turned
      · split at turned
        · next short =>
            cases turned
            rw [Bool.and_eq_true] at short
            exact of_decide_eq_true short.2
        · cases turned
  | error failure =>
      rw [turn] at turned
      split at turned
      · cases turned
        exact free
      · split at turned <;> cases turned

/-! ## Patience -/

/-- A read that is over is over for any greater patience, with the same result. -/
theorem loop_lasts (ended : (policy.loop receive size patience got channel).1.state ≠ .waiting)
    (more : Nat) :
    policy.loop receive size (patience + more) got channel =
      policy.loop receive size patience got channel := by
  induction patience generalizing got channel with
  | zero => exact absurd rfl ended
  | succ patience lasts =>
      rw [Nat.add_right_comm]
      cases turned : policy.turn size got (receive (size - got.length) channel).1 with
      | mk bytes state =>
          by_cases waits : state = .waiting
          · subst waits
            rw [loop_of_waiting turned] at ended
            rw [loop_of_waiting turned, loop_of_waiting turned]
            exact lasts ended
          · have complete : (policy.turn size got (receive (size - got.length) channel).1).state ≠
                .waiting := by
              rw [turned]
              exact waits
            rw [loop_of_ended complete, loop_of_ended complete]

theorem run_lasts (ended : (policy.run receive size patience channel).1.state ≠ .waiting)
    (more : Nat) :
    policy.run receive size (patience + more) channel =
      policy.run receive size patience channel := by
  rw [run] at ended
  rw [run, run]
  split
  · rfl
  · next occupied =>
      rw [if_neg occupied] at ended
      exact loop_lasts ended more

/-! ## Receipts that leave a read as it was -/

/-- Whether a read under way is after a receipt as it was before. -/
def ignores (policy : ReadPolicy) : Receipt → Bool
  | .ok bytes => bytes.isEmpty && (policy.untilFull && policy.silence == .quiet)
  | .error failure => failure.isInterrupted

theorem turn_of_ignored {receipt : Receipt} (free : got.length < size)
    (ignored : policy.ignores receipt = true) :
    policy.turn size got receipt = ⟨got, .waiting⟩ := by
  cases receipt with
  | ok bytes =>
      obtain ⟨untilFull, silence⟩ := policy
      simp only [ignores, Bool.and_eq_true, List.isEmpty_iff, beq_iff_eq] at ignored
      obtain ⟨rfl, rfl, rfl⟩ := ignored
      exact turn_quiet free
  | error failure => exact turn_interrupted policy ignored

/-- A channel that gives what another one gives, but for receipts that a read ignores:
`erase` is the other channel, and `pauses` the most receipts of that sort to come. -/
def Stutters (policy : ReadPolicy) (receive : Nat → Channel → Receipt × Channel)
    (slower : Nat → Slower → Receipt × Slower) (erase : Slower → Channel)
    (pauses : Slower → Nat) : Prop :=
  ∀ room channel,
    (policy.ignores (slower room channel).1 = true ∧
        erase (slower room channel).2 = erase channel ∧
        pauses (slower room channel).2 < pauses channel) ∨
      ((slower room channel).1 = (receive room (erase channel)).1 ∧
        erase (slower room channel).2 = (receive room (erase channel)).2 ∧
        pauses (slower room channel).2 ≤ pauses channel)

section Stuttering

variable {slower : Nat → Slower → Receipt × Slower} {erase : Slower → Channel}
  {pauses : Slower → Nat}

/-- Reading the slower channel is reading the other one with less patience, by as much as
there are pauses at most. -/
theorem Stutters.loop (stutters : policy.Stutters receive slower erase pauses)
    (patience : Nat) (free : got.length < size) (channel : Slower) :
    ∃ fewer, fewer ≤ patience ∧ patience ≤ fewer + pauses channel ∧
      (policy.loop slower size patience got channel).1 =
        (policy.loop receive size fewer got (erase channel)).1 ∧
      erase (policy.loop slower size patience got channel).2 =
        (policy.loop receive size fewer got (erase channel)).2 := by
  induction patience generalizing got channel with
  | zero => exact ⟨0, Nat.le_refl 0, Nat.zero_le _, rfl, rfl⟩
  | succ patience shorter =>
      rcases stutters (size - got.length) channel with
        ⟨ignored, same, fewerPauses⟩ | ⟨receipt, later, noMorePauses⟩
      · -- The slower channel pauses: the other one stays where it is.
        obtain ⟨fewer, below, enough, progress, reached⟩ :=
          shorter free (slower (size - got.length) channel).2
        rw [same] at progress reached
        rw [loop_of_waiting (turn_of_ignored free ignored)]
        exact ⟨fewer, by omega, by omega, progress, reached⟩
      · cases turned : policy.turn size got (receive (size - got.length) (erase channel)).1 with
        | mk bytes state =>
            by_cases waits : state = .waiting
            · subst waits
              obtain ⟨fewer, below, enough, progress, reached⟩ :=
                shorter (free_of_waiting free turned) (slower (size - got.length) channel).2
              rw [later] at progress reached
              refine ⟨fewer + 1, by omega, by omega, ?_⟩
              rw [loop_of_waiting turned, loop_of_waiting (receipt ▸ turned)]
              exact ⟨progress, reached⟩
            · have ended : (policy.turn size got
                  (receive (size - got.length) (erase channel)).1).state ≠ .waiting := by
                rw [turned]
                exact waits
              refine ⟨patience + 1, Nat.le_refl _, Nat.le_add_right _ _, ?_⟩
              rw [loop_of_ended ended, loop_of_ended (receipt ▸ ended), receipt]
              exact ⟨rfl, later⟩

theorem Stutters.run (stutters : policy.Stutters receive slower erase pauses)
    (size patience : Nat) (channel : Slower) :
    ∃ fewer, fewer ≤ patience ∧ patience ≤ fewer + pauses channel ∧
      (policy.run slower size patience channel).1 =
        (policy.run receive size fewer (erase channel)).1 ∧
      erase (policy.run slower size patience channel).2 =
        (policy.run receive size fewer (erase channel)).2 := by
  by_cases empty : size = 0
  · subst empty
    exact ⟨patience, Nat.le_refl _, Nat.le_add_right _ _, rfl, rfl⟩
  · simp only [ReadPolicy.run, if_neg empty]
    exact stutters.loop patience (Nat.pos_of_ne_zero empty) channel

end Stuttering

end ReadPolicy
end Framelink
