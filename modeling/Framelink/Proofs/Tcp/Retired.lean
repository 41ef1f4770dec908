import Framelink.Proofs.Tcp.Streams

/-!
# Peers that were closed

A peer is closed when its worker leaves, or when no worker can be started for it.  Either
way nobody serves its connection any more and nobody ever will, so nothing is put into its
inbox again, and it is never open again.
-/

namespace Framelink
namespace Tcp
namespace Connection

/-- Nobody serves the connection any more, and nobody ever will. -/
structure Over (c : Connection) : Prop where
  made : c.wire ≠ none
  waits : c.waits = false
  prepared : c.stage ≠ .preparing
  greeted : c.stage ≠ .greeting
  unserved : c.worker = none

/-- A connection whose tracked peer is closed is over. -/
def Retired (c : Connection) : Prop :=
  ∀ peer, c.session = some peer → peer.isOpen = false → c.Over

variable {own : Bool} {c later : Connection}

/-! ## One turn -/

/-- A connection whose worker was started, or will never be. -/
structure Beyond (c : Connection) : Prop where
  made : c.wire ≠ none
  waits : c.waits = false
  prepared : c.stage ≠ .preparing
  greeted : c.stage ≠ .greeting

theorem Over.beyond (finished : c.Over) : c.Beyond :=
  ⟨finished.made, finished.waits, finished.prepared, finished.greeted⟩

/-- No connection is brought back to where a worker is started for it. -/
theorem Turn.stays_beyond (turn : Turn own c later) (beyond : c.Beyond) : later.Beyond := by
  obtain ⟨made, waits, prepared, greeted⟩ := beyond
  cases turn with
  | established _ absent => exact absurd absent made
  | abandoned _ _ here | accepted here => cases waits.symm.trans here
  | refused _ _ stage | registered _ stage => exact absurd stage prepared
  | unwelcome _ _ _ stage | unserved _ _ stage | served _ stage => exact absurd stage greeted
  | stored => exact ⟨made, waits, nofun, nofun⟩
  | touched | arrived | finished | replaced | moved | received | crashed | left | kept =>
      exact ⟨nofun, waits, prepared, greeted⟩
  | _ => exact ⟨made, waits, prepared, greeted⟩

/-- A connection without a worker gets one from the acceptor only. -/
theorem Turn.stays_unserved (turn : Turn own c later) (greeted : c.stage ≠ .greeting)
    (unserved : c.worker = none) : later.worker = none := by
  have nobody {worker : Worker} (alive : c.worker = some worker) : False :=
    nomatch unserved.symm.trans alive
  cases turn with
  | served _ stage => exact absurd stage greeted
  | moved _ _ _ _ _ alive | received _ _ _ _ _ alive | ended _ _ _ alive | pushed _ _ _ alive =>
      exact (nobody alive).elim
  | crashed | left => rfl
  | stored | asked | collected | drained | kept => exact congrArg (Option.map _) unserved
  | _ => exact unserved

theorem Turn.stays_over (turn : Turn own c later) (finished : c.Over) : later.Over := by
  obtain ⟨made, waits, prepared, greeted⟩ := turn.stays_beyond finished.beyond
  exact ⟨made, waits, prepared, greeted, turn.stays_unserved finished.greeted finished.unserved⟩

/-- A peer appears when its connection is registered, with nothing in its inbox. -/
theorem Turn.appeared (turn : Turn own c later) (untracked : c.session = none) {peer : Peer Line}
    (tracked : later.session = some peer) :
    c.stage = .preparing ∧ peer.inbox.contents = [] ∧ later.record = c.record := by
  cases turn with
  | registered added stage empty =>
      cases tracked
      exact ⟨stage, empty, rfl⟩
  | consumed _ _ _ present => cases untracked.symm.trans present
  | unserved | pushed | left =>
      rw [untracked] at tracked
      cases tracked
  | replaced | untracked => cases tracked
  | _ => cases untracked.symm.trans tracked

/-- A peer that is closed stays closed as long as it is tracked, and a connection that is
over gets no other. -/
theorem Turn.stays_closed (turn : Turn own c later) (finished : c.Over)
    (closed : ∀ peer, c.session = some peer → peer.isOpen = false) {after : Peer Line}
    (still : later.session = some after) : after.isOpen = false := by
  cases present : c.session with
  | none => exact absurd (turn.appeared present still).1 finished.prepared
  | some peer =>
      have shut := closed peer present
      cases turn with
      | registered added stage => exact absurd stage finished.prepared
      | unserved | left =>
          obtain ⟨_, _, rfl⟩ := Option.map_eq_some_iff.1 still
          rfl
      | pushed =>
          obtain ⟨before, known, rfl⟩ := Option.map_eq_some_iff.1 still
          exact closed before known
      | consumed before changed bytes known contents same =>
          cases still
          exact same.trans (closed before known)
      | replaced | untracked => cases still
      | _ => exact closed after still

/-- Only a worker that leaves, and a worker that cannot be started, closes a peer. -/
theorem Turn.retired (turn : Turn own c later) (placed : c.Placed) (retired : c.Retired) :
    later.Retired := by
  intro peer tracked closed
  have before {old : Peer Line} (present : c.session = some old) (shut : old.isOpen = false) :
      later.Over := turn.stays_over (retired old present shut)
  cases turn with
  | left worker wire found alive hand =>
      have past := placed.past_of_worker alive
      refine ⟨nofun, Bool.eq_false_iff.2 fun waits => past (Or.inl waits),
        fun stage => past (Or.inr stage), fun stage => ?_, rfl⟩
      cases alive.symm.trans (placed.greeted stage)
  | unserved wire found stage =>
      refine ⟨nofun, Bool.eq_false_iff.2 ?_, nofun, nofun, placed.greeted stage⟩
      exact placed.taken (by simp [stage])
  | registered added stage empty fresh =>
      cases tracked
      cases fresh.symm.trans closed
  | pushed =>
      obtain ⟨old, present, rfl⟩ := Option.map_eq_some_iff.1 tracked
      exact before present closed
  | consumed old changed bytes present contents same =>
      cases tracked
      exact before present (same.symm.trans closed)
  | replaced | untracked => cases tracked
  | _ => exact before tracked closed

/-- What was taken from an inbox stays taken. -/
theorem Turn.taken (turn : Turn own c later) : c.record.taken <+: later.record.taken := by
  cases turn with
  | consumed peer after bytes => exact List.prefix_append _ bytes
  | _ => exact List.prefix_rfl

end Connection

namespace Situation

open Connection

variable {situation : Situation}

/-- Every connection whose tracked peer is closed is over. -/
def Retired (situation : Situation) : Prop := ∀ wire, (situation.connection wire).Retired

theorem Retired.after (retired : situation.Retired) (sound : situation.Sound) (move : Move) :
    (situation.after move).Retired := fun wire =>
  ((turns_after sound move).turn wire).retired (sound.connections wire).placed (retired wire)

theorem Retired.run (retired : situation.Retired) (sound : situation.Sound) (moves : List Move) :
    (situation.run moves).Retired := by
  induction moves generalizing situation with
  | nil => exact retired
  | cons move rest inductionHypothesis =>
      exact inductionHypothesis (retired.after sound move) (sound.after move)

/-- In every run nobody serves a peer that is closed. -/
theorem retired_run (settings : Settings) (isolated : Bool) (moves : List Move) :
    ((initial settings isolated).run moves).Retired := by
  have nobody : (initial settings isolated).Retired := fun _ _ untracked => nomatch untracked
  exact nobody.run (sound_initial settings isolated) moves

/-- A peer that is closed is never open again. -/
theorem Sound.closed_run (sound : situation.Sound) {wire : Nat}
    (finished : (situation.connection wire).Over)
    (closed : ∀ peer, (situation.connection wire).session = some peer → peer.isOpen = false)
    (moves : List Move) {last : Peer Line}
    (still : ((situation.run moves).connection wire).session = some last) :
    last.isOpen = false := by
  induction moves generalizing situation with
  | nil => exact closed last still
  | cons move rest inductionHypothesis =>
      have turn := (turns_after sound move).turn wire
      exact inductionHypothesis (sound.after move) (turn.stays_over finished)
        (fun _ later => turn.stays_closed finished closed later) still

/-- What was taken from an inbox stays taken. -/
theorem Sound.taken_run (sound : situation.Sound) (wire : Nat) (moves : List Move) :
    (situation.record wire).taken <+: ((situation.run moves).record wire).taken := by
  induction moves generalizing situation with
  | nil => exact List.prefix_rfl
  | cons move rest inductionHypothesis =>
      have first : (situation.record wire).taken <+: ((situation.after move).record wire).taken :=
        ((turns_after sound move).turn wire).taken
      exact first.trans (inductionHypothesis (sound.after move))

end Situation
end Tcp
end Framelink
