import Framelink.Proofs.Reading.Attempts

/-!
# Reads into a buffer

The attempts that a read of an open link makes say all there is to say about it: what it
returns, what its buffer holds afterwards, and why it stopped where it did.  They are
written down by a channel that notes every receive and is otherwise the one that is read
from.
-/

namespace Framelink
namespace Link

open Attempt ReadPolicy

variable {Handle World : Type}

/-- A channel that also writes down every receive. -/
def recorded (receive : Nat → Handle × World → Receipt × (Handle × World)) (room : Nat)
    (channel : Handle × World × List Attempt) : Receipt × (Handle × World × List Attempt) :=
  let (receipt, handle, world) := receive room (channel.1, channel.2.1)
  (receipt, handle, world, channel.2.2 ++ [⟨room, receipt⟩])

/-- The attempts that a read of a link makes. -/
def attempts (link : Link Handle) (world : World)
    (receive : Nat → Handle × World → Receipt × (Handle × World)) (policy : ReadPolicy)
    (checked : Bool) (size patience : Nat) : List Attempt :=
  (link.read (world, []) (recorded receive) policy checked size patience).2.2.2

/-- What a read into a buffer comes to when it has made these attempts. -/
structure Reading.Explained (policy : ReadPolicy) (buffer : Bytes) (patience : Nat)
    (attempts : List Attempt) (reading : Reading) : Prop where
  /-- Each attempt is offered the room that those before it left free, and is made only
  while the read is not over. -/
  offered : ∀ front attempt back, attempts = front ++ attempt :: back →
    attempt.room = buffer.length - (received front).length ∧
      policy.isOver buffer.length front = false
  /-- The read is over, or has made as many attempts as it was to wait for. -/
  goesOn : policy.isOver buffer.length attempts = false → attempts.length = patience
  result : reading.result =
    if policy.isOver buffer.length attempts then some ((outcome attempts).mapError .exchange)
    else none
  inRoom : (received attempts).length ≤ buffer.length
  front : (reading.fill buffer).take (received attempts).length = received attempts
  rest : (reading.fill buffer).drop (received attempts).length =
    buffer.drop (received attempts).length
  /-- The same buffer is left when each attempt writes where it was offered room. -/
  written : attempts.foldl Attempt.write buffer = reading.fill buffer
  bounded : attempts.length ≤ buffer.length + attempts.countP Attempt.isIdle

/-! ## Writing the receives down -/

section

variable {link : Link Handle} {handle : Handle} {world : World} {policy : ReadPolicy}
  {receive : Nat → Handle × World → Receipt × (Handle × World)}

/-- What was written down are the receives that were made. -/
theorem made_of_recorded {before after : Handle × World × List Attempt}
    {attempts : List Attempt} (made : Made (recorded receive) before attempts after) :
    Made receive (before.1, before.2.1) attempts (after.1, after.2.1) ∧
      after.2.2 = before.2.2 ++ attempts := by
  induction made with
  | none => exact ⟨.none, (List.append_nil _).symm⟩
  | @next channel later room attempts made recorded =>
      obtain ⟨made, noted⟩ := recorded
      refine ⟨.next made, ?_⟩
      rw [noted]
      exact List.append_assoc ..

/-- Writing the receives down changes nothing else. -/
theorem run_recorded (receive : Nat → Handle × World → Receipt × (Handle × World))
    (policy : ReadPolicy) (size patience : Nat) (channel : Handle × World × List Attempt) :
    (policy.run (recorded receive) size patience channel).1 =
        (policy.run receive size patience (channel.1, channel.2.1)).1 ∧
      (fun later : Handle × World × List Attempt => (later.1, later.2.1))
          (policy.run (recorded receive) size patience channel).2 =
        (policy.run receive size patience (channel.1, channel.2.1)).2 := by
  have stutters : policy.Stutters receive (recorded receive)
      (fun channel => (channel.1, channel.2.1)) fun _ => 0 :=
    fun _ _ => .inr ⟨rfl, rfl, Nat.le_refl 0⟩
  obtain ⟨fewer, below, enough, progress, reached⟩ := stutters.run size patience channel
  have same : fewer = patience := Nat.le_antisymm below enough
  rw [same] at progress reached
  exact ⟨progress, reached⟩

/-- A read of an open link, told from its attempts. -/
theorem read_course (opened : link.handle = some handle) (world : World)
    (receive : Nat → Handle × World → Receipt × (Handle × World)) (policy : ReadPolicy)
    (checked : Bool) (size patience : Nat) :
    ∃ handle' world',
      policy.Course receive size patience (handle, world)
          (link.attempts world receive policy checked size patience) (handle', world') ∧
        link.read world receive policy checked size patience =
          (⟨received (link.attempts world receive policy checked size patience),
              readResult checked
                (policy.after size (link.attempts world receive policy checked size patience))⟩,
            { link with handle := some handle' }, world') := by
  obtain ⟨made, ⟨handle', world', noted⟩, course⟩ :=
    exists_course policy (recorded receive) size patience (handle, world, [])
  obtain ⟨genuine, same⟩ := made_of_recorded course.made
  obtain ⟨progress, reached⟩ :=
    run_recorded receive policy size patience (handle, world, [])
  rw [course.run] at progress reached
  have plain : policy.run receive size patience (handle, world) =
      (policy.after size made, handle', world') :=
    Prod.ext progress.symm reached.symm
  have listed : link.attempts world receive policy checked size patience = made := by
    rw [attempts, read, opened]
    dsimp only
    rw [course.run]
    exact same
  rw [listed]
  refine ⟨handle', world',
    ⟨genuine, course.proceeds, course.patient, course.exhausted, plain⟩, ?_⟩
  rw [read, opened]
  dsimp only
  rw [plain]
  rfl

/-- A read that has a result has the same one for any greater patience. -/
theorem read_lasts {checked : Bool} {size patience : Nat}
    (ended : (link.read world receive policy checked size patience).1.result ≠ none)
    (more : Nat) :
    link.read world receive policy checked size (patience + more) =
      link.read world receive policy checked size patience := by
  rw [read] at ended
  rw [read, read]
  cases held : link.handle with
  | none => rfl
  | some handle =>
      rw [held] at ended
      dsimp only at ended ⊢
      rw [run_lasts]
      intro waiting
      rw [readResult, waiting] at ended
      exact ended rfl

end

/-! ## What a read returns -/

/-- What a read returns is how many bytes came, if it is no failure. -/
theorem outcome_eq_ok {attempts : List Attempt} {count : Nat}
    (returned : outcome attempts = .ok count) : count = (received attempts).length := by
  unfold outcome at returned
  dsimp only at returned
  split at returned
  · split at returned
    · exact (Except.ok.inj returned).symm
    · cases returned
  · exact (Except.ok.inj returned).symm

/-- A read that returns a failure has stopped at it. -/
theorem lastReceipt_of_outcome {attempts : List Attempt} {failure : Failure}
    (failed : outcome attempts = .error failure) :
    lastReceipt attempts = some (.error failure) := by
  unfold outcome at failed
  dsimp only at failed
  split at failed
  · next last =>
      split at failed
      · cases failed
      · cases failed
        rw [lastReceipt, last]
        rfl
  · cases failed

/-- The result of a read without a check, told from its attempts. -/
theorem readResult_after (policy : ReadPolicy) (size : Nat) (attempts : List Attempt) :
    readResult false (policy.after size attempts) =
      if policy.isOver size attempts then some ((outcome attempts).mapError .exchange)
      else none := by
  rw [readResult, after]
  cases policy.isOver size attempts with
  | false => rfl
  | true =>
      cases returned : outcome attempts with
      | error failure => rfl
      | ok count =>
          rw [outcome_eq_ok returned]
          rfl

section

variable {policy : ReadPolicy} {checked : Bool} {progress : ReadProgress} {size : Nat}
  {attempts : List Attempt}

/-- With a check or without, a read that returns a count has finished. -/
theorem finished_of_returned {count : Nat}
    (returned : readResult checked progress = some (.ok count)) :
    progress.state = .finished ∧ progress.got.length = count := by
  obtain ⟨got, state⟩ := progress
  cases state with
  | waiting => cases returned
  | failed failure => cases returned
  | finished =>
      refine ⟨rfl, ?_⟩
      cases checked with
      | false => exact Except.ok.inj (Option.some.inj returned)
      | true =>
          cases verified : Frame.verify got with
          | error error => simp [readResult, verified, Except.map] at returned
          | ok accepted => simpa [readResult, verified, Except.map] using returned

/-- What a check reports is always a mismatch. -/
theorem mismatch_of_verify {frame : Bytes} {error : LinkError}
    (rejected : Frame.verify frame = .error error) :
    ∃ mismatch, error = .checksumMismatch mismatch := by
  rw [Frame.verify] at rejected
  cases checked : Frame.check Checksum.shared frame <;> rw [checked] at rejected <;>
    cases rejected
  exact ⟨_, rfl⟩

/-- With a check or without, a read that reports the failure of a receive has failed at it. -/
theorem failed_of_reported {failure : Failure}
    (reported : readResult checked progress = some (.error (.exchange failure))) :
    progress.state = .failed failure := by
  obtain ⟨got, state⟩ := progress
  cases state with
  | waiting => cases reported
  | failed met => cases reported; rfl
  | finished =>
      cases checked with
      | false => cases reported
      | true =>
          cases verified : Frame.verify got with
          | error error =>
              obtain ⟨mismatch, rfl⟩ := mismatch_of_verify verified
              simp [readResult, verified, Except.map] at reported
          | ok accepted => simp [readResult, verified, Except.map] at reported

/-- What the attempts of a read that has finished come to. -/
theorem outcome_of_finished (finished : (policy.after size attempts).state = .finished) :
    policy.isOver size attempts = true ∧ outcome attempts = .ok (received attempts).length := by
  rw [after] at finished
  cases complete : policy.isOver size attempts <;> rw [complete] at finished
  · cases finished
  · refine ⟨rfl, ?_⟩
    cases ended : outcome attempts <;> rw [ended] at finished
    · cases finished
    · rw [outcome_eq_ok ended]

/-- What the attempts of a read that has failed come to. -/
theorem outcome_of_failed {failure : Failure}
    (failed : (policy.after size attempts).state = .failed failure) :
    outcome attempts = .error failure := by
  rw [after] at failed
  cases complete : policy.isOver size attempts <;> rw [complete] at failed
  · cases failed
  · cases ended : outcome attempts <;> rw [ended] at failed <;> cases failed
    rfl

end

section

variable {policy : ReadPolicy} {Channel : Type} {receive : Nat → Channel → Receipt × Channel}
  {channel later : Channel} {attempts : List Attempt} {buffer : Bytes} {patience : Nat}

/-- A read that makes some attempts comes to what they say. -/
theorem explained (fits : Fits receive)
    (course : policy.Course receive buffer.length patience channel attempts later) :
    Reading.Explained policy buffer patience attempts
      ⟨received attempts, readResult false (policy.after buffer.length attempts)⟩ where
  offered := fun _ _ _ split => course.proceeds.offered split
  goesOn := course.exhausted
  result := readResult_after policy buffer.length attempts
  inRoom := course.proceeds.received_le (course.made.fit fits) (Nat.zero_le _)
  front := List.take_left
  rest := List.drop_left
  written := course.proceeds.written rfl
  bounded := course.proceeds.bounded

end

/-- A read of an open link makes receives one after the other, each offered exactly the rest
of the buffer that is still free, until the buffer is full or a receive ends it: a receive of
no bytes where that is the end of the stream, any receive of bytes where the read does not
carry on, or a failure that is no interruption.  It returns how many bytes came, or the
failure that it stopped at if nothing came or the failure is no sign of silence.  The bytes
that came stand at the front of the buffer, in order, and the rest is as it was.  There are
no more receives than places in the buffer and receives that were interrupted or gave
nothing, and a read that is over does not depend on how long it was to wait. -/
theorem read_stops_at_first_end {link : Link Handle} {handle : Handle}
    (opened : link.handle = some handle)
    {receive : Nat → Handle × World → Receipt × (Handle × World)} (fits : Fits receive)
    (world : World) (policy : ReadPolicy) (buffer : Bytes) (patience : Nat) :
    ∃ reading handle' world',
      link.read world receive policy false buffer.length patience =
        (reading, { link with handle := some handle' }, world') ∧
      Made receive (handle, world)
        (link.attempts world receive policy false buffer.length patience) (handle', world') ∧
      reading.Explained policy buffer patience
        (link.attempts world receive policy false buffer.length patience) ∧
      (reading.result ≠ none → ∀ more,
        link.read world receive policy false buffer.length (patience + more) =
          (reading, { link with handle := some handle' }, world')) := by
  obtain ⟨handle', world', course, read⟩ := read_course opened world receive policy false
    buffer.length patience
  refine ⟨_, handle', world', read, course.made, explained fits course, ?_⟩
  intro ended more
  rw [← read]
  refine read_lasts ?_ more
  rw [read]
  exact ended

/-- A script gives no more than there is room for. -/
theorem fits_receiveScript : Fits receiveScript := by
  rintro room ⟨⟨receipts, surplus⟩, ⟨⟩⟩ bytes given
  match receipts with
  | [] => cases given
  | .error failure :: rest => cases given
  | .ok whole :: rest =>
      cases given
      exact List.length_take_le room whole

/-- Two bytes that come after an interruption and silence are returned when nothing more
comes in time, and the rest of the buffer is left alone. -/
theorem read_stops_at_first_end_of_silence :
    let script : Script :=
      ⟨[.error (.system 4), .ok [], .ok [1, 2], .error (.system 11), .ok [3]], .kept⟩
    let link : Link Script := (closed .serial).install script ""
    Fits receiveScript ∧
      link.attempts () receiveScript ⟨true, .quiet⟩ false 4 9 =
        [⟨4, .error (.system 4)⟩, ⟨4, .ok []⟩, ⟨4, .ok [1, 2]⟩, ⟨2, .error (.system 11)⟩] ∧
      ∃ reading later,
        link.read () receiveScript ⟨true, .quiet⟩ false 4 9 = (reading, later, ()) ∧
          reading.result = some (.ok 2) ∧ reading.fill [9, 9, 9, 9] = [1, 2, 9, 9] := by
  intro script link
  have made : link.attempts () receiveScript ⟨true, .quiet⟩ false 4 9 =
      [⟨4, .error (.system 4)⟩, ⟨4, .ok []⟩, ⟨4, .ok [1, 2]⟩, ⟨2, .error (.system 11)⟩] := rfl
  obtain ⟨reading, handle', ⟨⟩, read, -, explained, -⟩ :=
    read_stops_at_first_end (show link.handle = some script from rfl) fits_receiveScript ()
      ⟨true, .quiet⟩ [9, 9, 9, 9] 9
  refine ⟨fits_receiveScript, made, reading, _, read, ?_, ?_⟩
  · exact explained.result
  · exact explained.written.symm

end Link
end Framelink
