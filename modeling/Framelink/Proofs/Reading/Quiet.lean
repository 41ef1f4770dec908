import Framelink.Proofs.Reading.Course
import Framelink.Serial.Client

/-!
# Quiet periods on a line

A port that gives nothing for a while times out, and a client takes that for a receive of no
bytes.  A read that carries on until its buffer is full ignores such receives: wherever quiet
periods come, it returns what it would have returned without them, and leaves the same
buffer and the same line.  A read that does not carry on is over at the first of them.
-/

namespace Framelink
namespace Serial
namespace Client

open Attempt

/-! ## Ports with quiet periods -/

/-- A failure with which a port reports that nothing has come for a while. -/
abbrev QuietPeriod := { failure : Failure // failure.isTimedOut = true }

/-- The quiet periods before each of the next receives of a port. -/
abbrev Pauses := List (List QuietPeriod)

/-- How many quiet periods there are. -/
def Pauses.count (pauses : Pauses) : Nat := pauses.flatten.length

section

variable {World : Type} (port : Access → Nat → World → Receipt × World)
  (input : Nat → Nat → World → Receipt × World)

/-- A port that has quiet periods before its receives. -/
def pausing (access : Access) (room : Nat) : Pauses × World → Receipt × (Pauses × World)
  | ((quiet :: more) :: later, world) => (.error quiet, more :: later, world)
  | (pauses, world) =>
      let (receipt, world) := port access room world
      (receipt, pauses.tail, world)

/-- Input devices beside such a port; they have no quiet periods. -/
def beside (position room : Nat) (channel : Pauses × World) : Receipt × (Pauses × World) :=
  let (receipt, world) := input position room channel.2
  (receipt, channel.1, world)

/-- A line and what is around it, without the quiet periods to come. -/
def unpaused (channel : Line × (Pauses × World)) : Line × World := (channel.1, channel.2.2)

/-- A line with quiet periods gives what the line without them gives, but for receipts that a
read ignores which carries on until its buffer is full. -/
theorem stutters_pausing :
    ReadPolicy.Stutters ⟨true, .quiet⟩ (receiveLine port input)
      (receiveLine (pausing port) (beside input)) unpaused fun channel => channel.2.1.count := by
  rintro room ⟨line, pauses, world⟩
  cases line with
  | inputDevice position => exact .inr ⟨rfl, rfl, Nat.le_refl _⟩
  | terminal access =>
      match pauses with
      | [] => exact .inr ⟨rfl, rfl, Nat.le_refl _⟩
      | [] :: later => exact .inr ⟨rfl, rfl, Nat.le_refl (Pauses.count later)⟩
      | (quiet :: more) :: later =>
          refine .inl ⟨?_, rfl, Nat.lt_succ_self (Pauses.count (more :: later))⟩
          rw [receiveLine_terminal, pausing, hushed_quiet quiet.2]
          rfl

/-! ## Reads that carry on until the buffer is full -/

/-- Reading past quiet periods is reading without them, with less patience by as much as there
are of them at most. -/
theorem readFrom_pausing (client : Client) (pauses : Pauses) (world : World) (size : Nat)
    (checked : Bool) (patience : Nat) :
    ∃ fewer, fewer ≤ patience ∧ patience ≤ fewer + pauses.count ∧
      let paused :=
        readFrom (pausing port) (beside input) client (pauses, world) size checked true patience
      readFrom port input client world size checked true fewer =
        (paused.1, paused.2.1, paused.2.2.2) := by
  cases held : client.handle with
  | none =>
      refine ⟨patience, Nat.le_refl _, Nat.le_add_right _ _, ?_⟩
      rw [readFrom, readFrom, Link.read, Link.read, held]
  | some line =>
      obtain ⟨fewer, below, enough, progress, reached⟩ :=
        (stutters_pausing port input).run size patience (line, pauses, world)
      refine ⟨fewer, below, enough, ?_⟩
      have plain : ReadPolicy.run ⟨true, .quiet⟩ (receiveLine port input) size fewer
          (line, world) = (_, _) := Prod.ext progress.symm reached.symm
      rw [readFrom, readFrom, Link.read, Link.read, held]
      dsimp only
      rw [plain]

end

/-- A read past quiet periods comes to the same as a read without them: both return the same,
leave the same buffer and the same client, and have taken the same from the line. -/
def SameReading {World : Type} (buffer : Bytes)
    (paused : Link.Reading × Client × (Pauses × World)) (plain : Link.Reading × Client × World) :
    Prop :=
  paused.1.result = plain.1.result ∧ paused.1.fill buffer = plain.1.fill buffer ∧
    paused.2.1 = plain.2.1 ∧ paused.2.2.2 = plain.2.2

variable {World : Type} {port : Access → Nat → World → Receipt × World}
  {input : Nat → Nat → World → Receipt × World} {client : Client} {access : Access}
  {world : World} {buffer : Bytes} {checked : Bool} {pauses : Pauses} {patience longer : Nat}

/-- A read that is over without quiet periods is over with them, if it waits for each of them
once more. -/
theorem sameReading_of_plain
    (ended : (readFrom port input client world buffer.length checked true patience).1.result ≠
      none)
    (enough : patience + pauses.count ≤ longer) :
    SameReading buffer
      (readFrom (pausing port) (beside input) client (pauses, world) buffer.length checked true
        longer)
      (readFrom port input client world buffer.length checked true patience) := by
  obtain ⟨fewer, -, near, same⟩ := readFrom_pausing port input client pauses world
    buffer.length checked longer
  -- The quiet periods cost one receive each at most, so enough are left for the other read.
  obtain ⟨more, rfl⟩ := Nat.exists_eq_add_of_le (show patience ≤ fewer by omega)
  rw [readFrom] at ended
  have lasts := Link.read_lasts ended more
  rw [← readFrom, ← readFrom, same] at lasts
  rw [← lasts]
  exact ⟨rfl, rfl, rfl, rfl⟩

/-- A read that is over with quiet periods is over without them. -/
theorem sameReading_of_paused
    (ended : (readFrom (pausing port) (beside input) client (pauses, world) buffer.length checked
      true longer).1.result ≠ none)
    (enough : longer ≤ patience) :
    SameReading buffer
      (readFrom (pausing port) (beside input) client (pauses, world) buffer.length checked true
        longer)
      (readFrom port input client world buffer.length checked true patience) := by
  obtain ⟨fewer, below, -, same⟩ := readFrom_pausing port input client pauses world
    buffer.length checked longer
  obtain ⟨more, rfl⟩ := Nat.exists_eq_add_of_le (Nat.le_trans below enough)
  have complete : (readFrom port input client world buffer.length checked true fewer).1.result ≠
      none := by
    rw [same]
    exact ended
  rw [readFrom] at complete
  have lasts := Link.read_lasts complete more
  rw [← readFrom, ← readFrom, same] at lasts
  rw [lasts]
  exact ⟨rfl, rfl, rfl, rfl⟩

/-! ## What ends them -/

/-- What a line gives for its port is never a timeout. -/
theorem not_isTimedOut_of_hushed {receipt : Receipt} {failure : Failure}
    (given : hushed receipt = .error failure) : failure.isTimedOut = false := by
  cases receipt with
  | ok bytes => cases given
  | error met =>
      cases quiet : met.isTimedOut
      · rw [hushed_other quiet] at given
        cases given
        exact quiet
      · rw [hushed_quiet quiet] at given
        cases given

/-- No receive of a terminal reports a timeout. -/
theorem not_isTimedOut_of_made {channel later : Line × World} {attempts : List Attempt}
    (made : Made (receiveLine port input) channel attempts later)
    (terminal : channel.1 = .terminal access) :
    ∀ attempt ∈ attempts, ∀ failure, attempt.receipt = .error failure →
      failure.isTimedOut = false := by
  induction made with
  | none => exact fun _ among => nomatch among
  | @next channel later room attempts made timely =>
      obtain ⟨line, world⟩ := channel
      cases terminal
      intro attempt among failure given
      cases among with
      | head => exact not_isTimedOut_of_hushed given
      | tail _ among => exact timely rfl attempt among failure given

/-- The attempts that a read makes which carries on until its buffer is full. -/
def fullAttempts (port : Access → Nat → World → Receipt × World)
    (input : Nat → Nat → World → Receipt × World) (client : Client) (world : World)
    (checked : Bool) (size patience : Nat) : List Attempt :=
  Link.attempts client world (receiveLine port input) ⟨true, .quiet⟩ checked size patience

/-- Such a read of a terminal never fails for a timeout. -/
theorem not_isTimedOut_of_read (opened : client.handle = some (.terminal access)) {size : Nat}
    {failure : Failure}
    (reported : (readFrom port input client world size checked true patience).1.result =
      some (.error (.exchange failure))) :
    failure.isTimedOut = false := by
  obtain ⟨line', world', course, read⟩ := Link.read_course opened world
    (receiveLine port input) ⟨true, .quiet⟩ checked size patience
  rw [readFrom, read] at reported
  have latest := Link.lastReceipt_of_outcome
    (Link.outcome_of_failed (Link.failed_of_reported reported))
  obtain ⟨last, found, given⟩ := Option.map_eq_some_iff.mp latest
  exact not_isTimedOut_of_made course.made rfl last (List.mem_of_getLast? found) failure given

/-- Such a read of a terminal returns a short count only where a receive would have had to
wait. -/
theorem isWouldBlock_of_short (opened : client.handle = some (.terminal access))
    {size count : Nat}
    (returned : (readFrom port input client world size checked true patience).1.result =
      some (.ok count))
    (short : count < size) :
    ∃ failure, lastReceipt (fullAttempts port input client world checked size patience) =
        some (.error failure) ∧
      failure.isWouldBlock = true := by
  obtain ⟨line', world', course, read⟩ := Link.read_course opened world
    (receiveLine port input) ⟨true, .quiet⟩ checked size patience
  have timely := not_isTimedOut_of_made course.made rfl
  rw [readFrom, read] at returned
  obtain ⟨finished, counted⟩ := Link.finished_of_returned returned
  obtain ⟨complete, ended⟩ := Link.outcome_of_finished finished
  rw [fullAttempts]
  generalize Link.attempts client world (receiveLine port input) ⟨true, .quiet⟩ checked size
    patience = attempts at course timely counted complete ended ⊢
  rcases course.proceeds.ending complete with
    ⟨full, -⟩ | ⟨-, front, ⟨room, receipt⟩, rfl, ends⟩
  · change (received attempts).length = count at counted
    omega
  · cases receipt with
    | ok bytes =>
        have carriesOn : ReadPolicy.endsAt ⟨true, .quiet⟩ (.ok bytes) = false :=
          congrArg (· || false) (Bool.and_false _)
        exact Bool.noConfusion (carriesOn.symm.trans ends)
    | error failure =>
        refine ⟨failure, lastReceipt_concat .., ?_⟩
        rw [ReadPolicy.outcome_snoc_failure] at ended
        split at ended
        · next silence =>
            refine silence.2.resolve_right fun late => ?_
            have early := timely _ (List.mem_append_right front List.mem_cons_self) failure rfl
            exact Bool.noConfusion (early.symm.trans late)
        · cases ended

/-! ## Reads that do not carry on -/

/-- Nothing comes from a port but interruptions until it falls silent. -/
inductive FallsSilent (port : Access → Nat → World → Receipt × World) (access : Access)
    (room : Nat) : (receives : Nat) → (world later : World) → Prop
  | quiet {world : World} {failure : Failure} :
      (port access room world).1 = .error failure → failure.isTimedOut = true →
        FallsSilent port access room 1 world (port access room world).2
  | interrupted {receives : Nat} {world later : World} {failure : Failure} :
      (port access room world).1 = .error failure → failure.isInterrupted = true →
        FallsSilent port access room receives (port access room world).2 later →
          FallsSilent port access room (receives + 1) world later

/-- A read that does not carry on is over at the first quiet period. -/
theorem loop_of_fallsSilent {size receives : Nat} {later : World}
    (silent : FallsSilent port access size receives world later) (more : Nat) :
    ReadPolicy.loop ⟨false, .quiet⟩ (receiveLine port input) size (receives + more) []
        (.terminal access, world) =
      (⟨[], .finished⟩, .terminal access, later) := by
  induction silent with
  | @quiet world failure given timedOut =>
      have received : receiveLine port input (size - ([] : Bytes).length)
          (.terminal access, world) = (.ok [], .terminal access, (port access size world).2) := by
        rw [List.length_nil, Nat.sub_zero, receiveLine_terminal, given, hushed_quiet timedOut]
      have ended : (ReadPolicy.turn ⟨false, .quiet⟩ size []
          (receiveLine port input (size - ([] : Bytes).length)
            (.terminal access, world)).1).state ≠ .waiting := by
        rw [received]
        exact ReadState.noConfusion
      rw [Nat.add_comm, ReadPolicy.loop_of_ended ended, received]
      rfl
  | @interrupted receives world later failure given interrupted silent complete =>
      have other : failure.isTimedOut = false :=
        Failure.not_isOf (by decide) (by decide) interrupted
      have received : receiveLine port input (size - ([] : Bytes).length)
          (.terminal access, world) =
            (.error failure, .terminal access, (port access size world).2) := by
        rw [List.length_nil, Nat.sub_zero, receiveLine_terminal, given, hushed_other other]
      have turned : ReadPolicy.turn ⟨false, .quiet⟩ size []
          (receiveLine port input (size - ([] : Bytes).length)
            (.terminal access, world)).1 = ⟨[], .waiting⟩ := by
        rw [received]
        exact ReadPolicy.turn_interrupted _ interrupted
      rw [Nat.add_right_comm, ReadPolicy.loop_of_waiting turned, received]
      exact complete

/-- Quiet periods before any of the receives of a terminal are invisible to a read that carries
on until its buffer is full: it is over with them if and only if it is over without them, and
comes to the same.  Such a read never fails for a timeout, and returns a short count only where
a receive would have had to wait.  A read that does not carry on returns no bytes at the first
quiet period, which a check takes for a mismatch, and leaves its buffer alone. -/
theorem quiet_periods_are_invisible (opened : client.handle = some (.terminal access))
    (port : Access → Nat → World → Receipt × World)
    (input : Nat → Nat → World → Receipt × World) (world : World) (buffer : Bytes)
    (checked : Bool) :
    (∀ (pauses : Pauses) (patience longer : Nat),
      let plain := readFrom port input client world buffer.length checked true patience
      let paused := readFrom (pausing port) (beside input) client (pauses, world)
        buffer.length checked true longer
      (plain.1.result ≠ none → patience + pauses.count ≤ longer →
          SameReading buffer paused plain) ∧
        (paused.1.result ≠ none → longer ≤ patience → SameReading buffer paused plain)) ∧
      (∀ patience,
        let plain := readFrom port input client world buffer.length checked true patience
        (∀ failure, plain.1.result = some (.error (.exchange failure)) →
            failure.isTimedOut = false) ∧
          ∀ count, plain.1.result = some (.ok count) → count < buffer.length →
            ∃ failure,
              lastReceipt (fullAttempts port input client world checked buffer.length patience) =
                some (.error failure) ∧
              failure.isWouldBlock = true) ∧
      ∀ receives later, buffer ≠ [] →
        FallsSilent port access buffer.length receives world later → ∀ more,
          let reading :=
            readFrom port input client world buffer.length checked false (receives + more)
          reading.1.result =
              some (if checked then .error (.checksumMismatch ⟨0, 0⟩) else .ok 0) ∧
            reading.1.fill buffer = buffer ∧ reading.2 = (client, later) := by
  refine ⟨?same, ?ends, ?silent⟩
  case same =>
    intro pauses patience longer
    exact ⟨sameReading_of_plain, sameReading_of_paused⟩
  case ends =>
    intro patience
    exact ⟨fun _ => not_isTimedOut_of_read opened, fun _ => isWouldBlock_of_short opened⟩
  case silent =>
    intro receives later occupied silent more
    have room : buffer.length ≠ 0 := fun none => occupied (List.eq_nil_of_length_eq_zero none)
    have read : readFrom port input client world buffer.length checked false (receives + more) =
        (⟨[], Link.readResult checked ⟨[], .finished⟩⟩, client, later) := by
      rw [readFrom, Link.read, opened]
      dsimp only
      rw [ReadPolicy.run, if_neg room, loop_of_fallsSilent silent, ← opened]
    rw [read]
    refine ⟨?_, rfl, rfl⟩
    cases checked <;> rfl

/-- A client of the terminal. -/
def terminalClient : Client := closed.install (.terminal .readWrite) "/dev/ttyUSB0:rw"

/-- A terminal with two bytes, whose first receive is interrupted and whose third would have to
wait. -/
def twoBytesWait : Devices :=
  { Devices.idle [] with
    faults := [⟨.poll, 0, 4, none⟩, ⟨.poll, 1, 11, none⟩]
    terminal := ⟨[1, 2], []⟩ }

/-- A quiet period of the terminal. -/
def wait : QuietPeriod := ⟨notReady, rfl⟩

/-- Four quiet periods do not show in a read of four bytes from a terminal that has two, and a
terminal that has none is left as it is. -/
theorem quiet_periods_are_invisible_on_terminal :
    terminalClient.handle = some (.terminal .readWrite) ∧
      (terminalClient.read twoBytesWait 4 false true).1.result = some (.ok 2) ∧
      SameReading [9, 9, 9, 9]
        (readFrom (pausing receivePort) (beside receiveInput) terminalClient
          ([[wait], [wait, wait], [wait]], twoBytesWait) 4 false true 11)
        (terminalClient.read twoBytesWait 4 false true) ∧
      (terminalClient.read (Devices.idle []) 4 true false).2 =
        (terminalClient, Devices.idle []) := by
  have opened : terminalClient.handle = some (.terminal .readWrite) := rfl
  have returned : (terminalClient.read twoBytesWait 4 false true).1.result = some (.ok 2) := rfl
  obtain ⟨same, -, -⟩ := quiet_periods_are_invisible opened receivePort receiveInput
    twoBytesWait [9, 9, 9, 9] false
  obtain ⟨-, -, silent⟩ := quiet_periods_are_invisible opened receivePort receiveInput
    (Devices.idle []) [9, 9, 9, 9] true
  have ended : (terminalClient.read twoBytesWait 4 false true).1.result ≠ none := by
    rw [returned]
    exact Option.some_ne_none _
  refine ⟨opened, returned, ?_, ?_⟩
  · exact (same [[wait], [wait, wait], [wait]] 7 11).1 ended (by decide)
  · exact (silent 1 (Devices.idle []) (List.cons_ne_nil _ _) (.quiet rfl rfl) 4).2.2

end Client
end Serial
end Framelink
