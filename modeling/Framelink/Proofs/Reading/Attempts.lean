import Framelink.Proofs.Reading.Loop

/-!
# What a read asks for and what it gets

The attempts of a read are the receives that it makes, one after the other, each with the
room that it was offered and what it gave.  A read is over when its buffer is full or its
last attempt ended it: a receive of no bytes where that is the end of the stream, any
receive that succeeds where the read does not carry on, or a failure that is no
interruption.  What a read returns can be told from its attempts alone.
-/

namespace Framelink

namespace Failure

/-- A failure is of one kind only. -/
theorem not_isOf {code other : Int} {kind otherKind : Kind} {failure : Failure}
    (codes : code ≠ other) (kinds : kind ≠ otherKind) (same : failure.isOf code kind = true) :
    failure.isOf other otherKind = false := by
  cases failure with
  | system actual =>
      rw [isOf, beq_iff_eq] at same
      rw [isOf, beq_eq_false_iff_ne, same]
      exact codes
  | plain actual =>
      rw [isOf, beq_iff_eq] at same
      rw [isOf, beq_eq_false_iff_ne, same]
      exact kinds
  | custom actual text =>
      rw [isOf, beq_iff_eq] at same
      rw [isOf, beq_eq_false_iff_ne, same]
      exact kinds

/-- A failure that is a sign of silence is no interruption. -/
theorem not_interrupted_of_silence {failure : Failure}
    (silence : failure.isWouldBlock ∨ failure.isTimedOut) : failure.isInterrupted = false := by
  rcases silence with silence | silence
  · exact not_isOf (by decide) (by decide) silence
  · exact not_isOf (by decide) (by decide) silence

end Failure

/-- A receive that a read makes. -/
structure Attempt where
  /-- The room that it is offered. -/
  room : Nat
  receipt : Receipt

namespace Attempt

/-- The bytes that an attempt gives. -/
def bytes (attempt : Attempt) : Bytes := Script.bytesOf attempt.receipt

/-- Whether an attempt is interrupted or gives no bytes. -/
def isIdle (attempt : Attempt) : Bool :=
  match attempt.receipt with
  | .ok bytes => bytes.isEmpty
  | .error failure => failure.isInterrupted

/-- A buffer whose last `room` places were offered to an attempt, which wrote the bytes
that it gives to the first of them. -/
def write (buffer : Bytes) (attempt : Attempt) : Bytes :=
  let filled := buffer.length - attempt.room
  buffer.take filled ++ attempt.bytes ++ buffer.drop (filled + attempt.bytes.length)

/-- The bytes that attempts give, in order. -/
def received (attempts : List Attempt) : Bytes := attempts.flatMap bytes

@[simp] theorem received_nil : received [] = [] := rfl

@[simp] theorem received_append (front back : List Attempt) :
    received (front ++ back) = received front ++ received back := List.flatMap_append

@[simp] theorem received_singleton (attempt : Attempt) : received [attempt] = attempt.bytes :=
  List.append_nil _

/-- The attempts are receives of a channel, one after the other. -/
inductive Made {Channel : Type} (receive : Nat → Channel → Receipt × Channel) :
    Channel → List Attempt → Channel → Prop
  | none {channel : Channel} : Made receive channel [] channel
  | next {channel later : Channel} {room : Nat} {attempts : List Attempt} :
      Made receive (receive room channel).2 attempts later →
        Made receive channel (⟨room, (receive room channel).1⟩ :: attempts) later

/-- A channel never gives more bytes than it has room for. -/
def Fits {Channel : Type} (receive : Nat → Channel → Receipt × Channel) : Prop :=
  ∀ room channel bytes, (receive room channel).1 = .ok bytes → bytes.length ≤ room

/-- What the last of some attempts gave. -/
def lastReceipt (attempts : List Attempt) : Option Receipt :=
  attempts.getLast?.map Attempt.receipt

theorem lastReceipt_concat (attempts : List Attempt) (room : Nat) (receipt : Receipt) :
    lastReceipt (attempts ++ [⟨room, receipt⟩]) = some receipt := by
  rw [lastReceipt, List.getLast?_concat]
  rfl

/-- What a read that is over after some attempts returns: how many bytes came, unless it
stopped at a failure that leaves nothing to show or is no sign of silence. -/
def outcome (attempts : List Attempt) : Except Failure Nat :=
  let count := (received attempts).length
  match attempts.getLast? with
  | some ⟨_, .error failure⟩ =>
      if count ≠ 0 ∧ (failure.isWouldBlock ∨ failure.isTimedOut) then .ok count
      else .error failure
  | _ => .ok count

/-- What a channel that fits gives has room. -/
theorem Made.fit {Channel : Type} {receive : Nat → Channel → Receipt × Channel}
    {channel later : Channel} {attempts : List Attempt}
    (made : Made receive channel attempts later) (fits : Fits receive) :
    ∀ attempt ∈ attempts, attempt.bytes.length ≤ attempt.room := by
  induction made with
  | none => exact fun _ among => nomatch among
  | @next channel later room attempts made fit =>
      intro attempt among
      cases among with
      | head =>
          cases received : (receive room channel).1 with
          | ok bytes => exact fits room channel bytes received
          | error failure => exact Nat.zero_le room
      | tail _ among => exact fit attempt among

end Attempt

open Attempt

/-! ## When a read is over -/

namespace ReadPolicy

/-- Whether a receipt ends a read although there is room left. -/
def endsAt (policy : ReadPolicy) : Receipt → Bool
  | .ok bytes => bytes.isEmpty && policy.silence == .endOfStream || !policy.untilFull
  | .error failure => !failure.isInterrupted

/-- Whether a read of `size` bytes is over after some attempts. -/
def isOver (policy : ReadPolicy) (size : Nat) (attempts : List Attempt) : Bool :=
  decide (size ≤ (received attempts).length) ||
    attempts.getLast?.any fun last => policy.endsAt last.receipt

/-- How a read stands after some attempts. -/
def after (policy : ReadPolicy) (size : Nat) (attempts : List Attempt) : ReadProgress where
  got := received attempts
  state :=
    match policy.isOver size attempts, outcome attempts with
    | false, _ => .waiting
    | true, .ok _ => .finished
    | true, .error failure => .failed failure

/-- The attempts behind some others are each made while the read is not over, and
are offered all the room that is left. -/
inductive Proceeds (policy : ReadPolicy) (size : Nat) : List Attempt → List Attempt → Prop
  | none {before : List Attempt} : Proceeds policy size before []
  | next {before attempts : List Attempt} {attempt : Attempt} :
      policy.isOver size before = false →
      attempt.room = size - (received before).length →
      Proceeds policy size (before ++ [attempt]) attempts →
        Proceeds policy size before (attempt :: attempts)

variable {Channel : Type} {policy : ReadPolicy} {size : Nat} {before attempts : List Attempt}
  {receive : Nat → Channel → Receipt × Channel}

/-- A read is over when its last attempt ends it. -/
theorem isOver_of_lastReceipt {receipt : Receipt} (latest : lastReceipt attempts = some receipt)
    (ends : policy.endsAt receipt = true) (size : Nat) :
    policy.isOver size attempts = true := by
  obtain ⟨last, found, rfl⟩ := Option.map_eq_some_iff.mp latest
  rw [isOver, found, Option.any_some, ends, Bool.or_true]

theorem free_of_not_isOver (under : policy.isOver size before = false) :
    (received before).length < size := by
  rw [isOver, Bool.or_eq_false_iff, decide_eq_false_iff_not] at under
  exact Nat.lt_of_not_le under.1

section Snoc

variable (before) (room : Nat) (bytes : Bytes) (failure : Failure)

theorem received_snoc_bytes :
    received (before ++ [⟨room, .ok bytes⟩]) = received before ++ bytes := by
  rw [received_append, received_singleton]
  rfl

theorem received_snoc_failure :
    received (before ++ [⟨room, .error failure⟩]) = received before := by
  rw [received_append, received_singleton]
  exact List.append_nil _

theorem outcome_snoc_bytes :
    outcome (before ++ [⟨room, .ok bytes⟩]) = .ok (received before ++ bytes).length := by
  simp only [outcome, List.getLast?_concat, received_snoc_bytes]

theorem outcome_snoc_failure :
    outcome (before ++ [⟨room, .error failure⟩]) =
      if (received before).length ≠ 0 ∧ (failure.isWouldBlock ∨ failure.isTimedOut) then
        .ok (received before).length
      else .error failure := by
  simp only [outcome, List.getLast?_concat, received_snoc_failure]

theorem isOver_snoc_bytes :
    policy.isOver size (before ++ [⟨room, .ok bytes⟩]) =
      (decide (size ≤ (received before ++ bytes).length) ||
        (bytes.isEmpty && policy.silence == .endOfStream || !policy.untilFull)) := by
  rw [isOver, received_snoc_bytes, List.getLast?_concat]
  rfl

theorem isOver_snoc_failure :
    policy.isOver size (before ++ [⟨room, .error failure⟩]) =
      (decide (size ≤ (received before).length) || !failure.isInterrupted) := by
  rw [isOver, received_snoc_failure, List.getLast?_concat]
  rfl

/-- What a receive of bytes does to a read, told from its attempts. -/
theorem turn_bytes_eq_after :
    policy.turn size (received before) (.ok bytes) =
      policy.after size (before ++ [⟨room, .ok bytes⟩]) := by
  rw [after, isOver_snoc_bytes, outcome_snoc_bytes, received_snoc_bytes, turn]
  by_cases ending : (bytes.isEmpty && policy.silence == .endOfStream) = true
  · have none : bytes = [] := by
      rw [Bool.and_eq_true, List.isEmpty_iff] at ending
      exact ending.1
    rw [if_pos ending, ending, none, List.append_nil, Bool.true_or, Bool.or_true]
  · rw [if_neg ending, eq_false_of_ne_true ending, Bool.false_or]
    by_cases full : size ≤ (received before ++ bytes).length
    · rw [decide_eq_true full, decide_eq_false (Nat.not_lt_of_le full), Bool.and_false,
        Bool.true_or]
      rfl
    · rw [decide_eq_false full, decide_eq_true (Nat.lt_of_not_le full), Bool.and_true,
        Bool.false_or]
      cases policy.untilFull <;> rfl

/-- What a failure does to a read with room left, told from its attempts. -/
theorem turn_failure_eq_after (free : (received before).length < size) :
    policy.turn size (received before) (.error failure) =
      policy.after size (before ++ [⟨room, .error failure⟩]) := by
  rw [after, isOver_snoc_failure, outcome_snoc_failure, received_snoc_failure, turn,
    decide_eq_false (Nat.not_le_of_lt free), Bool.false_or]
  cases interrupted : failure.isInterrupted
  · have shows : (!(received before).isEmpty && failure.isTransient) = true ↔
        (received before).length ≠ 0 ∧ (failure.isWouldBlock ∨ failure.isTimedOut) := by
      simp [Failure.isTransient, interrupted]
    by_cases shown : (received before).length ≠ 0 ∧
        (failure.isWouldBlock ∨ failure.isTimedOut)
    · rw [if_neg Bool.false_ne_true, if_pos (shows.mpr shown), if_pos shown]
      rfl
    · rw [if_neg Bool.false_ne_true, if_neg (fun seen => shown (shows.mp seen)), if_neg shown]
      rfl
  · rfl

end Snoc

/-- A turn takes a read from how it stands after some attempts to how it stands after one
more. -/
theorem turn_eq_after (under : policy.isOver size before = false) (attempt : Attempt) :
    policy.turn size (received before) attempt.receipt =
      policy.after size (before ++ [attempt]) := by
  obtain ⟨room, receipt⟩ := attempt
  cases receipt with
  | ok bytes => exact turn_bytes_eq_after before room bytes
  | error failure => exact turn_failure_eq_after before room failure (free_of_not_isOver under)

theorem after_of_not_isOver (under : policy.isOver size attempts = false) :
    policy.after size attempts = ⟨received attempts, .waiting⟩ := by
  rw [after, under]

theorem state_after_of_isOver (complete : policy.isOver size attempts = true) :
    (policy.after size attempts).state ≠ .waiting := by
  rw [after, complete]
  cases outcome attempts <;> exact ReadState.noConfusion

/-! ## The attempts of a read -/

/-- A read of `size` bytes with some patience makes these attempts at a channel, of which
this becomes. -/
structure Course (policy : ReadPolicy) (receive : Nat → Channel → Receipt × Channel)
    (size patience : Nat) (channel : Channel) (attempts : List Attempt) (later : Channel) :
    Prop where
  made : Made receive channel attempts later
  proceeds : policy.Proceeds size [] attempts
  patient : attempts.length ≤ patience
  /-- It gives up only when its patience is at an end. -/
  exhausted : policy.isOver size attempts = false → attempts.length = patience
  run : policy.run receive size patience channel = (policy.after size attempts, later)

/-- A read that is not over after some attempts makes more of them until it is. -/
theorem loop_makes (receive : Nat → Channel → Receipt × Channel) (patience : Nat)
    (under : policy.isOver size before = false) (channel : Channel) :
    ∃ attempts later,
      Made receive channel attempts later ∧ policy.Proceeds size before attempts ∧
      attempts.length ≤ patience ∧
      (policy.isOver size (before ++ attempts) = false → attempts.length = patience) ∧
      policy.loop receive size patience (received before) channel =
        (policy.after size (before ++ attempts), later) := by
  induction patience generalizing before channel with
  | zero =>
      refine ⟨[], channel, .none, .none, Nat.le_refl 0, fun _ => rfl, ?_⟩
      rw [List.append_nil, after_of_not_isOver under]
      rfl
  | succ patience goesOn =>
      let attempt : Attempt :=
        ⟨size - (received before).length,
          (receive (size - (received before).length) channel).1⟩
      have turned := turn_eq_after under attempt
      cases complete : policy.isOver size (before ++ [attempt])
      · obtain ⟨attempts, later, made, proceeds, patient, exhausted, looped⟩ :=
          goesOn complete (receive (size - (received before).length) channel).2
        rw [after_of_not_isOver complete] at turned
        refine ⟨attempt :: attempts, later, .next made, .next under rfl proceeds, ?_, ?_, ?_⟩
        · exact Nat.succ_le_succ patient
        · rw [List.append_cons before attempt attempts]
          exact fun short => congrArg Nat.succ (exhausted short)
        · rw [loop_of_waiting turned, looped, List.append_cons before attempt attempts]
      · have ended : (policy.turn size (received before) attempt.receipt).state ≠ .waiting := by
          rw [turned]
          exact state_after_of_isOver complete
        refine ⟨[attempt], _, .next .none, .next under rfl .none, ?_, ?_, ?_⟩
        · exact Nat.succ_le_succ (Nat.zero_le patience)
        · exact fun short => Bool.noConfusion (complete.symm.trans short)
        · rw [loop_of_ended ended, turned]

theorem exists_course (policy : ReadPolicy) (receive : Nat → Channel → Receipt × Channel)
    (size patience : Nat) (channel : Channel) :
    ∃ attempts later, policy.Course receive size patience channel attempts later := by
  by_cases empty : size = 0
  · subst empty
    have complete : policy.isOver 0 [] = true := rfl
    refine ⟨[], channel, .none, .none, Nat.zero_le _, ?_, rfl⟩
    exact fun under => Bool.noConfusion (complete.symm.trans under)
  · have under : policy.isOver size [] = false := by
      simpa [isOver] using empty
    obtain ⟨attempts, later, made, proceeds, patient, exhausted, looped⟩ :=
      loop_makes receive patience under channel
    refine ⟨attempts, later, made, proceeds, patient, exhausted, ?_⟩
    rw [run, if_neg empty]
    exact looped

/-! ## What follows from the attempts -/

/-- Each attempt is offered all the room that is left, and made while the read is not
over. -/
theorem Proceeds.offered (proceeds : policy.Proceeds size before attempts)
    {front back : List Attempt} {attempt : Attempt}
    (split : attempts = front ++ attempt :: back) :
    attempt.room = size - (received (before ++ front)).length ∧
      policy.isOver size (before ++ front) = false := by
  induction proceeds generalizing front with
  | none => cases front <;> cases split
  | @next before attempts first under room proceeds offered =>
      cases front with
      | nil =>
          cases split
          rw [List.append_nil]
          exact ⟨room, under⟩
      | cons earlier front =>
          rw [List.cons_append, List.cons.injEq] at split
          rw [← split.1, List.append_cons]
          exact offered split.2

/-- No attempt is made when a read is over. -/
theorem Proceeds.eq_nil (proceeds : policy.Proceeds size before attempts)
    (complete : policy.isOver size before = true) : attempts = [] := by
  cases proceeds with
  | none => rfl
  | next under => exact Bool.noConfusion (complete.symm.trans under)

/-- Why a read is over: its buffer is full, or its last attempt ended it with room left. -/
theorem Proceeds.ending (proceeds : policy.Proceeds size [] attempts)
    (complete : policy.isOver size attempts = true) :
    (size ≤ (received attempts).length ∧ outcome attempts = .ok (received attempts).length) ∨
      (received attempts).length < size ∧
        ∃ front last, attempts = front ++ [last] ∧ policy.endsAt last.receipt = true := by
  rcases List.eq_nil_or_concat attempts with rfl | ⟨front, last, split⟩
  · rw [isOver, List.getLast?_nil, Option.any_none, Bool.or_false] at complete
    exact .inl ⟨of_decide_eq_true complete, rfl⟩
  · rw [List.concat_eq_append] at split
    subst split
    have free := free_of_not_isOver (proceeds.offered rfl).2
    obtain ⟨room, receipt⟩ := last
    by_cases full : size ≤ (received (front ++ [⟨room, receipt⟩])).length
    · cases receipt with
      | ok bytes =>
          rw [outcome_snoc_bytes, received_snoc_bytes]
          rw [received_snoc_bytes] at full
          exact .inl ⟨full, rfl⟩
      | error failure =>
          rw [received_snoc_failure] at full
          exact absurd free (Nat.not_lt_of_le full)
    · rw [isOver, decide_eq_false full, List.getLast?_concat] at complete
      exact .inr ⟨Nat.lt_of_not_le full, front, _, rfl, complete⟩

/-- An attempt gives some bytes, is idle or ends the read. -/
theorem bytes_or_idle_or_isOver (policy : ReadPolicy) (size : Nat) (before : List Attempt)
    (attempt : Attempt) :
    attempt.bytes ≠ [] ∨ attempt.isIdle = true ∨
      policy.isOver size (before ++ [attempt]) = true := by
  obtain ⟨room, receipt⟩ := attempt
  cases receipt with
  | ok bytes =>
      cases bytes with
      | nil => exact .inr (.inl rfl)
      | cons first rest => exact .inl (List.cons_ne_nil first rest)
  | error failure =>
      cases interrupted : failure.isInterrupted
      · rw [isOver_snoc_failure, interrupted, Bool.not_false, Bool.or_true]
        exact .inr (.inr rfl)
      · exact .inr (.inl interrupted)

/-- There are no more attempts than bytes that there is room for and attempts that give
nothing. -/
theorem Proceeds.bounded (proceeds : policy.Proceeds size before attempts) :
    attempts.length ≤
      (size - (received before).length) + attempts.countP Attempt.isIdle := by
  induction proceeds with
  | none => exact Nat.zero_le _
  | @next before attempts attempt under room proceeds bounded =>
      have free := free_of_not_isOver under
      rw [received_append, received_singleton, List.length_append] at bounded
      rw [List.length_cons]
      rcases bytes_or_idle_or_isOver policy size before attempt with
        some | idle | complete
      · have gain := List.length_pos_iff.mpr some
        have fewer := (List.sublist_cons_self attempt attempts).countP_le (p := Attempt.isIdle)
        omega
      · rw [List.countP_cons_of_pos idle]
        omega
      · rw [proceeds.eq_nil complete, List.length_nil]
        omega

/-- What the attempts give has room. -/
theorem Proceeds.received_le (proceeds : policy.Proceeds size before attempts)
    (fit : ∀ attempt ∈ attempts, attempt.bytes.length ≤ attempt.room)
    (held : (received before).length ≤ size) :
    (received (before ++ attempts)).length ≤ size := by
  induction proceeds with
  | none => rwa [List.append_nil]
  | @next before attempts attempt under room proceeds within =>
      rw [List.append_cons]
      refine within (fun later among => fit later (List.mem_cons_of_mem attempt among)) ?_
      have own := fit attempt List.mem_cons_self
      rw [received_append, received_singleton, List.length_append]
      omega

/-- An attempt that is offered all the room behind some bytes writes right behind them. -/
theorem write_behind {attempt : Attempt} {front buffer : Bytes}
    (room : attempt.room = buffer.length - front.length) :
    Attempt.write (front ++ buffer.drop front.length) attempt =
      front ++ attempt.bytes ++ buffer.drop (front ++ attempt.bytes).length := by
  have filled : (front ++ buffer.drop front.length).length - attempt.room = front.length := by
    rw [List.length_append, List.length_drop, room]
    omega
  rw [Attempt.write, filled, List.take_left, ← List.drop_drop, List.drop_left, List.drop_drop,
    List.length_append]

/-- Attempts that write to the room that they are offered fill a buffer from the front, each
behind those before it. -/
theorem Proceeds.written (proceeds : policy.Proceeds size before attempts) {buffer : Bytes}
    (whole : buffer.length = size) :
    attempts.foldl Attempt.write
        (received before ++ buffer.drop (received before).length) =
      received (before ++ attempts) ++
        buffer.drop (received (before ++ attempts)).length := by
  induction proceeds with
  | none => rw [List.append_nil]; rfl
  | @next before attempts attempt under room proceeds fills =>
      subst whole
      rw [received_append, received_singleton] at fills
      rw [List.foldl_cons, write_behind room, List.append_cons]
      exact fills

end ReadPolicy

end Framelink
