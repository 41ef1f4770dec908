import Framelink.Proofs.Reading.Course
import Framelink.Tcp.Client

/-!
# Exact reads of a stream

An exact read fails unless it fills its buffer.  It sees no more of the read below it than
the count, and a short count has two causes: the stream has ended, or it has fallen silent
after some bytes.  An exact read reports both as an unexpected end; silence before the first
byte is reported as what it is.
-/

namespace Framelink

namespace Tcp
namespace Client

open Attempt

variable {World : Type}

/-- The attempts that an exact read makes. -/
def exactAttempts (receive : Nat → Stream × World → Receipt × (Stream × World))
    (client : Client) (world : World) (size patience : Nat) : List Attempt :=
  Link.attempts client world receive ⟨true, .endOfStream⟩ false size patience

/-- The failure with which an exact read reports a short count. -/
def endReported : LinkError := .exchange (.plain .unexpectedEnd)

/-- How an exact read of `size` bytes may end, and with which result. -/
inductive ExactEnding (size : Nat) (attempts : List Attempt) :
    Option (Except LinkError Nat) → Prop
  /-- It has not ended. -/
  | waiting :
      ReadPolicy.isOver ⟨true, .endOfStream⟩ size attempts = false →
        ExactEnding size attempts none
  /-- The buffer is full. -/
  | full :
      (received attempts).length = size → ExactEnding size attempts (some (.ok size))
  /-- The stream has ended. -/
  | ended :
      (received attempts).length < size → lastReceipt attempts = some (.ok []) →
        ExactEnding size attempts (some (.error endReported))
  /-- The stream has fallen silent after some bytes. -/
  | silent {failure : Failure} :
      (received attempts).length < size → lastReceipt attempts = some (.error failure) →
        received attempts ≠ [] → (failure.isWouldBlock ∨ failure.isTimedOut) →
          ExactEnding size attempts (some (.error endReported))
  /-- A receive has failed, and not for silence after some bytes. -/
  | failed {failure : Failure} :
      (received attempts).length < size → lastReceipt attempts = some (.error failure) →
        failure.isInterrupted = false →
          (received attempts = [] ∨ ¬ (failure.isWouldBlock ∨ failure.isTimedOut)) →
            ExactEnding size attempts (some (.error (.exchange failure)))

theorem exactResult_full (size : Nat) : exactResult size (.ok size) = .ok size :=
  if_neg (Nat.lt_irrefl size)

theorem exactResult_short {size count : Nat} (short : count < size) :
    exactResult size (.ok count) = .error endReported := if_pos short

/-- The attempts of a read tell how an exact read ends. -/
theorem exactEnding {size : Nat} {attempts : List Attempt}
    (proceeds : ReadPolicy.Proceeds ⟨true, .endOfStream⟩ size [] attempts)
    (inRoom : (received attempts).length ≤ size) :
    ExactEnding size attempts
      ((Link.readResult false
        (ReadPolicy.after ⟨true, .endOfStream⟩ size attempts)).map (exactResult size)) := by
  rw [Link.readResult_after]
  cases complete : ReadPolicy.isOver ⟨true, .endOfStream⟩ size attempts with
  | false => exact .waiting complete
  | true =>
      rw [if_pos rfl]
      rcases proceeds.ending complete with ⟨full, returned⟩ | ⟨short, front, last, rfl, ends⟩
      · have count := Nat.le_antisymm inRoom full
        rw [returned, count]
        change ExactEnding size attempts (some (exactResult size (.ok size)))
        rw [exactResult_full]
        exact .full count
      · obtain ⟨room, receipt⟩ := last
        have latest := lastReceipt_concat front room receipt
        cases receipt with
        | ok bytes =>
            have nothing : bytes = [] := by
              simpa [ReadPolicy.endsAt] using ends
            subst nothing
            have returned := ReadPolicy.outcome_snoc_bytes front room []
            rw [← ReadPolicy.received_snoc_bytes front room] at returned
            rw [returned]
            change ExactEnding size _ (some (exactResult size (.ok _)))
            rw [exactResult_short short]
            exact .ended short latest
        | error failure =>
            have final : failure.isInterrupted = false := by
              simpa [ReadPolicy.endsAt] using ends
            have returned := ReadPolicy.outcome_snoc_failure front room failure
            rw [← ReadPolicy.received_snoc_failure front room failure] at returned
            rw [returned]
            by_cases late : (received (front ++ [⟨room, .error failure⟩])).length ≠ 0 ∧
                (failure.isWouldBlock ∨ failure.isTimedOut)
            · rw [if_pos late]
              change ExactEnding size _ (some (exactResult size (.ok _)))
              rw [exactResult_short short]
              exact .silent short latest (fun none => late.1 (congrArg List.length none)) late.2
            · rw [if_neg late]
              refine .failed short latest final ?_
              by_cases none : received (front ++ [⟨room, .error failure⟩]) = []
              · exact .inl none
              · exact .inr fun silence =>
                  late ⟨fun zero => none (List.eq_nil_of_length_eq_zero zero), silence⟩

section Results

variable {size : Nat} {attempts : List Attempt} {result : Option (Except LinkError Nat)}

theorem ExactEnding.eq_ok_iff (ending : ExactEnding size attempts result) (count : Nat) :
    result = some (.ok count) ↔ count = size ∧ (received attempts).length = size := by
  constructor
  · intro returned
    cases ending with
    | full filled =>
        cases returned
        exact ⟨rfl, filled⟩
    | _ => cases returned
  · rintro ⟨rfl, filled⟩
    cases ending with
    | waiting under => exact absurd (ReadPolicy.free_of_not_isOver under) (by omega)
    | full => rfl
    | ended short => omega
    | silent short => omega
    | failed short => omega

theorem ExactEnding.eq_unexpectedEnd_iff (ending : ExactEnding size attempts result) :
    result = some (.error endReported) ↔
      (received attempts).length < size ∧
        (lastReceipt attempts = some (.ok []) ∨
          (received attempts ≠ [] ∧ ∃ failure, lastReceipt attempts = some (.error failure) ∧
            (failure.isWouldBlock ∨ failure.isTimedOut)) ∨
          lastReceipt attempts = some (.error (.plain .unexpectedEnd))) := by
  constructor
  · intro reported
    cases ending with
    | waiting => cases reported
    | full => cases reported
    | ended short latest => exact ⟨short, .inl latest⟩
    | silent short latest some silence =>
        exact ⟨short, .inr (.inl ⟨some, _, latest, silence⟩)⟩
    | failed short latest =>
        cases reported
        exact ⟨short, .inr (.inr latest)⟩
  · rintro ⟨short, cause⟩
    cases ending with
    | waiting under =>
        have complete : ReadPolicy.isOver ⟨true, .endOfStream⟩ size attempts = true := by
          rcases cause with closed | ⟨-, failure, silent, silence⟩ | failed
          · exact ReadPolicy.isOver_of_lastReceipt closed rfl size
          · refine ReadPolicy.isOver_of_lastReceipt silent ?_ size
            rw [ReadPolicy.endsAt, Failure.not_interrupted_of_silence silence]
            rfl
          · exact ReadPolicy.isOver_of_lastReceipt failed rfl size
        exact Bool.noConfusion (complete.symm.trans under)
    | full filled => omega
    | ended => rfl
    | silent => rfl
    | failed _ latest _ early =>
        rcases cause with closed | ⟨some, failure, silent, silence⟩ | failed
        · cases latest.symm.trans closed
        · cases latest.symm.trans silent
          exact absurd silence (early.resolve_left some)
        · cases latest.symm.trans failed
          rfl

theorem ExactEnding.eq_failure_iff (ending : ExactEnding size attempts result)
    {failure : Failure} (other : failure ≠ .plain .unexpectedEnd) :
    result = some (.error (.exchange failure)) ↔
      (received attempts).length < size ∧ lastReceipt attempts = some (.error failure) ∧
        failure.isInterrupted = false ∧
        (received attempts = [] ∨ ¬ (failure.isWouldBlock ∨ failure.isTimedOut)) := by
  constructor
  · intro reported
    cases ending with
    | waiting => cases reported
    | full => cases reported
    | ended =>
        cases reported
        exact absurd rfl other
    | silent =>
        cases reported
        exact absurd rfl other
    | failed short latest final early =>
        cases reported
        exact ⟨short, latest, final, early⟩
  · rintro ⟨short, latest, final, early⟩
    have ends : ReadPolicy.endsAt ⟨true, .endOfStream⟩ (.error failure) = true := by
      rw [ReadPolicy.endsAt, final]
      rfl
    have complete := ReadPolicy.isOver_of_lastReceipt latest ends size
    cases ending with
    | waiting under => exact Bool.noConfusion (complete.symm.trans under)
    | full filled => omega
    | ended _ closed => cases latest.symm.trans closed
    | silent _ silent some silence =>
        cases latest.symm.trans silent
        exact absurd silence (early.resolve_left some)
    | failed _ failed =>
        cases latest.symm.trans failed
        rfl

end Results

/-- An exact read of an open client returns a count exactly if it has filled its buffer, with
the bytes that came, in order.  It reports an unexpected end exactly if, with room left, the
stream ended, or it fell silent after some bytes, or a receive failed with just that; any
other failure that it reports is that of its last receive, silence before the first byte
included. -/
theorem exact_read_ends_for_cause
    {receive : Nat → Stream × World → Receipt × (Stream × World)} (fits : Fits receive)
    {client : Client} {stream : Stream} (opened : client.handle = some stream)
    (world : World) (buffer : Bytes) (patience : Nat) :
    let attempts := exactAttempts receive client world buffer.length patience
    let reading := (readExactFrom receive client world buffer.length patience).1
    (∀ count, reading.result = some (.ok count) ↔
        count = buffer.length ∧ (received attempts).length = buffer.length) ∧
      ((received attempts).length = buffer.length → reading.fill buffer = received attempts) ∧
      (reading.result = some (.error (.exchange (.plain .unexpectedEnd))) ↔
        (received attempts).length < buffer.length ∧
          (lastReceipt attempts = some (.ok []) ∨
            (received attempts ≠ [] ∧ ∃ failure, lastReceipt attempts = some (.error failure) ∧
              (failure.isWouldBlock ∨ failure.isTimedOut)) ∨
            lastReceipt attempts = some (.error (.plain .unexpectedEnd)))) ∧
      ∀ failure, failure ≠ .plain .unexpectedEnd →
        (reading.result = some (.error (.exchange failure)) ↔
          (received attempts).length < buffer.length ∧
            lastReceipt attempts = some (.error failure) ∧ failure.isInterrupted = false ∧
            (received attempts = [] ∨ ¬ (failure.isWouldBlock ∨ failure.isTimedOut))) := by
  intro attempts reading
  obtain ⟨stream', world', course, read⟩ :=
    Link.read_course opened world receive ⟨true, .endOfStream⟩ false buffer.length patience
  have explained := Link.explained fits course
  have same : reading = ⟨received attempts,
      (Link.readResult false (ReadPolicy.after ⟨true, .endOfStream⟩ buffer.length
        attempts)).map (exactResult buffer.length)⟩ := by
    change (readExactFrom receive client world buffer.length patience).1 = _
    rw [readExactFrom, readFrom, read]
    rfl
  have ending : ExactEnding buffer.length attempts reading.result := by
    rw [same]
    exact exactEnding course.proceeds explained.inRoom
  refine ⟨ending.eq_ok_iff, ?_, ending.eq_unexpectedEnd_iff, fun _ => ending.eq_failure_iff⟩
  intro filled
  rw [same, Link.Reading.fill, filled, List.drop_length, List.append_nil]

/-! ## On a wire -/

/-- What is received when no bytes wait has no bytes. -/
theorem nil_of_silence {wireEnd : WireEnd} {bytes : Bytes}
    (given : wireEnd.silence.1 = .ok bytes) : bytes = [] := by
  unfold WireEnd.silence at given
  split at given <;> cases given <;> rfl

theorem length_le_of_wire_receive {wire : Wire} {room : Nat} {bytes : Bytes}
    (given : (wire.receive room).1 = .ok bytes) : bytes.length ≤ room := by
  unfold Wire.receive at given
  split at given
  · cases given
    exact Nat.zero_le room
  · split at given
    · cases given
      exact List.length_take_le room wire.inbound
    · split at given
      · cases given
        exact Nat.zero_le room
      · rw [nil_of_silence given]
        exact Nat.zero_le room

/-- A wire gives no more than there is room for. -/
theorem fits_receive : Fits receive := by
  rintro room ⟨stream, network⟩ bytes given
  unfold receive Network.receiveStream at given
  dsimp only at given
  split at given
  · cases given
  · split at given
    · cases given
      exact Nat.zero_le room
    · exact length_le_of_wire_receive given

/-- A network with one wire, on which a byte waits for the near end. -/
def oneByteWaits (far : WireEnd) : Network :=
  { Network.idle false with
    wires := [{ Wire.fresh ⟨.loopback4, 40000, 0⟩ with inbound := [1], far }] }

/-- A client of that wire. -/
def oneByteClient : Client := closed.install ⟨0, ⟨.loopback4, 40000, 0⟩⟩ "localhost:40000"

/-- An exact read of two bytes from a far end that has sent one and finished. -/
theorem exact_read_ends_for_cause_of_finished_far_end :
    Fits receive ∧
      exactAttempts receive oneByteClient (oneByteWaits (.finished false)) 2 3 =
        [⟨2, .ok [1]⟩, ⟨1, .ok []⟩] ∧
      (oneByteClient.readExact (oneByteWaits (.finished false)) 2).1.result =
        some (.error (.exchange (.plain .unexpectedEnd))) := by
  have made : exactAttempts receive oneByteClient (oneByteWaits (.finished false)) 2 3 =
      [⟨2, .ok [1]⟩, ⟨1, .ok []⟩] := rfl
  obtain ⟨-, -, ended, -⟩ := exact_read_ends_for_cause fits_receive
    (show oneByteClient.handle = some _ from rfl) (oneByteWaits (.finished false)) [0, 0] 3
  exact ⟨fits_receive, made, ended.mpr ⟨Nat.lt_succ_self 1, .inl rfl⟩⟩

/-- An exact read may report an unexpected end although no receive has found one: a wire
whose far end is connected and sends nothing after the first of two bytes. -/
theorem late_silence_passes_for_end_of_stream :
    ¬ ∀ (client : Client) (network : Network) (size : Nat),
      (client.readExact network size).1.result =
          some (.error (.exchange (.plain .unexpectedEnd))) →
        ∃ attempt ∈ exactAttempts receive client network size (patience network size),
          attempt.receipt = .ok [] := by
  intro all
  have made : exactAttempts receive oneByteClient (oneByteWaits .connected) 2 3 =
      [⟨2, .ok [1]⟩, ⟨1, .error (.system 11)⟩] := rfl
  obtain ⟨attempt, among, ended⟩ := all oneByteClient (oneByteWaits .connected) 2 rfl
  change attempt ∈ exactAttempts receive oneByteClient (oneByteWaits .connected) 2 3 at among
  rw [made] at among
  simp only [List.mem_cons, List.not_mem_nil, or_false] at among
  rcases among with rfl | rfl <;> cases ended

end Client
end Tcp
end Framelink
