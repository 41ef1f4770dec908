import Framelink.Proofs.Inbox
import Mathlib.Data.List.Induction
import Mathlib.Order.Bounds.Basic

/-!
# Tallies are exact

Each call on an inbox counts what it appends as received and what it takes away as consumed,
and notes the size that it leaves.  So after any sequence of calls on a new inbox the tally
is known from the calls alone, as long as the counters, which have sixty-four bits, have
room for all that was appended; and the peak is the greatest size that there was after any
of the calls.
-/

namespace Framelink
namespace Inbox

/-- The number of bytes that calls append. -/
def total (requests : List Request) : Nat := (requests.map Request.pushed).flatten.length

/-- The sizes that a new inbox has had after the first of some calls, and at the start. -/
def sizes (requests : List Request) : Set Nat :=
  fun size => ∃ early, early <+: requests ∧ (empty.run early).last.size = size

theorem total_append (early late : List Request) :
    total (early ++ late) = total early + total late := by
  simp [total]

/-! ## One call -/

variable (inbox : Inbox) (request : Request)

theorem received_serve :
    (inbox.serve request).2.tally.received =
      inbox.tally.received + UInt64.ofNat request.pushed.length := by
  cases request with
  | push bytes => rfl
  | copyOut buffer erase => cases erase <;> simp [serve, read, Request.pushed]
  | clear => simp [serve, clear, Request.pushed]
  | length => simp [serve, Request.pushed]

theorem consumed_serve :
    (inbox.serve request).2.tally.consumed =
      inbox.tally.consumed + UInt64.ofNat (inbox.taken request).length := by
  cases request with
  | copyOut buffer erase => cases erase <;> simp [serve, read, taken]
  | clear => rfl
  | push bytes => simp [serve, push, taken]
  | length => simp [serve, taken]

/-- What a call takes away it takes from the front, and no more than there is. -/
theorem size_serve :
    (inbox.taken request).length + (inbox.serve request).2.size =
      inbox.size + request.pushed.length := by
  have lengths := congrArg List.length (inbox.taken_append_contents request)
  rwa [List.length_append, List.length_append] at lengths

variable {inbox}

theorem current_serve (right : inbox.tally.current = inbox.size) :
    (inbox.serve request).2.tally.current = (inbox.serve request).2.size := by
  cases request with
  | copyOut buffer erase =>
      cases erase with
      | false => exact right
      | true => rfl
  | length => exact right
  | push bytes | clear => rfl

/-- A call notes the size that it leaves.  Those that append nothing need not look. -/
theorem peak_serve (bounded : inbox.size ≤ inbox.tally.peak) :
    (inbox.serve request).2.tally.peak =
      max inbox.tally.peak (inbox.serve request).2.size := by
  have shrinks (silent : request.pushed = []) :
      max inbox.tally.peak (inbox.serve request).2.size = inbox.tally.peak := by
    have sizes := inbox.size_serve request
    rw [silent, List.length_nil] at sizes
    omega
  cases request with
  | push bytes => rfl
  | copyOut buffer erase =>
      rw [shrinks rfl]
      cases erase <;> rfl
  | clear => rw [shrinks rfl]; rfl
  | length => rw [shrinks rfl]; rfl

/-! ## Calls one after the other -/

theorem last_append (inbox : Inbox) (early late : List Request) :
    (inbox.run (early ++ late)).last = ((inbox.run early).last.run late).last := by
  induction early generalizing inbox with
  | nil => rfl
  | cons request early inductionHypothesis => exact inductionHypothesis _

theorem taken_append (inbox : Inbox) (early late : List Request) :
    (inbox.run (early ++ late)).taken =
      (inbox.run early).taken ++ ((inbox.run early).last.run late).taken := by
  induction early generalizing inbox with
  | nil => rfl
  | cons request early inductionHypothesis =>
      simp only [List.cons_append, run, inductionHypothesis, List.append_assoc]

/-- All that was appended is taken away or held. -/
theorem total_eq (requests : List Request) :
    total requests = (empty.run requests).taken.length + (empty.run requests).last.size := by
  have lengths := congrArg List.length (run_taken_append_contents empty requests)
  rw [List.length_append, contents_empty, List.nil_append] at lengths
  exact lengths.symm

theorem sizes_mono {early requests : List Request} (before : early <+: requests) :
    sizes early ⊆ sizes requests := by
  rintro size ⟨first, begins, same⟩
  exact ⟨first, begins.trans before, same⟩

/-- One call more adds the size that it leaves. -/
theorem sizes_snoc (requests : List Request) (request : Request) :
    sizes (requests ++ [request]) =
      insert (empty.run (requests ++ [request])).last.size (sizes requests) := by
  ext size
  constructor
  · rintro ⟨early, before, same⟩
    rcases List.prefix_concat_iff.1 before with rfl | before
    · exact .inl same.symm
    · exact .inr ⟨early, before, same⟩
  · rintro (rfl | earlier)
    · exact ⟨_, List.prefix_refl _, rfl⟩
    · exact sizes_mono (List.prefix_append requests [request]) earlier

/-- The tally of an inbox that was new before some calls is known from the calls. -/
structure Exact (requests : List Request) : Prop where
  received : (empty.run requests).last.tally.received.toNat = total requests
  consumed : (empty.run requests).last.tally.consumed.toNat = (empty.run requests).taken.length
  current : (empty.run requests).last.tally.current = (empty.run requests).last.size
  peak : IsGreatest (sizes requests) (empty.run requests).last.tally.peak

theorem exact_nil : Exact [] where
  received := rfl
  consumed := rfl
  current := rfl
  peak := by
    refine ⟨⟨[], List.prefix_refl [], rfl⟩, ?_⟩
    rintro size ⟨early, before, rfl⟩
    rw [List.prefix_nil.1 before]
    exact Nat.le_refl 0

/-- A counter that has room for an amount goes up by it. -/
theorem toNat_add_ofNat {counter : UInt64} {amount : Nat}
    (room : counter.toNat + amount < UInt64.size) :
    (counter + UInt64.ofNat amount).toNat = counter.toNat + amount := by
  rw [UInt64.toNat_add, UInt64.toNat_ofNat', Nat.add_mod_mod, Nat.mod_eq_of_lt room]

/-- One call more keeps the tally exact. -/
theorem Exact.snoc {requests : List Request} (exact : Exact requests) (request : Request)
    (few : total (requests ++ [request]) < UInt64.size) : Exact (requests ++ [request]) := by
  have last : (empty.run (requests ++ [request])).last =
      ((empty.run requests).last.serve request).2 := last_append empty requests [request]
  have taken : (empty.run (requests ++ [request])).taken =
      (empty.run requests).taken ++ (empty.run requests).last.taken request := by
    rw [taken_append, run, run, List.append_nil]
  have grown : total (requests ++ [request]) = total requests + request.pushed.length := by
    rw [total_append, total, total, List.map_singleton, List.flatten_singleton]
  have sum := total_eq (requests ++ [request])
  rw [taken, List.length_append] at sum
  refine ⟨?_, ?_, ?_, ?_⟩
  · rw [last, received_serve, toNat_add_ofNat (by rw [exact.received]; omega), exact.received,
      grown]
  · rw [last, consumed_serve, toNat_add_ofNat (by rw [exact.consumed]; omega), exact.consumed,
      taken, List.length_append]
  · rw [last]
    exact current_serve request exact.current
  · have bounded : (empty.run requests).last.size ≤ (empty.run requests).last.tally.peak :=
      exact.peak.2 ⟨requests, List.prefix_refl requests, rfl⟩
    rw [sizes_snoc, last, peak_serve request bounded, max_comm]
    exact exact.peak.insert _

/-- The tally stays exact as long as its counters have room. -/
theorem exact_of_few {requests : List Request} (few : total requests < UInt64.size) :
    Exact requests := by
  induction requests using List.reverseRecOn with
  | nil => exact exact_nil
  | append_singleton requests request inductionHypothesis =>
      have fewer : total requests < UInt64.size := by
        rw [total_append] at few
        omega
      exact (inductionHypothesis fewer).snoc request few

/-- After any calls on a new inbox to which less than 2⁶⁴ bytes are appended in all: what was
received is all that was appended, and it was consumed or is held; the current size is that of
the contents, and the peak is the greatest size so far; no counter was ever greater before;
and a look at the contents or at the size changes nothing. -/
theorem tallies_are_exact (requests : List Request) (few : total requests < UInt64.size) :
    let inbox := (empty.run requests).last
    inbox.tally.received.toNat = total requests ∧
    inbox.tally.received.toNat = inbox.tally.consumed.toNat + inbox.tally.current ∧
    inbox.tally.current = inbox.contents.length ∧
    IsGreatest (sizes requests) inbox.tally.peak ∧
    inbox.tally.current ≤ inbox.tally.peak ∧
    inbox.tally.peak ≤ inbox.tally.received.toNat ∧
    (∀ early, early <+: requests →
      let before := (empty.run early).last.tally
      before.received ≤ inbox.tally.received ∧ before.consumed ≤ inbox.tally.consumed ∧
        before.peak ≤ inbox.tally.peak) ∧
    (∀ buffer, (inbox.serve (.copyOut buffer false)).2 = inbox) ∧
    (inbox.serve .length).2 = inbox := by
  intro inbox
  have exact := exact_of_few few
  have balance : inbox.tally.received.toNat = inbox.tally.consumed.toNat + inbox.tally.current := by
    rw [exact.received, exact.consumed, exact.current, total_eq]
  refine ⟨exact.received, balance, exact.current, exact.peak, ?_, ?_, ?_, ?_, rfl⟩
  · rw [exact.current]
    exact exact.peak.2 ⟨requests, List.prefix_refl requests, rfl⟩
  · obtain ⟨early, ⟨late, rfl⟩, same⟩ := exact.peak.1
    have held := total_eq early
    rw [exact.received, ← same, total_append]
    omega
  · rintro early ⟨late, rfl⟩
    rw [total_append] at few
    have before : Exact early := exact_of_few (by omega)
    refine ⟨?_, ?_, ?_⟩
    · rw [UInt64.le_iff_toNat_le, before.received, exact.received, total_append]
      omega
    · rw [UInt64.le_iff_toNat_le, before.consumed, exact.consumed, taken_append,
        List.length_append]
      omega
    · exact before.peak.mono exact.peak (sizes_mono (List.prefix_append early late))
  · exact fun buffer => inbox.read_keep buffer.length

/-- Traffic whose peak is passed: a read for more than there is, a look, and a clear. -/
theorem tallies_are_exact_of_traffic :
    let requests : List Request :=
      [.push [1, 2, 3, 4], .copyOut [0, 0, 0] true, .push [], .push [5, 6], .copyOut [0] false,
        .copyOut [0, 0, 0, 0, 0] true, .push [7, 8], .clear, .length]
    total requests < UInt64.size ∧
      (empty.run requests).last.tally = ⟨8, 8, 0, 4⟩ ∧
      IsGreatest (sizes requests) 4 := by
  intro requests
  have few : total requests < UInt64.size := by decide
  obtain ⟨-, -, -, peak, -⟩ := tallies_are_exact requests few
  exact ⟨few, rfl, peak⟩

end Inbox
end Framelink
