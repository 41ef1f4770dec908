import Framelink.Network.Basic

/-!
# Faults wear off

A fault strikes one call and is gone.  All that calls do to the faults that wait is to
make them fewer, or to let one have fewer calls to spare; a call never brings a fault.
-/

namespace Framelink

namespace Fault

/-- A call that no fault waits for is spared, and the faults stay as they are. -/
theorem strike_of_spared {call : SystemCall} {faults : List Fault}
    (spared : awaits call faults = false) : strike call faults = (none, faults) := by
  induction faults with
  | nil => rfl
  | cons fault rest spareRest =>
      rw [awaits, List.any_cons, Bool.or_eq_false_iff, beq_eq_false_iff_ne] at spared
      rw [strike, if_neg spared.1, spareRest spared.2]

/-- A fault, whatever the number of calls that it spares before. -/
def core (fault : Fault) : Fault := { fault with skip := 0 }

/-- The later faults are some of the earlier ones, whatever the number of calls that each
of them spares. -/
def Worn (faults later : List Fault) : Prop := (later.map core).Sublist (faults.map core)

theorem Worn.refl (faults : List Fault) : Worn faults faults := List.Sublist.refl _

theorem Worn.trans {first second third : List Fault} (early : Worn first second)
    (late : Worn second third) : Worn first third := List.Sublist.trans late early

theorem Worn.append {first second : List Fault} (worn : Worn first second) (rest : List Fault) :
    Worn (first ++ rest) (second ++ rest) := by
  unfold Worn
  rw [List.map_append, List.map_append]
  exact List.Sublist.append worn (List.Sublist.refl _)

/-- The faults that wait for a call only get fewer. -/
theorem Worn.fewer {faults later : List Fault} (worn : Worn faults later) (call : SystemCall) :
    pending call later ≤ pending call faults := by
  have same (faults : List Fault) :
      pending call faults = (faults.map core).countP fun fault => fault.call == call := by
    rw [List.countP_map]
    rfl
  rw [same, same]
  exact List.Sublist.countP_le worn

/-- What holds of all faults that wait, whatever the number of calls that they spare, goes on
holding of all that wait. -/
theorem Worn.all {faults later : List Fault} (worn : Worn faults later) {Holds : Fault → Prop}
    (all : ∀ fault ∈ faults, Holds fault.core) : ∀ fault ∈ later, Holds fault.core := by
  intro fault waits
  obtain ⟨before, waited, same⟩ :=
    List.mem_map.1 (List.Sublist.mem (List.mem_map_of_mem waits) worn)
  exact same ▸ all before waited

theorem worn_strike (call : SystemCall) (faults : List Fault) :
    Worn faults (strike call faults).2 := by
  induction faults with
  | nil => exact Worn.refl []
  | cons fault rest inductionHypothesis =>
      rw [strike]
      split
      · split
        · exact List.sublist_cons_self _ _
        · exact List.Sublist.refl _
      · exact List.Sublist.cons_cons _ inductionHypothesis

theorem pending_cons_own {call : SystemCall} {fault : Fault} (own : fault.call = call)
    (rest : List Fault) : pending call (fault :: rest) = pending call rest + 1 :=
  List.countP_cons_of_pos (beq_iff_eq.2 own)

theorem pending_cons_other {call : SystemCall} {fault : Fault} (other : fault.call ≠ call)
    (rest : List Fault) : pending call (fault :: rest) = pending call rest :=
  List.countP_cons_of_neg fun same => other (beq_iff_eq.1 same)

theorem pending_append (call : SystemCall) (first second : List Fault) :
    pending call (first ++ second) = pending call first + pending call second :=
  List.countP_append

/-- A fault that strikes was waiting for the call, and waits no longer. -/
theorem of_strike {call : SystemCall} {faults : List Fault} {fault : Fault}
    (struck : (strike call faults).1 = some fault) :
    fault ∈ faults ∧ fault.call = call ∧
      pending call (strike call faults).2 + 1 = pending call faults := by
  induction faults with
  | nil => cases struck
  | cons first rest inductionHypothesis =>
      rw [strike] at struck ⊢
      split at struck
      · next own =>
          rw [if_pos own]
          split at struck
          · cases struck
            exact ⟨List.mem_cons_self, own, (pending_cons_own own rest).symm⟩
          · cases struck
      · next other =>
          obtain ⟨waited, named, fewer⟩ := inductionHypothesis struck
          rw [if_neg other]
          refine ⟨List.mem_cons_of_mem _ waited, named, ?_⟩
          dsimp only
          rw [pending_cons_other other, pending_cons_other other]
          exact fewer

end Fault

namespace Network

open Fault

variable (network : Network)

theorem consult_of_spared {network : Network} {call : SystemCall}
    (spared : Fault.awaits call network.faults = false) :
    network.consult call = (none, network) := by
  rw [consult, Fault.strike_of_spared spared]

/-- Calls that no fault waits for are all made. -/
theorem attemptAll_of_spared {calls : List SystemCall}
    (spared : ∀ fault ∈ network.faults, fault.call ∉ calls) :
    network.attemptAll calls = (.ok (), network) := by
  induction calls with
  | nil => rfl
  | cons call rest inductionHypothesis =>
      have free : Fault.awaits call network.faults = false := by
        rw [awaits, List.any_eq_false]
        intro fault waits same
        exact spared fault waits (beq_iff_eq.1 same ▸ List.mem_cons_self)
      have made : network.attempt call = (.ok (), network) := by
        rw [attempt, consult_of_spared free]
      rw [attemptAll, made]
      exact inductionHypothesis fun fault waits listed =>
        spared fault waits (List.mem_cons_of_mem call listed)

end Network
end Framelink
