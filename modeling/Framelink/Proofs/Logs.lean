import Mathlib.Data.List.Induction

/-!
# Logs

A log lists what happened, oldest first.  Whether something lasts that one kind of entry
begins and another kind ends can be read off it.
-/

namespace Framelink

variable {Entry : Type}

/-- A log has a first kind of entry with no second kind of entry after it. -/
def Since (begins ends : Entry → Prop) (log : List Entry) : Prop :=
  ∃ early entry late, log = early ++ entry :: late ∧ begins entry ∧ ∀ later ∈ late, ¬ ends later

/-- A log with a last entry is split at that entry or before it. -/
theorem snoc_split {log early late : List Entry} {last entry : Entry}
    (parts : log ++ [last] = early ++ entry :: late) :
    (log = early ∧ last = entry ∧ late = []) ∨
      ∃ between, late = between ++ [last] ∧ log = early ++ entry :: between := by
  rcases List.eq_nil_or_concat late with rfl | ⟨between, final, rfl⟩
  · obtain ⟨same, ended⟩ := List.append_inj' parts rfl
    cases ended
    exact Or.inl ⟨same, rfl, rfl⟩
  · rw [List.concat_eq_append, ← List.cons_append, ← List.append_assoc] at parts
    obtain ⟨same, ended⟩ := List.append_inj' parts rfl
    cases ended
    exact Or.inr ⟨between, List.concat_eq_append, same⟩

/-- A log that goes on is split where it was before, unless what is new has the entry. -/
theorem append_split {log more early late : List Entry} {entry : Entry}
    (parts : log ++ more = early ++ entry :: late) (old : entry ∉ more) :
    ∃ between, late = between ++ more ∧ log = early ++ entry :: between := by
  rcases List.append_eq_append_iff.1 parts with ⟨rest, _, new⟩ | ⟨rest, rfl, same⟩
  · exact absurd (by rw [new]; simp) old
  · cases rest with
    | nil =>
        rw [List.nil_append] at same
        exact absurd (by rw [← same]; simp) old
    | cons first between =>
        cases same
        exact ⟨between, rfl, rfl⟩

theorem not_since_nil (begins ends : Entry → Prop) : ¬ Since begins ends [] := by
  rintro ⟨early, entry, late, parts, -⟩
  cases early <;> cases parts

/-- What begins with the last entry lasts; what it does not end lasts if it did before. -/
theorem since_snoc (begins ends : Entry → Prop) (log : List Entry) (last : Entry) :
    Since begins ends (log ++ [last]) ↔
      begins last ∨ (¬ ends last ∧ Since begins ends log) := by
  constructor
  · rintro ⟨early, entry, late, parts, begun, lasting⟩
    rcases snoc_split parts with ⟨rfl, rfl, rfl⟩ | ⟨between, rfl, rfl⟩
    · exact Or.inl begun
    · refine Or.inr ⟨lasting last (by simp), early, entry, between, rfl, begun, ?_⟩
      intro later within
      exact lasting later (List.mem_append_left _ within)
  · rintro (begun | ⟨spared, early, entry, late, rfl, begun, lasting⟩)
    · exact ⟨log, last, [], rfl, begun, fun later none => nomatch none⟩
    · refine ⟨early, entry, late ++ [last], by simp, begun, ?_⟩
      intro later within
      rcases List.mem_append.1 within with before | final
      · exact lasting later before
      · rw [List.mem_singleton.1 final]
        exact spared

end Framelink
