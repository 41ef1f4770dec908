import Framelink.Link.Basic

/-!
# What was tried

Going through a list until something succeeds tries a front of it: everything before the
success failed, each in the world that the one before left, and nothing after it was
touched.  Without a success everything was tried, and the last reason is the one that
counts.  Which items were tried is written down by an attempt that notes each of them.
-/

namespace Framelink

variable {World Item Reason Result : Type}

/-- Attempts at items that all fail, each with its reason and in the world that the one
before left. -/
inductive AllFail (attempt : Item → World → Except Reason Result × World) :
    World → List (Item × Reason) → World → Prop
  | none {world : World} : AllFail attempt world [] world
  | next {world between later : World} {item : Item} {reason : Reason}
      {failed : List (Item × Reason)} :
      attempt item world = (.error reason, between) → AllFail attempt between failed later →
      AllFail attempt world ((item, reason) :: failed) later

/-- What trying items one after the other comes to: which were tried, the outcome, and the
world that is left. -/
inductive Tried (attempt : Item → World → Except Reason Result × World) (last : Reason)
    (world : World) : List Item → List Item → Except Reason Result → World → Prop
  | reached {failed : List (Item × Reason)} {item : Item} {between later : World}
      {result : Result} (untried : List Item) :
      AllFail attempt world failed between → attempt item between = (.ok result, later) →
      Tried attempt last world (failed.map Prod.fst ++ item :: untried)
        (failed.map Prod.fst ++ [item]) (.ok result) later
  | exhausted {failed : List (Item × Reason)} {later : World} :
      AllFail attempt world failed later →
      Tried attempt last world (failed.map Prod.fst) (failed.map Prod.fst)
        (.error ((failed.getLast?.map Prod.snd).getD last)) later

/-- An attempt that writes its item down. -/
def listed (attempt : Item → World → Except Reason Result × World) (item : Item)
    (world : World × List Item) : Except Reason Result × (World × List Item) :=
  let (outcome, later) := attempt item world.1
  (outcome, later, world.2 ++ [item])

section

variable {attempt : Item → World → Except Reason Result × World} {last reason : Reason}
  {world between later : World} {item : Item} {items tried : List Item}
  {outcome : Except Reason Result}

/-- What was tried after an attempt that failed was tried after it. -/
theorem Tried.cons (failed : attempt item world = (.error reason, between))
    (rest : Tried attempt reason between items tried outcome later) :
    Tried attempt last world (item :: items) (item :: tried) outcome later := by
  cases rest with
  | reached untried failing success => exact .reached untried (.next failed failing) success
  | @exhausted others _ failing =>
      have exhausted := @Tried.exhausted _ _ _ _ attempt last _ _ _ (.next failed failing)
      rw [List.getLast?_cons, Option.map_some, Option.getD_some] at exhausted
      cases ended : others.getLast? with
      | none =>
          rw [ended] at exhausted
          exact exhausted
      | some final =>
          rw [ended] at exhausted
          exact exhausted

/-- Going through a list until something succeeds tries a front of it, in order. -/
theorem tried_tryEach (attempt : Item → World → Except Reason Result × World) (last : Reason)
    (items : List Item) (world : World) :
    ∃ tried outcome later,
      Tried attempt last world items tried outcome later ∧
      tryEach attempt last items world = (outcome, later) ∧
      ∀ log, tryEach (listed attempt) last items (world, log) =
        (outcome, later, log ++ tried) := by
  induction items generalizing last world with
  | nil =>
      refine ⟨[], _, world, .exhausted .none, rfl, ?_⟩
      intro log
      rw [List.append_nil]
      rfl
  | cons item rest inductionHypothesis =>
      cases made : attempt item world with
      | mk result between =>
          cases result with
          | ok result =>
              refine ⟨[item], .ok result, between, .reached rest .none made, ?_, ?_⟩
              · rw [tryEach, made]
              · intro log
                simp only [tryEach, listed, made]
          | error reason =>
              obtain ⟨tried, outcome, later, further, run, noted⟩ :=
                inductionHypothesis reason between
              refine ⟨item :: tried, outcome, later, further.cons made, ?_, ?_⟩
              · rw [tryEach, made]
                exact run
              · intro log
                simp only [tryEach, listed, made]
                rw [noted, List.append_assoc, List.singleton_append]

end

/-! ## Until one fails -/

/-- Items that are all done, each in the world that the one before left. -/
inductive AllDone (perform : Item → World → Except Reason Unit × World) :
    World → List Item → World → Prop
  | none {world : World} : AllDone perform world [] world
  | next {world between later : World} {item : Item} {items : List Item} :
      perform item world = (.ok (), between) → AllDone perform between items later →
      AllDone perform world (item :: items) later

/-- Going through a list does all of it, or stops at the first item that fails. -/
theorem doEach_cases (perform : Item → World → Except Reason Unit × World)
    (items : List Item) (world : World) :
    (∃ later, AllDone perform world items later ∧
        doEach perform items world = (.ok (), later)) ∨
      ∃ done item rest between reason later,
        items = done ++ item :: rest ∧ AllDone perform world done between ∧
        perform item between = (.error reason, later) ∧
        doEach perform items world = (.error reason, later) := by
  induction items generalizing world with
  | nil => exact .inl ⟨world, .none, rfl⟩
  | cons item rest inductionHypothesis =>
      rw [doEach]
      cases made : perform item world with
      | mk result between =>
          cases result with
          | error reason =>
              exact .inr ⟨[], item, rest, world, reason, between, rfl, .none, made, rfl⟩
          | ok =>
              rcases inductionHypothesis between with
                ⟨later, allDone, run⟩ | ⟨done, culprit, others, before, reason, later, split,
                  someDone, failed, run⟩
              · exact .inl ⟨later, .next made allDone, run⟩
              · refine .inr ⟨item :: done, culprit, others, before, reason, later, ?_,
                  .next made someDone, failed, run⟩
                rw [split, List.cons_append]

end Framelink
