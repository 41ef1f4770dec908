import Framelink.Proofs.Tcp.Placement

/-!
# Where the handle of a worker is

The handle goes from the acceptor to the peer, and from there either to a call that
removes the peer, which puts it with those kept for joining, or to a call that stops
the server.  It can be missed in two ways.  A peer that is given up before the handle
is with it keeps a handle that nobody looks for: the worker has strayed.  And a
removal that is still under way when a stop has looked for the last time keeps the
handle out of its sight: the removal is late.
-/

namespace Framelink
namespace Tcp

namespace Connection

/-- The handle of a living worker is where somebody will look for it, unless the
worker slipped. -/
structure Traced (c : Connection) : Prop where
  admitted : c.stage = .greeting ∨ c.stage = .storing →
    c.session.isSome ∨ c.removal = some false ∨ c.record.strayed = true
  unstored : custodyOf c.worker = some .unstored → c.stage = .storing
  stored : custodyOf c.worker = some .stored →
    c.session.isSome ∨ c.removal = some false ∨ c.record.strayed = true ∨
      c.call = .collecting true
  seized : custodyOf c.worker = some .seized → c.removal = some true
  awaited : custodyOf c.worker = some .awaited →
    (∃ listed, c.call = .collecting listed) ∨ c.call = .awaitingWorkers
  found : custodyOf c.worker ≠ some .lost
  tracked : c.session.isSome →
    custodyOf c.worker ≠ some .seized ∧ custodyOf c.worker ≠ some .detached

/-- What a call that stops the server has brought about so far. -/
structure Quieted (c : Connection) : Prop where
  still : c.call ≠ .serving → c.waits = false ∧ c.stage = .absent
  collected : c.call = .collecting false ∨ c.call = .awaitingWorkers ∨ c.call = .closing →
    c.session.isSome → custodyOf c.worker ≠ some .stored
  joined : c.call = .closing ∨ c.call = .resting → c.worker.isSome → c.record.slipped = true

/-- Nobody will ever look for the handle of a worker that strayed. -/
structure Unsought (c : Connection) : Prop where
  storing : c.stage = .storing → ∀ custody, custodyOf c.worker = some custody →
    custody = .unstored
  unasked : c.record.strayed = true → c.removal ≠ some false ∧ c.call ≠ .collecting true
  left : c.record.strayed = true → custodyOf c.worker ≠ some .seized ∧
    custodyOf c.worker ≠ some .detached ∧ custodyOf c.worker ≠ some .awaited

variable {own : Bool} {c later : Connection}

/-- The worker is another one at most in what it does. -/
structure Still (c later : Connection) : Prop where
  call : later.call = c.call
  waits : later.waits = c.waits
  stage : later.stage = c.stage
  session : later.session.isSome = c.session.isSome
  custody : custodyOf later.worker = custodyOf c.worker
  removal : later.removal = c.removal
  strayed : later.record.strayed = c.record.strayed
  late : later.record.late = c.record.late

theorem Still.slipped (still : c.Still later) : later.record.slipped = c.record.slipped := by
  unfold Record.slipped
  rw [still.strayed, still.late]

theorem Still.alive (still : c.Still later) : later.worker.isSome = c.worker.isSome := by
  have same := congrArg Option.isSome still.custody
  simpa [custodyOf] using same

/-- A worker that goes on stays the one whose handle somebody has. -/
theorem custodyOf_going {worker changed : Worker} (alive : c.worker = some worker)
    (same : changed.custody = worker.custody) :
    custodyOf (some changed) = custodyOf c.worker := by
  rw [alive]
  exact congrArg some same

/-! ## Where the handle is -/

theorem Traced.through (traced : c.Traced) (still : c.Still later) : later.Traced := by
  obtain ⟨call, _, stage, session, custody, removal, strayed, _⟩ := still
  obtain ⟨admitted, unstored, stored, seized, awaited, found, tracked⟩ := traced
  constructor
  · rwa [stage, session, removal, strayed]
  · rwa [custody, stage]
  · rwa [custody, session, removal, strayed, call]
  · rwa [custody, removal]
  · rwa [custody, call]
  · rwa [custody]
  · rwa [custody, session]

/-- Without a worker there is no handle. -/
theorem Traced.of_none (gone : later.worker = none)
    (admitted : later.stage = .greeting ∨ later.stage = .storing →
      later.session.isSome ∨ later.removal = some false ∨ later.record.strayed = true) :
    later.Traced := by
  refine ⟨admitted, ?_, ?_, ?_, ?_, ?_, ?_⟩ <;> rw [gone] <;> simp [custodyOf_none]

/-- A call that stops the server goes on from any point but the one where it takes the
handle of this worker. -/
theorem Traced.called (traced : c.Traced) (past : c.call ≠ .collecting true) {call : Call}
    {record : Record} (strayed : record.strayed = c.record.strayed)
    (awaited : custodyOf c.worker = some .awaited →
      (∃ listed, call = .collecting listed) ∨ call = .awaitingWorkers) :
    Traced { c with call, record } := by
  obtain ⟨admitted, unstored, stored, seized, _, found, tracked⟩ := traced
  refine ⟨?_, unstored, ?_, seized, awaited, found, tracked⟩
  · rwa [strayed]
  · intro place
    rw [strayed]
    rcases stored place with present | removed | astray | collecting
    · exact Or.inl present
    · exact Or.inr (Or.inl removed)
    · exact Or.inr (Or.inr (Or.inl astray))
    · exact absurd collecting past

theorem Turn.traced (turn : Turn own c later) (placed : c.Placed) (traced : c.Traced) :
    later.Traced := by
  have admitted := traced.admitted
  have unstored := traced.unstored
  have stored := traced.stored
  have seized := traced.seized
  have awaited := traced.awaited
  have found := traced.found
  have tracked := traced.tracked
  cases turn with
  | rest | established | touched | sent | arrived | finished | abandoned =>
      exact ⟨admitted, unstored, stored, seized, awaited, found, tracked⟩
  | accepted waits =>
      obtain ⟨_, gone, _⟩ := placed.fresh (Or.inl waits)
      exact .of_none gone (by rintro (greeting | storing) <;> contradiction)
  | refused wire found stage =>
      obtain ⟨_, gone, _⟩ := placed.fresh (Or.inr stage)
      exact .of_none gone (by rintro (greeting | storing) <;> contradiction)
  | registered peer stage empty =>
      obtain ⟨_, gone, _⟩ := placed.fresh (Or.inr stage)
      exact .of_none gone fun _ => Or.inl rfl
  | replaced wire later serving present tracked forsaken =>
      exact ⟨fun _ => Or.inr (Or.inr rfl), unstored, fun _ => Or.inr (Or.inr (Or.inl rfl)),
        seized, awaited, found, nofun⟩
  | unwelcome wire later present stage forsaken =>
      exact .of_none (placed.greeted stage) (by rintro (greeting | storing) <;> contradiction)
  | unserved wire present stage =>
      exact .of_none (placed.greeted stage) (by rintro (greeting | storing) <;> contradiction)
  | served worker stage custody phase =>
      have place : custodyOf (some worker) = some .unstored := congrArg some custody
      refine ⟨fun _ => admitted (Or.inl stage), fun _ => rfl, ?_, ?_, ?_, ?_, ?_⟩ <;>
        rw [place] <;> simp
  | stored stage =>
      have reached := admitted (Or.inr stage)
      constructor <;> grind [custodyOf_map_pass]
  | moved _ _ _ _ _ alive | received _ _ _ _ _ alive | ended _ _ _ alive =>
      exact traced.through ⟨rfl, rfl, rfl, rfl, custodyOf_going alive rfl, rfl, rfl, rfl⟩
  | pushed worker chunk stepped alive =>
      exact traced.through
        ⟨rfl, rfl, rfl, Option.isSome_map, custodyOf_going alive rfl, rfl, rfl, rfl⟩
  | crashed worker wire later present alive => exact .of_none rfl admitted
  | left worker wire present alive => exact .of_none rfl (by simpa using admitted)
  | consumed peer later bytes present =>
      exact traced.through ⟨rfl, rfl, rfl, by simp [present], rfl, rfl, rfl, rfl⟩
  | untracked present =>
      refine ⟨fun _ => Or.inr (Or.inl rfl), unstored, fun _ => Or.inr (Or.inl rfl), ?_, awaited,
        found, nofun⟩
      intro place
      exact absurd place (tracked present).1
  | asked removal strayed missed =>
      have untracked : ¬ c.session.isSome := fun present =>
        nomatch (placed.tracked present).symm.trans removal
      constructor <;> grind [custodyOf_map_pass]
  | kept wire later present removal forsaken => constructor <;> grind [custodyOf_map_pass]
  | opened call =>
      refine traced.called (by simp [call]) rfl fun place => ?_
      have waited := awaited place
      simp [call] at waited
  | listed call waits stage =>
      exact traced.called (by simp [call]) rfl fun _ => Or.inl ⟨_, rfl⟩
  | collected listed call => constructor <;> grind [custodyOf_map_pass]
  | gathered call => exact traced.called (by simp [call]) rfl fun _ => Or.inr rfl
  | drained call => constructor <;> grind [custodyOf_map_pass]
  | searched call joined empty =>
      exact traced.called (by simp [call]) rfl fun place => absurd place joined
  | closed call =>
      refine traced.called (by simp [call]) rfl fun place => ?_
      have waited := awaited place
      simp [call] at waited

/-- A worker that is alive when a call that stops the server finds no more handles
has slipped: of the places where its handle can be, the call has been to all but
those where a removal is late or the peer was given up too early. -/
theorem Traced.slipped (traced : c.Traced) (quieted : c.Quieted)
    (call : c.call = .awaitingWorkers) (joined : custodyOf c.worker ≠ some .awaited)
    (empty : custodyOf c.worker ≠ some .detached) (alive : c.worker.isSome) :
    c.record.strayed = true ∨ c.removal.isSome = true := by
  obtain ⟨worker, present⟩ := Option.isSome_iff_exists.1 alive
  rw [present, custodyOf_some] at joined empty
  cases custody : worker.custody with
  | unstored =>
      have storing := traced.unstored (by rw [present, custodyOf_some, custody])
      have absent := (quieted.still (by rw [call]; decide)).2
      rw [absent] at storing
      cases storing
  | stored =>
      have place : custodyOf c.worker = some .stored := by rw [present, custodyOf_some, custody]
      rcases traced.stored place with tracked | removed | strayed | collecting
      · exact absurd place (quieted.collected (Or.inr (Or.inl call)) tracked)
      · rw [removed]
        exact Or.inr rfl
      · exact Or.inl strayed
      · rw [call] at collecting
        cases collecting
  | seized =>
      have removed := traced.seized (by rw [present, custodyOf_some, custody])
      rw [removed]
      exact Or.inr rfl
  | detached => exact absurd (congrArg some custody) empty
  | awaited => exact absurd (congrArg some custody) joined
  | lost => exact absurd (by rw [present, custodyOf_some, custody]) traced.found

/-! ## What a stop has brought about -/

theorem Quieted.through (quieted : c.Quieted) (still : c.Still later) : later.Quieted := by
  have slipped := still.slipped
  have alive := still.alive
  obtain ⟨call, waits, stage, session, custody, _, _, _⟩ := still
  obtain ⟨quiet, collected, joined⟩ := quieted
  constructor
  · rwa [call, waits, stage]
  · rwa [call, session, custody]
  · rwa [call, alive, slipped]

/-- A connection that waits or is with the acceptor is one of a server that serves. -/
theorem Quieted.serving (quieted : c.Quieted) (busy : c.waits = true ∨ c.stage ≠ .absent) :
    c.call = .serving := by
  refine Decidable.byContradiction fun other => ?_
  obtain ⟨waits, stage⟩ := quieted.still other
  rcases busy with waiting | present
  · cases waits.symm.trans waiting
  · exact present stage

/-- A server that serves has brought nothing about that a stop would. -/
theorem Quieted.of_serving (call : c.call = .serving) : c.Quieted := by
  constructor
  · exact fun other => absurd call other
  · rw [call]
    rintro (collecting | waiting | closing) <;> contradiction
  · rw [call]
    rintro (closing | resting) <;> contradiction

theorem Turn.quieted (turn : Turn own c later) (traced : c.Traced) (quieted : c.Quieted) :
    later.Quieted := by
  have quiet := quieted.still
  have free := quieted.collected
  have joined := quieted.joined
  cases turn with
  | rest | touched | sent | arrived | finished => exact ⟨quiet, free, joined⟩
  | established address absent call | replaced wire later call => exact .of_serving call
  | abandoned wire found waits | accepted waits =>
      exact .of_serving (quieted.serving (Or.inl waits))
  | refused wire found stage | registered peer stage | unwelcome wire later found stage
  | unserved wire found stage | served worker stage | stored stage =>
      exact .of_serving (quieted.serving (Or.inr (by simp [stage])))
  | moved _ _ _ _ _ alive | received _ _ _ _ _ alive | ended _ _ _ alive =>
      exact quieted.through ⟨rfl, rfl, rfl, rfl, custodyOf_going alive rfl, rfl, rfl, rfl⟩
  | pushed worker chunk stepped alive =>
      exact quieted.through
        ⟨rfl, rfl, rfl, Option.isSome_map, custodyOf_going alive rfl, rfl, rfl, rfl⟩
  | crashed | left => exact ⟨quiet, fun _ _ => nofun, fun _ => nofun⟩
  | consumed peer later bytes present =>
      exact quieted.through ⟨rfl, rfl, rfl, by simp [present], rfl, rfl, rfl, rfl⟩
  | untracked present => exact ⟨quiet, fun _ => nofun, joined⟩
  | asked removal strayed missed =>
      refine ⟨quiet, ?_, ?_⟩
      · intro _ _
        rw [custodyOf_map_pass]
        split <;> simp [*]
      · intro call alive
        have slipped := joined call (by simpa using alive)
        simp only [Record.slipped, Bool.or_eq_true] at slipped ⊢
        exact slipped.imp_left Or.inl
  | kept wire later found removal forsaken =>
      refine ⟨quiet, ?_, ?_⟩
      · intro call present
        rw [custodyOf_map_pass]
        split
        · simp
        · exact free call present
      · intro call alive
        exact joined call (by simpa using alive)
  | opened call => exact .of_serving rfl
  | listed call waits stage =>
      refine ⟨fun _ => ⟨waits, stage⟩, ?_, ?_⟩
      · rintro (collecting | waiting | closing) present
        · simp [present] at collecting
        · cases waiting
        · cases closing
      · rintro (closing | resting) <;> contradiction
  | collected listed call =>
      refine ⟨fun _ => quiet (by simp [call]), ?_, ?_⟩
      · intro _ _
        rw [custodyOf_map_pass]
        split <;> simp [*]
      · rintro (closing | resting) <;> contradiction
  | gathered call =>
      refine ⟨fun _ => quiet (by simp [call]), fun _ => free (Or.inl call), ?_⟩
      rintro (closing | resting) <;> contradiction
  | drained call =>
      refine ⟨quiet, ?_, ?_⟩
      · intro _ present
        rw [custodyOf_map_pass]
        split
        · simp
        · exact free (Or.inr (Or.inl call)) present
      · rw [call]
        rintro (closing | resting) <;> contradiction
  | searched call found empty =>
      refine ⟨fun _ => quiet (by simp [call]), fun _ => free (Or.inr (Or.inl call)), ?_⟩
      intro _ alive
      rcases traced.slipped quieted call found empty alive with strayed | removed
      · simp [Record.slipped, strayed]
      · simp [Record.slipped, removed]
  | closed call =>
      refine ⟨fun _ => quiet (by simp [call]), ?_, fun _ => joined (Or.inl call)⟩
      rintro (collecting | waiting | closing) <;> contradiction

/-! ## Workers that strayed -/

theorem Unsought.through (unsought : c.Unsought) (still : c.Still later) : later.Unsought := by
  obtain ⟨call, _, stage, _, custody, removal, strayed, _⟩ := still
  obtain ⟨storing, unasked, left⟩ := unsought
  constructor
  · rwa [stage, custody]
  · rwa [strayed, removal, call]
  · rwa [strayed, custody]

/-- A connection that has a peer did not stray. -/
theorem Placed.unstrayed (placed : c.Placed) (tracked : c.session.isSome) :
    c.record.strayed = false := by
  have kept := placed.unslipped (Or.inr (Or.inr tracked))
  simp only [Record.slipped, Bool.or_eq_false_iff] at kept
  exact kept.1

theorem Turn.unsought (turn : Turn own c later) (placed : c.Placed) (traced : c.Traced)
    (quieted : c.Quieted) (unsought : c.Unsought) : later.Unsought := by
  have storing := unsought.storing
  have unasked := unsought.unasked
  have remaining := unsought.left
  cases turn with
  | rest | established | touched | sent | arrived | finished | abandoned | consumed =>
      exact ⟨storing, unasked, remaining⟩
  | accepted | refused | registered | unwelcome | unserved =>
      exact ⟨nofun, unasked, remaining⟩
  | replaced wire later serving found present forsaken =>
      have unremoved := placed.tracked present
      obtain ⟨unseized, undetached⟩ := traced.tracked present
      refine ⟨storing, fun _ => ⟨by simp [unremoved], by simp [serving]⟩,
        fun _ => ⟨unseized, undetached, fun place => ?_⟩⟩
      have waited := traced.awaited place
      simp [serving] at waited
  | served worker stage custody phase =>
      have place : custodyOf (some worker) = some .unstored := congrArg some custody
      refine ⟨fun _ other same => Option.some.inj (same.symm.trans place), unasked, fun _ => ?_⟩
      rw [place]
      simp
  | stored stage => constructor <;> grind [custodyOf_map_pass]
  | moved _ _ _ _ _ alive | received _ _ _ _ _ alive | ended _ _ _ alive =>
      exact unsought.through ⟨rfl, rfl, rfl, rfl, custodyOf_going alive rfl, rfl, rfl, rfl⟩
  | pushed worker chunk stepped alive =>
      exact unsought.through
        ⟨rfl, rfl, rfl, Option.isSome_map, custodyOf_going alive rfl, rfl, rfl, rfl⟩
  | crashed | left => exact ⟨fun _ _ => nofun, unasked, fun _ => ⟨nofun, nofun, nofun⟩⟩
  | untracked present =>
      have kept := placed.unstrayed present
      exact ⟨storing, fun astray => (nomatch kept.symm.trans astray), remaining⟩
  | asked removal strayed missed =>
      -- Before, the peer was to be asked, so the worker did not stray before either.
      have before : c.record.strayed = false :=
        Bool.eq_false_iff.2 fun astray => (unasked astray).1 removal
      have busy : strayed = true → c.call = .serving := fun astray =>
        quieted.serving (Or.inr (by rcases missed.1 astray with stage | stage <;> simp [stage]))
      have greeted := placed.greeted
      constructor <;> grind [custodyOf_map_pass, custodyOf_none]
  | kept wire later found removal forsaken => constructor <;> grind [custodyOf_map_pass]
  | opened call => exact ⟨storing, fun astray => ⟨(unasked astray).1, nofun⟩, remaining⟩
  | listed call waits stage =>
      refine ⟨storing, fun astray => ⟨(unasked astray).1, fun listed => ?_⟩, remaining⟩
      have kept := placed.unstrayed (Call.collecting.inj listed)
      cases kept.symm.trans astray
  | collected listed call =>
      have before : c.record.strayed = false :=
        Bool.eq_false_iff.2 fun astray => (unasked astray).2 call
      have absent := (quieted.still (by simp [call])).2
      constructor <;> grind
  | gathered | searched | closed =>
      exact ⟨storing, fun astray => ⟨(unasked astray).1, nofun⟩, remaining⟩
  | drained call =>
      have absent := (quieted.still (by simp [call])).2
      constructor <;> grind [custodyOf_map_pass]

/-- While the server rests, no worker slips and none comes to be. -/
theorem Turn.resting (turn : Turn own c later) (quieted : c.Quieted) (call : c.call = .resting)
    (still : later.call = .resting) :
    later.record.slipped = c.record.slipped ∧ (c.worker = none → later.worker = none) := by
  obtain ⟨waits, absent⟩ := quieted.still (by simp [call])
  cases turn with
  | moved worker phase wire later found alive | received worker wire chunk rest found alive
  | ended worker wire found alive | pushed worker chunk stepped alive =>
      exact ⟨rfl, fun gone => nomatch alive.symm.trans gone⟩
  | crashed | left => exact ⟨rfl, fun _ => rfl⟩
  | replaced wire later serving => cases call.symm.trans serving
  | served worker stage => cases absent.symm.trans stage
  | asked removal strayed missed =>
      have unmissed : strayed = false := by
        refine Bool.eq_false_iff.2 fun astray => ?_
        rcases missed.1 astray with stage | stage
        · cases absent.symm.trans stage
        · cases absent.symm.trans stage
      simp [Record.slipped, unmissed]
  | stored | kept | collected | drained => exact ⟨rfl, fun gone => by simp [gone]⟩
  | searched => cases still
  | _ => exact ⟨rfl, id⟩

end Connection
end Tcp
end Framelink
