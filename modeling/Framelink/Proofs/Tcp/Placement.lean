import Framelink.Proofs.Tcp.Connection

/-!
# Where a connection can be

A connection passes from its listener to the acceptor, from there to a worker, and
never back: whatever waits to be accepted has no peer, no worker and no history.  As
long as somebody is bound to close the near end of its wire, that end is open, and
it is open no longer than that, unless a callback panicked.
-/

namespace Framelink
namespace Tcp
namespace Connection

/-- A connection is in one place at a time. -/
structure Placed (c : Connection) : Prop where
  unmade : c.wire = none →
    c.waits = false ∧ c.stage = .absent ∧ c.session = none ∧ c.worker = none ∧
      c.removal = none ∧ c.record = .blank
  fresh : c.waits = true ∨ c.stage = .preparing →
    c.session = none ∧ c.worker = none ∧ c.removal = none
  waiting : c.waits = true → c.stage = .absent
  greeted : c.stage = .greeting → c.worker = none
  tracked : c.session.isSome → c.removal = none
  unslipped : c.waits = true ∨ c.stage = .preparing ∨ c.session.isSome →
    c.record.slipped = false

/-- The near end of a connection is open as long as somebody is bound to close it. -/
structure Held (c : Connection) : Prop where
  near : ∀ wire, c.wire = some wire →
    c.waits = true ∨ c.stage = .preparing ∨ c.stage = .greeting ∨ c.worker.isSome →
      wire.near.isOpen = true
  bound : ∀ wire, c.wire = some wire → wire.near.isOpen = true →
    c.waits = true ∨ c.stage = .preparing ∨ c.stage = .greeting ∨ c.worker.isSome ∨
      c.record.panicked = true
  peer : ∀ wire peer, c.wire = some wire → c.session = some peer → peer.isOpen = true →
    wire.near.isOpen = true

variable {own : Bool} {c later : Connection}

/-- A connection that the acceptor is busy with was established. -/
theorem Placed.made (placed : c.Placed) (busy : c.stage ≠ .absent) : c.wire ≠ none := by
  intro absent
  obtain ⟨_, stage, _⟩ := placed.unmade absent
  exact busy stage

/-- A connection that has a worker was established. -/
theorem Placed.made_of_worker (placed : c.Placed) {worker : Worker}
    (alive : c.worker = some worker) : c.wire ≠ none := by
  intro absent
  obtain ⟨_, _, _, gone, _⟩ := placed.unmade absent
  cases gone.symm.trans alive

/-- A connection that has a peer was established. -/
theorem Placed.made_of_session (placed : c.Placed) (tracked : c.session.isSome) :
    c.wire ≠ none := by
  intro absent
  obtain ⟨_, _, none, _⟩ := placed.unmade absent
  rw [none] at tracked
  cases tracked

/-- A connection that the acceptor is busy with waits no longer. -/
theorem Placed.taken (placed : c.Placed) (busy : c.stage ≠ .absent) : c.waits ≠ true :=
  fun waits => busy (placed.waiting waits)

/-- A connection that goes on from the acceptor is past its beginnings. -/
theorem Placed.past (placed : c.Placed) (busy : c.stage ≠ .absent) {stage : Stage}
    (passed : stage ≠ .preparing) : ¬ (c.waits = true ∨ stage = .preparing) := by
  rintro (waits | preparing)
  · exact placed.taken busy waits
  · exact passed preparing

theorem Placed.past_of_worker (placed : c.Placed) {worker : Worker}
    (alive : c.worker = some worker) : ¬ (c.waits = true ∨ c.stage = .preparing) := by
  intro early
  obtain ⟨_, gone, _⟩ := placed.fresh early
  cases gone.symm.trans alive

theorem Placed.past_of_session (placed : c.Placed) (tracked : c.session.isSome) :
    ¬ (c.waits = true ∨ c.stage = .preparing) := by
  intro early
  obtain ⟨none, _, _⟩ := placed.fresh early
  rw [none] at tracked
  cases tracked

theorem Placed.made_of_removal (placed : c.Placed) {begun : Bool}
    (removal : c.removal = some begun) : c.wire ≠ none := by
  intro absent
  obtain ⟨_, _, _, _, none, _⟩ := placed.unmade absent
  cases removal.symm.trans none

theorem Placed.past_of_removal (placed : c.Placed) {begun : Bool}
    (removal : c.removal = some begun) : ¬ (c.waits = true ∨ c.stage = .preparing) := by
  intro early
  obtain ⟨_, _, none⟩ := placed.fresh early
  cases removal.symm.trans none

/-- Past its beginnings a connection is in one place unless it has a worker before its peer
was greeted, or a peer that is being removed or that slipped. -/
theorem Placed.of_past (made : c.wire ≠ none) (past : ¬ (c.waits = true ∨ c.stage = .preparing))
    (greeted : c.stage = .greeting → c.worker = none)
    (tracked : c.session.isSome → c.removal = none)
    (unslipped : c.session.isSome → c.record.slipped = false) : c.Placed where
  unmade := fun absent => absurd absent made
  fresh := fun early => absurd early past
  waiting := fun waits => absurd (Or.inl waits) past
  greeted := greeted
  tracked := tracked
  unslipped := fun present => unslipped ((or_assoc.2 present).resolve_left past)

/-- A connection with a worker goes on in one place, with the worker or without it. -/
theorem Placed.goes_on (placed : c.Placed) {worker : Worker} (alive : c.worker = some worker)
    (made : later.wire ≠ none) (waits : later.waits = c.waits) (stage : later.stage = c.stage)
    (removal : later.removal = c.removal) (session : later.session.isSome = c.session.isSome)
    (slipped : later.record.slipped = c.record.slipped) : later.Placed := by
  have past := placed.past_of_worker alive
  rw [← waits, ← stage] at past
  refine .of_past made past ?_ ?_ ?_
  · intro greeting
    cases alive.symm.trans (placed.greeted (stage.symm.trans greeting))
  · rw [session, removal]
    exact placed.tracked
  · rw [session, slipped]
    exact fun present => placed.unslipped (Or.inr (Or.inr present))

theorem Turn.placed (turn : Turn own c later) (placed : c.Placed) : later.Placed := by
  have ⟨unmade, fresh, waiting, greeted, tracked, unslipped⟩ := placed
  have still (present : c.session.isSome) : c.record.slipped = false :=
    unslipped (Or.inr (Or.inr present))
  cases turn with
  | rest | opened | listed | gathered | closed =>
      exact ⟨unmade, fresh, waiting, greeted, tracked, unslipped⟩
  | touched | arrived | finished => exact ⟨nofun, fresh, waiting, greeted, tracked, unslipped⟩
  | sent wire bytes found =>
      exact ⟨fun absent => (nomatch found.symm.trans absent), fresh, waiting, greeted, tracked,
        unslipped⟩
  | established address absent =>
      obtain ⟨_, stage, session, worker, removal, record⟩ := unmade absent
      refine ⟨nofun, fun _ => ⟨session, worker, removal⟩, fun _ => stage, greeted, tracked,
        ?_⟩
      intro _
      rw [record]
      rfl
  | abandoned wire found waits =>
      exact ⟨nofun, fun _ => fresh (Or.inl waits), nofun, greeted, tracked,
        fun _ => unslipped (Or.inl waits)⟩
  | accepted waits =>
      refine ⟨?_, fun _ => fresh (Or.inl waits), nofun, nofun, tracked,
        fun _ => unslipped (Or.inl waits)⟩
      intro absent
      cases waits.symm.trans (unmade absent).1
  | refused wire found stage =>
      exact ⟨nofun, fun _ => fresh (Or.inr stage), fun _ => rfl, nofun, tracked,
        fun _ => unslipped (Or.inr (Or.inl stage))⟩
  | registered peer stage empty =>
      obtain ⟨_, worker, removal⟩ := fresh (Or.inr stage)
      have busy : c.stage ≠ .absent := by simp [stage]
      exact .of_past (placed.made busy) (placed.past busy nofun) (fun _ => worker)
        (fun _ => removal) (fun _ => unslipped (Or.inr (Or.inl stage)))
  | replaced wire later serving found present forsaken =>
      exact .of_past nofun (placed.past_of_session present) greeted nofun nofun
  | unwelcome wire later found stage forsaken =>
      have busy : c.stage ≠ .absent := by simp [stage]
      exact .of_past nofun (placed.past busy nofun) nofun tracked still
  | unserved wire found stage =>
      have busy : c.stage ≠ .absent := by simp [stage]
      exact .of_past nofun (placed.past busy nofun) nofun (by simpa using tracked)
        (by simpa using still)
  | served worker stage custody phase =>
      have busy : c.stage ≠ .absent := by simp [stage]
      exact .of_past (placed.made busy) (placed.past busy nofun) nofun tracked still
  | stored stage =>
      have busy : c.stage ≠ .absent := by simp [stage]
      exact .of_past (placed.made busy) (placed.past busy nofun) nofun tracked still
  | moved _ _ _ _ _ alive | received _ _ _ _ _ alive | crashed _ _ _ _ alive =>
      exact placed.goes_on alive nofun rfl rfl rfl rfl rfl
  | ended worker wire found alive =>
      exact placed.goes_on alive (placed.made_of_worker alive) rfl rfl rfl rfl rfl
  | pushed worker chunk stepped alive phase =>
      exact placed.goes_on alive (placed.made_of_worker alive) rfl rfl rfl (by simp) rfl
  | left worker wire found alive hand =>
      exact placed.goes_on alive nofun rfl rfl rfl (by simp) rfl
  | consumed peer later bytes present contents =>
      have before : c.session.isSome := by simp [present]
      exact .of_past (placed.made_of_session before) (placed.past_of_session before) greeted
        (fun _ => tracked before) (fun _ => still before)
  | untracked present =>
      exact .of_past (placed.made_of_session present) (placed.past_of_session present) greeted
        nofun nofun
  | asked removal strayed missed =>
      have gone : ¬ c.session.isSome := by
        intro present
        cases removal.symm.trans (tracked present)
      exact .of_past (placed.made_of_removal removal) (placed.past_of_removal removal)
        (fun stage => by simp [greeted stage]) (fun present => absurd present gone)
        (fun present => absurd present gone)
  | kept wire later found removal forsaken =>
      exact .of_past nofun (placed.past_of_removal removal) (fun stage => by simp [greeted stage])
        (fun _ => rfl) still
  | collected | drained =>
      refine ⟨?_, ?_, waiting, ?_, tracked, unslipped⟩
      · intro absent
        obtain ⟨waits, stage, session, worker, removal, record⟩ := unmade absent
        exact ⟨waits, stage, session, by simp [worker], removal, record⟩
      · intro early
        obtain ⟨session, worker, removal⟩ := fresh early
        exact ⟨session, by simp [worker], removal⟩
      · intro stage
        simp [greeted stage]
  | searched call found =>
      refine ⟨?_, fresh, waiting, greeted, tracked, ?_⟩
      · intro absent
        obtain ⟨waits, stage, session, worker, removal, record⟩ := unmade absent
        refine ⟨waits, stage, session, worker, removal, ?_⟩
        rw [removal, record]
        rfl
      · intro present
        have free : c.removal = none := by
          rcases present with waits | preparing | present
          · exact (fresh (Or.inl waits)).2.2
          · exact (fresh (Or.inr preparing)).2.2
          · exact tracked present
        rw [free]
        simpa [Record.slipped] using unslipped present

/-! ## Who closes the near end -/

theorem isOpen_closeNear (wire : Wire) : wire.closeNear.near.isOpen = false := by
  unfold Wire.closeNear
  split
  · rfl
  · next shut => simpa using shut

theorem isOpen_shutNear (wire : Wire) : wire.shutNear.near.isOpen = false := by
  unfold Wire.shutNear
  split
  · rfl
  · next shut => simpa using shut

theorem ForsakenAs.near {wire later : Wire} {held : Prop}
    (forsaken : ForsakenAs wire later held) (kept : held) : later.near = wire.near := by
  obtain rfl | ⟨free, _⟩ := forsaken
  · rfl
  · exact absurd kept free

theorem ForsakenAs.open_before {wire later : Wire} {held : Prop}
    (forsaken : ForsakenAs wire later held) (near : later.near.isOpen = true) :
    wire.near.isOpen = true := by
  obtain rfl | ⟨_, rfl⟩ := forsaken
  · exact near
  · cases (isOpen_closeNear wire).symm.trans near

theorem Turn.near (turn : Turn own c later) (placed : c.Placed) (held : c.Held)
    (wire : Wire) (found : later.wire = some wire)
    (responsible : later.waits = true ∨ later.stage = .preparing ∨ later.stage = .greeting ∨
      later.worker.isSome) :
    wire.near.isOpen = true := by
  have near := held.near
  cases turn with
  | rest | sent | untracked | consumed | opened | listed | gathered | searched | closed =>
      exact near wire found responsible
  | established =>
      cases found
      rfl
  | touched before after present alike =>
      cases found
      rw [alike.near]
      exact near before present responsible
  | arrived before count present isOpen =>
      cases found
      exact isOpen
  | finished before after present inbound same =>
      cases found
      rw [same]
      exact near before present responsible
  | abandoned before present waits =>
      obtain ⟨_, gone, _⟩ := placed.fresh (Or.inl waits)
      have absent := placed.waiting waits
      simp [absent, gone] at responsible
  | accepted waits => exact near wire found (Or.inl waits)
  | refused before present stage =>
      obtain ⟨_, gone, _⟩ := placed.fresh (Or.inr stage)
      have taken := placed.taken (by simp [stage])
      simp [taken, gone] at responsible
  | registered peer stage => exact near wire found (Or.inr (Or.inl stage))
  | replaced before after serving present tracked forsaken =>
      cases found
      have busy := (or_assoc.2 responsible).resolve_left (placed.past_of_session tracked)
      rw [forsaken.near busy.symm]
      exact near before present (Or.inr (Or.inr busy))
  | unwelcome before after present stage | unserved before present stage =>
      have taken := placed.taken (by simp [stage])
      simp [taken, placed.greeted stage] at responsible
  | served worker stage => exact near wire found (Or.inr (Or.inr (Or.inl stage)))
  | stored stage =>
      rcases responsible with waits | preparing | greeting | alive
      · exact near wire found (Or.inl waits)
      · cases preparing
      · cases greeting
      · exact near wire found (Or.inr (Or.inr (Or.inr (by simpa using alive))))
  | moved worker phase before after present alive staying hand empty alike =>
      cases found
      rw [alike.near]
      exact near before present (Or.inr (Or.inr (Or.inr (by simp [alive]))))
  | received worker before chunk rest present alive =>
      cases found
      exact near before present (Or.inr (Or.inr (Or.inr (by simp [alive]))))
  | ended worker before present alive | pushed worker chunk stepped alive =>
      exact near wire found (Or.inr (Or.inr (Or.inr (by simp [alive]))))
  | crashed worker before after present alive | left worker before present alive =>
      rcases (or_assoc.2 responsible).resolve_left (placed.past_of_worker alive) with
        greeting | none
      · cases alive.symm.trans (placed.greeted greeting)
      · cases none
  | asked | collected | drained => exact near wire found (by simpa using responsible)
  | kept before after present removal forsaken =>
      cases found
      have busy : c.stage = .greeting ∨ c.worker.isSome := by
        simpa using (or_assoc.2 responsible).resolve_left (placed.past_of_removal removal)
      rw [forsaken.near busy.symm]
      exact near before present (Or.inr (Or.inr busy))

theorem Turn.bound (turn : Turn own c later) (held : c.Held)
    (wire : Wire) (found : later.wire = some wire) (near : wire.near.isOpen = true) :
    later.waits = true ∨ later.stage = .preparing ∨ later.stage = .greeting ∨
      later.worker.isSome ∨ later.record.panicked = true := by
  have bound := held.bound
  cases turn with
  | rest | sent | untracked | consumed | opened | listed | gathered | searched | closed =>
      exact bound wire found near
  | established => exact Or.inl rfl
  | touched before after present alike =>
      cases found
      exact bound before present (alike.near.symm.trans near)
  | arrived before count present isOpen =>
      cases found
      exact bound before present isOpen
  | finished before after present inbound same =>
      cases found
      rw [same] at near
      exact bound before present near
  | abandoned before present | refused before present =>
      cases found
      cases (isOpen_closeNear before).symm.trans near
  | unserved before present | left worker before present =>
      cases found
      cases (isOpen_shutNear before).symm.trans near
  | accepted => exact Or.inr (Or.inl rfl)
  | registered => exact Or.inr (Or.inr (Or.inl rfl))
  | unwelcome | crashed => exact Or.inr (Or.inr (Or.inr (Or.inr rfl)))
  | served | moved | received | ended | pushed => exact Or.inr (Or.inr (Or.inr (Or.inl rfl)))
  | stored stage =>
      rcases bound wire found near with waits | preparing | greeting | alive | panicked
      · exact Or.inl waits
      · cases stage.symm.trans preparing
      · cases stage.symm.trans greeting
      · exact Or.inr (Or.inr (Or.inr (Or.inl (by simpa using alive))))
      · exact Or.inr (Or.inr (Or.inr (Or.inr panicked)))
  | asked | collected | drained => simpa using bound wire found near
  | replaced before after serving present tracked forsaken =>
      cases found
      exact bound before present (forsaken.open_before near)
  | kept before after present removal forsaken =>
      cases found
      simpa using bound before present (forsaken.open_before near)

theorem Turn.peer (turn : Turn own c later) (placed : c.Placed) (held : c.Held)
    (wire : Wire) (peer : Peer Line) (found : later.wire = some wire)
    (tracked : later.session = some peer) (isOpen : peer.isOpen = true) :
    wire.near.isOpen = true := by
  have openPeer := held.peer
  cases turn with
  | rest | sent | accepted | served | stored | ended | asked | opened | listed | collected
  | gathered | drained | searched | closed => exact openPeer wire peer found tracked isOpen
  | established address absent =>
      cases found
      rfl
  | touched before after present alike | moved worker phase before after present _ _ _ _ alike =>
      cases found
      rw [alike.near]
      exact openPeer before peer present tracked isOpen
  | arrived before count present near =>
      cases found
      exact near
  | finished before after present inbound same =>
      cases found
      rw [same]
      exact openPeer before peer present tracked isOpen
  | abandoned before present waits =>
      obtain ⟨none, _⟩ := placed.fresh (Or.inl waits)
      cases none.symm.trans tracked
  | refused before present stage =>
      obtain ⟨none, _⟩ := placed.fresh (Or.inr stage)
      cases none.symm.trans tracked
  | registered added stage => exact held.near wire found (Or.inr (Or.inl stage))
  | replaced | untracked => cases tracked
  | unwelcome before after present stage forsaken
  | crashed worker before after present alive hand forsaken =>
      cases found
      have kept : c.session.isSome := by
        rw [show c.session = some peer from tracked]
        rfl
      rw [forsaken.near kept]
      exact openPeer before peer present tracked isOpen
  | unserved | left =>
      obtain ⟨before, _, rfl⟩ := Option.map_eq_some_iff.1 tracked
      cases isOpen
  | received worker before chunk rest present =>
      cases found
      exact openPeer before peer present tracked isOpen
  | pushed worker chunk _ alive phase =>
      obtain ⟨before, present, rfl⟩ := Option.map_eq_some_iff.1 tracked
      exact openPeer wire before found present isOpen
  | consumed before after bytes present contents still =>
      cases tracked
      exact openPeer wire before found present (still.symm.trans isOpen)
  | kept before after present removal forsaken =>
      have occupied : c.session.isSome := by
        rw [show c.session = _ from tracked]
        rfl
      cases (placed.tracked occupied).symm.trans removal

theorem Turn.held (turn : Turn own c later) (placed : c.Placed) (held : c.Held) : later.Held :=
  ⟨turn.near placed held, turn.bound held, turn.peer placed held⟩

end Connection
end Tcp
end Framelink
