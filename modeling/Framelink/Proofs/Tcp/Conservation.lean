import Framelink.Proofs.Tcp.Placement

/-!
# No byte of a connection is lost, doubled or moved

Every byte that arrived for a tracked peer is in one of four places, in order of
arrival: with the application, in the inbox, in the hand of the worker, on the wire.
A receive takes bytes from the wire into the hand, a push from the hand into the
inbox, a consuming read or a clear from the inbox to the application; each takes
them from the front of one place to the back of the next.
-/

namespace Framelink
namespace Tcp
namespace Connection

/-- What was taken, is queued, is in hand and waits on the wire is what arrived. -/
structure Conserved (c : Connection) : Prop where
  counted : ∀ wire peer, c.wire = some wire → c.session = some peer →
    c.record.taken ++ peer.inbox.contents ++ handOf c.worker ++ wire.inbound = c.record.arrived
  untouched : ∀ wire, c.wire = some wire → c.waits = true ∨ c.stage = .preparing →
    c.record.taken = [] ∧ wire.inbound = c.record.arrived
  settled : ∀ wire, c.wire = some wire → wire.far ≠ .connected → c.record.transit = []
  served : c.record.ended = true →
    c.waits = false ∧ c.stage ≠ .preparing ∧ c.stage ≠ .greeting ∧
      ∀ worker, c.worker = some worker → worker.phase = .leaving
  emptied : c.record.ended = true → ∀ wire, c.wire = some wire →
    wire.far ≠ .connected ∧ wire.inbound = []

variable {own : Bool} {c later : Connection}

theorem handOf_eq_nil {worker : Worker} (phase : worker.phase = .leaving) :
    handOf (some worker) = [] := by
  simp [handOf, Worker.hand, phase]

@[simp] theorem inbound_closeNear (wire : Wire) : wire.closeNear.inbound = wire.inbound := by
  unfold Wire.closeNear
  split <;> rfl

@[simp] theorem inbound_shutNear (wire : Wire) : wire.shutNear.inbound = wire.inbound := by
  unfold Wire.shutNear
  split <;> rfl

@[simp] theorem far_closeNear (wire : Wire) : wire.closeNear.far = wire.far := by
  unfold Wire.closeNear
  split <;> rfl

@[simp] theorem far_shutNear (wire : Wire) : wire.shutNear.far = wire.far := by
  unfold Wire.shutNear
  split <;> rfl

theorem ForsakenAs.inbound {wire later : Wire} {held : Prop}
    (forsaken : ForsakenAs wire later held) : later.inbound = wire.inbound := by
  obtain rfl | ⟨_, rfl⟩ := forsaken
  · rfl
  · exact inbound_closeNear wire

theorem ForsakenAs.far {wire later : Wire} {held : Prop}
    (forsaken : ForsakenAs wire later held) : later.far = wire.far := by
  obtain rfl | ⟨_, rfl⟩ := forsaken
  · rfl
  · exact far_closeNear wire

/-! ## One turn -/

theorem Turn.counted (turn : Turn own c later) (placed : c.Placed) (conserved : c.Conserved)
    (wire : Wire) (peer : Peer Line) (found : later.wire = some wire)
    (tracked : later.session = some peer) :
    later.record.taken ++ peer.inbox.contents ++ handOf later.worker ++ wire.inbound =
      later.record.arrived := by
  obtain ⟨unmade, fresh, waiting, greeted, removed, _⟩ := placed
  have counted := conserved.counted
  have untouched := conserved.untouched
  cases turn with
  | arrived before count present near =>
      cases found
      have kept := counted before peer present tracked
      simp only [← kept, List.append_assoc]
  | received worker before chunk rest present alive staying hand inbound =>
      cases found
      have kept := counted before peer present tracked
      rw [alive, handOf, hand, inbound] at kept
      simpa [handOf, Worker.hand] using kept
  | pushed worker chunk stepped alive phase =>
      obtain ⟨before, present, rfl⟩ := Option.map_eq_some_iff.1 tracked
      have kept := counted wire before found present
      rw [alive] at kept
      simpa [handOf, Worker.hand, phase, pushedPeer] using kept
  | consumed before later bytes present contents still =>
      cases tracked
      have kept := counted wire before found present
      rw [contents] at kept
      simpa using kept
  | registered added stage empty =>
      cases tracked
      obtain ⟨taken, inbound⟩ := untouched wire found (Or.inr stage)
      obtain ⟨_, worker, _⟩ := fresh (Or.inr stage)
      simp [taken, empty, worker, handOf, inbound]
  | unserved before present stage =>
      cases found
      obtain ⟨old, known, rfl⟩ := Option.map_eq_some_iff.1 tracked
      simpa [closedPeer] using counted before old present known
  | left worker before present alive hand =>
      cases found
      obtain ⟨old, known, rfl⟩ := Option.map_eq_some_iff.1 tracked
      have kept := counted before old present known
      rw [alive] at kept
      simpa [closedPeer, handOf, hand] using kept
  | crashed worker before shut present alive hand forsaken =>
      cases found
      have kept := counted before peer present tracked
      rw [alive] at kept
      simpa [handOf, hand, forsaken.inbound] using kept
  | moved worker phase before shut present alive staying hand empty alike =>
      cases found
      have kept := counted before peer present tracked
      rw [alive] at kept
      simpa [handOf, hand, empty, alike.inbound] using kept
  | ended worker before present alive hand inbound far =>
      have kept := counted wire peer found tracked
      rw [alive, handOf, hand] at kept
      simpa [handOf, Worker.hand] using kept
  | served worker stage custody phase =>
      have kept := counted wire peer found tracked
      rw [greeted stage] at kept
      simpa [handOf, Worker.hand, phase] using kept
  | rest | sent | accepted | opened | listed | gathered | searched | closed =>
      exact counted wire peer found tracked
  | established address absent =>
      obtain ⟨_, _, none, _⟩ := unmade absent
      cases none.symm.trans tracked
  | touched before after present alike =>
      cases found
      rw [alike.inbound]
      exact counted before peer present tracked
  | finished before after present inbound =>
      cases found
      rw [inbound]
      exact counted before peer present tracked
  | abandoned before present | refused before present =>
      cases found
      rw [inbound_closeNear]
      exact counted before peer present tracked
  | unwelcome before after present stage forsaken =>
      cases found
      rw [forsaken.inbound]
      exact counted before peer present tracked
  | replaced | untracked => cases tracked
  | stored | asked | collected | drained =>
      rw [handOf_map_pass]
      exact counted wire peer found tracked
  | kept before after present removal forsaken =>
      cases found
      rw [handOf_map_pass, forsaken.inbound]
      exact counted before peer present tracked

theorem Turn.untouched (turn : Turn own c later) (placed : c.Placed) (conserved : c.Conserved)
    (wire : Wire) (found : later.wire = some wire)
    (early : later.waits = true ∨ later.stage = .preparing) :
    later.record.taken = [] ∧ wire.inbound = later.record.arrived := by
  have untouched := conserved.untouched
  cases turn with
  | rest | sent | ended | pushed | untracked | asked | opened | listed | collected | gathered
  | drained | searched | closed => exact untouched wire found early
  | established address absent serving =>
      cases found
      obtain ⟨_, _, _, _, _, record⟩ := placed.unmade absent
      rw [record]
      exact ⟨rfl, rfl⟩
  | touched before after present alike =>
      cases found
      rw [alike.inbound]
      exact untouched before present early
  | arrived before count present near =>
      cases found
      obtain ⟨taken, inbound⟩ := untouched before present early
      exact ⟨taken, congrArg (· ++ _) inbound⟩
  | finished before after present inbound =>
      cases found
      rw [inbound]
      exact untouched before present early
  | abandoned before present waits =>
      cases found
      rw [inbound_closeNear]
      exact untouched before present (Or.inl waits)
  | accepted waits => exact untouched wire found (Or.inl waits)
  | refused before present stage =>
      cases found
      rw [inbound_closeNear]
      exact untouched before present (Or.inr stage)
  | registered peer stage => exact untouched wire found (Or.inr stage)
  | replaced before after serving present tracked =>
      exact absurd early (placed.past_of_session tracked)
  | unwelcome before after present stage | unserved before present stage | stored stage =>
      exact absurd early (placed.past (by simp [stage]) (nofun : Stage.absent ≠ .preparing))
  | served worker stage =>
      exact absurd early (placed.past (by simp [stage]) (nofun : Stage.storing ≠ .preparing))
  | moved worker phase before after present alive | received worker before chunk rest present alive
  | crashed worker before after present alive | left worker before present alive =>
      exact absurd early (placed.past_of_worker alive)
  | consumed peer after bytes tracked =>
      exact absurd early (placed.past_of_session (by simp [tracked]))
  | kept before after present removal forsaken =>
      cases found
      rw [forsaken.inbound]
      exact untouched before present early

theorem Turn.settled (turn : Turn own c later) (conserved : c.Conserved)
    (wire : Wire) (found : later.wire = some wire) (far : wire.far ≠ .connected) :
    later.record.transit = [] := by
  have settled := conserved.settled
  cases turn with
  | rest | accepted | registered | served | stored | ended | pushed | consumed | untracked | asked
  | opened | listed | collected | gathered | drained | searched | closed =>
      exact settled wire found far
  | established address absent serving =>
      cases found
      exact absurd rfl far
  | touched before after present alike | moved worker phase before after present _ _ _ _ alike =>
      cases found
      exact settled before present fun connected => far (alike.far.2 connected)
  | sent before bytes present connected =>
      cases present.symm.trans found
      exact absurd connected far
  | arrived before count present near =>
      cases found
      simp [settled before present far]
  | finished => rfl
  | abandoned before present | refused before present =>
      cases found
      rw [far_closeNear] at far
      exact settled before present far
  | unserved before present | left _ before present =>
      cases found
      rw [far_shutNear] at far
      exact settled before present far
  | replaced before after _ present _ forsaken | unwelcome before after present _ forsaken
  | crashed _ before after present _ _ forsaken | kept before after present _ forsaken =>
      cases found
      rw [forsaken.far] at far
      exact settled before present far
  | received worker before chunk rest present =>
      cases found
      exact settled before present far

theorem leaving_map_pass {source target : Custody} {worker : Option Worker}
    (leaving : ∀ before, worker = some before → before.phase = .leaving) {after : Worker}
    (alive : worker.map (Worker.pass source target) = some after) : after.phase = .leaving := by
  obtain ⟨before, present, rfl⟩ := Option.map_eq_some_iff.1 alive
  rw [Worker.phase_pass]
  exact leaving before present

theorem Turn.served_out (turn : Turn own c later) (placed : c.Placed) (conserved : c.Conserved)
    (ended : later.record.ended = true) :
    later.waits = false ∧ later.stage ≠ .preparing ∧ later.stage ≠ .greeting ∧
      ∀ worker, later.worker = some worker → worker.phase = .leaving := by
  have served := conserved.served
  cases turn with
  | rest | touched | sent | arrived | finished | replaced | consumed | untracked | opened | listed
  | gathered | searched | closed => exact served ended
  | established address absent serving =>
      obtain ⟨_, _, _, _, _, record⟩ := placed.unmade absent
      rw [record] at ended
      cases ended
  | abandoned wire found waits | accepted waits =>
      obtain ⟨taken, _⟩ := served ended
      cases waits.symm.trans taken
  | refused wire found stage | registered peer stage =>
      obtain ⟨_, prepared, _⟩ := served ended
      exact absurd stage prepared
  | unwelcome wire after found stage | unserved wire found stage | served worker stage =>
      obtain ⟨_, _, greeted, _⟩ := served ended
      exact absurd stage greeted
  | stored stage =>
      obtain ⟨waits, _, _, leaving⟩ := served ended
      exact ⟨waits, nofun, nofun, fun worker => leaving_map_pass leaving⟩
  | asked | kept | collected | drained =>
      obtain ⟨waits, prepared, greeted, leaving⟩ := served ended
      exact ⟨waits, prepared, greeted, fun worker => leaving_map_pass leaving⟩
  | moved worker phase wire after found alive staying
  | received worker wire chunk rest found alive staying =>
      obtain ⟨_, _, _, leaving⟩ := served ended
      exact absurd (leaving worker alive) staying
  | pushed worker chunk stepped alive phase =>
      obtain ⟨_, _, _, leaving⟩ := served ended
      cases phase.symm.trans (leaving worker alive)
  | ended worker wire found alive =>
      have past := placed.past_of_worker alive
      refine ⟨Bool.eq_false_iff.2 fun waits => past (Or.inl waits),
        fun stage => past (Or.inr stage), ?_, ?_⟩
      · intro stage
        cases alive.symm.trans (placed.greeted stage)
      · rintro after ⟨⟩
        rfl
  | crashed | left =>
      obtain ⟨waits, prepared, greeted, _⟩ := served ended
      exact ⟨waits, prepared, greeted, nofun⟩

theorem Turn.emptied (turn : Turn own c later) (placed : c.Placed) (conserved : c.Conserved)
    (ended : later.record.ended = true) (wire : Wire) (found : later.wire = some wire) :
    wire.far ≠ .connected ∧ wire.inbound = [] := by
  have emptied := conserved.emptied
  cases turn with
  | rest | sent | accepted | registered | served | stored | pushed | consumed | untracked | asked
  | opened | listed | collected | gathered | drained | searched | closed =>
      exact emptied ended wire found
  | established address absent serving =>
      obtain ⟨_, _, _, _, _, record⟩ := placed.unmade absent
      rw [record] at ended
      cases ended
  | touched before after present alike | moved worker phase before after present _ _ _ _ alike =>
      cases found
      obtain ⟨far, inbound⟩ := emptied ended before present
      exact ⟨fun connected => far (alike.far.1 connected), alike.inbound.trans inbound⟩
  | arrived before count present near =>
      cases found
      obtain ⟨far, inbound⟩ := emptied ended before present
      simp [far, inbound, conserved.settled before present far]
  | finished before after present inbound near far =>
      cases found
      obtain ⟨_, none⟩ := emptied ended before present
      exact ⟨far, inbound.trans none⟩
  | abandoned before present | refused before present =>
      cases found
      rw [far_closeNear, inbound_closeNear]
      exact emptied ended before present
  | unserved before present | left _ before present =>
      cases found
      rw [far_shutNear, inbound_shutNear]
      exact emptied ended before present
  | replaced before after _ present _ forsaken | unwelcome before after present _ forsaken
  | crashed _ before after present _ _ forsaken | kept before after present _ forsaken =>
      cases found
      rw [forsaken.far, forsaken.inbound]
      exact emptied ended before present
  | received worker before chunk rest present alive staying hand inbound =>
      obtain ⟨_, _, _, leaving⟩ := conserved.served ended
      exact absurd (leaving worker alive) staying
  | ended worker before present alive hand inbound far =>
      cases present.symm.trans found
      exact ⟨far, inbound⟩

theorem Turn.conserved (turn : Turn own c later) (placed : c.Placed) (conserved : c.Conserved) :
    later.Conserved :=
  ⟨turn.counted placed conserved, turn.untouched placed conserved, turn.settled conserved,
    turn.served_out placed conserved, turn.emptied placed conserved⟩

/-! ## What the application sees -/

/-- The bytes that were taken from the inbox of a peer and those that are in it. -/
def delivered (c : Connection) (peer : Peer Line) : Bytes :=
  c.record.taken ++ peer.inbox.contents

/-- What was delivered is a prefix of what was sent. -/
theorem Conserved.delivered_prefix (conserved : c.Conserved) {wire : Wire} {peer : Peer Line}
    (found : c.wire = some wire) (tracked : c.session = some peer) :
    c.delivered peer <+: c.record.sent := by
  refine ⟨handOf c.worker ++ wire.inbound ++ c.record.transit, ?_⟩
  have counted := conserved.counted wire peer found tracked
  unfold delivered Record.sent
  rw [← counted]
  simp only [List.append_assoc]

/-- Once the worker has received the end of the stream, all that was sent is delivered. -/
theorem Conserved.delivered_all (conserved : c.Conserved) {wire : Wire} {peer : Peer Line}
    (found : c.wire = some wire) (tracked : c.session = some peer)
    (ended : c.record.ended = true) :
    c.delivered peer = c.record.sent := by
  have counted := conserved.counted wire peer found tracked
  obtain ⟨far, inbound⟩ := conserved.emptied ended wire found
  obtain ⟨_, _, _, leaving⟩ := conserved.served ended
  have transit := conserved.settled wire found far
  have hand : handOf c.worker = [] := by
    cases alive : c.worker with
    | none => rfl
    | some worker => exact handOf_eq_nil (leaving worker alive)
  unfold delivered Record.sent
  rw [← counted, hand, inbound, transit]
  simp only [List.append_nil]

/-- Only a step of the worker of a connection changes what is delivered there, and only if
the worker has something in its hand; it appends. -/
theorem Turn.delivered (turn : Turn own c later) (placed : c.Placed) {peer before : Peer Line}
    (present : c.session = some before) (tracked : later.session = some peer) :
    (own = false ∨ handOf c.worker = [] → later.delivered peer = c.delivered before) ∧
      c.delivered before <+: later.delivered peer := by
  have fresh := placed.fresh
  cases turn with
  | pushed worker chunk stepped alive phase =>
      obtain ⟨old, known, rfl⟩ := Option.map_eq_some_iff.1 tracked
      cases present.symm.trans known
      have appended : Connection.delivered { c with
            session := c.session.map (pushedPeer chunk)
            worker := some { worker with phase := .confirming chunk } } (pushedPeer chunk before) =
          c.delivered before ++ chunk := by
        simp [Connection.delivered, pushedPeer]
      refine ⟨?_, chunk, appended.symm⟩
      rintro (other | empty)
      · exact absurd (stepped.symm.trans other) (by decide)
      · have hand : chunk = [] := by simpa [alive, handOf, Worker.hand, phase] using empty
        rw [appended, hand, List.append_nil]
  | consumed old new bytes known contents still =>
      cases tracked
      cases present.symm.trans known
      have same : c.record.taken ++ bytes ++ peer.inbox.contents =
          c.record.taken ++ before.inbox.contents := by
        rw [contents, List.append_assoc]
      refine ⟨fun _ => same, [], ?_⟩
      rw [List.append_nil]
      exact same.symm
  | unserved | left =>
      obtain ⟨old, known, rfl⟩ := Option.map_eq_some_iff.1 tracked
      cases present.symm.trans known
      exact ⟨fun _ => rfl, List.prefix_rfl⟩
  | registered added stage empty =>
      obtain ⟨session, _, _⟩ := fresh (Or.inr stage)
      exact absurd (present.symm.trans session) (by simp)
  | replaced | untracked => cases tracked
  | _ =>
      cases present.symm.trans tracked
      exact ⟨fun _ => rfl, List.prefix_rfl⟩

end Connection
end Tcp
end Framelink
