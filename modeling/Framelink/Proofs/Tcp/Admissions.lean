import Framelink.Proofs.Tcp.Gate
import Framelink.Proofs.Tcp.Numbers
import Mathlib.Data.List.Nodup

/-!
# Who gets which number

The acceptor takes connections one at a time: it sets each up and gives it the next number,
or drops it because it cannot be set up.  What comes of the connections in one move is read
off the phases that the acceptor goes between, and the whole of a run is the history of one
newcomer after the other.  From that history come the numbers of all tracked peers.
-/

namespace Framelink
namespace Tcp

/-! ## Histories -/

/-- What happens to a connection where it is admitted. -/
inductive Entrance
  | accepted (wire : Nat)
  /-- It could not be set up. -/
  | dropped (wire : Nat)
  /-- It was given a number and is tracked. -/
  | numbered (id : UInt64) (wire : Nat)
  deriving DecidableEq, Repr

/-- The number that was given out, and the wire that got it. -/
def Entrance.number? : Entrance → Option (UInt64 × Nat)
  | .numbered id wire => some (id, wire)
  | _ => none

/-- The numbers that were given out in a history, and the wires that got them. -/
def admitted (history : List Entrance) : List (UInt64 × Nat) := history.filterMap Entrance.number?

/-- A connection that was accepted, and whether it could not be set up. -/
structure Newcomer where
  wire : Nat
  refused : Bool
  deriving DecidableEq, Repr

/-- The history of connections that were accepted one after the other.  The first that could
be set up gets the next number, and so on without gaps. -/
def history (next : UInt64) : List Newcomer → List Entrance
  | [] => []
  | ⟨wire, true⟩ :: rest => .accepted wire :: .dropped wire :: history next rest
  | ⟨wire, false⟩ :: rest => .accepted wire :: .numbered next wire :: history (next + 1) rest

/-- The number after those that some newcomers are given. -/
def numberAfter (next : UInt64) : List Newcomer → UInt64
  | [] => next
  | ⟨_, true⟩ :: rest => numberAfter next rest
  | ⟨_, false⟩ :: rest => numberAfter (next + 1) rest

theorem admitted_append (early late : List Entrance) :
    admitted (early ++ late) = admitted early ++ admitted late := List.filterMap_append

theorem history_append (next : UInt64) (early late : List Newcomer) :
    history next (early ++ late) =
      history next early ++ history (numberAfter next early) late := by
  induction early generalizing next with
  | nil => rfl
  | cons newcomer rest inductionHypothesis =>
      obtain ⟨wire, refused⟩ := newcomer
      cases refused with
      | true =>
          rw [List.cons_append, history, history, inductionHypothesis]
          rfl
      | false =>
          rw [List.cons_append, history, history, inductionHypothesis]
          rfl

theorem numberAfter_append (next : UInt64) (early late : List Newcomer) :
    numberAfter next (early ++ late) = numberAfter (numberAfter next early) late := by
  induction early generalizing next with
  | nil => rfl
  | cons newcomer rest inductionHypothesis =>
      obtain ⟨wire, refused⟩ := newcomer
      cases refused with
      | true => exact inductionHypothesis next
      | false => exact inductionHypothesis (next + 1)

/-- As long as there are numbers left, those of a history follow one another without gaps. -/
theorem numbers_history (next : UInt64) (newcomers : List Newcomer)
    (few : next.toNat + (admitted (history next newcomers)).length < UInt64.size) :
    (admitted (history next newcomers)).map (fun entry => entry.1.toNat) =
        List.range' next.toNat (admitted (history next newcomers)).length ∧
      (numberAfter next newcomers).toNat =
        next.toNat + (admitted (history next newcomers)).length := by
  induction newcomers generalizing next with
  | nil => exact ⟨rfl, rfl⟩
  | cons newcomer rest inductionHypothesis =>
      obtain ⟨wire, refused⟩ := newcomer
      cases refused with
      | true => exact inductionHypothesis next few
      | false =>
          have first : admitted (history next (⟨wire, false⟩ :: rest)) =
              (next, wire) :: admitted (history (next + 1) rest) := rfl
          rw [first, List.length_cons] at few
          have counted : (next + 1).toNat = next.toNat + 1 := by
            rw [UInt64.toNat_add]
            exact Nat.mod_eq_of_lt (show next.toNat + 1 < 2 ^ 64 by
              rw [UInt64.size] at few
              omega)
          obtain ⟨ids, last⟩ := inductionHypothesis (next + 1) (by rw [counted]; omega)
          rw [first, List.map_cons, ids, List.length_cons, List.range'_succ, counted, numberAfter,
            last, counted]
          exact ⟨rfl, by omega⟩

/-! ## The history of a run -/

/-- What is read off two phases of an acceptor that follow one another. -/
def Acceptor.Phase.entrance? : Acceptor.Phase → Acceptor.Phase → Option Entrance
  | .accepting, .configuring admission => some (.accepted admission.wire)
  | .configuring admission, .looking => some (.dropped admission.wire)
  | .registering admission, .greeting id _ => some (.numbered id admission.wire)
  | _, _ => none

/-- What has happened to the connection that an acceptor is about to number. -/
def Acceptor.Phase.atDoor : Acceptor.Phase → List Entrance
  | .configuring admission | .registering admission => [.accepted admission.wire]
  | _ => []

/-- The phase of the acceptor. -/
def Server.acceptorPhase? (server : Server) : Option Acceptor.Phase :=
  server.service.acceptors.head?.map Acceptor.phase

namespace Situation

/-- What a move makes happen to the connection that is being admitted. -/
def entrance? (situation : Situation) (move : Move) : Option Entrance :=
  match situation.server.acceptorPhase?, (situation.after move).server.acceptorPhase? with
  | some phase, some later => phase.entrance? later
  | _, _ => none

/-- What happens in a row of moves to the connections that are admitted. -/
def entrances (situation : Situation) : List Move → List Entrance
  | [] => []
  | move :: rest => (situation.entrance? move).toList ++ (situation.after move).entrances rest

/-- What has happened to the connection that is accepted and has no number yet. -/
def atDoor (situation : Situation) : List Entrance :=
  (situation.server.acceptorPhase?.map Acceptor.Phase.atDoor).getD []

theorem entrances_append (situation : Situation) (early late : List Move) :
    situation.entrances (early ++ late) =
      situation.entrances early ++ (situation.run early).entrances late := by
  induction early generalizing situation with
  | nil => rfl
  | cons move rest inductionHypothesis =>
      rw [List.cons_append, entrances, entrances, inductionHypothesis, List.append_assoc]
      rfl

variable {situation : Situation} {listener : Listener} {phase : Acceptor.Phase}

theorem phase_of_at {server : Server} (here : At server listener phase) :
    server.acceptorPhase? = some phase := by
  rw [Server.acceptorPhase?, show server.service.acceptors = _ from (Prod.mk.inj here).2]
  rfl

/-- The acceptor whose step it is stands where a situation has its acceptor. -/
theorem Sound.phase_of_acceptor (sound : situation.Sound) {at' : UInt16} {acceptor : Acceptor}
    (alive : situation.server.acceptor? at' = some acceptor) :
    situation.server.acceptorPhase? = some acceptor.phase := by
  obtain ⟨listener, phase, admits, rfl, rfl⟩ := sound.admits alive
  exact phase_of_at admits.at

/-- A connection that is prepared is registered under the next number. -/
theorem Admits.server_registered {admission : Admission}
    (admits : situation.Admits listener (.registering admission)) (delivery : Delivery) :
    (situation.after (.step (.acceptor (port listener)) delivery)).server =
      situation.server.register (port listener) admission :=
  admits.server_after delivery

theorem Admits.phase_registered {admission : Admission}
    (admits : situation.Admits listener (.registering admission)) (delivery : Delivery) :
    (situation.after (.step (.acceptor (port listener)) delivery)).server.acceptorPhase? =
      some (.greeting situation.server.service.nextId admission) := by
  rw [admits.server_registered]
  exact phase_of_at admits.at_register

/-! ## One move -/

/-- How a move steers the acceptor. -/
inductive Steers (situation : Situation) : Move → Prop
  /-- It is a step of the acceptor. -/
  | steps (listener : Listener) (phase : Acceptor.Phase) (delivery : Delivery)
      (admits : situation.Admits listener phase) :
      Steers situation (.step (.acceptor (port listener)) delivery)
  /-- The acceptor stays where it is. -/
  | spares (move : Move)
      (other : ∀ port delivery, move = .step (.acceptor port) delivery →
        situation.server.acceptor? port = none)
      (same : (situation.after move).server.acceptorPhase? = situation.server.acceptorPhase?) :
      Steers situation move
  /-- There is none, and one begins. -/
  | begins (move : Move) (other : ∀ port delivery, move ≠ .step (.acceptor port) delivery)
      (nobody : situation.server.acceptorPhase? = none)
      (one : (situation.after move).server.acceptorPhase? = some .looking) :
      Steers situation move

theorem Sound.steers (sound : situation.Sound) (move : Move) : situation.Steers move := by
  by_cases accepts : ∃ port delivery, move = .step (.acceptor port) delivery
  · obtain ⟨at', delivery, rfl⟩ := accepts
    cases manned : situation.server.acceptor? at' with
    | none =>
        have still : situation.after (.step (.acceptor at') delivery) = situation :=
          step_of_no_acceptor manned delivery
        refine .spares _ ?_ (by rw [still])
        rintro port same ⟨⟩
        exact manned
    | some acceptor =>
        obtain ⟨listener, phase, admits, rfl, rfl⟩ := sound.admits manned
        exact .steps listener phase delivery admits
  · have other (port : UInt16) (delivery : Delivery) : move ≠ .step (.acceptor port) delivery :=
      fun same => accepts ⟨port, delivery, same⟩
    rcases acceptors_after sound other with same | ⟨nobody, port, one⟩
    · refine .spares move (fun port delivery steps => absurd steps (other port delivery)) ?_
      rw [Server.acceptorPhase?, Server.acceptorPhase?, same]
    · refine .begins move other ?_ ?_
      · rw [Server.acceptorPhase?, nobody]
        rfl
      · rw [Server.acceptorPhase?, one]
        rfl

/-- An acceptor does not end in the middle of a reception. -/
theorem Admits.goes_or_rests (admits : situation.Admits listener phase) (delivery : Delivery) :
    let later := situation.server.stepAcceptor (.answering delivery) ⟨port listener, phase⟩
    (phase.atDoor = [] ∧ later.acceptorPhase? = none) ∨ ∃ after next, At later after next ∧
      Advance situation.server listener phase after next := by
  intro later
  rcases admits.goes_or_ends delivery with ended | goes
  · by_cases rests : phase.atDoor = []
    · refine Or.inl ⟨rests, ?_⟩
      rw [Server.acceptorPhase?, show later.service.acceptors = _ from (Prod.mk.inj ended).2]
      rfl
    · refine Or.inr ((admits.stepped (fun same => absurd (same ▸ rfl) rests) delivery).2 ?_)
      rw [admits.shuts_eq]
      cases phase with
      | accepting | greeting => exact absurd rfl rests
      | _ => rfl
  · exact Or.inr goes

/-- Where no number is given out, an acceptor that goes on comes to the end of a reception or
does not. -/
theorem Advance.reception {server : Server} {after : Listener} {next : Acceptor.Phase}
    (advance : Advance server listener phase after next)
    (unnumbered : ∀ admission, phase ≠ .registering admission) (number : UInt64) :
    ∃ newcomers, phase.atDoor ++ (phase.entrance? next).toList =
        history number newcomers ++ next.atDoor ∧ numberAfter number newcomers = number := by
  cases advance with
  | refused admission => exact ⟨[⟨admission.wire, true⟩], rfl, rfl⟩
  | registered id admission => exact absurd rfl (unnumbered admission)
  | _ => exact ⟨[], rfl, rfl⟩

/-- What a move makes happen ends a reception, or is part of the one that is under way. -/
def Reception (situation : Situation) (move : Move) : Prop :=
  ∃ newcomers, situation.atDoor ++ (situation.entrance? move).toList =
      history situation.server.service.nextId newcomers ++ (situation.after move).atDoor ∧
    (situation.after move).server.service.nextId =
      numberAfter situation.server.service.nextId newcomers

/-- A move that leaves the acceptor and the next number alone is part of no reception. -/
theorem reception_of_same {move : Move}
    (phase : (situation.after move).server.acceptorPhase? = situation.server.acceptorPhase?)
    (nextId : (situation.after move).server.service.nextId = situation.server.service.nextId) :
    situation.Reception move := by
  refine ⟨[], ?_, nextId⟩
  rw [atDoor, atDoor, entrance?, phase]
  cases situation.server.acceptorPhase? with
  | none => rfl
  | some phase => cases phase <;> rfl

theorem Admits.reception_registering {admission : Admission}
    (admits : situation.Admits listener (.registering admission)) (delivery : Delivery) :
    situation.Reception (.step (.acceptor (port listener)) delivery) := by
  refine ⟨[⟨admission.wire, false⟩], ?_, ?_⟩
  · rw [atDoor, atDoor, entrance?, phase_of_at admits.at, admits.phase_registered]
    rfl
  · rw [admits.server_registered]
    exact situation.server.nextId_register (port listener) admission

/-- A step of the acceptor that gives no number out. -/
theorem Admits.reception_unnumbered (admits : situation.Admits listener phase)
    (unnumbered : ∀ admission, phase ≠ .registering admission) {delivery : Delivery}
    (nextId : (situation.after (.step (.acceptor (port listener)) delivery)).server.service.nextId =
      situation.server.service.nextId) :
    situation.Reception (.step (.acceptor (port listener)) delivery) := by
  have stepped := admits.server_after delivery
  have outcome := admits.goes_or_rests delivery
  rw [← stepped] at outcome
  rcases outcome with ⟨rests, ended⟩ | ⟨after, next, here, advance⟩
  · refine ⟨[], ?_, nextId⟩
    rw [atDoor, atDoor, entrance?, phase_of_at admits.at, ended, Option.map_some,
      Option.getD_some, rests]
    rfl
  · obtain ⟨newcomers, told, same⟩ := advance.reception unnumbered situation.server.service.nextId
    refine ⟨newcomers, ?_, nextId.trans same.symm⟩
    rw [atDoor, atDoor, entrance?, phase_of_at admits.at, phase_of_at here]
    exact told

/-- Every move is part of the reception that is under way, or of none. -/
theorem Sound.reception (sound : situation.Sound) (move : Move) : situation.Reception move := by
  rcases situation.admits_nobody_or_registers move with
    ⟨nextId, _⟩ | ⟨acceptor, delivery, admission, alive, registers, rfl, _⟩
  · cases sound.steers move with
    | steps listener phase delivery admits =>
        cases phase with
        | registering admission => exact admits.reception_registering delivery
        | _ => exact admits.reception_unnumbered (by simp) nextId
    | spares _ _ same => exact reception_of_same same nextId
    | begins _ _ nobody one =>
        refine ⟨[], ?_, nextId⟩
        rw [atDoor, atDoor, entrance?, nobody, one]
        rfl
  · obtain ⟨listener, phase, admits, same, rfl⟩ := sound.admits alive
    obtain rfl : phase = .registering admission := registers
    exact admits.reception_registering delivery

/-! ## Runs -/

/-- What happens in a run to the connections that are admitted is one reception after
the other. -/
theorem Sound.reception_run (sound : situation.Sound) (moves : List Move) :
    ∃ newcomers, situation.atDoor ++ situation.entrances moves =
        history situation.server.service.nextId newcomers ++ (situation.run moves).atDoor ∧
      (situation.run moves).server.service.nextId =
        numberAfter situation.server.service.nextId newcomers := by
  induction moves generalizing situation with
  | nil => exact ⟨[], List.append_nil _, rfl⟩
  | cons move rest inductionHypothesis =>
      obtain ⟨now, told, next⟩ := sound.reception move
      obtain ⟨later, goesOn, last⟩ := inductionHypothesis (sound.after move)
      refine ⟨now ++ later, ?_, ?_⟩
      · rw [entrances, ← List.append_assoc, told, List.append_assoc, goesOn, next, history_append,
          List.append_assoc]
        rfl
      · rw [numberAfter_append, ← next]
        exact last

/-! ## The numbers of a run -/

/-- The numbers that were given out in a row of moves, and the wires that got them. -/
def numbersGiven (situation : Situation) (moves : List Move) : List (UInt64 × Nat) :=
  admitted (situation.entrances moves)

theorem numbersGiven_append (situation : Situation) (early late : List Move) :
    situation.numbersGiven (early ++ late) =
      situation.numbersGiven early ++ (situation.run early).numbersGiven late := by
  rw [numbersGiven, entrances_append, admitted_append]
  rfl

theorem admitted_atDoor (situation : Situation) : admitted situation.atDoor = [] := by
  rw [atDoor]
  cases situation.server.acceptorPhase? with
  | none => rfl
  | some phase => cases phase <;> rfl

/-- The numbers of a run follow one another without gaps, and the next one follows them. -/
theorem numbers_run (settings : Settings) (isolated : Bool) (moves : List Move)
    (few : ((initial settings isolated).numbersGiven moves).length + 1 < UInt64.size) :
    ((initial settings isolated).numbersGiven moves).map (fun entry => entry.1.toNat) =
        List.range' 1 ((initial settings isolated).numbersGiven moves).length ∧
      ((initial settings isolated).run moves).server.service.nextId.toNat =
        ((initial settings isolated).numbersGiven moves).length + 1 := by
  obtain ⟨newcomers, told, next⟩ := (sound_initial settings isolated).reception_run moves
  have given : (initial settings isolated).numbersGiven moves = admitted (history 1 newcomers) := by
    have same := congrArg admitted told
    rw [admitted_append, admitted_append, admitted_atDoor, admitted_atDoor, List.nil_append,
      List.append_nil] at same
    exact same
  rw [given] at few ⊢
  obtain ⟨ids, last⟩ := numbers_history 1 newcomers (by
    rw [UInt64.toNat_one]
    omega)
  refine ⟨ids, ?_⟩
  rw [next]
  exact last.trans (Nat.add_comm _ _)

/-- A connection that is entered in the table is given its number. -/
theorem Sound.numbered_of_enter (sound : situation.Sound) {move : Move} {id : UInt64}
    {peer : Peer Line} (enters : situation.edit move = .enter id peer) :
    situation.entrance? move = some (.numbered id peer.line.wire) := by
  have edits := situation.edits_edit move
  rw [enters] at edits
  cases edits with
  | registered acceptor at' delivery admission here registers =>
      obtain ⟨listener, phase, admits, rfl, rfl⟩ := sound.admits here
      obtain rfl : phase = .registering admission := registers
      rw [entrance?, phase_of_at admits.at, admits.phase_registered]
      rfl

/-- A tracked peer was tracked before, or its number was given to its wire since. -/
theorem Sound.tracked_or_given (sound : situation.Sound) (moves : List Move) {id : UInt64}
    {later : Peer Line} (tracked : (situation.run moves).server.peer? id = some later) :
    (∃ peer, situation.server.peer? id = some peer ∧ later.line.wire = peer.line.wire) ∨
      (id, later.line.wire) ∈ situation.numbersGiven moves := by
  induction moves generalizing situation with
  | nil => exact Or.inl ⟨later, tracked, rfl⟩
  | cons move rest inductionHypothesis =>
      have split : situation.numbersGiven (move :: rest) =
          admitted (situation.entrance? move).toList ++
            (situation.after move).numbersGiven rest :=
        admitted_append _ _
      rw [split, List.mem_append]
      rcases inductionHypothesis (sound.after move) tracked with ⟨peer, now, wire⟩ | since
      · rw [Framelink.Server.peer?, peers_after] at now
        rcases Edit.of_find?_perform now with ⟨before, known, _, rfl⟩ | enters
        · exact Or.inl ⟨before, known, wire.trans (Edit.wire_touch _ id before)⟩
        · refine Or.inr (Or.inl ?_)
          rw [sound.numbered_of_enter enters, wire]
          exact List.mem_singleton.2 rfl
      · exact Or.inr (Or.inr since)

/-- In every run a tracked peer has the number that its wire was given. -/
theorem given_of_tracked (settings : Settings) (isolated : Bool) (moves : List Move)
    {id : UInt64} {peer : Peer Line}
    (tracked : ((initial settings isolated).run moves).server.peer? id = some peer) :
    (id, peer.line.wire) ∈ (initial settings isolated).numbersGiven moves := by
  rcases (sound_initial settings isolated).tracked_or_given moves tracked with ⟨_, none, _⟩ | given
  · cases none
  · exact given

section Few

variable {settings : Settings} {isolated : Bool} {moves : List Move}
  (few : ((initial settings isolated).numbersGiven moves).length + 1 < UInt64.size)

include few

/-- No number was given out twice. -/
theorem numbers_nodup :
    (((initial settings isolated).numbersGiven moves).map Prod.fst).Nodup := by
  have values := (numbers_run settings isolated moves few).1
  have distinct : (((initial settings isolated).numbersGiven moves).map fun entry =>
      entry.1.toNat).Nodup := by
    rw [values]
    exact List.nodup_range'
  exact List.Nodup.of_map UInt64.toNat (by rwa [List.map_map])

/-- The numbers that were given out are below the next one. -/
theorem given_lt_next {id : UInt64} {wire : Nat}
    (given : (id, wire) ∈ (initial settings isolated).numbersGiven moves) :
    id < ((initial settings isolated).run moves).server.service.nextId := by
  obtain ⟨ids, next⟩ := numbers_run settings isolated moves few
  have member : id.toNat ∈ ((initial settings isolated).numbersGiven moves).map fun entry =>
      entry.1.toNat := List.mem_map.2 ⟨(id, wire), given, rfl⟩
  rw [ids, List.mem_range'_1] at member
  rw [UInt64.lt_iff_toNat_lt, next]
  omega

/-- Whoever is registered next takes nobody's place. -/
theorem next_free_of_few : ((initial settings isolated).run moves).server.peer?
    ((initial settings isolated).run moves).server.service.nextId = none := by
  cases tracked : ((initial settings isolated).run moves).server.peer?
      ((initial settings isolated).run moves).server.service.nextId with
  | none => rfl
  | some peer =>
      have below := given_lt_next few (given_of_tracked settings isolated moves tracked)
      exact absurd below (UInt64.lt_irrefl _)

end Few

/-- A number is given to one wire. -/
theorem wire_of_given {settings : Settings} {isolated : Bool} {moves : List Move}
    (few : ((initial settings isolated).numbersGiven moves).length + 1 < UInt64.size)
    {id : UInt64} {wire other : Nat}
    (given : (id, wire) ∈ (initial settings isolated).numbersGiven moves)
    (again : (id, other) ∈ (initial settings isolated).numbersGiven moves) : wire = other :=
  (Prod.mk.inj (List.inj_on_of_nodup_map (numbers_nodup few) given again rfl)).2

/-- A number that was given out is not given out again. -/
theorem not_given_again {settings : Settings} {isolated : Bool} {early late : List Move}
    (few : ((initial settings isolated).numbersGiven (early ++ late)).length + 1 < UInt64.size)
    {id : UInt64} {wire other : Nat}
    (given : (id, wire) ∈ (initial settings isolated).numbersGiven early) :
    (id, other) ∉ ((initial settings isolated).run early).numbersGiven late := by
  intro again
  have distinct := numbers_nodup few
  rw [numbersGiven_append, List.map_append, List.nodup_append] at distinct
  exact distinct.2.2 id (List.mem_map.2 ⟨(id, wire), given, rfl⟩) id
    (List.mem_map.2 ⟨(id, other), again, rfl⟩) rfl

/-- How the numbers of a run that begins with a situation are given out. -/
structure Numbering (first : Situation) (moves : List Move) : Prop where
  /-- Connections are admitted one after the other; those that can be set up are given
  the next number, from the first on. -/
  inTurn : ∃ newcomers, first.entrances moves = history 1 newcomers ++ (first.run moves).atDoor
  gapless : (first.numbersGiven moves).map (fun entry => entry.1.toNat) =
    List.range' 1 (first.numbersGiven moves).length
  tracked : ∀ id peer, (first.run moves).server.peer? id = some peer →
    (id, peer.line.wire) ∈ first.numbersGiven moves ∧ id < (first.run moves).server.service.nextId
  /-- Whoever is registered next takes nobody's place. -/
  appends : ∀ port admission, ((first.run moves).server.register port admission).peers =
    (first.run moves).server.peers ++ [((first.run moves).server.service.nextId,
      Server.freshPeer ((first.run moves).server.farAddress admission.wire) admission.wire)]
  /-- A number that was kept names the same connection or none. -/
  lasting : ∀ early late, early ++ late = moves → ∀ id peer later,
    (first.run early).server.peer? id = some peer →
      (first.run moves).server.peer? id = some later → later.line.wire = peer.line.wire
  /-- A number whose peer is gone stays without one. -/
  gone : ∀ early middle late, early ++ (middle ++ late) = moves → ∀ id peer,
    (first.run early).server.peer? id = some peer →
      (first.run (early ++ middle)).server.peer? id = none →
        (first.run moves).server.peer? id = none

/-- As long as there are numbers left, peers get them in the order in which their connections
were accepted, and no number is ever given to two of them. -/
theorem peer_numbers_are_never_reused (settings : Settings) (isolated : Bool) (moves : List Move)
    (few : ((initial settings isolated).numbersGiven moves).length + 1 < UInt64.size) :
    Numbering (initial settings isolated) moves where
  inTurn := by
    obtain ⟨newcomers, told, _⟩ := (sound_initial settings isolated).reception_run moves
    exact ⟨newcomers, told⟩
  gapless := (numbers_run settings isolated moves few).1
  tracked := by
    intro id peer tracked
    have given := given_of_tracked settings isolated moves tracked
    exact ⟨given, given_lt_next few given⟩
  appends := by
    intro port admission
    have free : ((initial settings isolated).run moves).server.peers.tracks
        ((initial settings isolated).run moves).server.service.nextId = false :=
      congrArg Option.isSome (next_free_of_few few)
    rw [Server.peers_register, Framelink.Server.track, PeerTable.insert, free]
    rfl
  lasting := by
    rintro early late rfl id peer later tracked still
    have given : (id, peer.line.wire) ∈
        (initial settings isolated).numbersGiven (early ++ late) := by
      rw [numbersGiven_append]
      exact List.mem_append_left _ (given_of_tracked settings isolated early tracked)
    exact wire_of_given few (given_of_tracked settings isolated _ still) given
  gone := by
    rintro early middle late rfl id peer tracked gone
    cases still : ((initial settings isolated).run (early ++ (middle ++ late))).server.peer? id with
    | none => rfl
    | some later =>
        have given : (id, peer.line.wire) ∈
            (initial settings isolated).numbersGiven (early ++ middle) := by
          rw [numbersGiven_append]
          exact List.mem_append_left _ (given_of_tracked settings isolated early tracked)
        rw [← List.append_assoc] at still few
        rw [run_append] at still
        rcases (sound_run settings isolated (early ++ middle)).tracked_or_given late still with
          ⟨_, present, _⟩ | again
        · cases gone.symm.trans present
        · exact absurd again (not_given_again few given)

/-- A peer is admitted, the next connection cannot be set up, and a third one can; the first
peer is given up, the server is stopped and started again, and a fourth connection comes. -/
def comings : List Move :=
  let comer (port : UInt16) : Move := .connect port ⟨.loopback4, 50000, 0⟩
  let accept (port : UInt16) (steps : Nat) : List Move :=
    List.replicate steps (.step (.acceptor port) .heard)
  let leave (wire : Nat) : List Move := List.replicate 2 (.step (.worker wire) .heard)
  admission 7 ++
    [comer 40000, .hinder [⟨.control, 0, Failure.Code.permissionDenied, none⟩] true] ++
    accept 40000 3 ++ [comer 40000] ++ accept 40000 7 ++
    [.remove 1, .proceed 0, .proceed 0, .stop] ++ accept 40000 1 ++ leave 0 ++ leave 2 ++
    List.replicate 5 .advance ++ [.start, .setUp, comer 40001] ++ accept 40001 7

theorem peer_numbers_are_never_reused_of_comings :
    let first := initial .standard false
    (first.numbersGiven comings).length + 1 < UInt64.size ∧ Numbering first comings ∧
      first.numbersGiven comings = [(1, 0), (2, 2), (3, 3)] ∧
      (first.run (admission 7)).server.peers.handles = [1] ∧
      (first.run comings).server.peers.handles = [2, 3] := by
  intro first
  have given : first.numbersGiven comings = [(1, 0), (2, 2), (3, 3)] := by decide +kernel
  have few : (first.numbersGiven comings).length + 1 < UInt64.size := by
    rw [given]
    decide
  exact ⟨few, peer_numbers_are_never_reused .standard false comings few, given,
    by decide +kernel, by decide +kernel⟩

end Situation
end Tcp
end Framelink
