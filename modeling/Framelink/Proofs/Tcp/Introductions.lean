import Framelink.Proofs.Inbox
import Framelink.Proofs.Tcp.Acquaintance
import Framelink.Proofs.Tcp.Remains

/-!
# Introductions of stream peers

Every peer is introduced to the application before the application is told what the peer
sends.  It is tracked before either, and a chunk is in its inbox before it is told, so a
callback that asks for the peer gets an answer, and finds all it was told of so far in the
total of the bytes that were received.
-/

namespace Framelink

namespace Tcp

/-! ## Calls of callbacks -/

namespace Server

/-- What the next step of a service thread reports: nothing, unless it tells something and a
callback is in place for that.  The callback does to the server what it does, and its report
stands before those of all that it brings about. -/
def callsBack (server : Server) (thread : Thread) : List (Report UInt64) :=
  match server.notice? thread with
  | none => []
  | some (_, notice) =>
      match notice.callback with
      | none => []
      | some reaction =>
          let (answer, after) := Framelink.Server.perform (server.amid [] (some thread))
            notice.peer notice.bytes reaction
          notice.report reaction answer :: after.reports

theorem reports_step_acceptor (server : Server) (port : UInt16) :
    (server.step .live (.acceptor port)).reports =
      server.reports ++ server.callsBack (.acceptor port) := by
  cases here : server.acceptor? port with
  | none =>
      rw [step_no_acceptor _ _ here, callsBack, notice?, here]
      exact (List.append_nil _).symm
  | some acceptor =>
      have same : acceptor.port = port := by simpa using List.find?_some here
      rw [step_acceptor _ _ here, callsBack, notice?, here, Option.map_some]
      cases announces : acceptor.announces with
      | false =>
          rw [reports_stepAcceptor .live announces]
          cases phase : acceptor.phase with
          | greeting => simp [Acceptor.announces, phase] at announces
          | _ => exact (List.append_nil _).symm
      | true =>
          obtain ⟨id, admission, phase⟩ := Acceptor.of_announces announces
          rw [stepAcceptor, phase]
          dsimp only
          rw [reports_greet]
          dsimp only [Callbacks.live, Framelink.Server.dispatchNewPeer]
          rw [same, show (server.amid server.reports (some (.acceptor port))).onNewPeer =
            server.onNewPeer from rfl]
          cases server.onNewPeer with
          | none => exact (List.append_nil _).symm
          | some reaction => rfl

theorem reports_step_worker (server : Server) (wire : Nat) :
    (server.step .live (.worker wire)).reports =
      server.reports ++ server.callsBack (.worker wire) := by
  cases alive : server.worker? wire with
  | none =>
      rw [step_no_worker _ _ alive, callsBack, notice?, alive]
      exact (List.append_nil _).symm
  | some worker =>
      rw [step_worker _ _ alive, callsBack, notice?, alive, Option.bind_some]
      cases announces : worker.announces with
      | false =>
          rw [reports_stepWorker .live announces]
          cases phase : worker.phase with
          | announcing => simp [Worker.announces, phase] at announces
          | _ =>
              rw [Worker.told?, Worker.deed?, phase]
              exact (List.append_nil _).symm
      | true =>
          obtain ⟨chunk, phase⟩ := Worker.of_announces announces
          rw [stepWorker, phase, Worker.told?_eq_some.2 phase]
          dsimp only
          rw [reports_announce]
          dsimp only [Callbacks.live, Framelink.Server.dispatchData]
          rw [wire_of_worker? alive,
            show (server.amid server.reports (some (.worker wire))).onData =
              server.onData from rfl]
          cases server.onData with
          | none => exact (List.append_nil _).symm
          | some reaction => rfl

theorem reports_step (server : Server) (thread : Thread) :
    (server.step .live thread).reports = server.reports ++ server.callsBack thread := by
  cases thread with
  | acceptor port => exact server.reports_step_acceptor port
  | worker wire => exact server.reports_step_worker wire

/-! ## What was received -/

/-- What the worker on a wire has put into the inbox and not told yet, unless it leaves. -/
def untold? (server : Server) (wire : Nat) : Option Bytes :=
  match server.worker? wire with
  | some worker => if worker.phase = .leaving then none else some worker.phase.untold.flatten
  | none => if server.stage wire = .greeting then some [] else none

theorem untold?_eq_some {server : Server} {wire : Nat} {bytes : Bytes} :
    server.untold? wire = some bytes ↔
      (∃ worker, server.worker? wire = some worker ∧ worker.phase ≠ .leaving ∧
        worker.phase.untold.flatten = bytes) ∨
      server.worker? wire = none ∧ server.stage wire = .greeting ∧ [] = bytes := by
  rw [untold?]
  cases server.worker? wire with
  | none =>
      dsimp only
      split <;> simp [*]
  | some worker =>
      dsimp only
      split <;> simp [*]

/-- What a worker that goes on has queued and not told yet. -/
theorem Onward.untold {server : Server} {index : Nat} {worker : Worker} {next : Worker.Phase}
    (onward : server.Onward index worker next) (staying : next ≠ .leaving) :
    worker.phase ≠ .leaving ∧ worker.phase.untold ++ queuedIn worker.deed?.toList =
      toldIn worker.deed?.toList ++ next.untold := by
  have idle (phase : worker.phase = .looking ∨ worker.phase = .receiving ∨
      worker.phase = .waiting) (free : next.untold = []) :
      worker.phase ≠ .leaving ∧ worker.phase.untold ++ queuedIn worker.deed?.toList =
        toldIn worker.deed?.toList ++ next.untold := by
    obtain ⟨none, nothing⟩ := Stint.idle_of_phase phase
    rw [none, nothing, free]
    refine ⟨?_, rfl⟩
    rcases phase with phase | phase | phase <;> rw [phase] <;> nofun
  cases onward with
  | looked phase => exact idle (Or.inl phase) rfl
  | waits phase => exact idle (Or.inr phase) rfl
  | received bytes received => exact idle (Or.inr (phase_of_received received)) rfl
  | retried failure received => exact idle (Or.inr (phase_of_received received)) rfl
  | stopped | ended | failed => exact absurd rfl staying
  | pushed chunk phase | confirmed chunk phase | announced chunk phase =>
      simp [Worker.deed?, phase, Worker.Phase.untold]

end Server

namespace Situation

variable {situation : Situation} {wire : Nat} {id : UInt64} {notices : List (Notice UInt64)}

/-- What a move puts into the inbox of the peer on a wire. -/
def queuedBy (situation : Situation) (wire : Nat) (move : Move) : Bytes :=
  (queuedIn (situation.deed? wire move).toList).flatten

/-- Nothing is told but what its worker tells of a peer. -/
theorem bytesTold_notice? (situation : Situation) (wire : Nat) (move : Move) :
    bytesTold (situation.notice? wire move).toList =
      (toldIn (situation.deed? wire move).toList).flatten := by
  cases move with
  | step thread delivery =>
      cases thread with
      | acceptor port =>
          have elsewhere : situation.deed? wire (.step (.acceptor port) delivery) = none := rfl
          rw [elsewhere]
          cases told : situation.notice? wire (.step (.acceptor port) delivery) with
          | none => rfl
          | some notice =>
              cases tells_of_notice told
              rfl
      | worker index =>
          rw [notice?, Server.notice?, deed?, Move.serves]
          by_cases same : wire = index
          · subst same
            rw [if_pos (decide_eq_true rfl)]
            cases situation.server.worker? wire with
            | none => rfl
            | some worker =>
                rw [Option.bind_some, Option.bind_some, Worker.told?]
                cases worker.deed? with
                | none => rfl
                | some deed => cases deed <;> simp [bytesTold, Notice.bytes, Deed.told?]
          · rw [if_neg (by simp [same])]
            cases situation.server.worker? index with
            | none => rfl
            | some worker =>
                rw [Option.bind_some]
                cases worker.told? with
                | none => rfl
                | some chunk => simp [Ne.symm same]
  | _ => rfl

/-- Nothing was queued for a peer that is being greeted, and nothing is. -/
theorem Sound.untold_greeted (sound : situation.Sound)
    (greeting : (situation.connection wire).stage = .greeting) :
    situation.server.untold? wire = some [] :=
  Server.untold?_eq_some.2
    (Or.inr ⟨(sound.connections wire).placed.greeted greeting, greeting, rfl⟩)

theorem Sound.deed_greeted (sound : situation.Sound)
    (greeting : (situation.connection wire).stage = .greeting) (move : Move) :
    situation.deed? wire move = none := by
  rw [deed?, show situation.server.worker? wire = none from
    (sound.connections wire).placed.greeted greeting]
  exact ite_self _

/-- What was queued and not told before a move, or is queued in it, is told in it, or is still
to be told. -/
theorem Sound.untold_after (sound : situation.Sound)
    (prepared : (situation.connection wire).stage ≠ .preparing) {move : Move} {later : Bytes}
    (after : (situation.after move).server.untold? wire = some later) :
    ∃ before, situation.server.untold? wire = some before ∧
      before ++ situation.queuedBy wire move =
        bytesTold (situation.notice? wire move).toList ++ later := by
  rw [bytesTold_notice?, queuedBy]
  rcases Server.untold?_eq_some.1 after with ⟨worker, alive, staying, rfl⟩ | ⟨_, greeting, rfl⟩
  · rcases sound.origin alive with
      ⟨free, looking⟩ | ⟨before, served, other, same⟩ | ⟨before, delivery, served, rfl, onward⟩
    · have turn := (turns_after sound move).turn wire
      have greeting := (turn.recruited free alive).1
      refine ⟨[], sound.untold_greeted greeting, ?_⟩
      rw [sound.deed_greeted greeting, looking]
      rfl
    · have idle : situation.deed? wire move = none := by
        rw [deed?, if_neg (by rw [other]; exact Bool.false_ne_true)]
      refine ⟨worker.phase.untold.flatten, ?_, by rw [idle]; exact List.append_nil _⟩
      exact Server.untold?_eq_some.2 (Or.inl ⟨before, served, same ▸ staying, by rw [same]⟩)
    · obtain ⟨stayed, passed⟩ := onward.untold staying
      have serves : (Move.step (.worker wire) delivery).serves wire = true := decide_eq_true rfl
      have deed : situation.deed? wire (.step (.worker wire) delivery) = before.deed? := by
        rw [deed?, if_pos serves, served]
        rfl
      refine ⟨before.phase.untold.flatten,
        Server.untold?_eq_some.2 (Or.inl ⟨before, served, stayed, rfl⟩), ?_⟩
      rw [deed, ← List.flatten_append, ← List.flatten_append, passed]
  · have was : (situation.connection wire).stage = .greeting := by
      refine Classical.byContradiction fun before => ?_
      obtain ⟨id, given⟩ := sound.given_of_greeting before greeting
      obtain ⟨listener, admission, _, admits, _, own, _⟩ := sound.registering_of_given given
      exact prepared ((Server.stage_of_phase (phase_of_at admits.at) wire).trans (if_pos own))
    refine ⟨[], sound.untold_greeted was, ?_⟩
    rw [sound.deed_greeted was]
    rfl

/-- What a worker queues is put into the inbox of the peer on its wire. -/
theorem edit_of_queued {move : Move} {chunk : Bytes}
    (deed : situation.deed? wire move = some (.queued chunk)) :
    situation.edit move = .fill wire chunk := by
  rw [deed?] at deed
  split at deed
  · next serves =>
      obtain ⟨delivery, rfl⟩ := Move.of_serves serves
      obtain ⟨worker, alive, queued⟩ := Option.bind_eq_some_iff.1 deed
      rw [edit, alive, Option.map_some, Option.getD_some, Worker.edit]
      rw [Worker.deed?] at queued
      split at queued
      · next phase =>
          cases queued
          rw [phase, Server.wire_of_worker? alive]
      · cases queued
      · cases queued
  · cases deed

/-- What a move leaves of a tracked peer has received what was received before, and what the
move puts into its inbox. -/
theorem received_touch {peer : Peer Line} (tracked : situation.server.peer? id = some peer)
    (move : Move) : ((situation.edit move).touch id peer).inbox.tally.received =
      peer.inbox.tally.received +
        UInt64.ofNat (situation.queuedBy peer.line.wire move).length := by
  by_cases queues : ∃ chunk, situation.deed? peer.line.wire move = some (.queued chunk)
  · obtain ⟨chunk, deed⟩ := queues
    rw [queuedBy, deed, edit_of_queued deed, Edit.touch, if_pos (beq_self_eq_true _)]
    simp [pushedPeer, Inbox.push]
  · have nothing : situation.queuedBy peer.line.wire move = [] := by
      rw [queuedBy]
      cases deed : situation.deed? peer.line.wire move with
      | none => rfl
      | some other =>
          cases other with
          | queued chunk => exact absurd ⟨chunk, deed⟩ queues
          | told chunk => rfl
    rw [nothing, List.length_nil, show UInt64.ofNat 0 = 0 from rfl, UInt64.add_zero]
    have edits := situation.edits_edit move
    generalize situation.edit move = edit at edits
    cases edits with
    | nothing | removed | registered => rfl
    | read other size erase known found =>
        rw [Edit.touch]
        split
        · next same =>
            subst same
            cases tracked.symm.trans found
            exact Inbox.received_read _ size erase
        · rfl
    | cleared =>
        rw [Edit.touch]
        split <;> rfl
    | unserved | left =>
        rw [Edit.touch]
        split <;> rfl
    | queued worker index chunk delivery alive phase =>
        rw [Edit.touch, Server.wire_of_worker? alive, if_neg]
        intro same
        obtain rfl : peer.line.wire = index := by simpa using same
        have serves : (Move.step (.worker peer.line.wire) delivery).serves peer.line.wire = true :=
          decide_eq_true rfl
        refine queues ⟨chunk, ?_⟩
        rw [deed?, if_pos serves, alive, Option.bind_some, Worker.deed?, phase]

/-! ## Peers that are kept -/

/-- A peer is tracked, and has received what was told of it and what its worker, unless that
leaves, has yet to tell. -/
def Counted (situation : Situation) (id : UInt64) (wire : Nat)
    (notices : List (Notice UInt64)) : Prop :=
  ∃ peer, situation.server.peer? id = some peer ∧ peer.line.wire = wire ∧
    ∀ untold, situation.server.untold? wire = some untold →
      peer.inbox.tally.received = UInt64.ofNat (bytesTold notices ++ untold).length

theorem Counted.after (counted : situation.Counted id wire notices) (sound : situation.Sound)
    (prepared : (situation.connection wire).stage ≠ .preparing) {move : Move}
    (kept : move ≠ .remove id) (withheld : situation.assigns id move = false) :
    (situation.after move).Counted id wire
      (notices ++ (situation.notice? wire move).toList) := by
  obtain ⟨peer, tracked, rfl, total⟩ := counted
  refine ⟨(situation.edit move).touch id peer, ?_, Edit.wire_touch _ id peer, fun later after => ?_⟩
  · rw [Framelink.Server.peer?, peers_after, Edit.find?_perform (ends_edit kept withheld),
      show situation.server.peers.find? id = some peer from tracked]
    rfl
  · obtain ⟨before, was, moved⟩ := sound.untold_after prepared after
    rw [received_touch tracked, total before was, bytesTold_append, List.append_assoc, ← moved,
      ← UInt64.ofNat_add, ← List.length_append, List.append_assoc]

/-- A peer has a number for good once its connection is past the acceptor's preparations. -/
theorem Acquaintance.prepared {given : List (UInt64 × Nat)}
    (acquaintance : situation.Acquaintance wire given notices) (named : (id, wire) ∈ given) :
    (situation.connection wire).stage ≠ .preparing := by
  cases acquaintance with
  | strange nameless => exact absurd named (nameless id)
  | awaited _ _ admission own here | greeted _ _ admission own here =>
      rw [show (situation.connection wire).stage = _ from Server.stage_of_phase here wire]
      dsimp only [Acceptor.Phase.stage]
      split <;> nofun
  | met _ _ beyond => exact beyond.prepared

/-- When a connection is given its number, nothing was told of it, and nothing is. -/
theorem Acquaintance.silent_of_given {given : List (UInt64 × Nat)}
    (acquaintance : situation.Acquaintance wire given notices) (sound : situation.Sound)
    {move : Move} (numbered : situation.given? move = some (id, wire)) :
    notices ++ (situation.notice? wire move).toList = [] := by
  obtain ⟨listener, admission, delivery, admits, _, own, _⟩ := sound.registering_of_given numbered
  have here := phase_of_at admits.at
  have preparing : (situation.connection wire).stage = .preparing :=
    (Server.stage_of_phase here wire).trans (if_pos own)
  have nameless {other : UInt64} (named : Named given other wire) : False :=
    acquaintance.prepared ((named other).2 rfl) preparing
  cases acquaintance with
  | strange _ silent _ unserved =>
      rw [silent, sound.silent (fun _ _ greeting => nomatch here.symm.trans greeting) unserved]
      rfl
  | awaited _ named | greeted _ named | met _ named => exact (nameless named).elim

/-- A connection that is given its number is tracked, and has received nothing. -/
theorem Sound.counted_given (sound : situation.Sound) {move : Move}
    (numbered : situation.given? move = some (id, wire)) :
    (situation.after move).Counted id wire [] := by
  have still := sound.after move
  obtain ⟨listener, admission, delivery, admits, rfl, own, rfl⟩ :=
    sound.registering_of_given numbered
  have greeted : ((situation.after
      (.step (.acceptor (port listener)) delivery)).connection wire).stage = .greeting :=
    (Server.stage_of_phase (admits.phase_registered delivery) wire).trans (if_pos own)
  refine ⟨Server.freshPeer (situation.server.farAddress admission.wire) admission.wire, ?_, own,
    fun untold after => ?_⟩
  · rw [admits.server_registered, Framelink.Server.peer?, Server.peers_register]
    exact (PeerTable.find?_insert _ _ _ _).trans (if_pos rfl)
  · cases (still.untold_greeted greeted).symm.trans after
    rfl

/-! ## Runs -/

/-- Nobody gives a peer up, and its number is not given to another. -/
def Spares (situation : Situation) (id : UInt64) (moves : List Move) : Prop :=
  .remove id ∉ moves ∧ situation.Withholds id moves

/-- Both callbacks are in place all along. -/
def Attentive (situation : Situation) (moves : List Move) : Prop :=
  ∀ within, within <+: moves → (situation.run within).server.onData.isSome = true ∧
    (situation.run within).server.onNewPeer.isSome = true

theorem Attentive.rest {move : Move} {rest : List Move}
    (attentive : situation.Attentive (move :: rest)) : (situation.after move).Attentive rest :=
  fun within before => attentive (move :: within) (List.cons_prefix_cons.2 ⟨rfl, before⟩)

/-- Where callbacks are in place, all that is told is heard. -/
theorem Attentive.heard {moves : List Move} (attentive : situation.Attentive moves) :
    ∀ notice ∈ situation.notices wire moves, notice.callback.isSome = true := by
  induction moves generalizing situation with
  | nil => exact fun _ none => nomatch none
  | cons move rest inductionHypothesis =>
      intro notice told
      rw [notices, List.mem_append, Option.mem_toList] at told
      rcases told with now | later
      · obtain ⟨data, newPeer⟩ := attentive [] List.nil_prefix
        cases tells_of_notice now with
        | greeting => exact newPeer
        | announcing => exact data
      · exact inductionHypothesis attentive.rest notice later

/-- What the application was told, in a row of moves, of a peer whose connection had just been
given its number. -/
structure Introduces (begun : Situation) (late : List Move) (id : UInt64) (wire : Nat) :
    Prop where
  /-- The acceptor is about to tell that there is a peer, or it told that once and first, with
  the address of its far end and its handle. -/
  ordered :
    (begun.notices wire late = [] ∧ ∃ admission, admission.wire = wire ∧
        (begun.run late).server.acceptorPhase? = some (.greeting id admission)) ∨
      Introduced ((begun.run late).server.farAddress wire) id (begun.notices wire late)
  /-- If callbacks are in place all along, each notice is the call of one. -/
  heard : begun.Attentive late →
    ∀ notice ∈ begun.notices wire late, notice.callback.isSome = true
  tracked : begun.Spares id late → ∃ peer, (begun.run late).server.Present id peer ∧
    peer.line.wire = wire ∧ peer.address = (begun.run late).server.farAddress wire
  /-- A callback that is called for the peer finds it tracked, and what was told of it so far
  received, with the chunk that it is called for. -/
  calling : begun.Spares id late → ∀ thread notice,
    (begun.run late).server.notice? thread = some (wire, notice) → notice.peer = id ∧
      ∃ peer, ((begun.run late).server.amid [] (some thread)).Present id peer ∧
        peer.address = (begun.run late).server.farAddress wire ∧
          peer.inbox.tally.received =
            UInt64.ofNat (bytesTold (begun.notices wire late) ++ notice.bytes).length

/-- Who is spoken of is the peer that has the number of the connection, and what it is spoken
of for is what its worker has yet to tell. -/
theorem Acquaintance.speaks {given : List (UInt64 × Nat)}
    (acquaintance : situation.Acquaintance wire given notices) (sound : situation.Sound)
    (numbered : (id, wire) ∈ given) {move : Move} {notice : Notice UInt64}
    (told : situation.notice? wire move = some notice) :
    notice.peer = id ∧ situation.server.untold? wire = some notice.bytes := by
  have placed := (sound.connections wire).placed
  cases tells_of_notice told with
  | greeting port acceptor other admission delivery here phase own =>
      have phase := (sound.phase_of_acceptor here).trans (congrArg some phase)
      have greeting : (situation.connection wire).stage = .greeting :=
        (Server.stage_of_phase phase wire).trans (if_pos own)
      refine ⟨?_, ?_⟩
      · cases acquaintance with
        | strange nameless => exact absurd numbered (nameless id)
        | awaited known named _ _ same =>
            cases phase.symm.trans same
            exact ((named id).1 numbered).symm
        | greeted _ _ _ _ same => cases phase.symm.trans same
        | met _ _ beyond => exact absurd greeting beyond.greeted
      · exact sound.untold_greeted greeting
  | announcing worker chunk delivery alive phase =>
      refine ⟨?_, ?_⟩
      · cases acquaintance with
        | strange nameless => exact absurd numbered (nameless id)
        | awaited _ _ admission own same | greeted _ _ admission own same =>
            have greeting : (situation.connection wire).stage = .greeting :=
              (Server.stage_of_phase same wire).trans (if_pos own)
            cases (placed.greeted greeting).symm.trans alive
        | met known named _ mans =>
            exact (mans worker alive).trans ((named id).1 numbered).symm
      · refine Server.untold?_eq_some.2 (Or.inl ⟨worker, alive, ?_⟩)
        rw [phase]
        exact ⟨nofun, List.flatten_singleton⟩

/-- A connection got its number at one of the moves. -/
theorem given_of_mem (situation : Situation) {moves : List Move}
    (numbered : (id, wire) ∈ situation.numbersGiven moves) :
    ∃ early move late, early ++ move :: late = moves ∧
      (situation.run early).given? move = some (id, wire) := by
  induction moves using List.reverseRecOn with
  | nil => cases numbered
  | append_singleton moves last inductionHypothesis =>
      rw [numbersGiven_snoc, List.mem_append, Option.mem_toList] at numbered
      rcases numbered with before | now
      · obtain ⟨early, move, late, rfl, given⟩ := inductionHypothesis before
        exact ⟨early, move, late ++ [last], by rw [List.append_assoc, List.cons_append], given⟩
      · exact ⟨moves, last, [], rfl, now⟩

section Begun

variable {settings : Settings} {isolated : Bool} {early : List Move} {move : Move}
  (numbered : ((initial settings isolated).run early).given? move = some (id, wire))
  {begun : Situation} (began : ((initial settings isolated).run early).after move = begun)

include numbered

theorem silent_before : (initial settings isolated).notices wire (early ++ [move]) = [] := by
  rw [notices_snoc]
  exact (acquaintance_run settings isolated early wire).silent_of_given
    (sound_run settings isolated early) numbered

include began

/-- How far the application has got to know a peer since its connection was given its number. -/
theorem acquaintance_since (late : List Move) : ∃ given, (id, wire) ∈ given ∧
    (begun.run late).Acquaintance wire given (begun.notices wire late) := by
  subst began
  have acquaintance := acquaintance_run settings isolated (early ++ [move] ++ late) wire
  rw [notices_append, silent_before numbered, List.nil_append, run_append, run_append]
    at acquaintance
  refine ⟨_, ?_, acquaintance⟩
  rw [numbersGiven_append, numbersGiven_snoc, numbered]
  exact List.mem_append_left _ (List.mem_append_right _ (List.mem_singleton_self _))

/-- A peer that is spared stays tracked, and what was told of it was received. -/
theorem counted_since {late : List Move} (spares : begun.Spares id late) :
    (begun.run late).Counted id wire (begun.notices wire late) := by
  have sound : begun.Sound := began ▸ (sound_run settings isolated early).after move
  induction late using List.reverseRecOn with
  | nil => exact began ▸ (sound_run settings isolated early).counted_given numbered
  | append_singleton late last inductionHypothesis =>
      obtain ⟨kept, withholds⟩ := spares
      rw [List.mem_append, List.mem_singleton, not_or] at kept
      obtain ⟨given, member, acquaintance⟩ := acquaintance_since numbered began late
      have counted := inductionHypothesis ⟨kept.1, withholds.earlier⟩
      rw [run_append, notices_snoc]
      exact counted.after (sound.run late) (acquaintance.prepared member) (Ne.symm kept.2)
        withholds.later.first

theorem introduces (late : List Move) : begun.Introduces late id wire := by
  obtain ⟨given, member, acquaintance⟩ := acquaintance_since numbered began late
  have sound : (begun.run late).Sound :=
    (began ▸ (sound_run settings isolated early).after move : begun.Sound).run late
  have addressed : (begun.run late).Addressed := by
    have all := addressed_run settings isolated (early ++ move :: late)
    rw [run_append] at all
    exact began ▸ all
  refine ⟨?_, fun attentive => attentive.heard, fun spares => ?_,
    fun spares thread notice tells => ?_⟩
  · cases acquaintance with
    | strange nameless => exact absurd member (nameless id)
    | awaited known named admission own here silent =>
        cases (named id).1 member
        exact Or.inl ⟨silent, admission, own, here⟩
    | greeted known named _ _ _ introduced | met known named _ _ introduced =>
        cases (named id).1 member
        exact Or.inr introduced
  · obtain ⟨peer, tracked, rfl, _⟩ := counted_since numbered began spares
    exact ⟨peer, Framelink.Server.present_of_tracked tracked, rfl, addressed id peer tracked⟩
  · obtain ⟨peer, tracked, rfl, total⟩ := counted_since numbered began spares
    have told : (begun.run late).notice? peer.line.wire (.step thread .heard) = some notice := by
      rw [notice?, tells]
      exact if_pos rfl
    obtain ⟨same, untold⟩ := acquaintance.speaks sound member told
    exact ⟨same, peer, Framelink.Server.present_of_tracked tracked, addressed id peer tracked,
      total _ untold⟩

end Begun

/-- How the application gets to know the peers of a server in a run. -/
structure Introductions (first : Situation) (moves : List Move) : Prop where
  /-- What is told is what callbacks are called for, and they are called for nothing else. -/
  calls : ∀ thread, ((first.run moves).server.step .live thread).reports =
    (first.run moves).server.reports ++ (first.run moves).server.callsBack thread
  /-- Nothing is told of a connection that has no number. -/
  strangers : ∀ wire, (∀ id, (id, wire) ∉ first.numbersGiven moves) →
    first.notices wire moves = []
  /-- Every tracked peer got its number at one of the moves. -/
  tracked : ∀ id peer, (first.run moves).server.peer? id = some peer →
    ∃ early move late, early ++ move :: late = moves ∧
      (first.run early).given? move = some (id, peer.line.wire)
  /-- Nothing is told of a peer before it has its number, and then it is introduced.  While
  there are numbers left, no other peer gets its number. -/
  peers : ∀ early move late id wire, early ++ move :: late = moves →
    (first.run early).given? move = some (id, wire) →
      first.notices wire (early ++ [move]) = [] ∧
        ((first.run early).after move).Introduces late id wire ∧
          ((first.numbersGiven moves).length + 1 < UInt64.size →
            ((first.run early).after move).Withholds id late)

/-- In every run of a stream server, every peer is introduced. -/
theorem introductions (settings : Settings) (isolated : Bool) (moves : List Move) :
    Introductions (initial settings isolated) moves where
  calls := ((initial settings isolated).run moves).server.reports_step
  strangers := by
    intro wire nameless
    cases acquaintance_run settings isolated moves wire with
    | strange _ silent => exact silent
    | awaited id named | greeted id named | met id named =>
        exact absurd ((named id).2 rfl) (nameless id)
  tracked := fun id peer tracked =>
    given_of_mem _ (given_of_tracked settings isolated moves tracked)
  peers := by
    rintro early move late id wire rfl numbered
    refine ⟨silent_before numbered, introduces numbered rfl late, fun few => ?_⟩
    obtain ⟨peer, tracked, _⟩ := (sound_run settings isolated early).counted_given numbered
    rw [List.append_cons] at few
    have begun : (initial settings isolated).run (early ++ [move]) =
        ((initial settings isolated).run early).after move := run_append _ early [move]
    rw [← begun] at tracked ⊢
    exact withholds_of_few few tracked

/-- A peer that is admitted sends three bytes while both callbacks are in place. -/
example :
    let first := (initial .standard false).run [.replace (some .log) (some .peek)]
    first.notices 0 visit =
      [.joined ⟨.loopback4, 50000, 0⟩ 1 (some .peek), .received [1, 2, 3] 1 (some .log)] := rfl

end Situation
end Tcp
end Framelink
