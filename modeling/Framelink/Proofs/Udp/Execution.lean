import Framelink.Proofs.Udp.Lifecycle

/-!
# The server that runs makes runs

A datagram server that settles lets one receiver after the other make a round, and a
stop lets the receivers end before it gives the socket up.  Both are rows of moves.
-/

namespace Framelink
namespace Udp

namespace Server

variable {server : Server}

theorem receivers_releaseSocket (server : Server) (address : SocketAddress) :
    (server.releaseSocket address).service.receivers = server.service.receivers := by
  unfold releaseSocket
  split <;> rfl

theorem receivers_endReceiver (server : Server) (address : SocketAddress) :
    (server.endReceiver address).service.receivers =
      server.service.receivers.filter fun other => !(other == address) :=
  receivers_releaseSocket _ _

/-- A receiver that finds that the server does not run ends. -/
theorem receiverRound_of_down {callbacks : Callbacks} (down : server.running = false)
    (bound : SocketAddress) :
    server.receiverRound callbacks bound = server.endReceiver bound := by
  unfold receiverRound
  rw [if_neg (by rw [down]; decide)]

/-- A call that is not made by a receiver waits for all of them. -/
theorem windDown_outside (outside : server.service.caller = none) :
    server.windDown = (server.service.receivers.foldl endReceiver server).dropSocket := by
  have all : (server.service.receivers.filter fun address =>
      !(server.service.caller == some address)) = server.service.receivers := by
    refine List.filter_eq_self.2 fun address _ => ?_
    rw [outside]
    rfl
  unfold windDown
  rw [all]

end Server

namespace Situation

variable {situation : Situation}

theorem run_append (situation : Situation) (early late : List Move) :
    situation.run (early ++ late) = (situation.run early).run late := List.foldl_append

theorem after_receive {bound : SocketAddress}
    (present : bound ∈ situation.server.service.receivers) :
    situation.after (.receive bound) =
      { situation with server := situation.server.receiverRound .live bound } := by
  dsimp only [after, receive]
  rw [if_pos (by simpa using present)]

/-- Whatever a server does when it settles is a row of rounds. -/
theorem run_settleWithin (fuel : Nat) (situation : Situation) :
    ∃ moves, situation.run moves =
      { situation with server := situation.server.settleWithin fuel } := by
  induction fuel generalizing situation with
  | zero => exact ⟨[], rfl⟩
  | succ fuel inductionHypothesis =>
      unfold Server.settleWithin
      split
      · next bound busy =>
          have round := after_receive (List.mem_of_find?_eq_some busy)
          obtain ⟨moves, settled⟩ := inductionHypothesis
            { situation with server := situation.server.receiverRound .live bound }
          refine ⟨.receive bound :: moves, ?_⟩
          change (situation.after (.receive bound)).run moves = _
          rw [round, settled]
      · exact ⟨[], rfl⟩

/-- Receivers that find that the server does not run end one after the other. -/
theorem run_receivers (bounds : List SocketAddress) (distinct : bounds.Nodup)
    (down : situation.server.running = false)
    (present : ∀ bound ∈ bounds, bound ∈ situation.server.service.receivers) :
    situation.run (bounds.map .receive) =
      { situation with server := bounds.foldl Server.endReceiver situation.server } := by
  induction bounds generalizing situation with
  | nil => rfl
  | cons bound bounds inductionHypothesis =>
      obtain ⟨apart, distinct⟩ := List.nodup_cons.1 distinct
      have first := after_receive (present bound List.mem_cons_self)
      rw [Server.receiverRound_of_down down] at first
      have still : (situation.server.endReceiver bound).running = false :=
        (Server.keeps_endReceiver situation.server bound).running.trans down
      change (situation.after (.receive bound)).run (bounds.map .receive) = _
      rw [first, inductionHypothesis distinct still]
      · rfl
      · intro other listed
        rw [Server.receivers_endReceiver, List.mem_filter]
        refine ⟨present other (List.mem_cons_of_mem _ listed), ?_⟩
        have differs : other ≠ bound := fun same => apart (same ▸ listed)
        simpa using differs

theorem mem_foldl_endReceiver (bounds : List SocketAddress) (server : Server)
    (bound : SocketAddress) :
    bound ∈ (bounds.foldl Server.endReceiver server).service.receivers ↔
      bound ∈ server.service.receivers ∧ bound ∉ bounds := by
  induction bounds generalizing server with
  | nil => simp
  | cons first bounds inductionHypothesis =>
      rw [List.foldl_cons, inductionHypothesis, Server.receivers_endReceiver, List.mem_filter,
        List.mem_cons, not_or, and_assoc]
      simp

/-- A stop that is not made by a receiver is a run. -/
theorem run_stop (idle : situation.control = .idle)
    (outside : situation.server.service.caller = none)
    (distinct : situation.server.service.receivers.Nodup) :
    ∃ moves log, situation.run moves =
      { situation with server := Framelink.Server.stop situation.server, log } := by
  cases running : situation.server.running with
  | false =>
      rw [Framelink.Server.stop_of_down running]
      exact ⟨[], situation.log, rfl⟩
  | true =>
      let down : Server := { situation.server with running := false }
      let bounds := situation.server.service.receivers
      have begun : situation.after .stop =
          { situation with server := down, control := .stopping .awaitingReceivers } :=
        Governed.stop_of_running idle running .awaitingReceivers
      have ended := @run_receivers
        { situation with server := down, control := .stopping .awaitingReceivers } bounds distinct
        rfl fun _ => id
      have gone : (bounds.foldl Server.endReceiver down).service.receivers = [] := by
        refine List.eq_nil_iff_forall_not_mem.2 fun bound present => ?_
        obtain ⟨listed, unlisted⟩ := (mem_foldl_endReceiver bounds down bound).1 present
        exact unlisted listed
      have stopped : Framelink.Server.stop situation.server =
          { (bounds.foldl Server.endReceiver down).dropSocket with localAddress := none } := by
        unfold Framelink.Server.stop
        rw [if_pos running, show Serving.windDown _ = _ from
          @Server.windDown_outside { situation.server with running := false } outside]
      refine ⟨.stop :: (bounds.map .receive ++ [.advance, .advance]),
        situation.log ++ [.stopped], ?_⟩
      change (situation.after .stop).run _ = _
      rw [begun, run_append, ended, stopped]
      change Situation.after (Situation.after _ .advance) .advance = _
      dsimp only [after, advance]
      rw [if_pos gone, idle]
      rfl

end Situation
end Udp
end Framelink
