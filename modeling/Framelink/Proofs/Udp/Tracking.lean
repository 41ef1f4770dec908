import Framelink.Proofs.Udp.Passages

/-!
# Who a datagram server tracks

A datagram server tracks the addresses that sent a datagram after their last removal, and
each of them is greeted when that begins and at no other time.  Tracking begins with an
inbox that never held anything.  As long as it lasts, the inbox is the same: datagrams
are added to it, reads and clears take out of it, and nothing else changes it, least of
all that the server is stopped and started.
-/

namespace Framelink
namespace Udp
namespace Watch

/-! ## What holds after every run -/

/-- Who is tracked, and how that began, is what the history says. -/
structure TracksSenders (watch : Watch) : Prop where
  /-- An address is tracked exactly if a datagram from it arrived after its last removal. -/
  tracked : ∀ address,
    watch.server.peers.tracks address = true ↔ watch.history.ArrivedSince address
  /-- What is kept of a tracked address is the inbox that the history says, and nothing is
  kept of any other. -/
  sessions : ∀ address, watch.server.peers.find? address =
    (watch.history.inbox? address).map (Server.session address)
  /-- A sender is unknown exactly if it is not tracked, and then gets an inbox that never
  held anything; the inbox of any other stays as it is. -/
  arrived : ∀ early datagram unknown late,
    watch.history = early ++ .arrived datagram unknown :: late →
      (unknown = true ↔ ¬ History.ArrivedSince early datagram.source) ∧
        History.inbox? (early ++ [.arrived datagram unknown]) datagram.source =
          if unknown then some .empty else History.inbox? early datagram.source
  /-- An unknown sender is greeted right after its datagram arrived, with the new-peer
  callback in place at that moment, and no sender is greeted otherwise. -/
  passages : ∃ passages : List Passage, watch.history.filter Event.ofReceiver =
    passages.flatMap Passage.events ++ (watch.pass.map Pass.soFar).getD []
  greeted : ∀ early address callback late,
    watch.history = early ++ .greeted address callback :: late →
      History.onNewPeer early = callback
  /-- Callbacks are called as the history says, and no further times. -/
  called : watch.server.reports.filterMap Report.call? =
    watch.history.filterMap Event.call?
  /-- The inbox of an address that is not removed is never replaced. -/
  lasting : ∀ early late address inbox, watch.history = early ++ late →
    History.inbox? early address = some inbox → .removed address ∉ late →
      watch.history.inbox? address = some (late.foldl (Event.alter address) inbox)
  /-- Starts and stops leave alone who is tracked, every inbox, the callbacks and the
  reports. -/
  restarts : ∀ turn ∈ [Turn.start, .halt, .join],
    (watch.after turn).server.books = watch.server.books ∧
      (watch.after turn).history = watch.history
  /-- A stop that nothing comes between is a stop of the server. -/
  stops : watch.pass = none → watch.server.running = true →
    watch.run [.halt, .join] = { watch with server := Framelink.Server.stop watch.server }
  /-- A passage that nothing comes between is a round of the receiver. -/
  rounds : ∀ bound, watch.pass = none → bound ∈ watch.server.service.receivers →
    ∃ history, watch.run [.receive bound, .proceed, .proceed, .proceed] =
      ⟨watch.server.receiverRound .live bound, none, history⟩

variable {watch : Watch}

/-- An arrival that fits says truly whether its sender was tracked. -/
theorem arrived_of_fits {history : History} {datagram : Datagram} {unknown : Bool}
    (fits : (Event.arrived datagram unknown).Fits history) :
    (unknown = true ↔ ¬ history.ArrivedSince datagram.source) ∧
      History.inbox? (history ++ [.arrived datagram unknown]) datagram.source =
        if unknown then some .empty else history.inbox? datagram.source := by
  rw [← History.isSome_inbox?_iff, History.inbox?_snoc, Event.session, if_pos rfl]
  obtain rfl : unknown = (history.inbox? datagram.source).isNone := fits
  cases history.inbox? datagram.source with
  | none => simp
  | some inbox => simp

theorem books_restart (watch : Watch) :
    ∀ turn ∈ [Turn.start, .halt, .join],
      (watch.after turn).server.books = watch.server.books ∧
        (watch.after turn).history = watch.history := by
  intro turn listed
  have one : turn = .start ∨ turn = .halt ∨ turn = .join := by simpa using listed
  rcases one with rfl | rfl | rfl
  · rw [after]
    split
    · exact ⟨Server.books_start _, rfl⟩
    · exact ⟨rfl, rfl⟩
  · exact ⟨rfl, rfl⟩
  · rw [after]
    split
    · exact ⟨Server.books_windDown watch.server, rfl⟩
    · exact ⟨rfl, rfl⟩

theorem Sound.tracksSenders (sound : watch.Sound) : watch.TracksSenders where
  tracked := by
    intro address
    rw [sound.booked.accounts.tracks, History.isSome_inbox?_iff]
  sessions := sound.booked.accounts.sessions
  arrived := by
    intro early datagram unknown late parts
    exact arrived_of_fits (sound.trail.faithful early (.arrived datagram unknown) late parts)
  passages := sound.trail.passages
  greeted := by
    intro early address callback late parts
    exact sound.trail.faithful early (.greeted address callback) late parts
  called := sound.booked.reported
  lasting := by
    intro early late address inbox parts held spared
    rw [parts]
    exact History.inbox?_lasts held late spared
  restarts := books_restart watch
  stops := fun quiet running => run_stop quiet running
  rounds := fun _ quiet present => run_round quiet present

end Watch

/-- Whatever happens to a datagram server and around it, it tracks the addresses that sent
a datagram after their last removal, greets each of them once when that begins, and keeps
one inbox for each as long as it lasts. -/
theorem datagram_senders_are_tracked (settings : Settings) (network : Network)
    (turns : List Turn) : ((Watch.initial settings network).run turns).TracksSenders :=
  (Watch.sound_run settings network turns).tracksSenders

end Udp
end Framelink
