import Framelink.Proofs.Tcp.Aspect
import Framelink.Proofs.Tcp.Introductions
import Framelink.Proofs.Udp.Aspect
import Framelink.Proofs.Udp.Handling
import Framelink.Proofs.Udp.Introductions

/-!
# The peers of a server

A stream server learns of a peer from its acceptor, a datagram server from the first datagram
of a sender that it does not track.  The one gives the peer a number and greets it before a
worker exists that could tell what it sends; the other greets it on the way of its datagram to
the inbox.  The application is told the same either way: once that there is a peer, with its
address and its handle, and only then what the peer sends, while the peer is tracked and what
is told of it is received.

From then on peers do not influence each other.  Two runs in which the same concerns a peer, in
the same order, are the same to that peer: what the server shows of it in the end, what came of
the calls that name it, and the chunks that the data callback was told.  All that is what its
concerns make of it, one after the other.  The runs may be of different servers, and whatever
else happens in them is arbitrary: who else sends, fails, is removed or leaves, and when.

That its number is given to another is a concern of a connection, too.  It happens to none
before all numbers were given out.
-/

namespace Framelink

open Tcp (Situation)
open Udp (Watch)

/-! ## Introductions -/

/-- Whatever the order of events, either server introduces its peers. -/
theorem new_peers_are_introduced_first :
    (∀ (settings : Settings) (isolated : Bool) (moves : List Tcp.Move),
      Tcp.Situation.Introductions (Tcp.Situation.initial settings isolated) moves) ∧
    ∀ (settings : Settings) (network : Network) (turns : List Udp.Turn),
      ((Udp.Watch.initial settings network).run turns).Introductions :=
  ⟨Tcp.Situation.introductions, Udp.Watch.introductions⟩

/-! ## Independence -/

/-- A peer notices nothing of other peers. -/
theorem peers_are_independent :
    (∀ (peer : SocketAddress) (settings otherSettings : Settings)
      (network otherNetwork : Network) (turns otherTurns : List Udp.Turn),
      let view := Watch.aspect peer
      let first := Watch.initial settings network
      let second := Watch.initial otherSettings otherNetwork
      (∀ turn ∈ turns, turn.Recording) → (∀ turn ∈ otherTurns, turn.Recording) →
      view.concerns first turns = view.concerns second otherTurns →
        (first.run turns).sight peer = (second.run otherTurns).sight peer ∧
          view.heard first turns = view.heard second otherTurns ∧
          ((first.run turns).sight peer, view.heard first turns) =
            Aspect.replay Udp.Sight.react (first.sight peer) (view.concerns first turns)) ∧
    (∀ (wire otherWire : Nat) (settings otherSettings : Settings)
      (isolated otherIsolated : Bool) (moves otherMoves : List Tcp.Move),
      let view := Situation.aspect wire
      let otherView := Situation.aspect otherWire
      let first := Situation.initial settings isolated
      let second := Situation.initial otherSettings otherIsolated
      (∀ move ∈ moves, move.Recording) → (∀ move ∈ otherMoves, move.Recording) →
      view.concerns first moves = otherView.concerns second otherMoves →
        (first.run moves).server.sight wire = (second.run otherMoves).server.sight otherWire ∧
          view.heard first moves = otherView.heard second otherMoves ∧
          ((first.run moves).server.sight wire, view.heard first moves) =
            Aspect.replay Tcp.Sight.react (first.server.sight wire)
              (view.concerns first moves)) ∧
    ∀ (wire : Nat) (settings : Settings) (isolated : Bool) (moves : List Tcp.Move),
      moves.length ≤ UInt64.size →
        .evicted ∉ (Situation.aspect wire).concerns (Situation.initial settings isolated)
          moves := by
  refine ⟨?_, ?_, ?_⟩
  · intro peer settings otherSettings network otherNetwork turns otherTurns view first second
      recording otherRecording same
    have closed := Watch.aspect_closed peer
    have begins (settings : Settings) (network : Network) :
        Server.Recording (Watch.initial settings network).server := ⟨rfl, rfl⟩
    obtain ⟨sight, heard⟩ := closed.runs_alike closed (begins settings network)
      (begins otherSettings otherNetwork) recording otherRecording rfl same
    exact ⟨sight, heard, closed.run_eq_replay (begins settings network) recording⟩
  · intro wire otherWire settings otherSettings isolated otherIsolated moves otherMoves view
      otherView first second recording otherRecording same
    have begins (settings : Settings) (isolated : Bool) :
        (Situation.initial settings isolated).Recording :=
      ⟨Situation.sound_initial settings isolated, ⟨rfl, rfl⟩⟩
    have closed := Situation.aspect_closed wire
    obtain ⟨sight, heard⟩ := closed.runs_alike (Situation.aspect_closed otherWire)
      (begins settings isolated) (begins otherSettings otherIsolated) recording otherRecording
      rfl same
    exact ⟨sight, heard, closed.run_eq_replay (begins settings isolated) recording⟩
  · intro wire settings isolated moves few
    exact Situation.never_evicted wire settings isolated few

/-! ## A peer alone and in company -/

/-- Two datagrams of a stranger, whom the application removes in the end. -/
def Udp.solitude : List Udp.Turn :=
  [.start, .act (.replace (some .log) none), Udp.knocks [[1], [2, 3]], .receive Udp.door,
    .proceed, .proceed, .proceed, .receive Udp.door, .proceed, .proceed,
    .act (.read Udp.stranger 2 true), .act (.clear Udp.stranger), .act (.remove Udp.stranger)]

/-- The same between the datagrams of a neighbour, who is removed and comes again. -/
def Udp.company : List Udp.Turn :=
  let neighbour : SocketAddress := ⟨.loopback4, 6000, 0⟩
  let waiting : List Datagram :=
    [⟨neighbour, [9]⟩, ⟨Udp.stranger, [1]⟩, ⟨neighbour, [8]⟩, ⟨Udp.stranger, [2, 3]⟩]
  [.start, .act (.replace (some .log) none),
    .act (.disturb { Network.idle false with mailboxes := [⟨Udp.door, false, waiting⟩] }),
    .receive Udp.door, .proceed, .proceed, .proceed, .receive Udp.door, .act (.remove neighbour),
    .proceed, .proceed, .proceed, .receive Udp.door, .proceed, .proceed,
    .act (.clear neighbour), .proceed, .receive Udp.door, .proceed, .proceed,
    .act (.read Udp.stranger 2 true), .act (.read neighbour 5 true),
    .act (.clear Udp.stranger), .act (.remove Udp.stranger)]

/-- A connection has a server to itself: its far end sends, the application reads, and the far
end sends no more. -/
def Tcp.solitude : List Tcp.Move :=
  Situation.admission 7 ++ [.replace (some .log) none, .send 0 [1, 2, 3], .carry 0 3] ++
    List.replicate 5 (.step (.worker 0) .heard) ++ [.read 1 2 true, .clear 1, .finish 0] ++
    List.replicate 3 (.step (.worker 0) .heard) ++ [.remove 1]

/-- The same beside another connection, which came before, is aborted and removed. -/
def Tcp.company : List Tcp.Move :=
  Situation.admission 7 ++ [.connect 40000 ⟨.loopback4, 50001, 0⟩] ++
    List.replicate 7 (.step (.acceptor 40000) .heard) ++
    [.send 0 [9, 9], .carry 0 2, .replace (some .log) none, .send 1 [1, 2, 3], .carry 1 3,
      .step (.worker 0) .heard] ++
    List.replicate 5 (.step (.worker 1) .heard) ++
    [.read 1 5 true, .read 2 2 true, .clear 7, .abort 0, .remove 1, .clear 2, .finish 1] ++
    List.replicate 3 (.step (.worker 1) .heard) ++ [.step (.worker 0) .heard, .remove 2]

/-- What the peer hears of its company. -/
theorem peers_are_independent_in_company :
    (Watch.aspect Udp.stranger).heard (.initial .standard (.idle false)) Udp.company =
        [.told [1], .told [2, 3], .read (some [1, 2]), .cleared true, .removed true] ∧
      (Situation.aspect 1).heard (.initial .standard false) Tcp.company =
        [.told [1, 2, 3], .read (some [1, 2]), .cleared true, .removed true] ∧
      .evicted ∉ (Situation.aspect 1).concerns (.initial .standard false) Tcp.company := by
  obtain ⟨datagrams, streams, never⟩ := peers_are_independent
  have stranger := datagrams Udp.stranger .standard .standard (.idle false) (.idle false)
    Udp.solitude Udp.company (by decide +kernel) (by decide +kernel) (by decide +kernel)
  have connection := streams 0 1 .standard .standard false false Tcp.solitude Tcp.company
    (by decide +kernel) (by decide +kernel) (by decide +kernel)
  refine ⟨?_, ?_, never 1 .standard false Tcp.company (by decide +kernel)⟩
  · rw [← stranger.2.1]
    decide +kernel
  · rw [← connection.2.1]
    decide +kernel

end Framelink
