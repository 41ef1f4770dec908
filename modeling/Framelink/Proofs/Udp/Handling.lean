import Framelink.Proofs.Udp.Passages
import Mathlib.Data.List.Basic

/-!
# Every datagram is handled once

Whatever arrives at a datagram server, and whatever happens meanwhile to its callbacks,
every datagram is put once and whole into the inbox of its sender, and is then answered
once: either the data callback in place is told, or the datagram is sent back.  A failure
to receive, or to send back, changes nothing but the network.

New-peer callbacks are called in the middle of that, and are taken to return.  Data
callbacks come last and may panic.
-/

namespace Framelink
namespace Udp

namespace History

/-- A datagram is kept where its sender is tracked, unless that was removed between the
arrival and then. -/
theorem Awaits.kept {history : History} {datagram : Datagram}
    (awaits : history.Awaits datagram) :
    ∃ early unknown late, history = early ++ .arrived datagram unknown :: late ∧
      (∀ event ∈ late, event.isStride = false) ∧
      (.removed datagram.source ∉ late → ∃ inbox,
        history.inbox? datagram.source = some inbox ∧
          inbox? (history ++ [.kept datagram]) datagram.source =
            some (inbox.push datagram.payload)) := by
  obtain ⟨early, _, late, parts, ⟨unknown, rfl⟩, still⟩ := awaits
  refine ⟨early, unknown, late, parts, ?_, ?_⟩
  · intro event within
    exact Bool.eq_false_iff.2 (still event within)
  · intro spared
    have tracked : (history.inbox? datagram.source).isSome = true := by
      rw [isSome_inbox?_iff]
      refine ⟨early, _, late, parts, ⟨datagram, unknown, rfl, rfl⟩, ?_⟩
      rintro event within rfl
      exact spared within
    obtain ⟨inbox, held⟩ := Option.isSome_iff_exists.1 tracked
    refine ⟨inbox, held, ?_⟩
    rw [inbox?_snoc, held]
    simp [Event.session, Event.alter]

end History

/-! ## What a datagram is received as -/

/-- A datagram of a size that can be sent is received whole. -/
theorem receiveDatagram_whole {network ready later : Network} {port : UInt16}
    {datagram : Datagram} (spared : network.consult .receive = (none, ready))
    (waiting : ready.takeDatagram port = (some datagram, later))
    (fits : datagram.payload.length ≤ Network.longestDatagram) :
    network.receiveDatagram port Server.bufferSize = (.ok datagram, later) := by
  rw [Network.receiveDatagram, spared]
  dsimp only
  rw [waiting]
  dsimp only
  rw [Server.bufferSize, List.take_of_length_le fits]

namespace Watch

/-! ## What holds after every run -/

/-- Every datagram that arrived was handled once, and the next step will do no less. -/
structure HandlesOnce (watch : Watch) : Prop where
  /-- What receivers did is one passage for each datagram, in the order of arrival, and each
  is complete but the one under way: the datagram is kept, and then a callback is told or the
  datagram is sent back. -/
  passages : ∃ passages : List Passage, watch.history.filter Event.ofReceiver =
    passages.flatMap Passage.complete ++ (watch.pass.map Pass.soFar).getD []
  /-- A datagram that is kept is the one that arrived last, and all of it is put into the
  inbox of its sender, unless that was removed meanwhile. -/
  kept : ∀ early datagram late, watch.history = early ++ .kept datagram :: late →
    ∃ before unknown after, early = before ++ .arrived datagram unknown :: after ∧
      (∀ event ∈ after, event.isStride = false) ∧
      (.removed datagram.source ∉ after → ∃ inbox,
        History.inbox? early datagram.source = some inbox ∧
          History.inbox? (early ++ [.kept datagram]) datagram.source =
            some (inbox.push datagram.payload))
  /-- Who is told is the callback in place at that moment. -/
  told : ∀ early datagram callback late,
    watch.history = early ++ .told datagram callback :: late →
      History.onData early = some callback
  /-- A datagram is sent back where no callback is in place at that moment. -/
  echoed : ∀ early datagram late, watch.history = early ++ .echoed datagram :: late →
    History.onData early = none
  /-- Inboxes and callbacks are what the history says. -/
  accounts : watch.history.Accounts watch.server
  /-- Callbacks are called as the history says, and no further times. -/
  called : watch.server.reports.filterMap Report.call? =
    watch.history.filterMap Event.call?
  /-- A receiver that fails to receive changes nothing but the network, and goes on. -/
  failing : ∀ bound failure network, watch.pass = none →
    bound ∈ watch.server.service.receivers → watch.server.running = true →
    watch.server.network.receiveDatagram bound.port Server.bufferSize =
        (.error failure, network) →
      watch.receive bound = { watch with server := watch.server.withNetwork network }
  /-- A datagram that waits is received whole, up to the size of the longest. -/
  whole : ∀ (bound : SocketAddress) datagram ready later,
    watch.server.network.consult .receive = (none, ready) →
      ready.takeDatagram bound.port = (some datagram, later) →
      datagram.payload.length ≤ Network.longestDatagram →
        watch.server.network.receiveDatagram bound.port Server.bufferSize =
          (.ok datagram, later)
  /-- A datagram that is received arrives. -/
  receiving : ∀ bound datagram network, watch.pass = none →
    bound ∈ watch.server.service.receivers → watch.server.running = true →
    watch.server.network.receiveDatagram bound.port Server.bufferSize =
        (.ok datagram, network) →
      ∃ unknown, (watch.receive bound).history = watch.history ++ [.arrived datagram unknown] ∧
        (watch.receive bound).server.network = network
  /-- What is sent back is the datagram, to its sender, in one send that may fail, and
  nothing else happens. -/
  echoing : ∀ pass, watch.pass = some pass → pass.stage = .kept →
    watch.server.onData = none →
      watch.proceed =
        { server := (watch.server.withNetwork (watch.server.network.sendDatagram pass.bound
            pass.datagram.source false pass.datagram.payload).2).calledBy pass.caller
          pass := none
          history := watch.history ++ [.echoed pass.datagram] }
  /-- Where a callback is told, nothing else happens. -/
  telling : ∀ pass callback, watch.pass = some pass → pass.stage = .kept →
    watch.server.onData = some callback →
      let called := Framelink.Server.dispatchData watch.server pass.datagram.source
        pass.datagram.payload
      watch.proceed.server = pass.leave called.2 called.1
  /-- A passage that nothing comes between is a round of the receiver. -/
  rounds : ∀ bound, watch.pass = none → bound ∈ watch.server.service.receivers →
    ∃ history, watch.run [.receive bound, .proceed, .proceed, .proceed] =
      ⟨watch.server.receiverRound .live bound, none, history⟩

variable {watch : Watch}

theorem network_take (bound : SocketAddress) (network : Network) (datagram : Datagram) :
    (watch.take bound network datagram).server.network = network := by
  rw [take, Framelink.Server.trackNew]
  dsimp only
  split
  · rfl
  · rfl

theorem proceed_of_free {pass : Pass} (underWay : watch.pass = some pass)
    (kept : pass.stage = .kept) (free : watch.server.onData = none) :
    watch.proceed =
      { server := (watch.server.withNetwork (watch.server.network.sendDatagram pass.bound
          pass.datagram.source false pass.datagram.payload).2).calledBy pass.caller
        pass := none
        history := watch.history ++ [.echoed pass.datagram] } := by
  simp only [proceed, underWay, kept, answer, free]
  rfl

theorem proceed_of_installed {pass : Pass} {callback : Reaction}
    (underWay : watch.pass = some pass) (kept : pass.stage = .kept)
    (installed : watch.server.onData = some callback) :
    let called := Framelink.Server.dispatchData watch.server pass.datagram.source
      pass.datagram.payload
    watch.proceed.server = pass.leave called.2 called.1 := by
  simp only [proceed, underWay, kept, answer, installed]

/-- Where all new-peer callbacks return, no passage is cut short. -/
theorem Sound.complete (sound : watch.Sound) (returns : watch.history.Returns) :
    ∃ passages : List Passage, watch.history.filter Event.ofReceiver =
      passages.flatMap Passage.complete ++ (watch.pass.map Pass.soFar).getD [] := by
  obtain ⟨passages, parts⟩ := sound.trail.passages
  refine ⟨passages, parts.trans (congrArg (· ++ _) (List.flatMap_congr ?_))⟩
  intro passage within
  refine Passage.events_of_returned (Bool.eq_false_iff.2 fun lost => ?_)
  have happened : .greeted passage.datagram.source (some .panic) ∈
      watch.history.filter Event.ofReceiver := by
    rw [parts]
    exact List.mem_append_left _
      (List.mem_flatMap.2 ⟨passage, within, Passage.greeted_of_isLost lost⟩)
  exact returns passage.datagram.source (List.mem_of_mem_filter happened)

theorem Sound.handlesOnce (sound : watch.Sound) (returns : watch.history.Returns) :
    watch.HandlesOnce where
  passages := sound.complete returns
  kept := by
    intro early datagram late parts
    exact (sound.trail.faithful early (.kept datagram) late parts).kept
  told := by
    intro early datagram callback late parts
    exact sound.trail.faithful early (.told datagram callback) late parts
  echoed := by
    intro early datagram late parts
    exact sound.trail.faithful early (.echoed datagram) late parts
  accounts := sound.booked.accounts
  called := sound.booked.reported
  failing := by
    intro bound failure network quiet present running failed
    rw [receive_of_present quiet present, if_pos running, failed]
  whole := fun _ _ _ _ spared waiting fits => receiveDatagram_whole spared waiting fits
  receiving := by
    intro bound datagram network quiet present running received
    rw [receive_of_present quiet present, if_pos running, received]
    exact ⟨_, rfl, network_take bound network datagram⟩
  echoing := fun _ underWay kept free => proceed_of_free underWay kept free
  telling := fun _ _ underWay kept installed => proceed_of_installed underWay kept installed
  rounds := fun _ quiet present => run_round quiet present

end Watch

/-- Whatever happens to a datagram server and around it, as long as its new-peer callbacks
return it handles every datagram that its receivers receive exactly once: all of it is put
into the inbox of its sender, and then either the data callback in place is told or the
datagram is sent back. -/
theorem each_datagram_is_handled_once (settings : Settings) (network : Network)
    (turns : List Turn)
    (returns : ((Watch.initial settings network).run turns).history.Returns) :
    ((Watch.initial settings network).run turns).HandlesOnce :=
  (Watch.sound_run settings network turns).handlesOnce returns

/-! ## A run -/

/-- A sender that a server has not heard of. -/
def stranger : SocketAddress := ⟨.loopback4, 5000, 0⟩

/-- Where a server with the standard settings receives first. -/
def door : SocketAddress := ⟨.unspecified4, 40000, 0⟩

/-- Datagrams of a stranger wait at the door. -/
def knocks (payloads : List Bytes) : Turn :=
  .act (.disturb { Network.idle false with
    mailboxes := [⟨door, false, payloads.map fun payload => ⟨stranger, payload⟩⟩] })

/-- A stranger comes, and a data callback is put in place after the first datagram. -/
def visits : List Turn :=
  [.act (.replace none (some .recover)), .start, knocks [[1], [2]], .receive door, .proceed,
    .proceed, .proceed, .act (.replace (some .panic) none), .receive door, .proceed, .proceed]

/-- The first datagram of a stranger is sent back although the new-peer callback failed, and
the callback that is put in place then is told about the second before it panics. -/
theorem each_datagram_is_handled_once_of_visits :
    let watch := (Watch.initial .standard (.idle false)).run visits
    watch.history =
        [.replaced none (some .recover), .arrived ⟨stranger, [1]⟩ true,
          .greeted stranger (some .recover), .kept ⟨stranger, [1]⟩, .echoed ⟨stranger, [1]⟩,
          .replaced (some .panic) none, .arrived ⟨stranger, [2]⟩ false,
          .kept ⟨stranger, [2]⟩, .told ⟨stranger, [2]⟩ .panic] ∧
      watch.HandlesOnce := by
  intro watch
  have history : watch.history =
      [.replaced none (some .recover), .arrived ⟨stranger, [1]⟩ true,
        .greeted stranger (some .recover), .kept ⟨stranger, [1]⟩, .echoed ⟨stranger, [1]⟩,
        .replaced (some .panic) none, .arrived ⟨stranger, [2]⟩ false,
        .kept ⟨stranger, [2]⟩, .told ⟨stranger, [2]⟩ .panic] := rfl
  have returns : watch.history.Returns := by
    intro address
    rw [history]
    simp
  exact ⟨history, each_datagram_is_handled_once .standard (.idle false) visits returns⟩

end Udp
end Framelink
