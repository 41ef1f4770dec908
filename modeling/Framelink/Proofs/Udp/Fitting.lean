import Framelink.Proofs.Udp.Handling

/-!
# How much of a datagram comes through

A receiver takes as much of a datagram as its buffer has room for, and the buffer is made
for the longest datagram of the older family.  What it takes is kept, told and sent back
as it was taken.  So everything that senders of the older family can send comes through
whole; of what the newer family carries, the longest datagrams lose their end.
-/

namespace Framelink

/-- The most bytes that a datagram from an address carries.  A packet of the older family
counts its own header among its 65535 octets, one of the newer family does not. -/
def Network.longestFrom (address : IpAddress) : Nat :=
  if address.holdsV4 then longestDatagram else 65535 - 8

/-- The datagram that a receive at a port takes, as it waits there; none if the receive runs
into a fault. -/
def Network.foremost? (network : Network) (port : UInt16) : Option Datagram :=
  match network.consult .receive with
  | (some _, _) => none
  | (none, ready) => (ready.takeDatagram port).1

namespace Udp

/-- As much of a datagram as a receiver has room for. -/
def fitted (datagram : Datagram) : Datagram :=
  { datagram with payload := datagram.payload.take Server.bufferSize }

theorem length_fitted (datagram : Datagram) :
    (fitted datagram).payload.length = min Network.longestDatagram datagram.payload.length :=
  List.length_take

/-- There is room for a datagram exactly if it is no longer than the longest. -/
theorem fitted_eq_self_iff {datagram : Datagram} :
    fitted datagram = datagram ↔ datagram.payload.length ≤ Network.longestDatagram := by
  constructor
  · intro same
    have lengths := length_fitted datagram
    rw [same] at lengths
    omega
  · intro fits
    rw [fitted, Server.bufferSize, List.take_of_length_le fits]

/-- All that can be sent from an address comes through whole exactly if the address is of the
older family. -/
theorem fitted_from_iff (address : IpAddress) :
    (∀ datagram : Datagram, datagram.source.ip = address →
      datagram.payload.length ≤ Network.longestFrom address → fitted datagram = datagram) ↔
      address.holdsV4 = true := by
  constructor
  · intro all
    by_contra newer
    have long := all ⟨⟨address, 0, 0⟩, List.replicate (Network.longestDatagram + 1) 0⟩ rfl
      (by rw [Network.longestFrom, if_neg newer, List.length_replicate]; decide)
    rw [fitted_eq_self_iff, List.length_replicate] at long
    omega
  · intro older datagram _ short
    rw [Network.longestFrom, if_pos older] at short
    exact fitted_eq_self_iff.2 short

/-- What is received is the foremost datagram, as far as there is room. -/
theorem toOption_receiveDatagram (network : Network) (port : UInt16) :
    (network.receiveDatagram port Server.bufferSize).1.toOption =
      (network.foremost? port).map fitted := by
  rw [Network.receiveDatagram, Network.foremost?]
  cases network.consult .receive with
  | mk fault ready =>
      cases fault with
      | some fault => rfl
      | none =>
          dsimp only
          cases ready.takeDatagram port with
          | mk waiting later => cases waiting <;> rfl

/-! ## What arrives -/

namespace Event

/-- The datagram that an event brings. -/
def arrival? : Event → Option Datagram
  | .arrived datagram _ => some datagram
  | _ => none

/-- The datagram that an event puts into an inbox, tells a callback about, or sends back. -/
def handled? : Event → Option Datagram
  | .kept datagram | .told datagram _ | .echoed datagram => some datagram
  | _ => none

theorem arrival?_of_plain {event : Event} (plain : event.ofReceiver = false) :
    event.arrival? = none := by
  cases event with
  | arrived _ _ => cases plain
  | _ => rfl

theorem ofReceiver_of_handled {event : Event} {datagram : Datagram}
    (handled : event.handled? = some datagram) : event.ofReceiver = true := by
  cases event with
  | kept _ | told _ _ | echoed _ => rfl
  | arrived _ _ | greeted _ _ | read _ _ _ | cleared _ | removed _ | replaced _ _ => cases handled

end Event

namespace History

/-- The datagrams that arrived. -/
def arrivals (history : History) : List Datagram := history.filterMap Event.arrival?

theorem arrivals_append (early late : History) :
    arrivals (early ++ late) = arrivals early ++ arrivals late :=
  List.filterMap_append

theorem Plain.arrivals {marks : History} (plain : marks.Plain) : marks.arrivals = [] :=
  List.filterMap_eq_nil_iff.2 fun event within => Event.arrival?_of_plain (plain event within)

/-- Only receivers have datagrams arrive. -/
theorem arrivals_filter (history : History) :
    arrivals (history.filter Event.ofReceiver) = history.arrivals := by
  induction history with
  | nil => rfl
  | cons event history inductionHypothesis =>
      cases received : event.ofReceiver with
      | true =>
          rw [List.filter_cons_of_pos received, arrivals, arrivals, List.filterMap_cons,
            List.filterMap_cons, ← arrivals, ← arrivals, inductionHypothesis]
      | false =>
          rw [List.filter_cons_of_neg (by simp [received]), inductionHypothesis, arrivals, arrivals,
            List.filterMap_cons_none (Event.arrival?_of_plain received)]

/-- Of a datagram that arrives, no other than this one is handled. -/
def Concerns (history : History) (datagram : Datagram) : Prop :=
  history.arrivals = [datagram] ∧
    ∀ event ∈ history, ∀ handled, event.handled? = some handled → handled = datagram

variable {history : History} {datagram : Datagram}

theorem Concerns.snoc (concerns : history.Concerns datagram) {event : Event}
    (handled : event.handled? = some datagram) : Concerns (history ++ [event]) datagram := by
  have silent : event.arrival? = none := by
    cases event with
    | arrived _ _ => cases handled
    | _ => rfl
  refine ⟨?_, ?_⟩
  · rw [arrivals_append, concerns.1, arrivals, List.filterMap_cons_none silent]
    rfl
  · intro other within found same
    rcases List.mem_append.1 within with before | last
    · exact concerns.2 other before found same
    · rw [List.mem_singleton.1 last, handled] at same
      exact (Option.some.inj same).symm

end History

/-! ## Passages -/

/-- A passage opens with the arrival of its datagram. -/
theorem Passage.concerns_opening (datagram : Datagram) (greeting : Option (Option Reaction)) :
    History.Concerns (opening datagram greeting) datagram := by
  cases greeting with
  | none => exact ⟨rfl, by simp [opening, Event.handled?]⟩
  | some callback => exact ⟨rfl, by simp [opening, Event.handled?]⟩

theorem Passage.concerns_events (passage : Passage) :
    History.Concerns passage.events passage.datagram := by
  have opened := concerns_opening passage.datagram passage.greeting
  rw [events]
  split
  · rw [List.append_nil]
    exact opened
  · rw [← List.singleton_append, ← List.append_assoc]
    refine (opened.snoc rfl).snoc ?_
    cases passage.answer <;> rfl

theorem Pass.concerns_soFar (pass : Pass) : History.Concerns pass.soFar pass.datagram := by
  have opened := Passage.concerns_opening pass.datagram pass.greeting
  rw [soFar]
  split
  · exact ⟨rfl, by simp [Event.handled?]⟩
  · exact opened
  · exact opened.snoc rfl

namespace Watch

/-! ## What is taken -/

/-- The datagram that a turn takes off a socket, as it waits there. -/
def taken? (watch : Watch) : Turn → Option Datagram
  | .receive bound =>
      if watch.pass.isNone && watch.server.service.receivers.contains bound &&
          watch.server.running then
        watch.server.network.foremost? bound.port
      else none
  | .act _ | .start | .halt | .join | .proceed => none

/-- The datagrams that a row of turns takes off sockets. -/
def taken (watch : Watch) : List Turn → List Datagram
  | [] => []
  | turn :: turns => (watch.taken? turn).toList ++ (watch.after turn).taken turns

variable {watch : Watch}

theorem arrivals_receive (watch : Watch) (bound : SocketAddress) :
    (watch.receive bound).history.arrivals =
      watch.history.arrivals ++ (watch.taken? (.receive bound)).toList.map fitted := by
  rw [receive, taken?]
  cases watch.pass.isNone && watch.server.service.receivers.contains bound with
  | false => simp
  | true =>
      cases running : watch.server.running with
      | false => simp
      | true =>
          have received := toOption_receiveDatagram watch.server.network bound.port
          simp only [if_true, Bool.and_self]
          cases result : watch.server.network.receiveDatagram bound.port Server.bufferSize with
          | mk receipt network =>
              rw [result] at received
              cases receipt with
              | error failure =>
                  have nothing := Option.map_eq_none_iff.1 received.symm
                  simp [nothing]
              | ok datagram =>
                  obtain ⟨whole, foremost, same⟩ := Option.map_eq_some_iff.1 received.symm
                  rw [foremost, ← same]
                  exact History.arrivals_append _ _

theorem arrivals_proceed (watch : Watch) :
    watch.proceed.history.arrivals = watch.history.arrivals := by
  have once (event : Event) (silent : event.arrival? = none) :
      History.arrivals (watch.history ++ [event]) = watch.history.arrivals := by
    rw [History.arrivals_append, History.arrivals, History.arrivals,
      List.filterMap_cons_none silent]
    exact List.append_nil _
  have further (event : Event) (silent : event.arrival? = none) {marks : History}
      (plain : marks.Plain) :
      History.arrivals (watch.history ++ [event] ++ marks) = watch.history.arrivals := by
    rw [History.arrivals_append, once event silent, plain.arrivals, List.append_nil]
  rw [proceed]
  split
  · rfl
  · next pass underWay =>
      split
      · rw [greet]
        have plain := History.plain_callback pass.datagram.source [] watch.server.onNewPeer
        split <;> exact further _ rfl plain
      · exact once _ rfl
      · rw [answer]
        dsimp only
        split
        · exact once _ rfl
        · next callback _ => exact further _ rfl (History.plain_reaction _ _ callback)

/-- What arrives in a turn is what is taken, as far as there is room. -/
theorem arrivals_after (watch : Watch) (turn : Turn) :
    (watch.after turn).history.arrivals =
      watch.history.arrivals ++ (watch.taken? turn).toList.map fitted := by
  cases turn with
  | receive bound => exact arrivals_receive watch bound
  | proceed =>
      rw [taken?, Option.toList_none, List.map_nil, List.append_nil]
      exact arrivals_proceed watch
  | act act =>
      rw [taken?, Option.toList_none, List.map_nil, ← (History.plain_act act).arrivals]
      exact History.arrivals_append _ _
  | start | halt | join =>
      rw [taken?, Option.toList_none, List.map_nil, List.append_nil, after]
      try split <;> rfl

theorem arrivals_run (watch : Watch) (turns : List Turn) :
    (watch.run turns).history.arrivals =
      watch.history.arrivals ++ (watch.taken turns).map fitted := by
  induction turns generalizing watch with
  | nil => simp [run, taken]
  | cons turn turns inductionHypothesis =>
      rw [taken, List.map_append, ← List.append_assoc, ← arrivals_after]
      exact inductionHypothesis (watch.after turn)

/-! ## What becomes of it -/

/-- What was taken off sockets was handled as far as there was room for it. -/
structure Conveys (watch : Watch) (taken : List Datagram) : Prop where
  /-- What receivers did is one passage for each datagram that was taken, in that order, of
  as much of it as there is room for. -/
  passages : ∃ passages : List Passage, watch.history.filter Event.ofReceiver =
      passages.flatMap Passage.events ++ (watch.pass.map Pass.soFar).getD [] ∧
    passages.map Passage.datagram ++ (watch.pass.map Pass.datagram).toList = taken.map fitted
  /-- Whatever is put into an inbox, told, or sent back is as much of a datagram that was
  taken as there is room for. -/
  handled : ∀ event ∈ watch.history, ∀ datagram, event.handled? = some datagram →
    ∃ whole ∈ taken, datagram = fitted whole
  /-- Inboxes hold what was put into them. -/
  accounts : watch.history.Accounts watch.server
  /-- Callbacks are told what the history says. -/
  called : watch.server.reports.filterMap Report.call? =
    watch.history.filterMap Event.call?
  /-- What the history says is sent back is what is sent, in one datagram. -/
  echoing : ∀ pass, watch.pass = some pass → pass.stage = .kept →
    watch.server.onData = none →
      watch.proceed =
        { server := (watch.server.withNetwork (watch.server.network.sendDatagram pass.bound
            pass.datagram.source false pass.datagram.payload).2).calledBy pass.caller
          pass := none
          history := watch.history ++ [.echoed pass.datagram] }

theorem arrivals_flatMap (passages : List Passage) :
    History.arrivals (passages.flatMap Passage.events) = passages.map Passage.datagram := by
  induction passages with
  | nil => rfl
  | cons passage passages inductionHypothesis =>
      rw [List.flatMap_cons, History.arrivals_append, passage.concerns_events.1,
        inductionHypothesis]
      rfl

theorem arrivals_soFar (pass : Option Pass) :
    History.arrivals ((pass.map Pass.soFar).getD []) = (pass.map Pass.datagram).toList := by
  cases pass with
  | none => rfl
  | some pass => exact pass.concerns_soFar.1

theorem Sound.conveys (sound : watch.Sound) {taken : List Datagram}
    (arrived : watch.history.arrivals = taken.map fitted) : watch.Conveys taken := by
  obtain ⟨passages, parts⟩ := sound.trail.passages
  have datagrams :
      passages.map Passage.datagram ++ (watch.pass.map Pass.datagram).toList =
        taken.map fitted := by
    rw [← arrived, ← History.arrivals_filter, parts, History.arrivals_append, arrivals_flatMap,
      arrivals_soFar]
  refine ⟨⟨passages, parts, datagrams⟩, ?_, sound.booked.accounts, sound.booked.reported,
    fun _ underWay kept free => proceed_of_free underWay kept free⟩
  intro event within datagram handled
  have member : datagram ∈ taken.map fitted := by
    rw [← datagrams, List.mem_append]
    have present := List.mem_filter.2 ⟨within, Event.ofReceiver_of_handled handled⟩
    rw [parts, List.mem_append] at present
    rcases present with completed | current
    · obtain ⟨passage, listed, inside⟩ := List.mem_flatMap.1 completed
      rw [passage.concerns_events.2 event inside datagram handled]
      exact .inl (List.mem_map_of_mem listed)
    · cases underWay : watch.pass with
      | none =>
          rw [underWay] at current
          cases current
      | some pass =>
          rw [underWay] at current
          rw [pass.concerns_soFar.2 event current datagram handled]
          exact .inr (List.mem_singleton.2 rfl)
  obtain ⟨whole, listed, same⟩ := List.mem_map.1 member
  exact ⟨whole, listed, same.symm⟩

end Watch

/-- Whatever happens to a datagram server and around it, each datagram that its receivers take
is put into the inbox of its sender, told to the data callback, and sent back, as far as
there is room for it: whole if it is no longer than the longest of the older family, and else
without the rest.  So it comes through whole whatever its sender may send exactly if the
address of the sender is of the older family. -/
theorem datagrams_come_through_as_far_as_there_is_room (settings : Settings)
    (network : Network) (turns : List Turn) :
    let start := Watch.initial settings network
    (start.run turns).Conveys (start.taken turns) ∧
    (∀ datagram, fitted datagram = datagram ↔ datagram.payload.length ≤ 65507) ∧
    (∀ datagram, (fitted datagram).payload = datagram.payload.take 65507) ∧
    ∀ address : IpAddress,
      (∀ datagram : Datagram, datagram.source.ip = address →
        datagram.payload.length ≤ Network.longestFrom address → fitted datagram = datagram) ↔
        address.holdsV4 = true := by
  intro start
  have arrived := Watch.arrivals_run start turns
  rw [show start.history.arrivals = [] from rfl, List.nil_append] at arrived
  exact ⟨(Watch.sound_run settings network turns).conveys arrived,
    fun datagram => fitted_eq_self_iff, fun datagram => rfl, fitted_from_iff⟩

/-! ## A datagram that is too long -/

/-- Settings at the loopback address of the newer family. -/
def newer : Settings := { Settings.standard with bindAddress := .loopback6, port := 5001 }

/-- The server starts, a datagram waits for it, and its receiver takes it and sends it back. -/
def loneArrival (datagram : Datagram) : List Turn :=
  let bound : SocketAddress := ⟨.loopback6, 5001, 0⟩
  [.start, .act (.disturb { Network.idle false with mailboxes := [⟨bound, false, [datagram]⟩] }),
    .receive bound, .proceed, .proceed, .proceed]

theorem taken_loneArrival (datagram : Datagram) :
    (Watch.initial newer (.idle false)).taken (loneArrival datagram) = [datagram] := rfl

theorem history_loneArrival (datagram : Datagram) :
    ((Watch.initial newer (.idle false)).run (loneArrival datagram)).history =
      [.arrived (fitted datagram) true, .greeted datagram.source none, .kept (fitted datagram),
        .echoed (fitted datagram)] := rfl

/-- Not every datagram that the newer family carries comes through whole: not one of 65508
bytes. -/
theorem long_datagram_loses_its_end :
    ¬ ∀ settings network turns,
      let start := Watch.initial settings network
      (∀ datagram ∈ start.taken turns,
        datagram.payload.length ≤ Network.longestFrom datagram.source.ip) →
      ∀ event ∈ (start.run turns).history, ∀ datagram, event.handled? = some datagram →
        datagram ∈ start.taken turns := by
  intro all
  let long : Datagram := ⟨⟨.loopback6, 5002, 0⟩, List.replicate 65508 0⟩
  have length : long.payload.length = 65508 := List.length_replicate
  have whole := all newer (.idle false) (loneArrival long)
  dsimp only at whole
  rw [taken_loneArrival, history_loneArrival] at whole
  have kept := whole (by simpa [length] using (by decide : 65508 ≤ Network.longestFrom .loopback6))
    (.kept (fitted long)) (by simp) (fitted long) rfl
  have fits := fitted_eq_self_iff.1 (List.mem_singleton.1 kept)
  rw [length] at fits
  exact absurd fits (by decide)

end Udp
end Framelink
