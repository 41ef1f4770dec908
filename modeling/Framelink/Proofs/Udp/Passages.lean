import Framelink.Proofs.Udp.Accounts

/-!
# Runs of a datagram server, passage by passage

Whatever the turns of a run, what its receivers did is one passage after the other, each
complete but the one under way; every event fits what happened before it; the history
accounts for the server; and the reports of the server tell of the calls in the history,
in order and once each.  Each turn keeps this, so every run does.
-/

namespace Framelink
namespace Udp

/-! ## What receivers have no part in -/

namespace Event

theorem call?_of_plain {event : Event} (plain : event.ofReceiver = false) :
    event.call? = none := by
  cases event with
  | arrived _ _ | greeted _ _ | kept _ | told _ _ | echoed _ => cases plain
  | read _ _ _ | cleared _ | removed _ | replaced _ _ => rfl

theorem fits_of_plain {event : Event} (plain : event.ofReceiver = false) (history : History) :
    event.Fits history := by
  cases event with
  | arrived _ _ | greeted _ _ | kept _ | told _ _ | echoed _ => cases plain
  | read _ _ _ | cleared _ | removed _ | replaced _ _ => exact trivial

theorem not_isStride_of_plain {event : Event} (plain : event.ofReceiver = false) :
    ¬ event.isStride = true := by
  cases event with
  | arrived _ _ | greeted _ _ | kept _ | told _ _ | echoed _ => cases plain
  | read _ _ _ | cleared _ | removed _ | replaced _ _ => exact Bool.false_ne_true

end Event

namespace History

/-- Receivers have no part in any of these events. -/
def Plain (marks : History) : Prop := ∀ event ∈ marks, event.ofReceiver = false

theorem plain_nil : Plain [] := fun _ none => nomatch none

theorem plain_reaction (peer : SocketAddress) (payload : Bytes) (reaction : Reaction) :
    Plain (reaction.marks peer payload) := by
  intro event within
  cases reaction <;> simp_all [Reaction.marks, Event.ofReceiver]

/-- What a callback does, if there is one. -/
theorem plain_callback (peer : SocketAddress) (payload : Bytes) (callback : Option Reaction) :
    Plain ((callback.map (Reaction.marks peer payload)).getD []) := by
  cases callback with
  | none => exact plain_nil
  | some reaction => exact plain_reaction peer payload reaction

theorem plain_act (act : Act) : Plain act.marks := by
  intro event within
  cases act <;> simp_all [Act.marks, Event.ofReceiver]

variable {history marks : History}

theorem Plain.calls (plain : marks.Plain) :
    (history ++ marks).filterMap Event.call? = history.filterMap Event.call? := by
  have none : marks.filterMap Event.call? = [] := by
    rw [List.filterMap_eq_nil_iff]
    intro event within
    exact Event.call?_of_plain (plain event within)
  rw [List.filterMap_append, none, List.append_nil]

theorem Plain.receivers (plain : marks.Plain) :
    (history ++ marks).filter Event.ofReceiver = history.filter Event.ofReceiver := by
  have none : marks.filter Event.ofReceiver = [] := by
    rw [List.filter_eq_nil_iff]
    intro event within
    rw [plain event within]
    exact Bool.false_ne_true
  rw [List.filter_append, none, List.append_nil]

theorem Plain.faithful (plain : marks.Plain) (faithful : history.Faithful) :
    Faithful (history ++ marks) := by
  induction marks using List.reverseRecOn with
  | nil =>
      rw [List.append_nil]
      exact faithful
  | append_singleton marks event inductionHypothesis =>
      rw [← List.append_assoc]
      refine Faithful.snoc (inductionHypothesis ?_) ?_
      · intro other within
        exact plain other (List.mem_append_left _ within)
      · exact Event.fits_of_plain (plain event (by simp)) _

theorem Plain.awaits (plain : marks.Plain) {datagram : Datagram}
    (awaits : history.Awaits datagram) : Awaits (history ++ marks) datagram := by
  induction marks using List.reverseRecOn with
  | nil =>
      rw [List.append_nil]
      exact awaits
  | append_singleton marks event inductionHypothesis =>
      rw [← List.append_assoc, Awaits, since_snoc]
      refine Or.inr ⟨Event.not_isStride_of_plain (plain event (by simp)), ?_⟩
      refine inductionHypothesis ?_
      intro other within
      exact plain other (List.mem_append_left _ within)

end History

/-! ## The trail of the receivers -/

/-- What a history and a passage under way have to do with each other. -/
structure Trail (history : History) (pass : Option Pass) : Prop where
  passages : ∃ passages : List Passage, history.filter Event.ofReceiver =
    passages.flatMap Passage.events ++ (pass.map Pass.soFar).getD []
  faithful : history.Faithful
  awaits : ∀ underWay, pass = some underWay → underWay.stage ≠ .kept →
    history.Awaits underWay.datagram
  calm : ∀ underWay, pass = some underWay → underWay.stage ≠ .met →
    Passage.isLost underWay.greeting = false

namespace Trail

variable {history : History} {pass : Option Pass}

theorem initial : Trail [] none where
  passages := ⟨[], rfl⟩
  faithful := History.faithful_nil
  awaits := fun _ none => nomatch none
  calm := fun _ none => nomatch none

theorem append (trail : Trail history pass) {marks : History} (plain : marks.Plain) :
    Trail (history ++ marks) pass where
  passages := by
    rw [plain.receivers]
    exact trail.passages
  faithful := plain.faithful trail.faithful
  awaits := fun underWay same before => plain.awaits (trail.awaits underWay same before)
  calm := trail.calm

/-- A passage goes on with an event that is the next of it. -/
theorem further (trail : Trail history pass) {event : Event} {next : Pass}
    (ofReceiver : event.ofReceiver = true) (fits : event.Fits history)
    (soFar : next.soFar = (pass.map Pass.soFar).getD [] ++ [event])
    (awaits : next.stage ≠ .kept → History.Awaits (history ++ [event]) next.datagram)
    (calm : next.stage ≠ .met → Passage.isLost next.greeting = false) :
    Trail (history ++ [event]) (some next) where
  passages := by
    obtain ⟨passages, parts⟩ := trail.passages
    refine ⟨passages, ?_⟩
    rw [List.filter_append, parts, List.append_assoc]
    simp [ofReceiver, soFar]
  faithful := trail.faithful.snoc fits
  awaits := by
    rintro _ ⟨⟩
    exact awaits
  calm := by
    rintro _ ⟨⟩
    exact calm

/-- A passage is over with an event that completes it. -/
theorem complete (trail : Trail history pass) {event : Event} (passage : Passage)
    (ofReceiver : event.ofReceiver = true) (fits : event.Fits history)
    (whole : passage.events = (pass.map Pass.soFar).getD [] ++ [event]) :
    Trail (history ++ [event]) none where
  passages := by
    obtain ⟨passages, parts⟩ := trail.passages
    refine ⟨passages ++ [passage], ?_⟩
    rw [List.filter_append, parts, List.append_assoc, List.flatMap_append]
    simp [ofReceiver, whole]
  faithful := trail.faithful.snoc fits
  awaits := fun _ none => nomatch none
  calm := fun _ none => nomatch none

end Trail

/-! ## What a server is accounted for with -/

/-- A history accounts for a server, down to its reports. -/
structure Booked (history : History) (server : Server) : Prop where
  accounts : history.Accounts server
  reported : server.reports.filterMap Report.call? = history.filterMap Event.call?

namespace Booked

variable {history : History} {server later : Server}

theorem initial (settings : Settings) (network : Network) :
    Booked [] (.stopped settings network) := ⟨History.accounts_initial settings network, rfl⟩

theorem of_books (booked : Booked history server) (same : later.books = server.books) :
    Booked history later where
  accounts := booked.accounts.of_books same
  reported := by
    rw [Server.reports_of_books same]
    exact booked.reported

theorem on (booked : Booked history server) (act : Act) :
    Booked (history ++ act.marks) (act.on server) where
  accounts := booked.accounts.on act
  reported := by
    rw [Server.reports_on, (History.plain_act act).calls]
    exact booked.reported

theorem trackNew (booked : Booked history server) {datagram : Datagram} {unknown : Bool}
    (tracked : Framelink.Server.trackNew server datagram.source
      (Server.freshPeer datagram.source) = (unknown, later)) :
    Booked (history ++ [.arrived datagram unknown]) later := by
  obtain ⟨-, accounts, reports⟩ := booked.accounts.trackNew tracked
  refine ⟨accounts, ?_⟩
  rw [reports, booked.reported, List.filterMap_append]
  exact (List.append_nil _).symm

theorem push (booked : Booked history server) (datagram : Datagram) :
    Booked (history ++ [.kept datagram])
      (Framelink.Server.push server datagram.source datagram.payload) := by
  refine ⟨booked.accounts.push datagram, ?_⟩
  rw [List.filterMap_append]
  exact booked.reported.trans (List.append_nil _).symm

/-- The turn of a callback where there is none. -/
theorem turn (booked : Booked history server) {event : Event} (turn : event.isTurn = true)
    (silent : event.call? = none) : Booked (history ++ [event]) server := by
  refine ⟨booked.accounts.turn turn, ?_⟩
  rw [List.filterMap_append, booked.reported, List.filterMap_cons, silent]
  exact (List.append_nil _).symm

/-- The turn of a callback that is called, with the report of the call. -/
theorem callBack (booked : Booked history server) {event : Event}
    (turn : event.isTurn = true) {report : Answer → Report SocketAddress}
    (told : ∀ answer, (report answer).call? = event.call?) (peer : SocketAddress)
    (payload : Bytes) (reaction : Reaction) :
    Booked (history ++ [event] ++ reaction.marks peer payload)
      (Framelink.Server.callBack server peer payload reaction report).2 := by
  obtain ⟨accounts, answer, reports⟩ :=
    (booked.accounts.turn turn).callBack peer payload reaction report
  refine ⟨accounts, ?_⟩
  rw [(History.plain_reaction peer payload reaction).calls, reports, List.filterMap_append,
    List.filterMap_append, booked.reported]
  simp only [List.filterMap_cons, told, List.filterMap_nil]

/-- The turn of the new-peer callback, which ends the receiver exactly if it panics. -/
theorem dispatchNewPeer (booked : Booked history server) (peer : SocketAddress) :
    Booked (history ++ [.greeted peer server.onNewPeer] ++
        (server.onNewPeer.map (Reaction.marks peer [])).getD [])
      (Framelink.Server.dispatchNewPeer server peer peer).2 ∧
      ((Framelink.Server.dispatchNewPeer server peer peer).1 = .panicked ↔
        Passage.isLost (some server.onNewPeer) = true) := by
  rw [Framelink.Server.dispatchNewPeer]
  cases installed : server.onNewPeer with
  | none =>
      refine ⟨?_, iff_of_false Delivery.noConfusion Bool.false_ne_true⟩
      rw [Option.map_none, Option.getD_none, List.append_nil]
      exact booked.turn rfl rfl
  | some reaction =>
      refine ⟨booked.callBack rfl (fun _ => rfl) peer [] reaction, ?_⟩
      cases reaction <;> simp [Framelink.Server.callBack, Passage.isLost]

/-- The turn of a data callback that is in place. -/
theorem dispatchData (booked : Booked history server) {reaction : Reaction}
    (installed : server.onData = some reaction) (datagram : Datagram) :
    Booked (history ++ [.told datagram reaction] ++
        reaction.marks datagram.source datagram.payload)
      (Framelink.Server.dispatchData server datagram.source datagram.payload).2 := by
  rw [Framelink.Server.dispatchData, installed]
  exact booked.callBack rfl (fun _ => rfl) datagram.source datagram.payload reaction

end Booked

/-! ## Turns -/

/-- What holds of a watch whatever its turns were. -/
structure Watch.Sound (watch : Watch) : Prop where
  booked : Booked watch.history watch.server
  trail : Trail watch.history watch.pass

namespace Watch

variable {watch : Watch}

theorem sound_initial (settings : Settings) (network : Network) :
    (initial settings network).Sound := ⟨Booked.initial settings network, Trail.initial⟩

theorem Sound.of_books (sound : watch.Sound) {server : Server}
    (same : server.books = watch.server.books) : { watch with server }.Sound :=
  ⟨sound.booked.of_books same, sound.trail⟩

theorem Sound.take (sound : watch.Sound) (quiet : watch.pass = none) (bound : SocketAddress)
    (network : Network) (datagram : Datagram) : (watch.take bound network datagram).Sound := by
  have called : Booked watch.history
      ((watch.server.withNetwork network).calledBy (some bound)) := sound.booked.of_books rfl
  rw [Watch.take]
  dsimp only
  cases tracked : Framelink.Server.trackNew
      ((watch.server.withNetwork network).calledBy (some bound)) datagram.source
      (Server.freshPeer datagram.source) with
  | mk unknown server =>
      have fits := (called.accounts.trackNew tracked).1
      refine ⟨called.trackNew tracked, sound.trail.further rfl fits ?_ ?_ ?_⟩
      · rw [quiet]
        cases unknown <;> rfl
      · intro before
        rw [History.Awaits, since_snoc]
        exact Or.inl ⟨unknown, rfl⟩
      · intro known
        rfl

theorem Sound.receive (sound : watch.Sound) (bound : SocketAddress) :
    (watch.receive bound).Sound := by
  rw [Watch.receive]
  split
  · next may =>
      rw [Bool.and_eq_true, Option.isNone_iff_eq_none] at may
      split
      · split
        · exact sound.of_books rfl
        · exact sound.take may.1 bound _ _
      · exact sound.of_books (Server.books_endReceiver _ bound)
  · exact sound

theorem Sound.greet (sound : watch.Sound) {pass : Pass} (underWay : watch.pass = some pass)
    (met : pass.stage = .met) : (watch.greet pass).Sound := by
  have fits : (Event.greeted pass.datagram.source watch.server.onNewPeer).Fits watch.history :=
    sound.booked.accounts.onNewPeer.symm
  have awaits := sound.trail.awaits pass underWay (by rw [met]; decide)
  have begun : (watch.pass.map Pass.soFar).getD [] = [.arrived pass.datagram true] := by
    rw [underWay]
    simp [Pass.soFar, met]
  have plain : History.Plain ((watch.server.onNewPeer.map
      (Reaction.marks pass.datagram.source [])).getD []) :=
    History.plain_callback _ _ watch.server.onNewPeer
  obtain ⟨booked, lost⟩ := sound.booked.dispatchNewPeer pass.datagram.source
  rw [Watch.greet]
  cases delivered : Framelink.Server.dispatchNewPeer watch.server pass.datagram.source
      pass.datagram.source with
  | mk delivery later =>
      rw [delivered] at booked lost
      cases delivery with
      | panicked =>
          have ended := sound.trail.complete
            ⟨pass.datagram, some watch.server.onNewPeer, none⟩ rfl fits (by
              rw [begun, Passage.events, if_pos (lost.1 rfl)]
              rfl)
          exact ⟨booked.of_books (Server.books_leave _ _ _), ended.append plain⟩
      | heard | unheard =>
          have calm : Passage.isLost (some watch.server.onNewPeer) = false := by
            cases isLost : Passage.isLost (some watch.server.onNewPeer) with
            | false => rfl
            | true => cases lost.2 isLost
          have goesOn : Trail (watch.history ++
                [.greeted pass.datagram.source watch.server.onNewPeer])
              (some { pass with
                greeting := some watch.server.onNewPeer
                stage := .known }) := by
            refine sound.trail.further rfl fits ?_ ?_ ?_
            · rw [begun]
              rfl
            · intro _
              exact (since_snoc _ _ _ _).2 (Or.inr ⟨Bool.false_ne_true, awaits⟩)
            · intro _
              exact calm
          exact ⟨booked, goesOn.append plain⟩

theorem Sound.keep (sound : watch.Sound) {pass : Pass} (underWay : watch.pass = some pass)
    (known : pass.stage = .known) : (watch.keep pass).Sound := by
  have awaits := sound.trail.awaits pass underWay (by rw [known]; decide)
  have calm := sound.trail.calm pass underWay (by rw [known]; decide)
  refine ⟨sound.booked.push pass.datagram, sound.trail.further rfl awaits ?_ ?_ ?_⟩
  · rw [underWay]
    simp [Pass.soFar, known]
  · intro before
    exact absurd rfl before
  · intro _
    exact calm

theorem Sound.answer (sound : watch.Sound) {pass : Pass} (underWay : watch.pass = some pass)
    (kept : pass.stage = .kept) : (watch.answer pass).Sound := by
  have calm := sound.trail.calm pass underWay (by rw [kept]; decide)
  have whole (answer : Option Reaction) :
      Passage.events ⟨pass.datagram, pass.greeting, answer⟩ =
        (watch.pass.map Pass.soFar).getD [] ++ [Passage.ending pass.datagram answer] := by
    rw [underWay, Passage.events, if_neg (by rw [calm]; decide)]
    simp [Pass.soFar, kept]
  rw [Watch.answer]
  dsimp only
  split
  · next free =>
      have fits : (Event.echoed pass.datagram).Fits watch.history :=
        sound.booked.accounts.onData.symm.trans free
      have ended := sound.trail.complete _ rfl fits (whole none)
      exact ⟨(sound.booked.turn rfl rfl).of_books rfl, ended⟩
  · next callback installed =>
      have fits : (Event.told pass.datagram callback).Fits watch.history :=
        sound.booked.accounts.onData.symm.trans installed
      have ended := sound.trail.complete _ rfl fits (whole (some callback))
      have booked := sound.booked.dispatchData installed pass.datagram
      exact ⟨booked.of_books (Server.books_leave _ _ _),
        ended.append (History.plain_reaction _ _ callback)⟩

theorem Sound.proceed (sound : watch.Sound) : watch.proceed.Sound := by
  rw [Watch.proceed]
  split
  · exact sound
  · next pass underWay =>
      split
      · next met => exact sound.greet underWay met
      · next known => exact sound.keep underWay known
      · next kept => exact sound.answer underWay kept

theorem Sound.after (sound : watch.Sound) (turn : Turn) : (watch.after turn).Sound := by
  cases turn with
  | act act => exact ⟨sound.booked.on act, sound.trail.append (History.plain_act act)⟩
  | start =>
      rw [Watch.after]
      split
      · exact sound.of_books (Server.books_start watch.server)
      · exact sound
  | halt => exact sound.of_books rfl
  | join =>
      rw [Watch.after]
      split
      · exact sound.of_books (Server.books_windDown watch.server)
      · exact sound
  | receive bound => exact sound.receive bound
  | proceed => exact sound.proceed

/-! ## Runs -/

theorem Sound.run (sound : watch.Sound) (turns : List Turn) : (watch.run turns).Sound := by
  induction turns generalizing watch with
  | nil => exact sound
  | cons turn rest inductionHypothesis => exact inductionHypothesis (sound.after turn)

theorem sound_run (settings : Settings) (network : Network) (turns : List Turn) :
    ((initial settings network).run turns).Sound :=
  (sound_initial settings network).run turns

end Watch
end Udp
end Framelink
