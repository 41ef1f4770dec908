import Framelink.Proofs.Inbox
import Framelink.Proofs.Notices
import Framelink.Proofs.Udp.Tracking

/-!
# Introductions of datagram peers

A receiver tracks the sender of a datagram, greets it if it was not tracked before, keeps the
datagram and only then answers it.  So the application is told of every sender once, first of
all, and whenever it is told anything the sender is tracked already, unless it was removed.
-/

namespace Framelink

/-- The call that a notice comes with, if a callback is in place. -/
def Notice.call? : Notice SocketAddress → Option Call
  | .joined address peer callback => callback.map (.ofNewPeer address peer)
  | .received chunk peer callback => callback.map (.ofData chunk peer)

/-- Which peer a call is about. -/
def Call.peer : Call → SocketAddress
  | .ofData _ peer _ | .ofNewPeer _ peer _ => peer

namespace Udp

/-! ## Notices -/

namespace Event

/-- What an event tells the application of an address. -/
def notice? (address : SocketAddress) : Event → Option (Notice SocketAddress)
  | .greeted other callback =>
      if other = address then some (.joined other other callback) else none
  | .told datagram callback =>
      if datagram.source = address then
        some (.received datagram.payload datagram.source (some callback))
      else none
  | .echoed datagram =>
      if datagram.source = address then
        some (.received datagram.payload datagram.source none)
      else none
  | _ => none

/-- What an event puts into the inbox of an address. -/
def filed (address : SocketAddress) : Event → Bytes
  | .kept datagram => if datagram.source = address then datagram.payload else []
  | _ => []

variable {event : Event} {address : SocketAddress}

theorem notice?_of_plain (plain : event.ofReceiver = false) : event.notice? address = none := by
  cases event with
  | arrived | greeted | kept | told | echoed => cases plain
  | read | cleared | removed | replaced => rfl

theorem filed_of_plain (plain : event.ofReceiver = false) : event.filed address = [] := by
  cases event with
  | arrived | greeted | kept | told | echoed => cases plain
  | read | cleared | removed | replaced => rfl

theorem notice?_ending (datagram : Datagram) (callback : Option Reaction) :
    (Passage.ending datagram callback).notice? address =
      if datagram.source = address then
        some (.received datagram.payload datagram.source callback)
      else none := by
  cases callback <;> rfl

theorem filed_ending (datagram : Datagram) (callback : Option Reaction) :
    (Passage.ending datagram callback).filed address = [] := by
  cases callback <;> rfl

theorem received_alter (event : Event) (address : SocketAddress) (inbox : Inbox) :
    (event.alter address inbox).tally.received =
      inbox.tally.received + UInt64.ofNat (event.filed address).length := by
  have nothing (total : UInt64) : total = total + UInt64.ofNat (List.length ([] : Bytes)) :=
    (UInt64.add_zero total).symm
  cases event with
  | kept datagram =>
      rw [alter, filed]
      split
      · rfl
      · exact nothing _
  | read other size erase =>
      rw [alter]
      split
      · exact (inbox.received_read size erase).trans (nothing _)
      · exact nothing _
  | cleared other =>
      rw [alter]
      split <;> exact nothing _
  | arrived | greeted | told | echoed | removed | replaced => exact nothing _

/-- The calls about an address are those that its notices come with. -/
theorem call?_about (event : Event) (address : SocketAddress) :
    (event.call?.filter fun call => call.peer = address) =
      (event.notice? address).bind Notice.call? := by
  cases event with
  | greeted other callback =>
      cases callback with
      | none =>
          rw [notice?]
          split <;> rfl
      | some callback =>
          rw [notice?]
          by_cases same : other = address <;> simp [call?, Call.peer, Notice.call?, same]
  | told datagram callback =>
      rw [notice?]
      by_cases same : datagram.source = address <;> simp [call?, Call.peer, Notice.call?, same]
  | echoed datagram =>
      rw [notice?]
      split <;> rfl
  | arrived | kept | read | cleared | removed | replaced => rfl

end Event

namespace History

/-- What the application was told of an address. -/
def notices (history : History) (address : SocketAddress) : List (Notice SocketAddress) :=
  history.filterMap (Event.notice? address)

/-- What was put into the inbox of an address. -/
def filed (history : History) (address : SocketAddress) : Bytes :=
  history.flatMap (Event.filed address)

variable {history marks : History} {address : SocketAddress}

theorem notices_append (early late : History) (address : SocketAddress) :
    notices (early ++ late) address = early.notices address ++ late.notices address :=
  List.filterMap_append

theorem notices_cons (event : Event) (history : History) (address : SocketAddress) :
    notices (event :: history) address =
      (event.notice? address).toList ++ history.notices address := by
  rw [notices, List.filterMap_cons]
  cases event.notice? address <;> rfl

theorem filed_cons (event : Event) (history : History) (address : SocketAddress) :
    filed (event :: history) address = event.filed address ++ history.filed address :=
  List.flatMap_cons

theorem filed_append (early late : History) (address : SocketAddress) :
    filed (early ++ late) address = early.filed address ++ late.filed address :=
  List.flatMap_append

theorem Plain.notices (plain : marks.Plain) : marks.notices address = [] :=
  List.filterMap_eq_nil_iff.2 fun event within => Event.notice?_of_plain (plain event within)

theorem Plain.filed (plain : marks.Plain) : marks.filed address = [] :=
  List.flatMap_eq_nil_iff.2 fun event within => Event.filed_of_plain (plain event within)

theorem Plain.notices_cons (plain : marks.Plain) (event : Event) :
    History.notices (event :: marks) address = (event.notice? address).toList := by
  rw [History.notices_cons, plain.notices, List.append_nil]

theorem Plain.filed_cons (plain : marks.Plain) (event : Event) :
    History.filed (event :: marks) address = event.filed address := by
  rw [History.filed_cons, plain.filed, List.append_nil]

/-- All that an inbox received was put into it. -/
theorem received_foldl (history : History) (address : SocketAddress) (inbox : Inbox) :
    (history.foldl (Event.alter address) inbox).tally.received =
      inbox.tally.received + UInt64.ofNat (history.filed address).length := by
  induction history generalizing inbox with
  | nil => exact (UInt64.add_zero _).symm
  | cons event rest inductionHypothesis =>
      rw [List.foldl_cons, inductionHypothesis, Event.received_alter, filed_cons,
        List.length_append, UInt64.ofNat_add, UInt64.add_assoc]

end History

/-- What a passage is about to tell the application. -/
def Pass.notice? (server : Server) (pass : Pass) : Option (Notice SocketAddress) :=
  match pass.stage with
  | .met => some (.joined pass.datagram.source pass.datagram.source server.onNewPeer)
  | .known => none
  | .kept => some (.received pass.datagram.payload pass.datagram.source server.onData)

/-- What a passage has put into the inbox of an address and not told yet. -/
def Pass.untold (address : SocketAddress) (pass : Pass) : Bytes :=
  if pass.stage = .kept ∧ pass.datagram.source = address then pass.datagram.payload else []

namespace Watch

/-! ## Turns -/

/-- How far a turn takes the passage that is under way. -/
inductive Strides (watch later : Watch) : Prop
  /-- It has nothing to do with it. -/
  | beside (marks : History) (plain : marks.Plain) (pass : later.pass = watch.pass)
      (history : later.history = watch.history ++ marks)
  | took (pass : Pass) (unknown : Bool) (quiet : watch.pass = none)
      (underWay : later.pass = some pass) (stage : pass.stage = if unknown then .met else .known)
      (fits : (Event.arrived pass.datagram unknown).Fits watch.history)
      (history : later.history = watch.history ++ [.arrived pass.datagram unknown])
  | greeted (pass : Pass) (callback : Option Reaction) (marks : History) (plain : marks.Plain)
      (underWay : watch.pass = some pass) (met : pass.stage = .met)
      (goesOn : ∀ next, later.pass = some next → next.stage = .known)
      (history : later.history =
        watch.history ++ (.greeted pass.datagram.source callback :: marks))
  | kept (pass : Pass) (underWay : watch.pass = some pass) (known : pass.stage = .known)
      (goesOn : later.pass = some { pass with stage := .kept })
      (history : later.history = watch.history ++ [.kept pass.datagram])
  | answered (pass : Pass) (callback : Option Reaction) (marks : History) (plain : marks.Plain)
      (underWay : watch.pass = some pass) (kept : pass.stage = .kept) (finished : later.pass = none)
      (history : later.history =
        watch.history ++ (Passage.ending pass.datagram callback :: marks))

variable {watch : Watch}

/-- A turn that leaves the passage and the history alone. -/
theorem strides_of_same {later : Watch} (pass : later.pass = watch.pass)
    (history : later.history = watch.history) : watch.Strides later :=
  .beside [] History.plain_nil pass (history.trans (List.append_nil _).symm)

theorem Sound.strides_take (sound : watch.Sound) (quiet : watch.pass = none)
    (bound : SocketAddress) (network : Network) (datagram : Datagram) :
    watch.Strides (watch.take bound network datagram) := by
  have called : Booked watch.history
      ((watch.server.withNetwork network).calledBy (some bound)) := sound.booked.of_books rfl
  rw [Watch.take]
  dsimp only
  cases tracked : Framelink.Server.trackNew
      ((watch.server.withNetwork network).calledBy (some bound)) datagram.source
      (Server.freshPeer datagram.source) with
  | mk unknown server =>
      exact .took _ unknown quiet rfl rfl (called.accounts.trackNew tracked).1 rfl

theorem strides_greet {pass : Pass} (underWay : watch.pass = some pass)
    (met : pass.stage = .met) : watch.Strides (watch.greet pass) := by
  have plain : History.Plain ((watch.server.onNewPeer.map
      (Reaction.marks pass.datagram.source [])).getD []) :=
    History.plain_callback _ _ watch.server.onNewPeer
  have history : watch.history ++ [.greeted pass.datagram.source watch.server.onNewPeer] ++
      ((watch.server.onNewPeer.map (Reaction.marks pass.datagram.source [])).getD []) = _ :=
    List.append_assoc _ _ _
  rw [Watch.greet]
  cases Framelink.Server.dispatchNewPeer watch.server pass.datagram.source
      pass.datagram.source with
  | mk delivery later =>
      cases delivery with
      | panicked =>
          exact .greeted pass _ _ plain underWay met (by simp) history
      | heard | unheard =>
          refine .greeted pass _ _ plain underWay met ?_ history
          rintro next ⟨⟩
          rfl

theorem strides_answer {pass : Pass} (underWay : watch.pass = some pass)
    (kept : pass.stage = .kept) : watch.Strides (watch.answer pass) := by
  rw [Watch.answer]
  dsimp only
  split
  · exact .answered pass none [] History.plain_nil underWay kept rfl rfl
  · next callback installed =>
      exact .answered pass (some callback) _ (History.plain_reaction _ _ callback) underWay kept
        rfl (List.append_assoc _ _ _)

theorem Sound.strides (sound : watch.Sound) (turn : Turn) : watch.Strides (watch.after turn) := by
  cases turn with
  | act act => exact .beside _ (History.plain_act act) rfl rfl
  | halt => exact strides_of_same rfl rfl
  | start =>
      rw [Watch.after]
      split <;> exact strides_of_same rfl rfl
  | join =>
      rw [Watch.after]
      split <;> exact strides_of_same rfl rfl
  | receive bound =>
      rw [Watch.after, Watch.receive]
      split
      · next may =>
          rw [Bool.and_eq_true, Option.isNone_iff_eq_none] at may
          split
          · split
            · exact strides_of_same rfl rfl
            · exact sound.strides_take may.1 bound _ _
          · exact strides_of_same rfl rfl
      · exact strides_of_same rfl rfl
  | proceed =>
      rw [Watch.after, Watch.proceed]
      split
      · exact strides_of_same rfl rfl
      · next pass underWay =>
          split
          · next met => exact strides_greet underWay met
          · next known => exact .kept pass underWay known rfl rfl
          · next kept => exact strides_answer underWay kept

/-! ## Getting to know a sender -/

/-- What the application was told of an address since the first datagram from it arrived. -/
structure Acquaintance (address : SocketAddress) (late : History) (pass : Option Pass) :
    Prop where
  /-- The sender is to be greeted, or it was greeted first and once. -/
  ordered : (late.notices address = [] ∧ ∃ underWay, pass = some underWay ∧
      underWay.stage = .met ∧ underWay.datagram.source = address) ∨
    Introduced address address (late.notices address) ∧ ∀ underWay, pass = some underWay →
      underWay.stage = .met → underWay.datagram.source ≠ address
  /-- What was put into its inbox was told, but for what is about to be. -/
  filed : late.filed address =
    bytesTold (late.notices address) ++ (pass.map (Pass.untold address)).getD []

namespace Acquaintance

variable {address : SocketAddress} {late marks : History} {pass : Pass} {callback : Option Reaction}

theorem untold_of_unkept (unkept : pass.stage ≠ .kept) : pass.untold address = [] :=
  if_neg fun same => unkept same.1

/-- An unknown sender whose datagram was taken is to be greeted. -/
theorem began (met : pass.stage = .met) :
    Acquaintance pass.datagram.source [] (some pass) where
  ordered := Or.inl ⟨rfl, pass, rfl, met, rfl⟩
  filed := (untold_of_unkept (by rw [met]; nofun)).symm

theorem beside {underWay : Option Pass} (acquaintance : Acquaintance address late underWay)
    (plain : marks.Plain) : Acquaintance address (late ++ marks) underWay := by
  obtain ⟨ordered, filed⟩ := acquaintance
  constructor
  · rw [History.notices_append, plain.notices, List.append_nil]
    exact ordered
  · rw [History.notices_append, History.filed_append, plain.notices, plain.filed, List.append_nil,
      List.append_nil]
    exact filed

/-- A datagram is taken from another sender, or from one that is tracked. -/
theorem took (acquaintance : Acquaintance address late none) {unknown : Bool}
    (unkept : pass.stage ≠ .kept)
    (known : pass.datagram.source = address → pass.stage ≠ .met) :
    Acquaintance address (late ++ [.arrived pass.datagram unknown]) (some pass) := by
  obtain ⟨ordered, filed⟩ := acquaintance
  have silent : History.notices [.arrived pass.datagram unknown] address = [] := rfl
  have nothing : History.filed [.arrived pass.datagram unknown] address = [] := rfl
  constructor
  · rw [History.notices_append, silent, List.append_nil]
    rcases ordered with ⟨_, _, none, _⟩ | ⟨introduced, _⟩
    · cases none
    · refine Or.inr ⟨introduced, ?_⟩
      rintro _ ⟨⟩ met own
      exact known own met
  · rw [History.notices_append, History.filed_append, silent, nothing, List.append_nil,
      List.append_nil, filed, Option.map_some, Option.getD_some, untold_of_unkept unkept]
    rfl

theorem greeted (acquaintance : Acquaintance address late (some pass)) (met : pass.stage = .met)
    (plain : marks.Plain) {next : Option Pass}
    (goesOn : ∀ underWay, next = some underWay → underWay.stage = .known) :
    Acquaintance address (late ++ (.greeted pass.datagram.source callback :: marks)) next := by
  obtain ⟨ordered, filed⟩ := acquaintance
  have others (underWay : Pass) (same : next = some underWay) (again : underWay.stage = .met) :
      underWay.datagram.source ≠ address := by
    cases (goesOn underWay same).symm.trans again
  have unfiled : (next.map (Pass.untold address)).getD [] = [] := by
    cases next with
    | none => rfl
    | some underWay => exact untold_of_unkept (by rw [goesOn underWay rfl]; nofun)
  rw [Option.map_some, Option.getD_some, untold_of_unkept (by rw [met]; nofun)] at filed
  have more : History.notices (.greeted pass.datagram.source callback :: marks) address =
      if pass.datagram.source = address then [.joined address address callback] else [] := by
    rw [plain.notices_cons, Event.notice?]
    by_cases own : pass.datagram.source = address
    · rw [if_pos own, if_pos own, own]
      rfl
    · rw [if_neg own, if_neg own]
      rfl
  have silent : History.filed (.greeted pass.datagram.source callback :: marks) address = [] :=
    plain.filed_cons _
  constructor
  · rw [History.notices_append, more]
    rcases ordered with ⟨untold, _, ⟨⟩, _, own⟩ | ⟨introduced, another⟩
    · rw [untold, if_pos own]
      exact Or.inr ⟨.first address address callback, others⟩
    · rw [if_neg (another pass rfl met), List.append_nil]
      exact Or.inr ⟨introduced, others⟩
  · rw [History.notices_append, History.filed_append, more, silent, unfiled, List.append_nil,
      List.append_nil, filed, List.append_nil, bytesTold_append]
    split
    · exact (List.append_nil _).symm
    · exact (List.append_nil _).symm

theorem kept (acquaintance : Acquaintance address late (some pass)) (known : pass.stage = .known) :
    Acquaintance address (late ++ [.kept pass.datagram])
      (some { pass with stage := .kept }) := by
  obtain ⟨ordered, filed⟩ := acquaintance
  have silent : History.notices [.kept pass.datagram] address = [] := rfl
  rw [Option.map_some, Option.getD_some, untold_of_unkept (by rw [known]; nofun),
    List.append_nil] at filed
  constructor
  · rw [History.notices_append, silent, List.append_nil]
    rcases ordered with ⟨_, _, ⟨⟩, met, _⟩ | ⟨introduced, _⟩
    · cases known.symm.trans met
    · refine Or.inr ⟨introduced, ?_⟩
      rintro _ ⟨⟩ ⟨⟩
  · rw [History.notices_append, History.filed_append, silent, List.append_nil, filed]
    refine congrArg (bytesTold (late.notices address) ++ ·) ?_
    rw [History.filed_cons, Option.map_some, Option.getD_some, Pass.untold, Event.filed]
    exact (List.append_nil _).trans (by simp)

theorem answered (acquaintance : Acquaintance address late (some pass))
    (kept : pass.stage = .kept) (plain : marks.Plain) :
    Acquaintance address (late ++ (Passage.ending pass.datagram callback :: marks)) none := by
  obtain ⟨ordered, filed⟩ := acquaintance
  have more : History.notices (Passage.ending pass.datagram callback :: marks) address =
      if pass.datagram.source = address then
        [.received pass.datagram.payload address callback]
      else [] := by
    rw [plain.notices_cons, Event.notice?_ending]
    by_cases own : pass.datagram.source = address
    · rw [if_pos own, if_pos own, own]
      rfl
    · rw [if_neg own, if_neg own]
      rfl
  have silent : History.filed (Passage.ending pass.datagram callback :: marks) address = [] := by
    rw [plain.filed_cons, Event.filed_ending]
  rcases ordered with ⟨_, _, ⟨⟩, met, _⟩ | ⟨introduced, _⟩
  · cases kept.symm.trans met
  · constructor
    · rw [History.notices_append, more]
      refine Or.inr ⟨?_, fun _ none => nomatch none⟩
      split
      · exact introduced.further _ callback
      · rw [List.append_nil]
        exact introduced
    · rw [History.notices_append, History.filed_append, more, silent, List.append_nil, filed,
        bytesTold_append, Option.map_none, Option.getD_none, List.append_nil, Option.map_some,
        Option.getD_some, Pass.untold]
      refine congrArg (bytesTold (late.notices address) ++ ·) ?_
      by_cases own : pass.datagram.source = address
      · rw [if_pos ⟨kept, own⟩, if_pos own]
        exact (List.append_nil _).symm
      · rw [if_neg fun same => own same.2, if_neg own]
        rfl

end Acquaintance

/-- The application gets to know every sender that is not removed in that order. -/
def Acquainted (watch : Watch) : Prop :=
  ∀ early first late, watch.history = early ++ .arrived first true :: late →
    .removed first.source ∉ late → Acquaintance first.source late watch.pass

theorem Acquainted.after (acquainted : watch.Acquainted) (sound : watch.Sound) (turn : Turn) :
    (watch.after turn).Acquainted := by
  intro early first late parts spared
  have unarrived {marks : History} (plain : marks.Plain) : .arrived first true ∉ marks :=
    fun within => nomatch plain _ within
  have before {between more : History} (same : late = between ++ more)
      (history : watch.history = early ++ .arrived first true :: between) :
      Acquaintance first.source between watch.pass :=
    acquainted early first between history fun within =>
      spared (same ▸ List.mem_append_left _ within)
  cases sound.strides turn with
  | beside marks plain pass history =>
      obtain ⟨between, rfl, was⟩ := append_split (history.symm.trans parts) (unarrived plain)
      rw [pass]
      exact (before rfl was).beside plain
  | took pass unknown quiet underWay stage fits history =>
      rcases snoc_split (history.symm.trans parts) with ⟨rfl, same, rfl⟩ | ⟨between, rfl, was⟩
      · cases same
        rw [underWay]
        exact .began stage
      · have acquaintance := before rfl was
        rw [quiet] at acquaintance
        rw [underWay]
        refine acquaintance.took ?_ fun own => ?_
        · rw [stage]
          split <;> nofun
        · have tracked : watch.history.ArrivedSince pass.datagram.source := by
            refine ⟨early, _, between, was, ⟨first, true, rfl, own.symm⟩, ?_⟩
            rintro event within rfl
            exact spared (List.mem_append_left _ (own ▸ within))
          cases unknown with
          | true => exact absurd tracked ((arrived_of_fits fits).1.1 rfl)
          | false =>
              rw [stage]
              nofun
  | greeted pass callback marks plain underWay met goesOn history =>
      have old : Event.arrived first true ∉
          (.greeted pass.datagram.source callback :: marks : History) := by
        simpa using unarrived plain
      obtain ⟨between, rfl, was⟩ := append_split (history.symm.trans parts) old
      have acquaintance := before rfl was
      rw [underWay] at acquaintance
      exact acquaintance.greeted met plain goesOn
  | kept pass underWay known goesOn history =>
      obtain ⟨between, rfl, was⟩ := append_split (history.symm.trans parts) (by simp)
      have acquaintance := before rfl was
      rw [underWay] at acquaintance
      rw [goesOn]
      exact acquaintance.kept known
  | answered pass callback marks plain underWay kept finished history =>
      have old : Event.arrived first true ∉
          (Passage.ending pass.datagram callback :: marks : History) := by
        cases callback <;> simpa [Passage.ending] using unarrived plain
      obtain ⟨between, rfl, was⟩ := append_split (history.symm.trans parts) old
      have acquaintance := before rfl was
      rw [underWay] at acquaintance
      rw [finished]
      exact acquaintance.answered kept plain

theorem Acquainted.run (acquainted : watch.Acquainted) (sound : watch.Sound)
    (turns : List Turn) : (watch.run turns).Acquainted := by
  induction turns generalizing watch with
  | nil => exact acquainted
  | cons turn rest inductionHypothesis =>
      exact inductionHypothesis (acquainted.after sound turn) (sound.after turn)

theorem acquainted_run (settings : Settings) (network : Network) (turns : List Turn) :
    ((initial settings network).run turns).Acquainted := by
  have nobody : (initial settings network).Acquainted := by
    intro early first late parts
    cases early <;> cases parts
  exact nobody.run (sound_initial settings network) turns

end Watch

/-! ## Callbacks -/

namespace History

/-- Both callbacks are in place all along, after a history and what follows it. -/
def Attentive (early late : History) : Prop :=
  ∀ within, within <+: late →
    (onData (early ++ within)).isSome = true ∧ (onNewPeer (early ++ within)).isSome = true

/-- Where callbacks are in place, all that is told is heard. -/
theorem Attentive.heard {early late : History} (attentive : Attentive early late)
    (faithful : Faithful (early ++ late)) {address : SocketAddress} :
    ∀ notice ∈ late.notices address, notice.callback.isSome = true := by
  intro notice told
  obtain ⟨event, within, notes⟩ := List.mem_filterMap.1 told
  obtain ⟨before, after, rfl⟩ := List.append_of_mem within
  obtain ⟨data, newPeer⟩ := attentive before (List.prefix_append _ _)
  have fits := faithful (early ++ before) event after (List.append_assoc _ _ _).symm
  cases event with
  | greeted other callback =>
      rw [Event.notice?] at notes
      split at notes
      · cases notes
        exact (congrArg Option.isSome fits).symm.trans newPeer
      · cases notes
  | told datagram callback =>
      rw [Event.notice?] at notes
      split at notes
      · cases notes
        rfl
      · cases notes
  | echoed datagram => cases (congrArg Option.isSome fits).symm.trans data
  | arrived | kept | read | cleared | removed | replaced => cases notes

/-- That an address is tracked began with a datagram from it while it was unknown. -/
theorem Faithful.began {history : History} (faithful : history.Faithful)
    {address : SocketAddress} (since : history.ArrivedSince address) :
    ∃ early first late, history = early ++ .arrived first true :: late ∧
      first.source = address ∧ .removed address ∉ late := by
  induction history using List.reverseRecOn with
  | nil => exact absurd since (not_since_nil _ _)
  | append_singleton history event inductionHypothesis =>
      have before : Faithful history := fun early other late parts =>
        faithful early other (late ++ [event]) (by rw [parts]; simp)
      have further (earlier : ArrivedSince history address) (spared : event ≠ .removed address) :
          ∃ early first late, history ++ [event] = early ++ .arrived first true :: late ∧
            first.source = address ∧ .removed address ∉ late := by
        obtain ⟨early, first, late, rfl, own, kept⟩ := inductionHypothesis before earlier
        refine ⟨early, first, late ++ [event], by simp, own, ?_⟩
        rw [List.mem_append, List.mem_singleton, not_or]
        exact ⟨kept, Ne.symm spared⟩
      rw [ArrivedSince, since_snoc] at since
      rcases since with ⟨datagram, unknown, rfl, own⟩ | ⟨spared, earlier⟩
      · have fits := faithful history (.arrived datagram unknown) [] rfl
        cases unknown with
        | true => exact ⟨history, datagram, [], rfl, own, List.not_mem_nil⟩
        | false =>
            refine further (Classical.byContradiction fun untracked => ?_) (by simp)
            rw [← own] at untracked
            cases (Watch.arrived_of_fits fits).1.2 untracked
      · exact further earlier spared

end History

namespace Watch

variable {watch : Watch}

/-- What the application was told of a sender that was unknown when its datagram arrived. -/
structure Introduces (watch : Watch) (early : History) (first : Datagram) (late : History) :
    Prop where
  /-- The sender is to be greeted, or that was done once and first, with its address, which is
  its handle. -/
  ordered :
    (late.notices first.source = [] ∧ ∃ pass, watch.pass = some pass ∧ pass.stage = .met ∧
        pass.datagram.source = first.source) ∨
      Introduced first.source first.source (late.notices first.source)
  /-- If callbacks are in place all along, each notice is the call of one. -/
  heard : History.Attentive (early ++ [.arrived first true]) late →
    ∀ notice ∈ late.notices first.source, notice.callback.isSome = true
  tracked : ∃ peer, watch.server.Present first.source peer ∧ peer.address = first.source
  /-- A callback that is called for the sender finds it tracked, and what was told of it so far
  received, with the datagram that it is called for. -/
  calling : ∀ pass notice, watch.pass = some pass → pass.notice? watch.server = some notice →
    notice.peer = first.source → ∃ peer, watch.server.Present first.source peer ∧
      peer.address = first.source ∧ peer.inbox.tally.received =
        UInt64.ofNat (bytesTold (late.notices first.source) ++ notice.bytes).length

/-- How the application gets to know the peers of a server. -/
structure Introductions (watch : Watch) : Prop where
  /-- What is told is what callbacks are called for, and they are called for nothing else. -/
  calls : ∀ address,
    ((watch.server.reports.filterMap Report.call?).filter fun call => call.peer = address) =
      (watch.history.notices address).filterMap Notice.call?
  /-- What a passage is about to tell is told when it goes on. -/
  telling : ∀ pass notice, watch.pass = some pass → pass.notice? watch.server = some notice →
    ∃ event marks, watch.proceed.history = watch.history ++ event :: marks ∧
      event.notice? notice.peer = some notice
  /-- Every tracked sender was unknown when its first datagram arrived. -/
  tracked : ∀ address, watch.server.peers.tracks address = true →
    ∃ early first late, watch.history = early ++ .arrived first true :: late ∧
      first.source = address ∧ .removed address ∉ late
  /-- A sender that is not removed since is introduced. -/
  peers : ∀ early first late, watch.history = early ++ .arrived first true :: late →
    .removed first.source ∉ late → watch.Introduces early first late

theorem history_greet (watch : Watch) (pass : Pass) : (watch.greet pass).history =
    watch.history ++ [.greeted pass.datagram.source watch.server.onNewPeer] ++
      (watch.server.onNewPeer.map (Reaction.marks pass.datagram.source [])).getD [] := by
  rw [greet]
  cases Framelink.Server.dispatchNewPeer watch.server pass.datagram.source
      pass.datagram.source with
  | mk delivery later => cases delivery <;> rfl

/-- What a passage is about to tell is told when it goes on. -/
theorem tells_proceed {pass : Pass} {notice : Notice SocketAddress}
    (underWay : watch.pass = some pass) (told : pass.notice? watch.server = some notice) :
    ∃ event marks, watch.proceed.history = watch.history ++ event :: marks ∧
      event.notice? notice.peer = some notice := by
  rw [Watch.proceed, underWay]
  dsimp only
  rw [Pass.notice?] at told
  cases stage : pass.stage with
  | met =>
      rw [stage] at told
      cases told
      refine ⟨_, _, (watch.history_greet pass).trans (List.append_assoc _ _ _), ?_⟩
      exact if_pos rfl
  | known =>
      rw [stage] at told
      cases told
  | kept =>
      rw [stage] at told
      cases told
      dsimp only
      rw [answer]
      cases watch.server.onData with
      | none => exact ⟨_, [], rfl, if_pos rfl⟩
      | some callback => exact ⟨_, _, List.append_assoc _ _ _, if_pos rfl⟩

/-- A sender that is tracked has received what was put into its inbox since. -/
theorem Sound.received (sound : watch.Sound) {early late : History} {first : Datagram}
    (parts : watch.history = early ++ .arrived first true :: late)
    (spared : .removed first.source ∉ late) :
    ∃ peer, watch.server.peer? first.source = some peer ∧ peer.address = first.source ∧
      peer.inbox.tally.received = UInt64.ofNat (late.filed first.source).length := by
  have fits := sound.trail.faithful early (.arrived first true) late parts
  have begun := (arrived_of_fits fits).2
  have held := History.inbox?_lasts begun late spared
  rw [List.append_assoc, List.singleton_append, ← parts] at held
  refine ⟨Server.session first.source (late.foldl (Event.alter first.source) .empty), ?_, rfl, ?_⟩
  · rw [Framelink.Server.peer?, sound.booked.accounts.sessions, held]
    rfl
  · exact (History.received_foldl late first.source .empty).trans (UInt64.zero_add _)

theorem Sound.introduces (sound : watch.Sound) (acquainted : watch.Acquainted)
    {early late : History} {first : Datagram}
    (parts : watch.history = early ++ .arrived first true :: late)
    (spared : .removed first.source ∉ late) : watch.Introduces early first late := by
  obtain ⟨ordered, filed⟩ := acquainted early first late parts spared
  obtain ⟨peer, tracked, own, total⟩ := sound.received parts spared
  have present := Framelink.Server.present_of_tracked tracked
  refine ⟨ordered.imp_right And.left, fun attentive => attentive.heard ?_, ⟨peer, present, own⟩, ?_⟩
  · rw [List.append_assoc, List.singleton_append, ← parts]
    exact sound.trail.faithful
  · intro pass notice underWay told about
    refine ⟨peer, present, own, ?_⟩
    rw [total, filed, underWay, Option.map_some, Option.getD_some]
    rw [Pass.notice?] at told
    rw [Pass.untold]
    cases stage : pass.stage with
    | met | kept =>
        rw [stage] at told
        cases told
        simp [Notice.bytes, show pass.datagram.source = first.source from about]
    | known =>
        rw [stage] at told
        cases told

/-- In every run of a datagram server, every sender that is not removed is introduced. -/
theorem introductions (settings : Settings) (network : Network) (turns : List Turn) :
    ((initial settings network).run turns).Introductions := by
  have sound := sound_run settings network turns
  refine ⟨fun address => ?_, fun pass notice => tells_proceed, fun address tracked => ?_, ?_⟩
  · rw [sound.booked.reported, History.notices, List.filterMap_filterMap, List.filter_filterMap]
    exact congrArg (List.filterMap · _) (funext fun event => event.call?_about address)
  · rw [sound.booked.accounts.tracks, History.isSome_inbox?_iff] at tracked
    exact sound.trail.faithful.began tracked
  · intro early first late parts spared
    exact sound.introduces (acquainted_run settings network turns) parts spared

end Watch
end Udp
end Framelink
