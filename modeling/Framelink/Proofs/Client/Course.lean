import Framelink.Proofs.Client.Opening
import Framelink.Proofs.Logs

/-!
# Clients from call to call

A course is what a client goes through: opens, closes, reads and writes in any order.
Between two of them, and while one of them is under way, the world around the client
does as it likes: look-ups find any addresses, receives and sends come out in any way.
Whatever happens, a client is connected exactly if an open succeeded after the last
close; its label is that of the last open that succeeded; an open that fails changes
neither the client nor what its handle reaches; and reads and writes leave the client
alone.
-/

namespace Framelink
namespace Link

variable {Handle World : Type}

/-! ## Exchanges that come out in any way -/

/-- Read from a link while its transport receives in whatever way. -/
def readThrough (link : Link Handle) (world : World)
    (receive : Handle → Nat → World → Receipt × World) (policy : ReadPolicy) (checked : Bool)
    (size patience : Nat) : Reading × Link Handle × World :=
  link.read world
    (fun room channel =>
      let (receipt, world) := receive channel.1 room channel.2
      (receipt, channel.1, world))
    policy checked size patience

/-- Write to a link while its transport sends in whatever way. -/
def writeThrough (link : Link Handle) (world : World)
    (send : Handle → Bytes → World → Except Failure Nat × World) (payload : Bytes)
    (withTrailer : Bool) : Except LinkError Nat × Link Handle × World :=
  link.write world
    (fun bytes channel =>
      let (sent, world) := send channel.1 bytes channel.2
      (sent, channel.1, world))
    payload withTrailer

section Exchanges

variable {link : Link Handle} {world : World}

/-- A read loop gives the handle back that it was given. -/
theorem loop_keeps_handle (receive : Handle → Nat → World → Receipt × World)
    (policy : ReadPolicy) (size patience : Nat) (got : Bytes) (channel : Handle × World) :
    (policy.loop
      (fun room channel =>
        let (receipt, world) := receive channel.1 room channel.2
        (receipt, channel.1, world))
      size patience got channel).2.1 = channel.1 := by
  induction patience generalizing got channel with
  | zero => rfl
  | succ patience inductionHypothesis =>
      rw [ReadPolicy.loop]
      dsimp only
      split
      · exact inductionHypothesis _ _
      · rfl

/-- A link with the handle that it has. -/
theorem handle_again {handle same : Handle} (held : link.handle = some handle)
    (kept : same = handle) : { link with handle := some same } = link := by
  rw [kept, ← held]

theorem link_readThrough (receive : Handle → Nat → World → Receipt × World)
    (policy : ReadPolicy) (checked : Bool) (size patience : Nat) :
    (link.readThrough world receive policy checked size patience).2.1 = link := by
  rw [readThrough, read]
  split
  · rfl
  · next handle held =>
      refine handle_again held ?_
      rw [ReadPolicy.run]
      split
      · rfl
      · exact loop_keeps_handle receive policy size patience [] (handle, world)

theorem link_writeThrough (send : Handle → Bytes → World → Except Failure Nat × World)
    (payload : Bytes) (withTrailer : Bool) :
    (link.writeThrough world send payload withTrailer).2.1 = link := by
  rw [writeThrough, write, withHandle]
  split
  · rfl
  · next handle held => exact handle_again held rfl

theorem readThrough_closed (unheld : link.handle = none)
    (receive : Handle → Nat → World → Receipt × World) (policy : ReadPolicy) (checked : Bool)
    (size patience : Nat) :
    link.readThrough world receive policy checked size patience =
      (⟨[], some (.error .notConnected)⟩, link, world) := by
  rw [readThrough, read, unheld]

theorem writeThrough_closed (unheld : link.handle = none)
    (send : Handle → Bytes → World → Except Failure Nat × World) (payload : Bytes)
    (withTrailer : Bool) :
    link.writeThrough world send payload withTrailer = (.error .notConnected, link, world) := by
  rw [writeThrough, write, withHandle, unheld]

/-- A receive that gives the handle back is one of those that a course knows. -/
theorem exists_readThrough {receive : Nat → Handle × World → Receipt × (Handle × World)}
    (keeps : ∀ room channel, (receive room channel).2.1 = channel.1) (policy : ReadPolicy)
    (checked : Bool) (size patience : Nat) :
    ∃ through wanted turns,
      link.read world receive policy checked size patience =
        link.readThrough world through wanted checked size turns := by
  refine ⟨fun handle room world =>
    ((receive room (handle, world)).1, (receive room (handle, world)).2.2), policy, patience, ?_⟩
  rw [readThrough]
  congr
  funext room channel
  exact Prod.ext rfl (Prod.ext (keeps room channel) rfl)

end Exchanges

/-! ## The calls of a transport -/

/-- What an open is asked for. -/
structure Destination where
  address : String
  option : UInt32
  flags : Int32

/-- The calls of the clients of one transport. -/
structure Calls (Handle World Lookup : Type) where
  transport : Transport
  /-- The endpoint that an open names. -/
  endpoint : Destination → String
  /-- Open with what a look-up of the address found. -/
  openAmong : Link Handle → World → Lookup → Destination →
    Except LinkError Unit × Link Handle × World
  /-- Open. -/
  openAt : Link Handle → World → Destination → Except LinkError Unit × Link Handle × World
  close : Link Handle → World → Link Handle × World
  /-- Give up what the handle of a client reaches. -/
  release : Link Handle → World → World
  /-- Read, with a trailer to check if the first mark is set, and until the buffer is full
  if the second is. -/
  read : Link Handle → World → Nat → Bool → Bool → Reading × Link Handle × World
  write : Link Handle → World → Bytes → Bool → Except LinkError Nat × Link Handle × World
  /-- What a handle reaches in one world it reaches in the other, as it was. -/
  intact : Handle → World → World → Prop

/-- What came of a call that opened or closed a client. -/
inductive Milestone
  | opened (endpoint : String) (result : Except LinkError Unit)
  | closed

/-- The endpoint that a call made the client's own. -/
def Milestone.adopted? : Milestone → Option String
  | .opened endpoint (.ok ()) => some endpoint
  | _ => none

/-- An open succeeded after the last close. -/
def OpenSince : List Milestone → Prop :=
  Since (fun milestone => milestone.adopted?.isSome = true) (· = .closed)

/-- The label of a client: the endpoint of the last open that succeeded, if there is one. -/
def labelAfter (transport : Transport) (log : List Milestone) : String :=
  match (log.filterMap Milestone.adopted?).getLast? with
  | none => transport.title ++ "-Client"
  | some endpoint => s!"{transport.title}-Client - {endpoint}"

/-- A client on its course, in its world, with what came of the calls so far. -/
structure Course (Handle World : Type) where
  link : Link Handle
  world : World
  log : List Milestone

/-- What can happen to a client. -/
inductive Move (Handle World Lookup : Type)
  /-- The world changes by itself. -/
  | disturb (world : World)
  | openAmong (found : Lookup) (destination : Destination)
  | close
  | read (receive : Handle → Nat → World → Receipt × World) (policy : ReadPolicy)
      (checked : Bool) (size patience : Nat)
  | write (send : Handle → Bytes → World → Except Failure Nat × World) (payload : Bytes)
      (withTrailer : Bool)

variable {Lookup : Type}

/-- The course of a client that was never opened. -/
def Course.fresh (transport : Transport) (world : World) : Course Handle World :=
  ⟨Link.closed transport, world, []⟩

namespace Calls

variable (calls : Calls Handle World Lookup)

/-- What one move does. -/
def step (course : Course Handle World) : Move Handle World Lookup → Course Handle World
  | .disturb world => { course with world }
  | .openAmong found destination =>
      let (result, link, world) :=
        calls.openAmong course.link course.world found destination
      ⟨link, world, course.log ++ [.opened (calls.endpoint destination) result]⟩
  | .close =>
      let (link, world) := calls.close course.link course.world
      ⟨link, world, course.log ++ [.closed]⟩
  | .read receive policy checked size patience =>
      let (_, link, world) :=
        course.link.readThrough course.world receive policy checked size patience
      { course with link, world }
  | .write send payload withTrailer =>
      let (_, link, world) := course.link.writeThrough course.world send payload withTrailer
      { course with link, world }

/-- What a sequence of moves does. -/
def run (course : Course Handle World) (moves : List (Move Handle World Lookup)) :
    Course Handle World :=
  moves.foldl calls.step course

/-! ## What holds wherever a course has come to -/

/-- What holds of a client wherever it is on its course. -/
structure AllOrNothing (course : Course Handle World) : Prop where
  held : course.link.isConnected = course.link.handle.isSome
  since : course.link.isConnected = true ↔ OpenSince course.log
  label : course.link.label = labelAfter calls.transport course.log
  /-- An open that fails leaves the client as it was, and what its handle reaches. -/
  failed : ∀ found destination error link later,
    calls.openAmong course.link course.world found destination = (.error error, link, later) →
      link = course.link ∧
        ∀ handle, course.link.handle = some handle → calls.intact handle course.world later
  /-- An open that succeeds adopts the handle that a client without one would have got, and
  gives the one before up. -/
  adopted : ∀ found destination link later,
    calls.openAmong course.link course.world found destination = (.ok (), link, later) →
      ∃ handle reached,
        calls.openAmong (.closed calls.transport) course.world found destination =
            (.ok (), Link.install (.closed calls.transport) handle (calls.endpoint destination),
              reached) ∧
          link.handle = some handle ∧
          link.label = s!"{calls.transport.title}-Client - {calls.endpoint destination}" ∧
          later = calls.release course.link reached
  /-- Without a handle nothing is received, however the transport would receive. -/
  readsNothing : course.link.handle = none → ∀ receive policy checked size patience,
    course.link.readThrough course.world receive policy checked size patience =
      (⟨[], some (.error .notConnected)⟩, course.link, course.world)
  /-- Without a handle nothing is sent, however the transport would send. -/
  writesNothing : course.link.handle = none → ∀ send payload withTrailer,
    course.link.writeThrough course.world send payload withTrailer =
      (.error .notConnected, course.link, course.world)
  readsLeave : ∀ receive policy checked size patience,
    (course.link.readThrough course.world receive policy checked size patience).2.1 = course.link
  writesLeave : ∀ send payload withTrailer,
    (course.link.writeThrough course.world send payload withTrailer).2.1 = course.link
  closedAgain : ∀ link later, calls.close course.link course.world = (link, later) →
    link.handle = none ∧ link.label = course.link.label ∧ calls.close link later = (link, later)

/-- The clients of a transport open all or nothing, on any course. -/
structure Dependable : Prop where
  everywhere : ∀ (world : World) (moves : List (Move Handle World Lookup)),
    calls.AllOrNothing (calls.run (.fresh calls.transport world) moves)
  /-- The open of the client is one of those that are open to a course. -/
  opens : ∀ link world destination, ∃ found,
    calls.openAt link world destination = calls.openAmong link world found destination
  /-- The read of the client is one of those that are open to a course. -/
  reads : ∀ link world size checked untilFull, ∃ receive policy patience,
    calls.read link world size checked untilFull =
      link.readThrough world receive policy checked size patience
  /-- The write of the client is one of those that are open to a course. -/
  writes : ∀ link world payload withTrailer, ∃ send,
    calls.write link world payload withTrailer = link.writeThrough world send payload withTrailer

/-! ## What a transport owes -/

/-- What the calls of a transport have to be for its clients to be dependable. -/
structure Lawful : Prop where
  opens : ∀ world found destination,
    (∃ error later, (∀ handle, calls.intact handle world later) ∧
        ∀ link, calls.openAmong link world found destination = (.error error, link, later)) ∨
      ∃ handle later,
        ∀ link, calls.openAmong link world found destination =
          (.ok (), link.install handle (calls.endpoint destination), calls.release link later)
  closes : ∀ link world, calls.close link world = (link.close, calls.release link world)
  releasesNothing : ∀ link world, link.handle = none → calls.release link world = world

/-- What is kept from move to move. -/
structure Coherent (course : Course Handle World) : Prop where
  transport : course.link.transport = calls.transport
  agrees : course.link.Agrees
  since : course.link.isConnected = true ↔ OpenSince course.log
  label : course.link.label = labelAfter calls.transport course.log

end Calls

/-! ## What came of the calls -/

theorem openSince_snoc (log : List Milestone) (endpoint : String) :
    OpenSince (log ++ [.opened endpoint (.ok ())]) := by
  rw [OpenSince, since_snoc]
  exact Or.inl rfl

theorem openSince_snoc_failed (log : List Milestone) (endpoint : String) (error : LinkError) :
    OpenSince (log ++ [.opened endpoint (.error error)]) ↔ OpenSince log := by
  rw [OpenSince, since_snoc]
  simp [Milestone.adopted?]

theorem not_openSince_snoc_closed (log : List Milestone) :
    ¬ OpenSince (log ++ [.closed]) := by
  rw [OpenSince, since_snoc]
  simp [Milestone.adopted?]

/-- What adopts no endpoint leaves the label. -/
theorem labelAfter_snoc {milestone : Milestone} (transport : Transport) (log : List Milestone)
    (nothing : milestone.adopted? = none) :
    labelAfter transport (log ++ [milestone]) = labelAfter transport log := by
  rw [labelAfter, labelAfter, List.filterMap_append]
  simp only [List.filterMap_cons, nothing, List.filterMap_nil, List.append_nil]

theorem labelAfter_snoc_opened (transport : Transport) (log : List Milestone)
    (endpoint : String) :
    labelAfter transport (log ++ [.opened endpoint (.ok ())]) =
      s!"{transport.title}-Client - {endpoint}" := by
  rw [labelAfter, List.filterMap_append]
  simp only [List.filterMap_cons, Milestone.adopted?, List.filterMap_nil, List.getLast?_concat]

namespace Calls

variable {calls : Calls Handle World Lookup} {course : Course Handle World}

/-! ## One move -/

theorem coherent_fresh (world : World) : calls.Coherent (.fresh calls.transport world) where
  transport := rfl
  agrees := agrees_closed calls.transport
  since := by
    constructor
    · intro connected
      cases connected
    · intro openSince
      exact absurd openSince (not_since_nil _ _)
  label := rfl

theorem Coherent.openAmong (coherent : calls.Coherent course) (lawful : calls.Lawful)
    (found : Lookup) (destination : Destination) :
    calls.Coherent (calls.step course (.openAmong found destination)) := by
  rw [step]
  rcases lawful.opens course.world found destination with
    ⟨error, later, -, refused⟩ | ⟨handle, later, adopted⟩
  · rw [refused]
    refine ⟨coherent.transport, coherent.agrees, ?_, ?_⟩
    · exact coherent.since.trans (openSince_snoc_failed _ _ _).symm
    · exact coherent.label.trans (labelAfter_snoc _ _ rfl).symm
  · rw [adopted]
    refine ⟨coherent.transport, agrees_install _ _ _, ?_, ?_⟩
    · exact iff_of_true rfl (openSince_snoc _ _)
    · dsimp only
      rw [labelAfter_snoc_opened, install, coherent.transport]

theorem Coherent.close (coherent : calls.Coherent course) (lawful : calls.Lawful) :
    calls.Coherent (calls.step course .close) := by
  rw [step, lawful.closes]
  refine ⟨coherent.transport, agrees_close _, ?_, ?_⟩
  · exact iff_of_false Bool.false_ne_true (not_openSince_snoc_closed _)
  · exact coherent.label.trans (labelAfter_snoc _ _ rfl).symm

/-- A course on which the client stayed as it was. -/
theorem Coherent.of_link (coherent : calls.Coherent course) {link : Link Handle}
    (same : link = course.link) (world : World) : calls.Coherent ⟨link, world, course.log⟩ := by
  rw [same]
  exact ⟨coherent.transport, coherent.agrees, coherent.since, coherent.label⟩

theorem Coherent.step (coherent : calls.Coherent course) (lawful : calls.Lawful)
    (move : Move Handle World Lookup) : calls.Coherent (calls.step course move) := by
  cases move with
  | disturb world => exact coherent.of_link rfl world
  | openAmong found destination => exact coherent.openAmong lawful found destination
  | close => exact coherent.close lawful
  | read receive policy checked size patience =>
      exact coherent.of_link (link_readThrough receive policy checked size patience) _
  | write send payload withTrailer =>
      exact coherent.of_link (link_writeThrough send payload withTrailer) _

/-! ## Any number of moves -/

theorem Coherent.run (lawful : calls.Lawful) (moves : List (Move Handle World Lookup))
    (coherent : calls.Coherent course) : calls.Coherent (calls.run course moves) := by
  induction moves generalizing course with
  | nil => exact coherent
  | cons move rest inductionHypothesis => exact inductionHypothesis (coherent.step lawful move)

theorem Lawful.failed (lawful : calls.Lawful) {link later : Link Handle} {world after : World}
    {found : Lookup} {destination : Destination} {error : LinkError}
    (failed : calls.openAmong link world found destination = (.error error, later, after)) :
    later = link ∧ ∀ handle, calls.intact handle world after := by
  rcases lawful.opens world found destination with
    ⟨reason, reached, intact, refused⟩ | ⟨handle, reached, adopted⟩
  · cases (refused link).symm.trans failed
    exact ⟨rfl, intact⟩
  · cases (adopted link).symm.trans failed

theorem Lawful.adopted (lawful : calls.Lawful) {link later : Link Handle} {world after : World}
    {found : Lookup} {destination : Destination} (same : link.transport = calls.transport)
    (adopted : calls.openAmong link world found destination = (.ok (), later, after)) :
    ∃ handle reached,
      calls.openAmong (.closed calls.transport) world found destination =
          (.ok (), Link.install (.closed calls.transport) handle (calls.endpoint destination),
            reached) ∧
        later.handle = some handle ∧
        later.label = s!"{calls.transport.title}-Client - {calls.endpoint destination}" ∧
        after = calls.release link reached := by
  rcases lawful.opens world found destination with
    ⟨reason, reached, -, refused⟩ | ⟨handle, reached, made⟩
  · cases (refused link).symm.trans adopted
  · cases (made link).symm.trans adopted
    refine ⟨handle, reached, ?_, rfl, ?_, rfl⟩
    · rw [made, lawful.releasesNothing _ _ rfl]
    · rw [← same]
      rfl

theorem Lawful.closedAgain (lawful : calls.Lawful) {link later : Link Handle}
    {world after : World} (closed : calls.close link world = (later, after)) :
    later.handle = none ∧ later.label = link.label ∧
      calls.close later after = (later, after) := by
  rw [lawful.closes] at closed
  cases closed
  refine ⟨rfl, rfl, ?_⟩
  rw [lawful.closes, lawful.releasesNothing _ _ rfl]
  rfl

theorem Coherent.allOrNothing (coherent : calls.Coherent course) (lawful : calls.Lawful) :
    calls.AllOrNothing course where
  held := coherent.agrees
  since := coherent.since
  label := coherent.label
  failed := by
    intro found destination error link later failed
    obtain ⟨same, intact⟩ := lawful.failed failed
    exact ⟨same, fun handle _ => intact handle⟩
  adopted := fun _ _ _ _ adopted => lawful.adopted coherent.transport adopted
  readsNothing := readThrough_closed
  writesNothing := writeThrough_closed
  readsLeave := link_readThrough
  writesLeave := link_writeThrough
  closedAgain := fun _ _ closed => lawful.closedAgain closed

theorem Lawful.everywhere (lawful : calls.Lawful) (world : World)
    (moves : List (Move Handle World Lookup)) :
    calls.AllOrNothing (calls.run (.fresh calls.transport world) moves) :=
  (Coherent.run lawful moves (coherent_fresh world)).allOrNothing lawful

end Calls
end Link

/-! ## The three transports -/

namespace Tcp
namespace Client

/-- The calls of stream clients. -/
def calls : Link.Calls Stream Network (List ScopedAddress) where
  transport := .tcp
  endpoint := fun destination => Host.endpoint destination.address destination.option
  openAmong := fun client network found destination =>
    openAmong client network found destination.address destination.option destination.flags
  openAt := fun client network destination =>
    openAt client network destination.address destination.option destination.flags
  close := close
  release := release
  read := read
  write := write
  intact := fun stream network later =>
    ∀ wire, network.wire? stream.wire = some wire → later.wire? stream.wire = some wire

theorem lawful_calls : calls.Lawful where
  opens := by
    intro network found destination
    rcases openAmong_cases network found destination.address destination.option
        destination.flags with
      ⟨error, later, keeps, refused⟩ | ⟨stream, later, adopted⟩
    · exact Or.inl ⟨error, later, fun stream => keeps stream.wire, refused⟩
    · exact Or.inr ⟨stream, later, adopted⟩
  closes := fun _ _ => rfl
  releasesNothing := by
    intro client network unheld
    change release client network = network
    rw [release, unheld]

theorem dependable_calls : calls.Dependable where
  everywhere := lawful_calls.everywhere
  opens := fun _ network destination =>
    ⟨Host.addresses network.descriptorsLeft destination.address, rfl⟩
  reads := fun _ _ _ _ _ => Link.exists_readThrough (fun _ _ => rfl) _ _ _ _
  writes := fun _ _ _ _ => ⟨put, rfl⟩

end Client
end Tcp

namespace Udp
namespace Client

/-- The calls of datagram clients, which have no use for flags. -/
def calls : Link.Calls Socket Network (List ScopedAddress) where
  transport := .udp
  endpoint := fun destination => Host.endpoint destination.address destination.option
  openAmong := fun client network found destination =>
    openAmong client network found destination.address destination.option
  openAt := fun client network destination =>
    openAt client network destination.address destination.option
  close := close
  release := release
  read := read
  write := write
  intact := fun socket network later =>
    later.mailbox? socket.bound.port = network.mailbox? socket.bound.port

theorem lawful_calls : calls.Lawful where
  opens := by
    intro network found destination
    rcases openAmong_cases network found destination.address destination.option with
      ⟨error, later, steady, refused⟩ | ⟨socket, later, adopted⟩
    · refine Or.inl ⟨error, later, ?_, refused⟩
      intro socket
      change later.mailbox? socket.bound.port = network.mailbox? socket.bound.port
      rw [Network.mailbox?, steady.mailboxes]
      rfl
    · exact Or.inr ⟨socket, later, adopted⟩
  closes := fun _ _ => rfl
  releasesNothing := by
    intro client network unheld
    change release client network = network
    rw [release, unheld]

theorem dependable_calls : calls.Dependable where
  everywhere := lawful_calls.everywhere
  opens := fun _ network destination =>
    ⟨Host.addresses network.descriptorsLeft destination.address, rfl⟩
  reads := fun _ _ _ _ _ => Link.exists_readThrough (fun _ _ => rfl) _ _ _ _
  writes := fun _ _ _ _ => ⟨postFitting post, rfl⟩

end Client
end Udp

namespace Serial
namespace Client

/-- The calls of serial clients, which look nothing up. -/
def calls : Link.Calls Line Devices Unit where
  transport := .serial
  endpoint := fun destination =>
    s!"{destination.address}:{(Access.ofFlags destination.flags).shortName}"
  openAmong := fun client devices _ destination =>
    openAt client devices destination.address destination.option destination.flags
  openAt := fun client devices destination =>
    openAt client devices destination.address destination.option destination.flags
  close := close
  release := release
  read := read
  write := write
  intact := fun _ devices later => devices.Steady later

theorem lawful_calls : calls.Lawful where
  opens := by
    intro devices _ destination
    rcases openAt_cases devices destination.address destination.option destination.flags with
      ⟨error, later, steady, refused⟩ | ⟨line, later, adopted⟩
    · exact Or.inl ⟨error, later, fun _ => steady, refused⟩
    · exact Or.inr ⟨line, later, adopted⟩
  closes := fun _ _ => rfl
  releasesNothing := by
    intro client devices unheld
    change release client devices = devices
    rw [release, unheld]

theorem line_receive (room : Nat) (channel : Line × Devices) :
    (receive room channel).2.1 = channel.1 := by
  rw [receive, receiveLine]
  split <;> rfl

theorem dependable_calls : calls.Dependable where
  everywhere := lawful_calls.everywhere
  opens := fun _ _ _ => ⟨(), rfl⟩
  reads := fun _ _ _ _ _ => Link.exists_readThrough line_receive _ _ _ _
  writes := fun _ _ _ _ => ⟨putLine sendTerminal sendInput, rfl⟩

end Client
end Serial

/-- Clients of all three transports open all or nothing: whatever is opened, closed, read
and written, and however the world takes it, a client holds a handle exactly if an open
succeeded after the last close, and nothing but an open that succeeds and a close changes
what it holds. -/
theorem clients_open_all_or_nothing :
    Tcp.Client.calls.Dependable ∧ Udp.Client.calls.Dependable ∧ Serial.Client.calls.Dependable :=
  ⟨Tcp.Client.dependable_calls, Udp.Client.dependable_calls, Serial.Client.dependable_calls⟩

/-- A port that is none leaves an open client open, under the label that it had. -/
example :
    let course := Udp.Client.calls.run (.fresh .udp (.idle false))
      [.openAmong [{ ip := .loopback4 }] ⟨"localhost", 5000, 0⟩,
        .openAmong [{ ip := .loopback4 }] ⟨"localhost", 70000, 0⟩]
    course.link.isConnected = true ∧ course.link.label = "UDP-Client - localhost:5000" := by
  decide +kernel

end Framelink
