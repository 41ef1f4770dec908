import Framelink.Proofs.Network
import Framelink.Server.Networked

/-!
# Calls that start and stop a server

What does not depend on the transport: a start of a server that runs and a stop of a
server that does not run change nothing, and a start that fails takes back the mark
that it set.

One call at a time starts or stops a server, and other threads come between the steps
that it takes: a start sets the mark and then sets the server up, a stop takes the mark
back, waits for the service threads in phases of their own, and at last forgets the
local address.
-/

namespace Framelink

/-! ## What came of the calls -/

/-- What came of a call that started or stopped a server. -/
inductive Outcome
  | started (result : Except LinkError Unit)
  | stopped

/-- Whether a server serves after a call, given whether it served before. -/
def Outcome.leaves (serving : Bool) : Outcome → Bool
  | .started (.ok ()) => true
  | .started (.error _) => serving
  | .stopped => false

/-- Whether the last start that succeeded came after the last stop. -/
def serving (log : List Outcome) : Bool := log.foldl Outcome.leaves false

theorem serving_append (log : List Outcome) (outcome : Outcome) :
    serving (log ++ [outcome]) = outcome.leaves (serving log) := by
  unfold serving
  rw [List.foldl_append]
  rfl

/-! ## Callbacks -/

/-- Whether a callback leaves it to others to stop the server, and puts no callback in
place that does not. -/
def Reaction.sparing : Reaction → Bool
  | .stop => false
  | .replace onData onNewPeer =>
      (match onData with
        | some reaction => reaction.sparing
        | none => true) &&
      (match onNewPeer with
        | some reaction => reaction.sparing
        | none => true)
  | _ => true

namespace Server

/-- Whether the callbacks of a server leave it to others to stop it. -/
def spared {Handle Line Service : Type} (server : Server Handle Line Service) : Bool :=
  (Reaction.replace server.onData server.onNewPeer).sparing

theorem spared_parts {Handle Line Service : Type} {server : Server Handle Line Service}
    (spared : server.spared = true) :
    (∀ reaction, server.onData = some reaction → reaction.sparing = true) ∧
      ∀ reaction, server.onNewPeer = some reaction → reaction.sparing = true := by
  unfold Server.spared Reaction.sparing at spared
  rw [Bool.and_eq_true] at spared
  constructor
  · intro reaction installed
    rw [installed] at spared
    exact spared.1
  · intro reaction installed
    rw [installed] at spared
    exact spared.2

variable {Handle Line Service : Type} [DecidableEq Handle] [Serving Handle Line Service]
variable {server : Server Handle Line Service}

/-! ## Calls that have nothing to do -/

theorem start_of_running (running : server.running = true) :
    server.start = (.error .alreadyRunning, server) := if_pos running

theorem stop_of_down (down : server.running = false) : server.stop = server := by
  unfold stop
  rw [if_neg (by rw [down]; decide)]

/-! ## Starts -/

theorem start_of_down (down : server.running = false) :
    server.start = { server with running := true }.setUp := by
  unfold start
  rw [if_neg (by rw [down]; decide)]

/-- A start that cannot listen reports why. -/
theorem start_refused (down : server.running = false) {error : LinkError}
    {later : Server Handle Line Service}
    (refused : Serving.listen { server with running := true } = (.error error, later)) :
    server.start = (.error error, { later with running := false }) := by
  rw [start_of_down down]
  unfold setUp
  rw [refused]

/-- A start that can listen succeeds. -/
theorem start_made (down : server.running = false) {address : SocketAddress}
    {later : Server Handle Line Service}
    (made : Serving.listen { server with running := true } = (.ok address, later)) :
    server.start = (.ok (), { later with localAddress := some address }) := by
  rw [start_of_down down]
  unfold setUp
  rw [made]

end Server

/-! ## Calls under way -/

/-- The call that starts or stops a server, if there is one; a stop comes in phases. -/
inductive Control (Phase : Type)
  | idle
  /-- The server is marked as running and not set up yet. -/
  | starting
  | stopping (phase : Phase)
  deriving DecidableEq, Repr

/-- Whether a server is bound to an address: a call that stops it gives the address up
last. -/
def Control.bound {Phase : Type} (running : Bool) : Control Phase → Bool
  | .idle => running
  | .starting => false
  | .stopping _ => true

/-- A server and the call that starts or stops it. -/
structure Governed (Running Phase : Type) where
  server : Running
  control : Control Phase
  /-- What came of the calls that started or stopped the server, oldest first. -/
  log : List Outcome

namespace Governed

variable {Running Handle Line Service Phase : Type}

/-- The call is over: add to the log what came of it. -/
def conclude (governed : Governed Running Phase) (outcome : Outcome) : Governed Running Phase :=
  { governed with control := .idle, log := governed.log ++ [outcome] }

/-- Begin to start the server. -/
def start (governed : Governed (Server Handle Line Service) Phase) :
    Governed (Server Handle Line Service) Phase :=
  match governed.control with
  | .idle =>
      if governed.server.running then governed.conclude (.started (.error .alreadyRunning))
      else
        { governed with
          server := { governed.server with running := true }
          control := .starting }
  | _ => governed

/-- Begin to stop the server, with the first phase of the stop. -/
def stop (first : Phase) (governed : Governed (Server Handle Line Service) Phase) :
    Governed (Server Handle Line Service) Phase :=
  match governed.control with
  | .idle =>
      if governed.server.running then
        { governed with
          server := { governed.server with running := false }
          control := .stopping first }
      else governed.conclude .stopped
  | _ => governed

/-- The stop ends: forget the local address. -/
def forget (governed : Governed (Server Handle Line Service) Phase) :
    Governed (Server Handle Line Service) Phase :=
  { governed with server := { governed.server with localAddress := none } }.conclude .stopped

/-- A stop of a server that runs begins. -/
theorem stop_of_running {governed : Governed (Server Handle Line Service) Phase}
    (idle : governed.control = .idle) (running : governed.server.running = true)
    (first : Phase) :
    governed.stop first =
      { governed with
        server := { governed.server with running := false }
        control := .stopping first } := by
  rw [stop, idle]
  exact if_pos running

theorem peers_stop (governed : Governed (Server Handle Line Service) Phase) (first : Phase) :
    (governed.stop first).server.peers = governed.server.peers := by
  unfold stop
  split
  · split <;> rfl
  · rfl

variable [DecidableEq Handle] [Serving Handle Line Service]

/-- Set the server up that is being started. -/
def setUp (governed : Governed (Server Handle Line Service) Phase) :
    Governed (Server Handle Line Service) Phase :=
  match governed.control with
  | .starting =>
      let (result, server) := governed.server.setUp
      { governed with server }.conclude (.started result)
  | _ => governed

/-- The two steps of a start come to what the call does. -/
theorem setUp_start (governed : Governed (Server Handle Line Service) Phase)
    (idle : governed.control = .idle) :
    ∃ log, governed.start.setUp =
      { governed with server := governed.server.start.2, log } := by
  rw [start, idle]
  dsimp only
  cases running : governed.server.running with
  | true =>
      rw [if_pos rfl, Server.start_of_running running]
      exact ⟨_, rfl⟩
  | false =>
      rw [if_neg Bool.false_ne_true, Server.start_of_down running]
      exact ⟨_, rfl⟩

end Governed

namespace Server

variable {Handle Line Service : Type} [DecidableEq Handle] [Networked Handle Line Service]
variable {server : Server Handle Line Service}

end Server
end Framelink
