import Framelink.Proofs.Network
import Framelink.Serial.Client
import Framelink.Tcp.Client
import Framelink.Udp.Client

/-!
# Opening a client

An open goes through phases, and any of them may fail: the port may be none, the host
may not be found, a call may run into a fault, the far end may refuse.  Whatever the
phase, an open that fails gives the client back as it was and leaves alone what an
open handle reaches.  An open that succeeds adopts a handle that has nothing to do with
the one before.
-/

namespace Framelink

namespace Host

/-- The endpoint that an open names. -/
def endpoint (host : String) (option : UInt32) : String := s!"{host}:{option.toUInt16}"

theorem portOfOption_cases (option : UInt32) :
    (∃ error, portOfOption option = .error error) ∨ portOfOption option = .ok option.toUInt16 := by
  rw [portOfOption]
  split
  · exact Or.inr rfl
  · exact Or.inl ⟨_, rfl⟩

end Host

/-! ## Streams -/

namespace Network

/-- A network that has all the wires that it had, each as it was. -/
def KeepsWires (network later : Network) : Prop :=
  ∀ index wire, network.wire? index = some wire → later.wire? index = some wire

theorem KeepsWires.trans {first second third : Network} (early : first.KeepsWires second)
    (late : second.KeepsWires third) : first.KeepsWires third :=
  fun index wire found => late index wire (early index wire found)

theorem Steady.keepsWires {network later : Network} (steady : network.Steady later) :
    network.KeepsWires later := by
  intro index wire found
  unfold wire? at found ⊢
  rwa [steady.wires]

theorem KeepsWires.absent {network later : Network} (keeps : network.KeepsWires later)
    {index : Nat} (absent : later.wire? index = none) : network.wire? index = none := by
  cases found : network.wire? index with
  | none => rfl
  | some wire => cases absent.symm.trans (keeps index wire found)

theorem keepsWires_establish (network : Network) (port : UInt16) (address : SocketAddress) :
    network.KeepsWires (network.establish port address).2 := by
  intro index wire found
  rw [wire?_establish, if_neg, found]
  rintro rfl
  cases network.wire?_length.symm.trans found

/-- Closing a wire that was not there before keeps those that were. -/
theorem KeepsWires.closeNear {network later : Network} (keeps : network.KeepsWires later)
    {index : Nat} (fresh : network.wire? index = none) :
    network.KeepsWires (later.closeNear index) := by
  intro other wire found
  unfold Network.closeNear
  rw [wire?_modifyWire, if_neg, keeps other wire found]
  rintro rfl
  cases fresh.symm.trans found

end Network

namespace Tcp
namespace Client

/-- What an attempt to connect comes to: no wire is lost, and the one that it established
was not there before. -/
structure Attempted (network : Network) (attempt : Except Failure Stream × Network) : Prop where
  keeps : network.KeepsWires attempt.2
  fresh : ∀ stream, attempt.1 = .ok stream → network.wire? stream.wire = none

theorem attempted_error {network later : Network} (keeps : network.KeepsWires later)
    (failure : Failure) : Attempted network (.error failure, later) := by
  refine ⟨keeps, ?_⟩
  intro stream same
  cases same

/-- An attempt that follows others that lost no wire. -/
theorem Attempted.after {network later : Network} {attempt : Except Failure Stream × Network}
    (attempted : Attempted later attempt) (keeps : network.KeepsWires later) :
    Attempted network attempt := by
  refine ⟨keeps.trans attempted.keeps, ?_⟩
  intro stream made
  exact keeps.absent (attempted.fresh stream made)

theorem steady_passConnect (bounded : Bool) (fuel : Nat) (network : Network) :
    network.Steady (passConnect bounded fuel network).2 := by
  induction fuel generalizing network with
  | zero => exact Network.Steady.refl network
  | succ fuel inductionHypothesis =>
      have steady := (network.tried_attempt .connect).steady
      rw [passConnect]
      split
      · next failure later failed =>
          rw [failed] at steady
          split
          · exact steady.trans (inductionHypothesis later)
          · exact steady
      · exact steady

theorem attempted_reach (network : Network) (target : SocketAddress) (bounded : Bool) :
    Attempted network (reach network target bounded) := by
  have still : network.KeepsWires network := (Network.Steady.refl network).keepsWires
  rw [reach]
  split
  · exact attempted_error still _
  · split
    · exact attempted_error still _
    · split
      · refine ⟨network.keepsWires_establish target.port target, ?_⟩
        rintro stream ⟨⟩
        exact network.wire?_length
      · split
        · exact attempted_error still _
        · exact attempted_error still _

theorem attempted_join (network : Network) (target : SocketAddress) (bounded : Bool) :
    Attempted network (join network target bounded) := by
  have passed := steady_passConnect bounded (network.faults.length + 1) network
  rw [join]
  split
  · next failure later failed =>
      rw [failed] at passed
      exact attempted_error passed.keepsWires failure
  · next later through =>
      rw [through] at passed
      exact (attempted_reach later target bounded).after passed.keepsWires

/-- A wire that was established and is given up again was not there before. -/
theorem attempted_joinBounded (network : Network) (target : SocketAddress) :
    Attempted network (joinBounded network target) := by
  have prepared := (network.tried_attempt .control).steady
  rw [joinBounded]
  split
  · next failure later failed =>
      rw [failed] at prepared
      exact attempted_error prepared.keepsWires failure
  · next ready first =>
      rw [first] at prepared
      have joined := (attempted_join ready target true).after prepared.keepsWires
      generalize join ready target true = outcome at joined ⊢
      obtain ⟨result, reached⟩ := outcome
      have restored := (reached.tried_attempt .control).steady.keepsWires
      dsimp only
      split
      · next later second =>
          rw [second] at restored
          exact ⟨joined.keeps.trans restored, joined.fresh⟩
      · next failure later stream second =>
          rw [second] at restored
          have fresh := joined.fresh stream rfl
          exact attempted_error ((joined.keeps.trans restored).closeNear fresh) failure
      · next failure later _ second =>
          rw [second] at restored
          exact attempted_error (joined.keeps.trans restored) failure

theorem attempted_attempt (network : Network) (target : SocketAddress) (bounded : Bool) :
    Attempted network (attempt network target bounded) := by
  have created := network.tried_openSocket.steady
  rw [attempt]
  split
  · next failure later failed =>
      rw [failed] at created
      exact attempted_error created.keepsWires failure
  · next later made =>
      rw [made] at created
      split
      · exact (attempted_joinBounded later target).after created.keepsWires
      · exact (attempted_join later target false).after created.keepsWires

theorem attempted_tryEach (network : Network) (bounded : Bool) (last : Failure)
    (targets : List SocketAddress) :
    Attempted network
      (tryEach (fun target network => attempt network target bounded) last targets network) := by
  induction targets generalizing network last with
  | nil => exact attempted_error (Network.Steady.refl network).keepsWires last
  | cons target rest inductionHypothesis =>
      have attempted := attempted_attempt network target bounded
      rw [tryEach]
      split
      · next stream later made =>
          rw [made] at attempted
          exact attempted
      · next failure later failed =>
          rw [failed] at attempted
          exact (inductionHypothesis later failure).after attempted.keeps

/-- Connecting fails as a whole, or adopts a wire. -/
theorem connectAmong_cases (network : Network) (host : String) (port : UInt16)
    (timeout : Option Duration) (found : List ScopedAddress) :
    (∃ error later, network.KeepsWires later ∧
        ∀ client : Client,
          client.connectAmong network host port timeout found = (.error error, client, later)) ∨
      ∃ stream later,
        ∀ client : Client,
          client.connectAmong network host port timeout found =
            (.ok (), client.install stream s!"{host}:{port}", client.release later) := by
  simp only [connectAmong, connectWith]
  cases Host.candidates host port (.ok found) with
  | error error =>
      exact Or.inl ⟨error, network, (Network.Steady.refl network).keepsWires, fun _ => rfl⟩
  | ok targets =>
      have attempted := attempted_tryEach network (connectWait timeout).isSome
        (.plain .addressNotAvailable) targets
      dsimp only
      generalize tryEach _ (Failure.plain .addressNotAvailable) targets network = outcome
        at attempted ⊢
      obtain ⟨result, later⟩ := outcome
      cases result with
      | error failure => exact Or.inl ⟨_, later, attempted.keeps, fun _ => rfl⟩
      | ok stream => exact Or.inr ⟨stream, later, fun _ => rfl⟩

/-- Open a client with a host that was found to have these addresses. -/
def openAmong (client : Client) (network : Network) (found : List ScopedAddress)
    (host : String) (option : UInt32) (flags : Int32) :
    Except LinkError Unit × Client × Network :=
  match Host.portOfOption option with
  | .error error => (.error error, client, network)
  | .ok port => client.connectAmong network host port (Network.timeoutOfFlags flags) found

/-- An open fails as a whole, or adopts a wire. -/
theorem openAmong_cases (network : Network) (found : List ScopedAddress) (host : String)
    (option : UInt32) (flags : Int32) :
    (∃ error later, network.KeepsWires later ∧
        ∀ client : Client,
          client.openAmong network found host option flags = (.error error, client, later)) ∨
      ∃ stream later,
        ∀ client : Client,
          client.openAmong network found host option flags =
            (.ok (), client.install stream (Host.endpoint host option),
              client.release later) := by
  rcases Host.portOfOption_cases option with ⟨error, refused⟩ | chosen
  · refine Or.inl ⟨error, network, (Network.Steady.refl network).keepsWires, ?_⟩
    intro client
    rw [openAmong, refused]
  · simp only [openAmong, chosen]
    exact connectAmong_cases network host _ _ found

end Client
end Tcp

/-! ## Datagrams -/

namespace Udp
namespace Client

theorem steady_bind {network later : Network} {address : SocketAddress} {failure : Failure}
    (failed : bind network address = (.error failure, later)) : network.Steady later := by
  have created := network.tried_openSocket.steady
  rw [bind] at failed
  split at failed
  · next reason made =>
      rw [made] at created
      cases failed
      exact created
  · next ready first =>
      rw [first] at created
      have prepared := created.trans (ready.tried_attempt .bind).steady
      split at failed
      · next reason second =>
          rw [second] at prepared
          cases failed
          exact prepared
      · next bare second =>
          rw [second] at prepared
          have bound := prepared.trans
            (bare.tried_bindAddress (bare.mailboxes.map (·.address.port)) address).steady
          split at failed
          · next reason third =>
              rw [show Network.bindAddress _ _ _ = _ from third] at bound
              cases failed
              exact bound
          · cases failed

/-- Connecting fails as a whole, or adopts a socket that was bound for it. -/
theorem connectAmong_cases (network : Network) (host : String) (port : UInt16)
    (found : List ScopedAddress) :
    (∃ error later, network.Steady later ∧
        ∀ client : Client,
          client.connectAmong network host port found = (.error error, client, later)) ∨
      ∃ socket later,
        ∀ client : Client,
          client.connectAmong network host port found =
            (.ok (), client.install socket s!"{host}:{port}", client.release later) := by
  simp only [connectAmong, connectWith]
  cases Host.candidates host port (.ok found) with
  | error error =>
      exact Or.inl ⟨error, network, Network.Steady.refl network, fun _ => rfl⟩
  | ok targets =>
      cases targets with
      | nil => exact Or.inl ⟨_, network, Network.Steady.refl network, fun _ => rfl⟩
      | cons peer rest =>
          dsimp only
          cases outcome : bind network (anyLocal peer.ip) with
          | mk result later =>
              cases result with
              | error failure => exact Or.inl ⟨_, later, steady_bind outcome, fun _ => rfl⟩
              | ok bound => exact Or.inr ⟨⟨bound, peer⟩, later, fun _ => rfl⟩

/-- Open a client with a host that was found to have these addresses. -/
def openAmong (client : Client) (network : Network) (found : List ScopedAddress)
    (host : String) (option : UInt32) : Except LinkError Unit × Client × Network :=
  match Host.portOfOption option with
  | .error error => (.error error, client, network)
  | .ok port => client.connectAmong network host port found

/-- An open fails as a whole, or adopts a socket that was bound for it. -/
theorem openAmong_cases (network : Network) (found : List ScopedAddress) (host : String)
    (option : UInt32) :
    (∃ error later, network.Steady later ∧
        ∀ client : Client,
          client.openAmong network found host option = (.error error, client, later)) ∨
      ∃ socket later,
        ∀ client : Client,
          client.openAmong network found host option =
            (.ok (), client.install socket (Host.endpoint host option),
              client.release later) := by
  rcases Host.portOfOption_cases option with ⟨error, refused⟩ | chosen
  · refine Or.inl ⟨error, network, Network.Steady.refl network, ?_⟩
    intro client
    rw [openAmong, refused]
  · simp only [openAmong, chosen]
    exact connectAmong_cases network host _ found

end Client
end Udp

/-! ## Serial lines -/

namespace Serial

namespace Devices

/-- Devices that differ at most in the faults that wait. -/
def Steady (devices later : Devices) : Prop :=
  later = { devices with faults := later.faults }

theorem Steady.refl (devices : Devices) : devices.Steady devices := rfl

theorem Steady.trans {first second third : Devices} (early : first.Steady second)
    (late : second.Steady third) : first.Steady third := by
  rw [Steady] at early late ⊢
  rw [late, early]

theorem steady_consult (devices : Devices) (call : SystemCall) :
    devices.Steady (devices.consult call).2 := rfl

/-- A terminal that cannot be opened both ways is left alone. -/
theorem steady_openTerminal {devices later : Devices} {error : PortError}
    (failed : devices.openTerminal = (.error error, later)) : devices.Steady later := by
  have opened := devices.steady_consult .openDevice
  rw [openTerminal] at failed
  split at failed
  · next fault first struck =>
      rw [struck] at opened
      cases failed
      exact opened
  · next first spared =>
      rw [spared] at opened
      split at failed
      · cases failed
        exact opened
      · have applied := opened.trans (first.steady_consult .setLine)
        split at failed
        · next fault second struck =>
            rw [struck] at applied
            cases failed
            exact applied
        · cases failed

theorem steady_openPort {devices later : Devices} {path : String} {error : PortError}
    (failed : devices.openPort path = (.error error, later)) : devices.Steady later := by
  rw [openPort] at failed
  split at failed
  · exact steady_openTerminal failed
  all_goals
    cases failed
    exact Steady.refl devices

theorem steady_passOpen (fuel : Nat) (devices : Devices) :
    devices.Steady (passOpen fuel devices).2 := by
  induction fuel generalizing devices with
  | zero => exact Steady.refl devices
  | succ fuel inductionHypothesis =>
      have steady := devices.steady_consult .openDevice
      rw [passOpen]
      split
      · next later spared =>
          rw [spared] at steady
          exact steady
      · next fault later struck =>
          rw [struck] at steady
          split
          · exact steady.trans (inductionHypothesis later)
          · exact steady

theorem steady_openFile (devices : Devices) (path : String) (access : Access) :
    devices.Steady (devices.openFile path access).2 := by
  rw [openFile]
  split
  · exact steady_passOpen (devices.faults.length + 1) devices
  all_goals exact Steady.refl devices

theorem steady_setLine (devices : Devices) : devices.Steady devices.setLine.2 := by
  have applied := devices.steady_consult .setLine
  rw [setLine]
  split
  · next later spared =>
      rw [spared] at applied
      exact applied
  · next fault later struck =>
      rw [struck] at applied
      exact applied

/-- A path that cannot be opened as a terminal leaves the devices alone. -/
theorem steady_terminal {devices later : Devices} {path : String} {rate : UInt32}
    {access : Access} {obstacle : Obstacle}
    (failed : calls.openTerminal path rate access devices = (.error obstacle, later)) :
    devices.Steady later := by
  rw [LineCalls.openTerminal] at failed
  split at failed
  · rw [LineCalls.openBothWays] at failed
    split at failed
    · cases failed
    · next error reached refused =>
        have steady := steady_openPort (show devices.openPort path = _ from refused)
        split at failed <;> cases failed <;> exact steady
  · have opened := devices.steady_openFile path access
    rw [LineCalls.openOneWay] at failed
    split at failed
    · next failure reached refused =>
        rw [show devices.openFile path access = _ from refused] at opened
        cases failed
        exact opened
    · next file reached made =>
        rw [show devices.openFile path access = _ from made] at opened
        split at failed
        · next failure still unlined =>
            obtain rfl : reached = still := congrArg Prod.snd unlined
            cases failed
            exact opened
        · next still lined =>
            obtain rfl : reached = still := congrArg Prod.snd lined
            have applied := opened.trans reached.steady_setLine
            split at failed
            · next failure final refused =>
                rw [show reached.setLine = _ from refused] at applied
                cases failed
                exact applied
            · cases failed

theorem openNamed_snd (devices : Devices) (name node : String) :
    (calls.openNamed name node devices).2 = devices := by
  rw [LineCalls.openNamed]
  split
  · next later absent => exact (congrArg Prod.snd absent).symm
  · next position first found =>
      obtain rfl : devices = first := congrArg Prod.snd found
      split
      · next later silent => exact (congrArg Prod.snd silent).symm
      · next report later reported => exact (congrArg Prod.snd reported).symm

/-- Looking for an input device leaves the devices alone. -/
theorem findInputDevice_snd (devices : Devices) (name : String) :
    (calls.findInputDevice name devices).2 = devices := by
  rw [LineCalls.findInputDevice]
  generalize LineCalls.scannedNodes = nodes
  induction nodes with
  | nil => rfl
  | cons node rest inductionHypothesis =>
      have still := devices.openNamed_snd name node
      rw [tryEach]
      split
      · next position later found =>
          rw [found] at still
          exact still
      · next later missed =>
          rw [missed] at still
          dsimp only at still
          rw [still]
          exact inductionHypothesis

/-- A line that cannot be opened is left alone. -/
theorem steady_openLine {devices later : Devices} {path : String} {rate : UInt32}
    {access : Access} {error : LinkError}
    (failed : calls.openLine path rate access devices = (.error error, later)) :
    devices.Steady later := by
  rw [LineCalls.openLine] at failed
  split at failed
  · cases failed
  · next stage failure reached unset =>
      cases failed
      exact steady_terminal unset
  · next failure reached unreachable =>
      have still := reached.findInputDevice_snd path
      split at failed
      · cases failed
      · next final nobody =>
          rw [nobody] at still
          cases failed
          dsimp only at still
          rw [still]
          exact steady_terminal unreachable

end Devices

namespace Client

/-- An open fails as a whole, or adopts a line. -/
theorem openAt_cases (devices : Devices) (path : String) (option : UInt32) (flags : Int32) :
    (∃ error later, devices.Steady later ∧
        ∀ client : Client,
          client.openAt devices path option flags = (.error error, client, later)) ∨
      ∃ line later,
        ∀ client : Client,
          client.openAt devices path option flags =
            (.ok (), client.install line s!"{path}:{(Access.ofFlags flags).shortName}",
              client.release later) := by
  simp only [openAt, openPort, openPortWith]
  cases checkRate option with
  | error error => exact Or.inl ⟨error, devices, Devices.Steady.refl devices, fun _ => rfl⟩
  | ok rate =>
      dsimp only
      cases opened : Devices.calls.openLine path rate (.ofFlags flags) devices with
      | mk result later =>
          cases result with
          | error error => exact Or.inl ⟨error, later, Devices.steady_openLine opened, fun _ => rfl⟩
          | ok line => exact Or.inr ⟨line, later, fun _ => rfl⟩

end Client
end Serial
end Framelink
