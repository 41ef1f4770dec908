import Mathlib.Data.List.Sort
import Framelink.Proofs.Client.Trying
import Framelink.Tcp.Client
import Framelink.Udp.Client

/-!
# Connecting to the addresses of a host

A look-up may give any addresses in any order.  They are put in the order in which they
are tried by a stable sort, so that those of the older family come first and each family
keeps the order of the look-up.  A stream client goes through them until one can be
connected to; if none can, the last attempt alone says why.  A datagram client takes the
first as its peer and binds an address of the same family.  What becomes of an attempt, and
of binding an address, is left open, as is the world that it happens in.
-/

namespace Framelink

/-! ## The order of addresses -/

section

variable {Element : Type} {key : Element → Bool}

/-- Elements in the order of a key of two values are those of the lesser value followed by
those of the greater. -/
theorem eq_append_of_ordered {elements : List Element}
    (ordered : elements.Pairwise fun first second => key first ≤ key second) :
    elements = elements.filter (fun element => !key element) ++ elements.filter key := by
  induction ordered with
  | nil => rfl
  | @cons head rest before _ inductionHypothesis =>
      cases kept : key head with
      | false =>
          rw [List.filter_cons_of_pos (by simp [kept]),
            List.filter_cons_of_neg (by simp [kept]), List.cons_append,
            ← inductionHypothesis]
      | true =>
          have all : ∀ element ∈ rest, key element = true := by
            intro element among
            have later := before element among
            rw [kept] at later
            exact Bool.eq_true_of_true_le later
          have none : rest.filter (fun element => !key element) = [] := by
            rw [List.filter_eq_nil_iff]
            intro element among
            simp [all element among]
          rw [List.filter_cons_of_neg (by simp [kept]), List.filter_cons_of_pos kept, none,
            List.filter_eq_self.mpr all, List.nil_append]

/-- Whether an element may come before another in the order of a key of two values. -/
def mayPrecede (key : Element → Bool) (first second : Element) : Bool :=
  decide (key first ≤ key second)

theorem mayPrecede_trans (first second third : Element)
    (early : mayPrecede key first second = true) (late : mayPrecede key second third = true) :
    mayPrecede key first third = true := by
  rw [mayPrecede, decide_eq_true_eq] at early late ⊢
  exact le_trans early late

theorem mayPrecede_total (first second : Element) :
    (mayPrecede key first second || mayPrecede key second first) = true := by
  rw [Bool.or_eq_true, mayPrecede, mayPrecede, decide_eq_true_eq, decide_eq_true_eq]
  exact le_total (key first) (key second)

/-- A stable sort keeps the elements of one value in their order. -/
theorem filter_mergeSort (elements : List Element) (chosen : Element → Bool) (value : Bool)
    (same : ∀ element, chosen element = true → key element = value) :
    (elements.mergeSort (mayPrecede key)).filter chosen = elements.filter chosen := by
  have level : (elements.filter chosen).Pairwise fun first second =>
      mayPrecede key first second = true := by
    rw [List.pairwise_filter]
    apply List.pairwise_of_forall
    intro first second chosenFirst chosenSecond
    rw [mayPrecede, decide_eq_true_eq, same first chosenFirst, same second chosenSecond]
  have kept : (elements.filter chosen).Sublist (elements.mergeSort (mayPrecede key)) :=
    List.sublist_mergeSort mayPrecede_trans mayPrecede_total level List.filter_sublist
  have chosenOnly := kept.filter chosen
  rw [List.filter_filter] at chosenOnly
  simp only [Bool.and_self] at chosenOnly
  refine (chosenOnly.eq_of_length ?_).symm
  exact ((List.mergeSort_perm elements (mayPrecede key)).filter chosen).length_eq.symm

/-- A stable sort by a key of two values puts the elements of the lesser value before those
of the greater, each in their order. -/
theorem mergeSort_eq_append (elements : List Element) :
    elements.mergeSort (mayPrecede key) =
      elements.filter (fun element => !key element) ++ elements.filter key := by
  have ordered : (elements.mergeSort (mayPrecede key)).Pairwise fun first second =>
      key first ≤ key second := by
    have sorted := List.pairwise_mergeSort mayPrecede_trans (@mayPrecede_total _ key) elements
    simpa only [mayPrecede, decide_eq_true_eq] using sorted
  rw [eq_append_of_ordered ordered, filter_mergeSort elements _ false (by simp),
    filter_mergeSort elements key true (by simp)]

end

namespace Host

/-- The socket addresses of a host in the order in which they are tried: those of the older
family in the order in which they were found, then those of the newer. -/
def inOrder (port : UInt16) (found : List ScopedAddress) : List SocketAddress :=
  (found.filter (·.ip.isV4)).map (fun address => ⟨address.ip, port, address.scope⟩) ++
    (found.filter fun address => !address.ip.isV4).map fun address =>
      ⟨address.ip, port, address.scope⟩

variable {port : UInt16} {found : List ScopedAddress}

/-- The order is that of a stable sort by family. -/
theorem inOrder_eq_mergeSort (port : UInt16) (found : List ScopedAddress) :
    inOrder port found =
      (found.mergeSort (mayPrecede fun address => !address.ip.isV4)).map fun address =>
        ⟨address.ip, port, address.scope⟩ := by
  rw [mergeSort_eq_append, List.map_append, inOrder]
  simp only [Bool.not_not]

example : inOrder 80 [⟨.loopback6, 0⟩, ⟨.loopback4, 0⟩, ⟨.unspecified6, 2⟩, ⟨.unspecified4, 0⟩] =
    [⟨.loopback4, 80, 0⟩, ⟨.unspecified4, 80, 0⟩, ⟨.loopback6, 80, 0⟩, ⟨.unspecified6, 80, 2⟩] :=
  rfl

theorem inOrder_eq_nil_iff : inOrder port found = [] ↔ found = [] := by
  rw [inOrder_eq_mergeSort, List.map_eq_nil_iff, ← List.length_eq_zero_iff,
    List.length_mergeSort, List.length_eq_zero_iff]

/-- A look-up that failed, or found nothing. -/
def Unresolved (found : Except Failure (List ScopedAddress)) : Prop :=
  found = .ok [] ∨ ∃ failure, found = .error failure

theorem candidates_of_unresolved (host : String) (port : UInt16)
    {found : Except Failure (List ScopedAddress)} (unresolved : Unresolved found) :
    candidates host port found = .error (.hostResolution host) := by
  rcases unresolved with rfl | ⟨failure, rfl⟩ <;> rfl

theorem candidates_of_resolved (host : String) (port : UInt16) (some : found ≠ []) :
    candidates host port (.ok found) = .ok (inOrder port found) := by
  cases found with
  | nil => exact absurd rfl some
  | cons first rest =>
      rw [candidates, olderFirst, List.map_append]
      · rfl
      · simp

end Host

/-! ## Stream clients -/

namespace Tcp
namespace Client

/-- The error of a connection is decided by the failure of its last attempt. -/
structure BlamesLast (endpoint : String) (timeout : Option Duration) (failure : Failure) :
    Prop where
  creation : connectError endpoint timeout failure = .socketCreate failure ↔
    failure.isSocketCreation = true
  /-- The timeout that is reported is the one that was asked for. -/
  timedOut : ∀ bound, connectError endpoint timeout failure = .connectionTimeout endpoint bound ↔
    failure.isTimedOut = true ∧ timeout = some bound
  otherwise : failure.isSocketCreation = false → (failure.isTimedOut = true → timeout = none) →
    connectError endpoint timeout failure = .connect endpoint failure

/-- A wait that ran out is no failure to create a socket. -/
theorem not_isSocketCreation_of_isTimedOut {failure : Failure}
    (timedOut : failure.isTimedOut = true) : failure.isSocketCreation = false := by
  cases failure with
  | system code =>
      have same : code = Failure.Code.timedOut := eq_of_beq timedOut
      rw [same]
      rfl
  | plain kind => rfl
  | custom kind text => rfl

theorem connectError_created {failure : Failure} (created : failure.isSocketCreation = true)
    (endpoint : String) (timeout : Option Duration) :
    connectError endpoint timeout failure = .socketCreate failure := if_pos created

theorem connectError_timedOut {failure : Failure} (timedOut : failure.isTimedOut = true)
    (endpoint : String) (timeout : Duration) :
    connectError endpoint (some timeout) failure = .connectionTimeout endpoint timeout := by
  simp [connectError, not_isSocketCreation_of_isTimedOut timedOut, timedOut]

theorem connectError_other {failure : Failure} {timeout : Option Duration}
    (created : failure.isSocketCreation = false)
    (unbounded : failure.isTimedOut = true → timeout = none) (endpoint : String) :
    connectError endpoint timeout failure = .connect endpoint failure := by
  cases timeout with
  | none => simp [connectError, created]
  | some timeout =>
      have waited : failure.isTimedOut = false := by
        rw [← Bool.not_eq_true]
        exact fun timedOut => nomatch unbounded timedOut
      simp [connectError, created, waited]

theorem blamesLast (endpoint : String) (timeout : Option Duration) (failure : Failure) :
    BlamesLast endpoint timeout failure := by
  cases created : failure.isSocketCreation with
  | true =>
      have error := connectError_created created endpoint timeout
      refine ⟨by simp [error, created], ?_, by simp [created]⟩
      intro bound
      constructor
      · intro same
        rw [error] at same
        cases same
      · rintro ⟨timedOut, -⟩
        rw [not_isSocketCreation_of_isTimedOut timedOut] at created
        cases created
  | false =>
      by_cases waited : failure.isTimedOut = true ∧ ∃ bound, timeout = some bound
      · obtain ⟨timedOut, bound, rfl⟩ := waited
        have error := connectError_timedOut timedOut endpoint bound
        exact ⟨by simp [error, created], by simp [error, timedOut], by simp [timedOut]⟩
      · have unbounded : failure.isTimedOut = true → timeout = none := by
          intro timedOut
          rw [Option.eq_none_iff_forall_ne_some]
          exact fun bound same => waited ⟨timedOut, bound, same⟩
        have error := connectError_other created unbounded endpoint
        refine ⟨by simp [error, created], ?_, fun _ _ => error⟩
        intro bound
        constructor
        · intro same
          rw [error] at same
          cases same
        · rintro ⟨timedOut, same⟩
          exact absurd ⟨timedOut, bound, same⟩ waited

section

variable {World : Type}

/-- What a connection comes to: of the addresses in order, those that were tried, and the
result with the client and the world that are left. -/
inductive Connecting (attempt : SocketAddress → World → Except Failure Stream × World)
    (release : Client → World → World) (client : Client) (world : World) (endpoint : String)
    (timeout : Option Duration) :
    List SocketAddress → List SocketAddress → Except LinkError Unit × Client × World → Prop
  /-- The first address that can be connected to is adopted, and none behind it is tried. -/
  | adopted {failed : List (SocketAddress × Failure)} {target : SocketAddress}
      {between later : World} {stream : Stream} (untried : List SocketAddress) :
      AllFail attempt world failed between → attempt target between = (.ok stream, later) →
      Connecting attempt release client world endpoint timeout
        (failed.map Prod.fst ++ target :: untried) (failed.map Prod.fst ++ [target])
        (.ok (), client.install stream endpoint, release client later)
  /-- If none can be connected to, the last failure alone is reported. -/
  | refused {earlier : List (SocketAddress × Failure)} {target : SocketAddress}
      {failure : Failure} {later : World} :
      AllFail attempt world (earlier ++ [(target, failure)]) later →
      Connecting attempt release client world endpoint timeout
        (earlier.map Prod.fst ++ [target]) (earlier.map Prod.fst ++ [target])
        (.error (connectError endpoint timeout failure), client, later)

/-- The addresses that a connection tries, in order. -/
def attempted
    (attempt : Option Duration → SocketAddress → World → Except Failure Stream × World)
    (client : Client) (world : World) (host : String) (port : UInt16)
    (timeout : Option Duration) (found : Except Failure (List ScopedAddress)) :
    List SocketAddress :=
  (connectWith (fun wait => listed (attempt wait)) (fun _ world => world) client (world, [])
    host port timeout found).2.2.2

/-- Stream clients try the addresses of a host in order and adopt the first that can be
connected to. -/
structure ConnectsInOrder
    (attempt : Option Duration → SocketAddress → World → Except Failure Stream × World)
    (release : Client → World → World) : Prop where
  unresolved : ∀ client world host port timeout found, Host.Unresolved found →
    connectWith attempt release client world host port timeout found =
        (.error (.hostResolution host), client, world) ∧
      attempted attempt client world host port timeout found = []
  resolved : ∀ client world host port timeout found, found ≠ [] →
    Connecting (attempt (connectWait timeout)) release client world s!"{host}:{port}" timeout
      (Host.inOrder port found) (attempted attempt client world host port timeout (.ok found))
      (connectWith attempt release client world host port timeout (.ok found))

theorem connectsInOrder
    (attempt : Option Duration → SocketAddress → World → Except Failure Stream × World)
    (release : Client → World → World) : ConnectsInOrder attempt release where
  unresolved := by
    intro client world host port timeout found unresolved
    have error := Host.candidates_of_unresolved host port unresolved
    simp only [attempted, connectWith, error, and_self]
  resolved := by
    intro client world host port timeout found some
    obtain ⟨tried, outcome, later, course, run, noted⟩ :=
      tried_tryEach (attempt (connectWait timeout)) (.plain .addressNotAvailable)
        (Host.inOrder port found) world
    simp only [attempted, connectWith, Host.candidates_of_resolved host port some, run,
      noted []]
    generalize ordered : Host.inOrder port found = targets at course
    cases course with
    | reached untried failing success => exact .adopted untried failing success
    | @exhausted failed _ failing =>
        -- There was an address, so there is a last attempt.
        rcases List.eq_nil_or_concat failed with rfl | ⟨earlier, ⟨target, failure⟩, split⟩
        · exact absurd (Host.inOrder_eq_nil_iff.mp ordered) some
        · rw [List.concat_eq_append] at split
          subst split
          rw [List.map_append, List.getLast?_concat]
          exact .refused failing

end

end Client
end Tcp

/-! ## Datagram clients -/

namespace Udp
namespace Client

section

variable {World : Type}

/-- The local addresses that a connection binds, in order. -/
def bindings (bind : SocketAddress → World → Except Failure SocketAddress × World)
    (client : Client) (world : World) (host : String) (port : UInt16)
    (found : Except Failure (List ScopedAddress)) : List SocketAddress :=
  (connectWith (listed bind) (fun _ world => world) client (world, []) host port found).2.2.2

/-- Datagram clients take the first address of a host as their peer and bind one address of
its family. -/
structure TakesFirst (bind : SocketAddress → World → Except Failure SocketAddress × World)
    (release : Client → World → World) : Prop where
  unresolved : ∀ client world host port found, Host.Unresolved found →
    connectWith bind release client world host port found =
        (.error (.hostResolution host), client, world) ∧
      bindings bind client world host port found = []
  resolved : ∀ client world host port found, found ≠ [] →
    ∃ peer rest, Host.inOrder port found = peer :: rest ∧
      bindings bind client world host port (.ok found) = [anyLocal peer.ip] ∧
      (∀ bound later, bind (anyLocal peer.ip) world = (.ok bound, later) →
        connectWith bind release client world host port (.ok found) =
          (.ok (), client.install ⟨bound, peer⟩ s!"{host}:{port}", release client later)) ∧
      ∀ failure later, bind (anyLocal peer.ip) world = (.error failure, later) →
        connectWith bind release client world host port (.ok found) =
          (.error (.socketCreate failure), client, later)
  sameFamily : ∀ peer, (anyLocal peer).ip.isV4 = peer.isV4
  unspecified : ∀ peer, (anyLocal peer).ip.isUnspecified = true ∧ (anyLocal peer).port = 0

theorem takesFirst (bind : SocketAddress → World → Except Failure SocketAddress × World)
    (release : Client → World → World) : TakesFirst bind release where
  unresolved := by
    intro client world host port found unresolved
    have error := Host.candidates_of_unresolved host port unresolved
    simp only [bindings, connectWith, error, and_self]
  resolved := by
    intro client world host port found some
    have found := Host.candidates_of_resolved host port some
    cases ordered : Host.inOrder port _ with
    | nil => exact absurd (Host.inOrder_eq_nil_iff.mp ordered) some
    | cons peer rest =>
        rw [ordered] at found
        refine ⟨peer, rest, rfl, ?_, ?_, ?_⟩
        · simp only [bindings, connectWith, found, listed]
          cases bind (anyLocal peer.ip) world with
          | mk result later => cases result <;> rfl
        · intro bound later made
          simp only [connectWith, found, made]
        · intro failure later refused
          simp only [connectWith, found, refused]
  sameFamily := by
    intro peer
    cases same : peer.isV4 <;> simp [anyLocal, same] <;> rfl
  unspecified := by
    intro peer
    cases same : peer.isV4 <;> simp [anyLocal, same] <;> rfl

end

end Client
end Udp

/-- Whatever addresses a look-up gives, in whatever order, and whatever becomes of each
attempt, a stream client tries the addresses of the older family in the order of the look-up
and then those of the newer, adopts the first that can be connected to and tries none behind
it; if none can, it stays as it was and the failure of the last attempt alone decides the
error.  A datagram client takes the first in the same order as its peer and binds the
unspecified address of its family.  A look-up that fails or finds nothing is an error before
any attempt. -/
theorem addresses_are_tried_in_order :
    (∀ port found, Host.inOrder port found =
      (found.mergeSort (mayPrecede fun address => !address.ip.isV4)).map fun address =>
        ⟨address.ip, port, address.scope⟩) ∧
    (∀ {World : Type}
      (attempt : Option Duration → SocketAddress → World → Except Failure Tcp.Stream × World)
      (release : Tcp.Client → World → World), Tcp.Client.ConnectsInOrder attempt release) ∧
    (∀ endpoint timeout failure, Tcp.Client.BlamesLast endpoint timeout failure) ∧
    (∀ {World : Type}
      (bind : SocketAddress → World → Except Failure SocketAddress × World)
      (release : Udp.Client → World → World), Udp.Client.TakesFirst bind release) ∧
    (∀ client network host port timeout,
      Tcp.Client.connect client network host port timeout =
        Tcp.Client.connectWith
          (fun wait target network => Tcp.Client.attempt network target wait.isSome)
          Tcp.Client.release client network host port timeout
          (.ok (Host.addresses network.descriptorsLeft host))) ∧
    ∀ client network host port,
      Udp.Client.connect client network host port =
        Udp.Client.connectWith (fun address network => Udp.Client.bind network address)
          Udp.Client.release client network host port
          (.ok (Host.addresses network.descriptorsLeft host)) := by
  refine ⟨Host.inOrder_eq_mergeSort, ?_, Tcp.Client.blamesLast, ?_, ?_, ?_⟩
  · exact fun attempt release => Tcp.Client.connectsInOrder attempt release
  · exact fun bind release => Udp.Client.takesFirst bind release
  · exact fun client network host port timeout => rfl
  · exact fun client network host port => rfl

end Framelink
