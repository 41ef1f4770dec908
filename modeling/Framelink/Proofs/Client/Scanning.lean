import Framelink.Proofs.Client.Trying
import Framelink.Serial.Client

/-!
# Opening a path, or the input device of that name

What becomes of an open is told from what the system makes of each call.  A rate that is
not supported is an error before any of them.  A path that opens and takes every setting is
adopted as a terminal; one that opens and does not take its settings is an error; and only
one that cannot be reached may be the name of an input device, which is looked for at the
numbered nodes one after the other.  The paths that are opened meanwhile are written down.
-/

namespace Framelink
namespace Serial

namespace LineCalls

variable {World File : Type} (calls : LineCalls World File)

/-! ## Opening a path as a terminal -/

/-- What becomes of opening a path as a terminal, told from what the system makes of each
call. -/
inductive Reaches (path : String) (rate : UInt32) (world : World) :
    Access → Except Obstacle Unit → World → Prop
  | port {later : World} :
      calls.openPort path (lineSettings rate) world = (.ok (), later) →
      Reaches path rate world .readWrite (.ok ()) later
  /-- The path is not there, or the error is of a sort that says so. -/
  | portUnreachable {error : PortError} {later : World} :
      calls.openPort path (lineSettings rate) world = (.error error, later) →
      calls.isThere path later = false ∨ error.sort ∈ PortError.unreachableSorts →
      Reaches path rate world .readWrite (.error (.unreachable error.failure)) later
  | portUnset {error : PortError} {later : World} :
      calls.openPort path (lineSettings rate) world = (.error error, later) →
      calls.isThere path later = true → error.sort ∉ PortError.unreachableSorts →
      Reaches path rate world .readWrite (.error (.settings .configure error.failure)) later
  | fileUnreachable {access : Access} {failure : Failure} {later : World} :
      access ≠ .readWrite → calls.openFile path access world = (.error failure, later) →
      Reaches path rate world access (.error (.unreachable failure)) later
  | fileUngotten {access : Access} {file : File} {failure : Failure} {opened later : World} :
      access ≠ .readWrite → calls.openFile path access world = (.ok file, opened) →
      calls.getLine file opened = (.error failure, later) →
      Reaches path rate world access (.error (.settings .get failure)) later
  | fileUnset {access : Access} {file : File} {failure : Failure} {opened gotten later : World} :
      access ≠ .readWrite → calls.openFile path access world = (.ok file, opened) →
      calls.getLine file opened = (.ok (), gotten) →
      calls.setLine file gotten = (.error failure, later) →
      Reaches path rate world access (.error (.settings .set failure)) later
  /-- One of the settings is not taken, all before it are. -/
  | fileUnconfigured {access : Access} {file : File} {error : PortError}
      {opened gotten set between later : World} {applied unapplied : List LineSetting}
      {setting : LineSetting} :
      access ≠ .readWrite → calls.openFile path access world = (.ok file, opened) →
      calls.getLine file opened = (.ok (), gotten) →
      calls.setLine file gotten = (.ok (), set) →
      lineSettings rate = applied ++ setting :: unapplied →
      AllDone (calls.apply file) (calls.takeOver file set) applied between →
      calls.apply file setting between = (.error error, later) →
      Reaches path rate world access (.error (.settings .configure error.failure)) later
  | file {access : Access} {file : File} {opened gotten set later : World} :
      access ≠ .readWrite → calls.openFile path access world = (.ok file, opened) →
      calls.getLine file opened = (.ok (), gotten) →
      calls.setLine file gotten = (.ok (), set) →
      AllDone (calls.apply file) (calls.takeOver file set) (lineSettings rate) later →
      Reaches path rate world access (.ok ()) later

variable {calls}

theorem reaches_openBothWays (path : String) (rate : UInt32) (world : World) :
    calls.Reaches path rate world .readWrite (calls.openBothWays path rate world).1
      (calls.openBothWays path rate world).2 := by
  rw [openBothWays]
  split
  · next later made => exact .port made
  · next error later failed =>
      split
      · next unreachable =>
          rw [Bool.or_eq_true, Bool.not_eq_true', PortError.meansUnreachable,
            List.contains_iff_mem] at unreachable
          exact .portUnreachable failed unreachable
      · next reached =>
          rw [Bool.or_eq_true, Bool.not_eq_true', PortError.meansUnreachable,
            List.contains_iff_mem, not_or, Bool.not_eq_false] at reached
          exact .portUnset failed reached.1 reached.2

theorem reaches_openOneWay (path : String) (rate : UInt32) {access : Access}
    (oneWay : access ≠ .readWrite) (world : World) :
    calls.Reaches path rate world access (calls.openOneWay path rate access world).1
      (calls.openOneWay path rate access world).2 := by
  rw [openOneWay]
  split
  · next failure later failed => exact .fileUnreachable oneWay failed
  · next file opened made =>
      split
      · next failure later failed => exact .fileUngotten oneWay made failed
      · next gotten got =>
          split
          · next failure later failed => exact .fileUnset oneWay made got failed
          · next ready set =>
              rcases doEach_cases (calls.apply file) (lineSettings rate)
                  (calls.takeOver file ready) with
                ⟨later, allDone, run⟩ |
                ⟨applied, setting, unapplied, between, error, later, split, done, failed, run⟩
              · rw [run]
                exact .file oneWay made got set allDone
              · rw [run]
                exact .fileUnconfigured oneWay made got set split done failed

theorem reaches_openTerminal (path : String) (rate : UInt32) (access : Access)
    (world : World) :
    calls.Reaches path rate world access (calls.openTerminal path rate access world).1
      (calls.openTerminal path rate access world).2 := by
  rw [openTerminal]
  split
  · next both =>
      rw [both]
      exact reaches_openBothWays path rate world
  · next oneWay => exact reaches_openOneWay path rate oneWay world

/-! ## Looking for an input device -/

variable (calls) in
/-- A node opens, and the device that is there reports a name. -/
def GoesBy (name node : String) (world : World) (position : Nat) (later : World) : Prop :=
  ∃ between report, calls.openNode node world = (some position, between) ∧
    calls.reportName position between = (some report, later) ∧ InputDevice.nameIn report = name

/-- A device is adopted exactly if its node opens and it reports the name. -/
theorem openNamed_eq_ok_iff {name node : String} {world later : World} {position : Nat} :
    calls.openNamed name node world = (.ok position, later) ↔
      calls.GoesBy name node world position later := by
  constructor
  · intro adopted
    rw [openNamed] at adopted
    split at adopted
    · cases adopted
    · next found between opened =>
        split at adopted
        · cases adopted
        · next report reached reported =>
            split at adopted
            · next same =>
                cases adopted
                exact ⟨between, report, opened, reported, same⟩
            · cases adopted
  · rintro ⟨between, report, opened, reported, same⟩
    simp only [openNamed, opened, reported, same, if_true]

/-! ## Writing down what is opened -/

/-- A call that leaves what is written down alone. -/
def unlisted {Answer Log : Type} (call : World → Answer × World) (world : World × Log) :
    Answer × (World × Log) :=
  let (answer, later) := call world.1
  (answer, later, world.2)

variable (calls) in
/-- The calls of a system that writes down every path that is opened. -/
def listing : LineCalls (World × List String) File where
  openPort := fun path settings =>
    listed (fun path => calls.openPort path settings) path
  isThere := fun path world => calls.isThere path world.1
  openFile := fun path access => listed (fun path => calls.openFile path access) path
  getLine := fun file => unlisted (calls.getLine file)
  setLine := fun file => unlisted (calls.setLine file)
  takeOver := fun file world => (calls.takeOver file world.1, world.2)
  apply := fun file setting => unlisted (calls.apply file setting)
  openNode := fun node world =>
    let (position, later) := calls.openNode node world.1
    (position, later, world.2 ++ [node])
  reportName := fun position => unlisted (calls.reportName position)

section Listing

variable {world later : World} {log : List String}

theorem unlisted_eq {Answer Log : Type} {call : World → Answer × World} {answer : Answer}
    {log : Log} (made : call world = (answer, later)) :
    unlisted call (world, log) = (answer, later, log) := by
  simp only [unlisted, made]

theorem listing_openPort {path : String} {settings : List LineSetting}
    {result : Except PortError Unit} (made : calls.openPort path settings world = (result, later)) :
    calls.listing.openPort path settings (world, log) = (result, later, log ++ [path]) := by
  simp only [listing, listed, made]

theorem listing_openFile {path : String} {access : Access} {result : Except Failure File}
    (made : calls.openFile path access world = (result, later)) :
    calls.listing.openFile path access (world, log) = (result, later, log ++ [path]) := by
  simp only [listing, listed, made]

theorem listing_openNode {node : String} {position : Option Nat}
    (made : calls.openNode node world = (position, later)) :
    calls.listing.openNode node (world, log) = (position, later, log ++ [node]) := by
  simp only [listing, made]

theorem doEach_unlisted {Item Reason Log : Type}
    (perform : Item → World → Except Reason Unit × World) (items : List Item) (world : World)
    (log : Log) :
    doEach (fun item => unlisted (perform item)) items (world, log) =
      ((doEach perform items world).1, (doEach perform items world).2, log) := by
  induction items generalizing world with
  | nil => rfl
  | cons item rest inductionHypothesis =>
      rw [doEach, doEach]
      cases made : perform item world with
      | mk result later =>
          rw [unlisted_eq made]
          cases result with
          | error reason => rfl
          | ok => exact inductionHypothesis later

theorem openBothWays_listing (path : String) (rate : UInt32) (world : World)
    (log : List String) :
    calls.listing.openBothWays path rate (world, log) =
      ((calls.openBothWays path rate world).1, (calls.openBothWays path rate world).2,
        log ++ [path]) := by
  rw [openBothWays, openBothWays]
  cases made : calls.openPort path (lineSettings rate) world with
  | mk result later =>
      rw [listing_openPort made]
      cases result with
      | ok => rfl
      | error error =>
          dsimp only
          rw [show calls.listing.isThere path (later, log ++ [path]) =
            calls.isThere path later from rfl]
          split <;> rfl

theorem openOneWay_listing (path : String) (rate : UInt32) (access : Access) (world : World)
    (log : List String) :
    calls.listing.openOneWay path rate access (world, log) =
      ((calls.openOneWay path rate access world).1,
        (calls.openOneWay path rate access world).2, log ++ [path]) := by
  rw [openOneWay, openOneWay]
  cases made : calls.openFile path access world with
  | mk result opened =>
      rw [listing_openFile made]
      cases result with
      | error failure => rfl
      | ok file =>
          dsimp only
          cases got : calls.getLine file opened with
          | mk result gotten =>
              rw [show calls.listing.getLine file (opened, log ++ [path]) = _ from
                unlisted_eq got]
              cases result with
              | error failure => rfl
              | ok =>
                  dsimp only
                  cases ready : calls.setLine file gotten with
                  | mk result set =>
                      rw [show calls.listing.setLine file (gotten, log ++ [path]) = _ from
                        unlisted_eq ready]
                      cases result with
                      | error failure => rfl
                      | ok =>
                          have applied := doEach_unlisted (calls.apply file)
                            (lineSettings rate) (calls.takeOver file set) (log ++ [path])
                          dsimp only
                          rw [show doEach (calls.listing.apply file) (lineSettings rate)
                            (calls.listing.takeOver file (set, log ++ [path])) = _ from applied]

/-- Opening a path as a terminal opens that path, once. -/
theorem openTerminal_listing (path : String) (rate : UInt32) (access : Access) (world : World)
    (log : List String) :
    calls.listing.openTerminal path rate access (world, log) =
      ((calls.openTerminal path rate access world).1,
        (calls.openTerminal path rate access world).2, log ++ [path]) := by
  rw [openTerminal, openTerminal]
  split
  · exact openBothWays_listing path rate world log
  · exact openOneWay_listing path rate access world log

/-- Looking at a node opens that node. -/
theorem openNamed_listing (name : String) :
    calls.listing.openNamed name = listed (calls.openNamed name) := by
  funext node ⟨world, log⟩
  rw [listed, openNamed, openNamed]
  cases found : calls.openNode node world with
  | mk position opened =>
      rw [listing_openNode found]
      cases position with
      | none => rfl
      | some position =>
          dsimp only
          cases reported : calls.reportName position opened with
          | mk report later =>
              rw [show calls.listing.reportName position (opened, log ++ [node]) = _ from
                unlisted_eq reported]
              cases report <;> rfl

end Listing

end LineCalls

/-! ## What an open comes to -/

namespace Client

variable {World File : Type}

/-- What an open of a path comes to: the paths that are opened, in order, and the result
with the client and the world that are left. -/
inductive Opening (calls : LineCalls World File) (release : Client → World → World)
    (client : Client) (world : World) (path : String) (rate : UInt32) (access : Access) :
    List String → Except LinkError Unit × Client × World → Prop
  /-- A rate that is not supported opens nothing. -/
  | unsupported : rate ∉ supportedRates →
      Opening calls release client world path rate access []
        (.error (.unsupportedRate rate), client, world)
  /-- The path opens and every setting is taken. -/
  | terminal {later : World} : rate ∈ supportedRates →
      calls.Reaches path rate world access (.ok ()) later →
      Opening calls release client world path rate access [path]
        (.ok (), client.install (.terminal access) s!"{path}:{access.shortName}",
          release client later)
  /-- The path opens and a setting fails. -/
  | unset {stage : LineStage} {failure : Failure} {later : World} : rate ∈ supportedRates →
      calls.Reaches path rate world access (.error (.settings stage failure)) later →
      Opening calls release client world path rate access [path]
        (.error (.serialConfig path stage failure), client, later)
  /-- The path cannot be reached, and the device at some node goes by it.  All nodes of lesser
  numbers were looked at before, and none goes by it. -/
  | inputDevice {failure : Failure} {between before later : World} {number position : Nat}
      {passed : List (String × Unit)} : rate ∈ supportedRates →
      calls.Reaches path rate world access (.error (.unreachable failure)) between →
      number < 40 → passed.map Prod.fst = (List.range number).map Devices.nodePath →
      AllFail (calls.openNamed path) between passed before →
      calls.GoesBy path (Devices.nodePath number) before position later →
      Opening calls release client world path rate access
        (path :: (List.range (number + 1)).map Devices.nodePath)
        (.ok (), client.install (.inputDevice position) s!"{path}:{access.shortName}",
          release client later)
  /-- The path cannot be reached, and no device goes by it. -/
  | nobody {failure : Failure} {between later : World} {passed : List (String × Unit)} :
      rate ∈ supportedRates →
      calls.Reaches path rate world access (.error (.unreachable failure)) between →
      passed.map Prod.fst = (List.range 40).map Devices.nodePath →
      AllFail (calls.openNamed path) between passed later →
      Opening calls release client world path rate access
        (path :: (List.range 40).map Devices.nodePath)
        (.error (.serialOpen path failure), client, later)

/-- The paths that an open opens, in order. -/
def opened (calls : LineCalls World File) (client : Client) (world : World) (path : String)
    (rate : UInt32) (access : Access) : List String :=
  (openPortWith calls.listing (fun _ world => world) client (world, []) path rate access).2.2.2

section

variable {calls : LineCalls World File} {release : Client → World → World} {client : Client}
  {world between later : World} {path : String} {rate : UInt32} {access : Access}
  {failure : Failure}

theorem checkRate_of_mem (supported : rate ∈ supportedRates) : checkRate rate = .ok rate :=
  if_pos (List.contains_iff_mem.mpr supported)

theorem checkRate_of_not_mem (unsupported : rate ∉ supportedRates) :
    checkRate rate = .error (.unsupportedRate rate) :=
  if_neg fun listed => unsupported (List.contains_iff_mem.mp listed)

/-- The nodes before one of those that are scanned are those of lesser numbers. -/
theorem front_of_scanned {front : List String} {node : String} {behind : List String}
    (split : LineCalls.scannedNodes = front ++ node :: behind) :
    front.length < 40 ∧ front = (List.range front.length).map Devices.nodePath ∧
      node = Devices.nodePath front.length ∧
      front ++ [node] = (List.range (front.length + 1)).map Devices.nodePath := by
  rw [LineCalls.scannedNodes, Devices.scannedNodes] at split
  have count : front.length < 40 := by
    have lengths := congrArg List.length split
    rw [List.length_map, List.length_range, List.length_append, List.length_cons] at lengths
    omega
  have frontEq : front = (List.range front.length).map Devices.nodePath := by
    have taken := congrArg (List.take front.length) split
    rw [List.take_left, ← List.map_take, List.take_range,
      Nat.min_eq_left (Nat.le_of_lt count)] at taken
    exact taken.symm
  have nodeEq : node = Devices.nodePath front.length := by
    have found := congrArg (fun nodes => nodes[front.length]?) split
    simpa [count, eq_comm] using found
  refine ⟨count, frontEq, nodeEq, ?_⟩
  rw [List.range_succ, List.map_append, ← frontEq, List.map_singleton, ← nodeEq]

/-- A path that cannot be reached is looked for among the input devices. -/
theorem opening_of_unreachable (supported : rate ∈ supportedRates)
    (opened : calls.openTerminal path rate access world =
      (.error (.unreachable failure), between)) :
    Opening calls release client world path rate access
      (Client.opened calls client world path rate access)
      (openPortWith calls release client world path rate access) := by
  have reaches := @LineCalls.reaches_openTerminal _ _ calls path rate access world
  rw [opened] at reaches
  obtain ⟨tried, outcome, later, course, run, noted⟩ :=
    tried_tryEach (calls.openNamed path) () LineCalls.scannedNodes between
  have listedTerminal := @LineCalls.openTerminal_listing _ _ calls path rate access world []
  rw [opened] at listedTerminal
  have listedScan := noted [path]
  rw [← LineCalls.openNamed_listing] at listedScan
  simp only [Client.opened, openPortWith, checkRate_of_mem supported, LineCalls.openLine, opened,
    listedTerminal, LineCalls.findInputDevice, run, listedScan, List.nil_append]
  generalize scanned : LineCalls.scannedNodes = nodes at course
  cases course with
  | @reached passed node before _ position untried failing success =>
      obtain ⟨count, frontEq, rfl, upTo⟩ := front_of_scanned scanned
      have goesBy := LineCalls.openNamed_eq_ok_iff.mp success
      dsimp only
      rw [upTo]
      exact .inputDevice supported reaches count frontEq failing goesBy
  | @exhausted passed _ failing =>
      dsimp only
      rw [← scanned]
      exact .nobody supported reaches scanned.symm failing

theorem opening (calls : LineCalls World File) (release : Client → World → World)
    (client : Client) (world : World) (path : String) (rate : UInt32) (access : Access) :
    Opening calls release client world path rate access
      (opened calls client world path rate access)
      (openPortWith calls release client world path rate access) := by
  by_cases supported : rate ∈ supportedRates
  · have reaches := @LineCalls.reaches_openTerminal _ _ calls path rate access world
    have listedTerminal :=
      @LineCalls.openTerminal_listing _ _ calls path rate access world []
    cases attempt : calls.openTerminal path rate access world with
    | mk result later =>
        rw [attempt] at reaches listedTerminal
        cases result with
        | ok =>
            simp only [opened, openPortWith, checkRate_of_mem supported, LineCalls.openLine,
              attempt, listedTerminal]
            exact .terminal supported reaches
        | error obstacle =>
            cases obstacle with
            | settings stage failure =>
                simp only [opened, openPortWith, checkRate_of_mem supported,
                  LineCalls.openLine, attempt, listedTerminal]
                exact .unset supported reaches
            | unreachable failure => exact opening_of_unreachable supported attempt
  · simp only [opened, openPortWith, checkRate_of_not_mem supported]
    exact .unsupported supported

/-- An open that fails leaves the client as it was. -/
theorem Opening.failed {paths : List String} {result : Except LinkError Unit × Client × World}
    (opening : Opening calls release client world path rate access paths result)
    {error : LinkError} (failed : result.1 = .error error) : result.2.1 = client := by
  cases opening with
  | unsupported | unset | nobody => rfl
  | terminal | inputDevice => cases failed

end

end Client

/-- Whatever the system makes of the calls for it, an open of a serial path with an
unsupported rate opens nothing; a path that opens and takes every setting is adopted as a
terminal, and one that opens and does not is an error with the stage that failed, and neither
has a node looked at; for a path that cannot be reached the nodes are looked at in order, and
the first whose device opens and reports the path as its name is adopted, or the failure of
the path itself is reported.  An open that fails leaves the client as it was. -/
theorem path_opens_as_terminal_or_namesake :
    (∀ {World File : Type} (calls : LineCalls World File) (release : Client → World → World)
      (client : Client) (world : World) (path : String) (rate : UInt32) (access : Access),
      Client.Opening calls release client world path rate access
          (Client.opened calls client world path rate access)
          (Client.openPortWith calls release client world path rate access) ∧
        ∀ error, (Client.openPortWith calls release client world path rate access).1 =
            .error error →
          (Client.openPortWith calls release client world path rate access).2.1 = client) ∧
    (∀ {World File : Type} (calls : LineCalls World File) (name node : String)
      (world later : World) (position : Nat),
      calls.openNamed name node world = (.ok position, later) ↔
        calls.GoesBy name node world position later) ∧
    ∀ client devices path rate access,
      Client.openPort client devices path rate access =
        Client.openPortWith Devices.calls Client.release client devices path rate access := by
  refine ⟨?_, fun calls name node world later position => LineCalls.openNamed_eq_ok_iff, ?_⟩
  · intro World File calls release client world path rate access
    have opening := Client.opening calls release client world path rate access
    exact ⟨opening, fun error failed => opening.failed failed⟩
  · exact fun client devices path rate access => rfl

end Serial
end Framelink
