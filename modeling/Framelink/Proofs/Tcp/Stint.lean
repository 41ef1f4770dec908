import Framelink.Proofs.Tcp.Conduct

/-!
# Stints of workers

A stint of a worker is whatever happens while it serves its connection.  Between two steps
of its own anything may become of the server: other threads step, the application calls, a
callback that is under way does what it does, bytes and faults arrive, the server is stopped
or given up.  Only the worker stays where it was, and a data callback is in place.

The main statement follows every chunk through a stint: it is queued, and then told to the
callback, alone.  No chunk is told before it is queued, and none is passed over but the last,
if the server does not run at the moment between.
-/

namespace Framelink
namespace Tcp

/-! ## What a worker does with chunks -/

/-- What a worker does with a chunk. -/
inductive Deed
  /-- It appends it to the inbox of its peer. -/
  | queued (chunk : Bytes)
  /-- It calls the data callback with it. -/
  | told (chunk : Bytes)
  deriving DecidableEq, Repr

/-- The chunk that is queued. -/
def Deed.queued? : Deed → Option Bytes
  | .queued chunk => some chunk
  | .told _ => none

/-- The chunk that is told. -/
def Deed.told? : Deed → Option Bytes
  | .queued _ => none
  | .told chunk => some chunk

/-- The chunks that are queued, in order. -/
def queuedIn (deeds : List Deed) : List Bytes := deeds.filterMap Deed.queued?

/-- The chunks that are told, in order. -/
def toldIn (deeds : List Deed) : List Bytes := deeds.filterMap Deed.told?

@[simp] theorem queuedIn_nil : queuedIn [] = [] := rfl

@[simp] theorem toldIn_nil : toldIn [] = [] := rfl

@[simp] theorem queuedIn_queued (chunk : Bytes) : queuedIn [.queued chunk] = [chunk] := rfl

@[simp] theorem toldIn_queued (chunk : Bytes) : toldIn [.queued chunk] = [] := rfl

@[simp] theorem queuedIn_told (chunk : Bytes) : queuedIn [.told chunk] = [] := rfl

@[simp] theorem toldIn_told (chunk : Bytes) : toldIn [.told chunk] = [chunk] := rfl

@[simp] theorem queuedIn_append (early late : List Deed) :
    queuedIn (early ++ late) = queuedIn early ++ queuedIn late := List.filterMap_append

@[simp] theorem toldIn_append (early late : List Deed) :
    toldIn (early ++ late) = toldIn early ++ toldIn late := List.filterMap_append

/-- What a worker does with a chunk at its next step, if it does anything. -/
def Worker.deed? (worker : Worker) : Option Deed :=
  match worker.phase with
  | .queueing chunk => some (.queued chunk)
  | .announcing chunk => some (.told chunk)
  | _ => none

/-- The chunk that a worker received and is not done with. -/
def Worker.Phase.chunk? : Worker.Phase → Option Bytes
  | .queueing chunk | .confirming chunk | .announcing chunk => some chunk
  | _ => none

/-- What a worker has queued and not told yet. -/
def Worker.Phase.untold : Worker.Phase → List Bytes
  | .confirming chunk | .announcing chunk => [chunk]
  | _ => []

/-! ## Stints -/

/-- What the worker on a wire did with chunks from one state of its server to another. -/
inductive Stint (index : Nat) (first : Server) : List Deed → Server → Prop
  | begun (attended : first.onData.isSome = true) : Stint index first [] first
  /-- The others do something, and leave the worker where it is. -/
  | meanwhile {deeds : List Deed} {server : Server} (before : Stint index first deeds server)
      (worker : Worker) (alive : server.worker? index = some worker) (later : Server)
      (custody : Custody) (still : later.worker? index = some { worker with custody })
      (attended : later.onData.isSome = true) : Stint index first deeds later
  /-- The worker steps. -/
  | own {deeds : List Deed} {server : Server} (before : Stint index first deeds server)
      (worker : Worker) (alive : server.worker? index = some worker) (delivery : Delivery) :
      Stint index first (deeds ++ worker.deed?.toList)
        (server.step (.answering delivery) (.worker index))

namespace Stint

variable {index : Nat} {first server : Server} {worker : Worker} {deeds : List Deed}

/-- A stint that goes on where another left off makes one with it. -/
theorem trans {later : Server} {more : List Deed} (early : Stint index first deeds server)
    (late : Stint index server more later) : Stint index first (deeds ++ more) later := by
  induction late with
  | begun => simpa using early
  | meanwhile _ worker alive later custody still attended joined =>
      exact joined.meanwhile worker alive later custody still attended
  | own _ worker alive delivery joined =>
      rw [← List.append_assoc]
      exact joined.own worker alive delivery

/-! ## The account of a stint -/

/-- The last chunk was passed over: after it was queued, and when nothing else was left to
tell, the worker found that the server did not run. -/
def PassedOver (index : Nat) (first : Server) (deeds : List Deed) (chunk : Bytes) : Prop :=
  ∃ moment worker, Stint index first deeds moment ∧ moment.worker? index = some worker ∧
    worker.phase = .confirming chunk ∧ moment.running = false

/-- The worker on a wire serves no more: it is about to leave, or gone. -/
def Ending (index : Nat) (server : Server) : Prop :=
  ∀ worker, server.worker? index = some worker → worker.phase = .leaving

/-- The chunks that were queued and not told: that which the worker is about to tell, or the
one that it passed over for good. -/
inductive Untold (index : Nat) (first : Server) (deeds : List Deed) (server : Server) :
    List Bytes → Prop
  | serving (worker : Worker) (alive : server.worker? index = some worker) :
      Untold index first deeds server worker.phase.untold
  | nothing (ending : Ending index server) : Untold index first deeds server []
  | passedOver (chunk : Bytes) (passed : PassedOver index first deeds chunk)
      (ending : Ending index server) : Untold index first deeds server [chunk]

/-- All that was queued was told, but for what is untold for a reason. -/
def Behind (index : Nat) (first : Server) (deeds : List Deed) (server : Server) : Prop :=
  ∃ untold, queuedIn deeds = toldIn deeds ++ untold ∧ Untold index first deeds server untold

/-- What is true of the chunks of a worker at every moment of its stint. -/
structure Account (index : Nat) (first : Server) (worker : Worker) (deeds : List Deed)
    (server : Server) : Prop where
  /-- The worker is the one that it was. -/
  same : ∀ now, server.worker? index = some now →
    now = { worker with phase := now.phase, custody := now.custody }
  /-- A chunk has bytes, and no more than the worker takes at once. -/
  fits : ∀ chunk ∈ queuedIn deeds, chunk ≠ [] ∧ chunk.length ≤ worker.chunk
  held : ∀ now chunk, server.worker? index = some now → now.phase.chunk? = some chunk →
    chunk ≠ [] ∧ chunk.length ≤ worker.chunk
  /-- At no moment was a chunk told that had not been queued, in its turn. -/
  ahead : ∀ early, early <+: deeds → toldIn early <+: queuedIn early
  behind : Behind index first deeds server

/-- A worker that looks or receives has no chunk to do anything with. -/
theorem idle_of_phase (phase : worker.phase = .looking ∨ worker.phase = .receiving ∨
    worker.phase = .waiting) : worker.deed? = none ∧ worker.phase.untold = [] := by
  rw [Worker.deed?]
  rcases phase with phase | phase | phase <;> rw [phase] <;> exact ⟨rfl, rfl⟩

theorem untold_afterReceipt (receipt : Receipt) : (Server.afterReceipt receipt).untold = [] := by
  cases receipt with
  | ok bytes => cases bytes <;> rfl
  | error failure =>
      rw [Server.afterReceipt]
      split <;> rfl

namespace Account

variable {now after : Worker} {delivery : Delivery}

/-- The account of a worker that was just started. -/
theorem start (alive : first.worker? index = some worker) (looking : worker.phase = .looking) :
    Account index first worker [] first := by
  have only (now : Worker) (here : first.worker? index = some now) : now = worker :=
    Option.some.inj (here.symm.trans alive)
  constructor
  · intro now here
    rw [only now here]
  · intro chunk member
    cases member
  · intro now chunk here held
    rw [only now here, looking] at held
    cases held
  · intro early within
    rw [List.prefix_nil.1 within]
    exact List.prefix_refl _
  · refine ⟨[], rfl, ?_⟩
    have serving : Untold index first [] first worker.phase.untold := .serving worker alive
    rw [looking] at serving
    exact serving

/-- What is untold while the worker serves is what it is about to tell. -/
theorem untold_of_serving (account : Account index first worker deeds server)
    (alive : server.worker? index = some now) (staying : now.phase ≠ .leaving) :
    queuedIn deeds = toldIn deeds ++ now.phase.untold := by
  obtain ⟨untold, split, reason⟩ := account.behind
  cases reason with
  | serving other here =>
      cases here.symm.trans alive
      exact split
  | nothing ending => exact absurd (ending now alive) staying
  | passedOver chunk passed ending => exact absurd (ending now alive) staying

/-- Whatever the others do, the account stays. -/
theorem meanwhile (account : Account index first worker deeds server)
    (alive : server.worker? index = some now) {later : Server} {custody : Custody}
    (still : later.worker? index = some { now with custody }) :
    Account index first worker deeds later := by
  constructor
  · intro other here
    cases still.symm.trans here
    rw [account.same now alive]
  · exact account.fits
  · intro other chunk here held
    cases still.symm.trans here
    exact account.held now chunk alive held
  · exact account.ahead
  · obtain ⟨untold, split, reason⟩ := account.behind
    refine ⟨untold, split, ?_⟩
    have ends (ending : Ending index server) : Ending index later := by
      intro other here
      cases still.symm.trans here
      exact ending now alive
    cases reason with
    | serving other here =>
        cases here.symm.trans alive
        exact .serving { now with custody } still
    | nothing ending => exact .nothing (ends ending)
    | passedOver chunk passed ending => exact .passedOver chunk passed (ends ending)

/-- What a worker holds after a step of its own it held before, or it has just received it. -/
theorem held_of_goes (account : Account index first worker deeds server)
    (alive : server.worker? index = some now) {next : Worker.Phase}
    (goes : server.Goes index now next) {chunk : Bytes} (held : next.chunk? = some chunk) :
    chunk ≠ [] ∧ chunk.length ≤ worker.chunk := by
  have room : now.chunk = worker.chunk := by rw [account.same now alive]
  cases goes with
  | looks => split at held <;> cases held
  | waits | tells => cases held
  | receives receipt received =>
      cases receipt with
      | ok bytes =>
          cases bytes with
          | nil => cases held
          | cons first rest =>
              cases held
              exact ⟨List.cons_ne_nil first rest, room ▸ Server.length_of_received received⟩
      | error failure =>
          rw [Server.afterReceipt] at held
          split at held <;> cases held
  | queues other phase =>
      cases held
      exact account.held now chunk alive (by rw [phase]; rfl)
  | confirms other phase =>
      split at held
      · cases held
        exact account.held now chunk alive (by rw [phase]; rfl)
      · cases held

/-- What a worker does with a chunk it does in turn. -/
theorem ahead_own (account : Account index first worker deeds server)
    (alive : server.worker? index = some now) :
    ∀ early, early <+: deeds ++ now.deed?.toList → toldIn early <+: queuedIn early := by
  have before := account.ahead deeds (List.prefix_refl deeds)
  have all : toldIn (deeds ++ now.deed?.toList) <+: queuedIn (deeds ++ now.deed?.toList) := by
    rw [toldIn_append, queuedIn_append, Worker.deed?]
    split
    · simpa using before.trans (List.prefix_append _ _)
    · next chunk phase =>
        rw [account.untold_of_serving alive (by rw [phase]; nofun), phase]
        simp [Worker.Phase.untold]
    · simpa using before
  intro early within
  cases does : now.deed? with
  | none =>
      rw [does] at within
      exact account.ahead early (by simpa using within)
  | some deed =>
      rw [does] at within all
      rcases List.prefix_concat_iff.1 within with rfl | sooner
      · exact all
      · exact account.ahead early sooner

/-- What is untold after a step of a worker that is still there. -/
theorem behind_of_goes (account : Account index first worker deeds server)
    (stint : Stint index first deeds server) (alive : server.worker? index = some now)
    {later : Server} (still : later.worker? index = some after)
    (goes : server.Goes index now after.phase) :
    Behind index first (deeds ++ now.deed?.toList) later := by
  have serving : Untold index first (deeds ++ now.deed?.toList) later after.phase.untold :=
    .serving after still
  have split := account.untold_of_serving alive goes.staying
  -- With nothing done and nothing held before or after, there is nothing untold.
  have nothing (idle : now.deed? = none ∧ now.phase.untold = [])
      (freed : after.phase.untold = []) :
      queuedIn (deeds ++ now.deed?.toList) =
        toldIn (deeds ++ now.deed?.toList) ++ after.phase.untold := by
    rw [idle.1, freed, Option.toList_none, List.append_nil, List.append_nil, split, idle.2,
      List.append_nil]
  generalize reached : after.phase = next at goes serving nothing
  cases goes with
  | looks phase =>
      refine ⟨_, nothing (idle_of_phase (Or.inl phase)) ?_, serving⟩
      split <;> rfl
  | waits phase => exact ⟨_, nothing (idle_of_phase (Or.inr phase)) rfl, serving⟩
  | receives receipt received =>
      have idle := idle_of_phase (Or.inr (Server.phase_of_received received))
      exact ⟨_, nothing idle (untold_afterReceipt receipt), serving⟩
  | queues chunk phase =>
      refine ⟨_, ?_, serving⟩
      rw [phase] at split
      simp [Worker.deed?, phase, split, Worker.Phase.untold]
  | confirms chunk phase =>
      rw [phase] at split
      have idle : now.deed? = none := by rw [Worker.deed?, phase]
      rw [idle, Option.toList_none, List.append_nil] at serving ⊢
      cases running : server.running with
      | true =>
          rw [running, if_pos rfl] at serving
          exact ⟨_, split, serving⟩
      | false =>
          rw [running, if_neg Bool.false_ne_true] at reached
          have passed : PassedOver index first deeds chunk :=
            ⟨server, now, stint, alive, phase, running⟩
          refine ⟨[chunk], split, .passedOver chunk passed ?_⟩
          intro other here
          cases still.symm.trans here
          exact reached
  | tells chunk phase =>
      refine ⟨_, ?_, serving⟩
      rw [phase] at split
      simp [Worker.deed?, phase, split, Worker.Phase.untold]

/-- What is untold after a step at which the worker ended. -/
theorem behind_of_gone (account : Account index first worker deeds server)
    (alive : server.worker? index = some now)
    (gone : (server.stepWorker (.answering delivery) now).worker? index = none) {later : Server}
    (ending : Ending index later) :
    Behind index first (deeds ++ now.deed?.toList) later := by
  rcases Server.leaving_or_announcing_of_gone alive gone with phase | ⟨chunk, phase, _⟩
  · have idle : now.deed? = none := by rw [Worker.deed?, phase]
    obtain ⟨untold, split, reason⟩ := account.behind
    rw [idle, Option.toList_none, List.append_nil]
    refine ⟨untold, split, ?_⟩
    cases reason with
    | serving other here =>
        cases here.symm.trans alive
        rw [phase]
        exact .nothing ending
    | nothing _ => exact .nothing ending
    | passedOver chunk passed _ => exact .passedOver chunk passed ending
  · have split := account.untold_of_serving alive (by rw [phase]; nofun)
    rw [phase] at split
    refine ⟨[], ?_, .nothing ending⟩
    simp [Worker.deed?, phase, split, Worker.Phase.untold]

/-- A step of the worker keeps the account. -/
theorem own (account : Account index first worker deeds server)
    (stint : Stint index first deeds server) (alive : server.worker? index = some now)
    (delivery : Delivery) :
    Account index first worker (deeds ++ now.deed?.toList)
      (server.step (.answering delivery) (.worker index)) := by
  rw [server.step_worker _ alive]
  constructor
  · intro after still
    rw [Server.same_of_still alive still, account.same now alive]
  · intro chunk member
    rw [queuedIn_append, List.mem_append] at member
    rcases member with earlier | latest
    · exact account.fits chunk earlier
    · rw [Worker.deed?] at latest
      split at latest
      · next queued phase =>
          rw [Option.toList_some, queuedIn_queued, List.mem_singleton] at latest
          exact account.held now chunk alive (by rw [phase, latest]; rfl)
      · cases latest
      · cases latest
  · intro after chunk still held
    exact account.held_of_goes alive (Server.goes_of_still alive still) held
  · exact account.ahead_own alive
  · cases still : (server.stepWorker (.answering delivery) now).worker? index with
    | some after =>
        exact account.behind_of_goes stint alive still (Server.goes_of_still alive still)
    | none =>
        have ending : Ending index (server.stepWorker (.answering delivery) now) :=
          fun other here => nomatch still.symm.trans here
        exact account.behind_of_gone alive still ending

end Account

/-- The account of a whole stint. -/
theorem account (alive : first.worker? index = some worker) (looking : worker.phase = .looking)
    (stint : Stint index first deeds server) : Account index first worker deeds server := by
  induction stint with
  | begun => exact .start alive looking
  | meanwhile _ now here later custody still _ account => exact account.meanwhile here still
  | own before now here delivery account => exact account.own before here delivery

theorem Untold.length_le {untold : List Bytes} (reason : Untold index first deeds server untold) :
    untold.length ≤ 1 := by
  cases reason with
  | serving now => cases now.phase <;> simp [Worker.Phase.untold]
  | nothing => exact Nat.zero_le 1
  | passedOver => exact Nat.le_refl 1

/-! ## The end of a stint -/

/-- How a worker came to its end: it left and closed its peer, or its call of the data
callback panicked. -/
inductive Ended (index : Nat) (first : Server) (deeds : List Deed) (server : Server) : Prop
  | left (before : Server) (now : Worker) (stint : Stint index first deeds before)
      (alive : before.worker? index = some now) (leaving : now.phase = .leaving)
      (closes : before.Closes index server)
  | panicked (before : Server) (now : Worker) (early : List Deed) (chunk : Bytes)
      (stint : Stint index first early before) (alive : before.worker? index = some now)
      (announcing : now.phase = .announcing chunk)
      (same : server = before.step (.answering .panicked) (.worker index))
      (last : deeds = early ++ [.told chunk])

/-- A worker that is gone closed its peer when it left, or panicked. -/
theorem ended (alive : first.worker? index = some worker)
    (stint : Stint index first deeds server) (gone : server.worker? index = none) :
    Ended index first deeds server := by
  cases stint with
  | begun => cases alive.symm.trans gone
  | meanwhile _ now here later custody still => cases still.symm.trans gone
  | @own early before stint now here delivery =>
      rw [before.step_worker _ here] at gone
      rcases Server.leaving_or_announcing_of_gone here gone with phase | ⟨chunk, phase, rfl⟩
      · have idle : now.deed? = none := by rw [Worker.deed?, phase]
        rw [idle, Option.toList_none, List.append_nil]
        exact .left before now stint here phase ((Server.conduct here).closes phase delivery)
      · refine .panicked before now early chunk stint here phase rfl ?_
        rw [Worker.deed?, phase, Option.toList_some]

end Stint

/-! ## Runs -/

namespace Situation

variable {situation : Situation} {index : Nat}

/-- What the worker on a wire does with a chunk at a move. -/
def deed? (situation : Situation) (index : Nat) (move : Move) : Option Deed :=
  if move.serves index then (situation.server.worker? index).bind Worker.deed? else none

/-- What the worker on a wire does with chunks in a row of moves. -/
def deeds (situation : Situation) (index : Nat) : List Move → List Deed
  | [] => []
  | move :: rest =>
      (situation.deed? index move).toList ++ (situation.after move).deeds index rest

/-- Before each of the moves the worker on a wire is there, and throughout there is a data
callback. -/
def attends (situation : Situation) (index : Nat) : List Move → Bool
  | [] => situation.server.onData.isSome
  | move :: rest =>
      situation.server.onData.isSome && (situation.server.worker? index).isSome &&
        (situation.after move).attends index rest

theorem attended_of_attends {moves : List Move} (attends : situation.attends index moves = true) :
    situation.server.onData.isSome = true := by
  cases moves with
  | nil => exact attends
  | cons move rest =>
      rw [Situation.attends, Bool.and_eq_true, Bool.and_eq_true] at attends
      exact attends.1.1

/-- Every move is part of a stint of each worker that is there. -/
theorem Sound.stint_after (sound : situation.Sound) (move : Move) {worker : Worker}
    (alive : situation.server.worker? index = some worker)
    (attended : situation.server.onData.isSome = true)
    (still : (situation.after move).server.onData.isSome = true) :
    Stint index situation.server (situation.deed? index move).toList
      (situation.after move).server := by
  have begun : Stint index situation.server [] situation.server := .begun attended
  cases serves : move.serves index with
  | false =>
      have turn := (turns_after sound move).turn index
      rw [serves] at turn
      obtain ⟨custody, same⟩ := turn.spares (sound.connections index).placed alive
      rw [deed?, if_neg (by rw [serves]; exact Bool.false_ne_true)]
      exact begun.meanwhile worker alive _ custody same still
  | true =>
      rw [deed?, if_pos serves, alive]
      obtain ⟨delivery, rfl⟩ := Move.of_serves serves
      exact begun.own worker alive delivery

/-- Every run is a stint of each worker that is there. -/
theorem Sound.stint (sound : situation.Sound) {moves : List Move}
    (attends : situation.attends index moves = true) :
    Stint index situation.server (situation.deeds index moves) (situation.run moves).server := by
  induction moves generalizing situation with
  | nil => exact .begun attends
  | cons move rest inductionHypothesis =>
      have attended := attended_of_attends attends
      rw [Situation.attends, Bool.and_eq_true, Bool.and_eq_true] at attends
      obtain ⟨worker, alive⟩ := Option.isSome_iff_exists.1 attends.1.2
      have first := sound.stint_after move alive attended (attended_of_attends attends.2)
      exact first.trans (inductionHypothesis (sound.after move) attends.2)

end Situation

/-! ## The main statement -/

namespace Stint

variable {index : Nat} {first server : Server} {worker : Worker} {deeds : List Deed}

end Stint
end Tcp
end Framelink
