import Framelink.Link.Script
import Framelink.Proofs.Frame

/-!
# Frames over a stream

A stream carries bytes in order but not in the pieces in which they were sent.  A
view of a channel says which bytes are still under way and how many receives will
yet give nothing; a channel delivers if each receive takes a piece off the front of
those bytes, of any length that fits, or only delays.  Interruptions delay every
read, and so do receives of no bytes where those mean no more than silence.

A read that carries on until its buffer is full takes exactly as many bytes off the
stream as the buffer has room for, however they arrive.  So frames that were written
one after the other are read back one by one.
-/

namespace Framelink

/-! ## Streams under way -/

/-- What can be said of a channel that carries a stream. -/
structure StreamView (Channel : Type) where
  /-- The states in which the channel carries a stream. -/
  Steady : Channel → Prop
  /-- The bytes under way, the next one first. -/
  pending : Channel → Bytes
  /-- The most receives that will still give nothing. -/
  delays : Channel → Nat

namespace StreamView

variable {Channel : Type} {view : StreamView Channel} {silence : Silence}
  {receive : Nat → Channel → Receipt × Channel}

/-- How a receive may go while bytes are under way. -/
inductive Arrival (view : StreamView Channel) (silence : Silence) (room : Nat)
    (before : Channel) : Receipt → Channel → Prop
  /-- Some bytes arrive, as many as there is room for at most. -/
  | piece {bytes : Bytes} {after : Channel} :
      bytes ≠ [] → bytes.length ≤ room →
      view.pending before = bytes ++ view.pending after →
      view.delays after ≤ view.delays before → view.Steady after →
      Arrival view silence room before (.ok bytes) after
  /-- The receive is interrupted. -/
  | interruption {failure : Failure} {after : Channel} :
      failure.isInterrupted = true → view.pending after = view.pending before →
      view.delays after < view.delays before → view.Steady after →
      Arrival view silence room before (.error failure) after
  /-- Nothing arrives, and that does not end the stream. -/
  | quiet {after : Channel} :
      silence = .quiet → view.pending after = view.pending before →
      view.delays after < view.delays before → view.Steady after →
      Arrival view silence room before (.ok []) after

/-- Every receive with room takes a piece of what is under way, or delays. -/
def Delivers (view : StreamView Channel) (silence : Silence)
    (receive : Nat → Channel → Receipt × Channel) : Prop :=
  ∀ room channel, view.Steady channel → 0 < room → view.pending channel ≠ [] →
    view.Arrival silence room channel (receive room channel).1 (receive room channel).2

/-- A channel carries exactly these bytes. -/
def Carries (view : StreamView Channel) (channel : Channel) (bytes : Bytes) : Prop :=
  view.Steady channel ∧ view.pending channel = bytes

end StreamView

/-! ## One turn of a read until the buffer is full -/

namespace ReadPolicy

variable {silence : Silence} {size : Nat} {got bytes : Bytes}

theorem turn_piece_waiting
    (present : bytes ≠ [])
    (short : (got ++ bytes).length < size) :
    (ReadPolicy.mk true silence).turn size got (.ok bytes) = ⟨got ++ bytes, .waiting⟩ := by
  have nonempty : bytes.isEmpty = false := by simpa using present
  simp only [turn, nonempty, Bool.false_and, Bool.true_and, short, decide_true]
  rfl

theorem turn_piece_finished
    (present : bytes ≠ [])
    (full : (got ++ bytes).length = size) :
    (ReadPolicy.mk true silence).turn size got (.ok bytes) = ⟨got ++ bytes, .finished⟩ := by
  have nonempty : bytes.isEmpty = false := by simpa using present
  simp [turn, nonempty, full]

theorem turn_quiet (short : got.length < size) :
    (ReadPolicy.mk true .quiet).turn size got (.ok []) = ⟨got, .waiting⟩ := by
  simp [turn, short]

theorem turn_interrupted (policy : ReadPolicy) {failure : Failure}
    (interrupted : failure.isInterrupted = true) :
    policy.turn size got (.error failure) = ⟨got, .waiting⟩ := by
  simp [turn, interrupted]

end ReadPolicy

namespace StreamView

variable {Channel : Type} {view : StreamView Channel} {silence : Silence}
  {receive : Nat → Channel → Receipt × Channel}

/-- Taking turns with a channel that delivers fills the buffer with the bytes that
are under way, and leaves all others under way. -/
theorem Delivers.loop_fills
    (delivers : view.Delivers silence receive)
    (got : Bytes) {size patience : Nat} {wanted rest : Bytes} {channel : Channel}
    (steady : view.Steady channel)
    (carried : view.pending channel = wanted ++ rest)
    (present : wanted ≠ [])
    (room : got.length + wanted.length = size)
    (patient : wanted.length + view.delays channel ≤ patience) :
    ∃ after,
      (ReadPolicy.mk true silence).loop receive size patience got channel =
        (⟨got ++ wanted, .finished⟩, after) ∧
      view.Steady after ∧ view.pending after = rest ∧
      view.delays after ≤ view.delays channel := by
  -- Each receive uses up a byte or a delay, so patience is what the induction is on.
  induction patience generalizing got wanted channel with
  | zero =>
      have positive := List.length_pos_iff.mpr present
      omega
  | succ patience inductionHypothesis =>
      have positive := List.length_pos_iff.mpr present
      have free : size - got.length = wanted.length := by omega
      have underWay : view.pending channel ≠ [] := by
        rw [carried]
        exact List.append_ne_nil_of_left_ne_nil present rest
      have arrival := delivers wanted.length channel steady positive underWay
      rw [ReadPolicy.loop, free]
      generalize receive wanted.length channel = answer at arrival
      obtain ⟨receipt, after⟩ := answer
      cases arrival with
      | @piece bytes after some fits front sooner steadyAfter =>
          rw [carried] at front
          obtain ⟨left, rfl⟩ : bytes <+: wanted :=
            List.prefix_of_prefix_length_le ⟨_, front.symm⟩ (List.prefix_append wanted rest) fits
          have underWayAfter : view.pending after = left ++ rest := by
            rw [List.append_assoc] at front
            exact (List.append_cancel_left front).symm
          have piecePositive := List.length_pos_iff.mpr some
          rw [List.length_append] at room patient
          by_cases last : left = []
          · subst last
            have full : (got ++ bytes).length = size := by
              rw [List.length_append]
              simpa using room
            refine ⟨after, ?_, steadyAfter, by simpa using underWayAfter, sooner⟩
            simp only [ReadPolicy.turn_piece_finished some full, List.append_nil]
          · have leftPositive := List.length_pos_iff.mpr last
            have short : (got ++ bytes).length < size := by
              rw [List.length_append]
              omega
            obtain ⟨final, looped, steadyFinal, pendingFinal, delaysFinal⟩ :=
              inductionHypothesis (got ++ bytes) steadyAfter underWayAfter last
                (by rw [List.length_append]; omega) (by omega)
            refine ⟨final, ?_, steadyFinal, pendingFinal, Nat.le_trans delaysFinal sooner⟩
            simp only [ReadPolicy.turn_piece_waiting some short, looped, List.append_assoc]
      | @interruption failure after interrupted same fewer steadyAfter =>
          obtain ⟨final, looped, steadyFinal, pendingFinal, delaysFinal⟩ :=
            inductionHypothesis got steadyAfter (same.trans carried) present room (by omega)
          refine ⟨final, ?_, steadyFinal, pendingFinal, by omega⟩
          simp only [ReadPolicy.turn_interrupted _ interrupted, looped]
      | @quiet after silent same fewer steadyAfter =>
          subst silent
          obtain ⟨final, looped, steadyFinal, pendingFinal, delaysFinal⟩ :=
            inductionHypothesis got steadyAfter (same.trans carried) present room (by omega)
          refine ⟨final, ?_, steadyFinal, pendingFinal, by omega⟩
          simp only [ReadPolicy.turn_quiet (show got.length < size by omega), looped]

end StreamView

/-! ## Reading and writing frames in a row -/

/-- What can be said of a channel that bytes are sent on. -/
structure SendView (Channel : Type) where
  /-- The states in which the channel takes whatever is sent. -/
  Ready : Channel → Prop
  /-- The bytes that were sent, the first one first. -/
  sent : Channel → Bytes

/-- Every send is taken whole and put behind what was sent before. -/
def SendView.TakesWhole {Channel : Type} (view : SendView Channel)
    (send : Bytes → Channel → Except Failure Nat × Channel) : Prop :=
  ∀ bytes channel, view.Ready channel →
    (send bytes channel).1 = .ok bytes.length ∧
      view.sent (send bytes channel).2 = view.sent channel ++ bytes ∧
      view.Ready (send bytes channel).2

/-- The frames of some payloads, run together. -/
def Frame.stream (payloads : List Bytes) : Bytes :=
  payloads.flatMap (Frame.append Checksum.shared)

@[simp] theorem Frame.stream_nil : Frame.stream [] = [] := rfl

@[simp] theorem Frame.stream_cons (payload : Bytes) (payloads : List Bytes) :
    Frame.stream (payload :: payloads) =
      Frame.append Checksum.shared payload ++ Frame.stream payloads := rfl

@[simp] theorem Frame.stream_append (front back : List Bytes) :
    Frame.stream (front ++ back) = Frame.stream front ++ Frame.stream back := by
  simp [Frame.stream]

namespace Link

variable {Handle World : Type}

/-- Write payloads with their trailers, one after the other. -/
def writeFrames (send : Bytes → Handle × World → Except Failure Nat × (Handle × World)) :
    List Bytes → Link Handle → World → List (Except LinkError Nat) × Link Handle × World
  | [], link, world => ([], link, world)
  | payload :: payloads, link, world =>
      let (result, link, world) := link.write world send payload true
      let (results, link, world) := writeFrames send payloads link world
      (result :: results, link, world)

/-- Read frames one after the other, each into a buffer with room for a payload of
a given length and its trailer. -/
def readFrames (receive : Nat → Handle × World → Receipt × (Handle × World))
    (silence : Silence) (patience : Nat) :
    List Nat → Link Handle → World → List Reading × Link Handle × World
  | [], link, world => ([], link, world)
  | length :: lengths, link, world =>
      let (reading, link, world) :=
        link.read world receive ⟨true, silence⟩ true (length + Frame.trailerLength) patience
      let (readings, link, world) := readFrames receive silence patience lengths link world
      (reading :: readings, link, world)

/-- One write on a link whose sends are taken whole sends the frame. -/
theorem write_sends_frame
    {view : SendView (Handle × World)}
    {send : Bytes → Handle × World → Except Failure Nat × (Handle × World)}
    (whole : view.TakesWhole send)
    {link : Link Handle} {handle : Handle} {world : World}
    (opened : link.handle = some handle)
    (ready : view.Ready (handle, world))
    (payload : Bytes) :
    ∃ handle' world',
      link.write world send payload true =
        (.ok (payload.length + Frame.trailerLength),
          { link with handle := some handle' }, world') ∧
      view.sent (handle', world') =
        view.sent (handle, world) ++ Frame.append Checksum.shared payload ∧
      view.Ready (handle', world') := by
  obtain ⟨count, sent, readyAfter⟩ :=
    whole (Frame.append Checksum.shared payload) (handle, world) ready
  refine ⟨_, _, ?_, sent, readyAfter⟩
  rw [write, withHandle, opened]
  simp only [outgoing, if_true, count, Frame.length_append]
  rfl

/-- Frames written on a link whose sends are taken whole go out as their stream. -/
theorem writeFrames_sends_stream
    {view : SendView (Handle × World)}
    {send : Bytes → Handle × World → Except Failure Nat × (Handle × World)}
    (whole : view.TakesWhole send)
    (payloads : List Bytes)
    {link : Link Handle} {handle : Handle} {world : World}
    (opened : link.handle = some handle)
    (ready : view.Ready (handle, world)) :
    ∃ handle' world',
      writeFrames send payloads link world =
        (payloads.map fun payload => .ok (payload.length + Frame.trailerLength),
          { link with handle := some handle' }, world') ∧
      view.sent (handle', world') = view.sent (handle, world) ++ Frame.stream payloads := by
  induction payloads generalizing link handle world with
  | nil =>
      refine ⟨handle, world, ?_, by simp⟩
      rw [← opened]
      rfl
  | cons payload payloads inductionHypothesis =>
      obtain ⟨handleAfter, worldAfter, written, sent, readyAfter⟩ :=
        write_sends_frame whole opened ready payload
      obtain ⟨final, worldFinal, others, sentFinal⟩ :=
        @inductionHypothesis { link with handle := some handleAfter } _ _ rfl readyAfter
      refine ⟨final, worldFinal, ?_, ?_⟩
      · simp only [writeFrames, written, others, List.map_cons]
      · rw [sentFinal, sent, List.append_assoc, Frame.stream_cons]

/-- A read that carries on until its buffer is full takes the bytes under way that
the buffer has room for. -/
theorem read_takes_front
    {view : StreamView (Handle × World)} {silence : Silence}
    {receive : Nat → Handle × World → Receipt × (Handle × World)}
    (delivers : view.Delivers silence receive)
    {link : Link Handle} {handle : Handle} {world : World}
    (opened : link.handle = some handle)
    {wanted rest : Bytes} {patience : Nat}
    (carried : view.Carries (handle, world) (wanted ++ rest))
    (present : wanted ≠ [])
    (patient : wanted.length + view.delays (handle, world) ≤ patience)
    (checked : Bool) :
    ∃ handle' world',
      link.read world receive ⟨true, silence⟩ checked wanted.length patience =
        (⟨wanted, readResult checked ⟨wanted, .finished⟩⟩,
          { link with handle := some handle' }, world') ∧
      view.Carries (handle', world') rest ∧
      view.delays (handle', world') ≤ view.delays (handle, world) := by
  obtain ⟨steady, underWay⟩ := carried
  obtain ⟨⟨handle', world'⟩, looped, steady', pending', fewer⟩ :=
    delivers.loop_fills [] steady underWay present (Nat.zero_add wanted.length) patient
  refine ⟨handle', world', ?_, ⟨steady', pending'⟩, fewer⟩
  have positive : wanted.length ≠ 0 := by simpa using present
  rw [read, opened]
  simp only [ReadPolicy.run, positive, if_false, looped, List.nil_append]

/-- A frame at the front of what is under way is read and accepted. -/
theorem read_accepts_frame
    {view : StreamView (Handle × World)} {silence : Silence}
    {receive : Nat → Handle × World → Receipt × (Handle × World)}
    (delivers : view.Delivers silence receive)
    {link : Link Handle} {handle : Handle} {world : World}
    (opened : link.handle = some handle)
    {payload rest : Bytes} {patience : Nat}
    (carried : view.Carries (handle, world) (Frame.append Checksum.shared payload ++ rest))
    (patient :
      payload.length + Frame.trailerLength + view.delays (handle, world) ≤ patience) :
    ∃ handle' world',
      link.read world receive ⟨true, silence⟩ true (payload.length + Frame.trailerLength)
          patience =
        (⟨Frame.append Checksum.shared payload,
            some (.ok (payload.length + Frame.trailerLength))⟩,
          { link with handle := some handle' }, world') ∧
      view.Carries (handle', world') rest ∧
      view.delays (handle', world') ≤ view.delays (handle, world) := by
  have length := Frame.length_append Checksum.shared payload
  have present : Frame.append Checksum.shared payload ≠ [] := by
    apply List.ne_nil_of_length_pos
    rw [length, Frame.trailerLength]
    omega
  rw [← length] at patient
  obtain ⟨handle', world', taken, carries, fewer⟩ :=
    read_takes_front delivers opened carried present patient true
  refine ⟨handle', world', ?_, carries, fewer⟩
  rw [← length, taken]
  simp only [readResult, Frame.verify_append, if_true]
  rfl

/-- The frames at the front of what is under way are read one by one, and nothing
behind them is touched. -/
theorem readFrames_takes_stream
    {view : StreamView (Handle × World)} {silence : Silence}
    {receive : Nat → Handle × World → Receipt × (Handle × World)}
    (delivers : view.Delivers silence receive)
    (payloads : List Bytes) {later : Bytes} {patience : Nat}
    {link : Link Handle} {handle : Handle} {world : World}
    (opened : link.handle = some handle)
    (carried : view.Carries (handle, world) (Frame.stream payloads ++ later))
    (patient : ∀ payload ∈ payloads,
      payload.length + Frame.trailerLength + view.delays (handle, world) ≤ patience) :
    ∃ handle' world',
      readFrames receive silence patience (payloads.map List.length) link world =
        (payloads.map fun payload =>
            ⟨Frame.append Checksum.shared payload,
              some (.ok (payload.length + Frame.trailerLength))⟩,
          { link with handle := some handle' }, world') ∧
      view.Carries (handle', world') later := by
  induction payloads generalizing link handle world with
  | nil =>
      refine ⟨handle, world, ?_, by simpa using carried⟩
      rw [← opened]
      rfl
  | cons payload payloads inductionHypothesis =>
      rw [Frame.stream_cons, List.append_assoc] at carried
      obtain ⟨handleAfter, worldAfter, first, carriedAfter, fewer⟩ :=
        read_accepts_frame delivers opened carried (patient payload List.mem_cons_self)
      obtain ⟨final, worldFinal, others, carriedFinal⟩ :=
        @inductionHypothesis { link with handle := some handleAfter } _ _ rfl carriedAfter
          (fun other present => by
            have bound := patient other (List.mem_cons_of_mem payload present)
            omega)
      refine ⟨final, worldFinal, ?_, carriedFinal⟩
      simp only [List.map_cons, readFrames, first, others]

end Link

/-! ## Scripts deliver -/

namespace Script

/-- Whether a receipt brings no bytes. -/
def isDelay : Receipt → Bool
  | .ok bytes => bytes.isEmpty
  | .error _ => true

/-- Whether a receipt may stand anywhere in a stream. -/
def isHarmless (silence : Silence) : Receipt → Bool
  | .ok bytes => !bytes.isEmpty || silence == .quiet
  | .error failure => failure.isInterrupted

/-- The bytes of a receipt. -/
def bytesOf : Receipt → Bytes
  | .ok bytes => bytes
  | .error _ => []

/-- A script as a stream: its pieces may be cut anywhere, with interruptions and,
where it is no end of the stream, silence between them. -/
def streamView (silence : Silence) : StreamView (Script × Unit) where
  Steady channel :=
    channel.1.surplus = .kept ∧ channel.1.receipts.all (isHarmless silence) = true
  pending channel := channel.1.receipts.flatMap bytesOf
  delays channel := channel.1.receipts.countP isDelay

private theorem countP_isDelay_lt (receipt : Receipt) (rest : List Receipt)
    (delay : isDelay receipt = true) :
    rest.countP isDelay < (receipt :: rest).countP isDelay := by
  rw [List.countP_cons_of_pos delay]
  omega

/-- A receive from such a script takes the first receipt, or as much of it as fits. -/
theorem streamView_delivers (silence : Silence) :
    (streamView silence).Delivers silence Link.receiveScript := by
  rintro room ⟨⟨receipts, surplus⟩, ⟨⟩⟩ ⟨kept, harmless⟩ positive underWay
  change surplus = .kept at kept
  subst kept
  cases receipts with
  | nil => exact absurd rfl underWay
  | cons receipt rest =>
      simp only [List.all_cons, Bool.and_eq_true] at harmless
      obtain ⟨harmlessFirst, harmlessRest⟩ := harmless
      cases receipt with
      | error failure =>
          exact .interruption harmlessFirst rfl (countP_isDelay_lt (.error failure) rest rfl)
            ⟨rfl, harmlessRest⟩
      | ok bytes =>
          by_cases empty : bytes = []
          · subst empty
            have silent : silence = .quiet := by simpa [isHarmless] using harmlessFirst
            have received : Link.receiveScript room (⟨.ok [] :: rest, .kept⟩, ()) =
                (.ok [], ⟨rest, .kept⟩, ()) := by
              simp [Link.receiveScript, receive]
            rw [received]
            exact .quiet silent rfl (countP_isDelay_lt (.ok []) rest rfl) ⟨rfl, harmlessRest⟩
          · have some : bytes.take room ≠ [] := by
              simp only [Ne, List.take_eq_nil_iff, empty, or_false]
              omega
            have fits : (bytes.take room).length ≤ room := List.length_take_le room bytes
            by_cases whole : bytes.drop room = []
            · have received : Link.receiveScript room (⟨.ok bytes :: rest, .kept⟩, ()) =
                  (.ok (bytes.take room), ⟨rest, .kept⟩, ()) := by
                simp [Link.receiveScript, receive, whole]
              rw [received]
              refine .piece some fits ?_ ?_ ⟨rfl, harmlessRest⟩
              · have all := List.take_append_drop room bytes
                rw [whole, List.append_nil] at all
                rw [all]
                rfl
              · exact (List.sublist_cons_self _ rest).countP_le
            · have received : Link.receiveScript room (⟨.ok bytes :: rest, .kept⟩, ()) =
                  (.ok (bytes.take room), ⟨.ok (bytes.drop room) :: rest, .kept⟩, ()) := by
                simp [Link.receiveScript, receive, whole]
              rw [received]
              refine .piece some fits ?_ ?_ ⟨rfl, ?_⟩
              · change bytes ++ rest.flatMap bytesOf =
                  bytes.take room ++ (bytes.drop room ++ rest.flatMap bytesOf)
                rw [← List.append_assoc, List.take_append_drop]
              · change (Except.ok (bytes.drop room) :: rest : List Receipt).countP isDelay ≤
                  (Except.ok bytes :: rest : List Receipt).countP isDelay
                have left : isDelay (.ok (bytes.drop room)) = false := by
                  simpa [isDelay] using whole
                rw [List.countP_cons_of_neg (by simp [left])]
                exact (List.sublist_cons_self _ rest).countP_le
              · rw [List.all_cons, harmlessRest, Bool.and_true]
                simp [isHarmless, whole]

end Script
/-! ## What was written is what is read -/

namespace Link

/-- Frames that were written one after the other, on a link whose sends are taken
whole, are read back one by one from any link that delivers their stream, each whole
and none of the next one; whatever was sent later stays under way. -/
theorem frames_read_back_in_order
    {WriterHandle WriterWorld ReaderHandle ReaderWorld : Type}
    {sending : SendView (WriterHandle × WriterWorld)}
    {send : Bytes → WriterHandle × WriterWorld →
      Except Failure Nat × (WriterHandle × WriterWorld)}
    (whole : sending.TakesWhole send)
    {receiving : StreamView (ReaderHandle × ReaderWorld)} {silence : Silence}
    {receive : Nat → ReaderHandle × ReaderWorld → Receipt × (ReaderHandle × ReaderWorld)}
    (delivers : receiving.Delivers silence receive)
    (writer : Link WriterHandle) (outlet : WriterHandle) (writerWorld : WriterWorld)
    (writerOpen : writer.handle = some outlet)
    (ready : sending.Ready (outlet, writerWorld))
    (reader : Link ReaderHandle) (inlet : ReaderHandle) (readerWorld : ReaderWorld)
    (readerOpen : reader.handle = some inlet)
    (payloads : List Bytes) :
    ∃ outlet' writerWorld',
      writeFrames send payloads writer writerWorld =
        (payloads.map fun payload => .ok (payload.length + 2),
          { writer with handle := some outlet' }, writerWorld') ∧
      sending.sent (outlet', writerWorld') =
        sending.sent (outlet, writerWorld) ++ Frame.stream payloads ∧
      ∀ later, receiving.Carries (inlet, readerWorld) (Frame.stream payloads ++ later) →
      ∀ front back, payloads = front ++ back →
      ∀ patience,
        (∀ payload ∈ front,
          payload.length + 2 + receiving.delays (inlet, readerWorld) ≤ patience) →
      ∃ inlet' readerWorld',
        readFrames receive silence patience (front.map List.length) reader readerWorld =
          (front.map fun payload =>
              ⟨payload ++ Frame.trailer (Checksum.shared.checksum payload),
                some (.ok (payload.length + 2))⟩,
            { reader with handle := some inlet' }, readerWorld') ∧
        receiving.Carries (inlet', readerWorld') (Frame.stream back ++ later) := by
  obtain ⟨outlet', writerWorld', written, sent⟩ :=
    writeFrames_sends_stream whole payloads writerOpen ready
  refine ⟨outlet', writerWorld', written, sent, ?_⟩
  intro later carried front back split patience patient
  rw [split, Frame.stream_append, List.append_assoc] at carried
  exact readFrames_takes_stream delivers front readerOpen carried patient

/-- Two frames, the second of an empty payload, that arrive cut inside the first
trailer and across the boundary between them, with an interruption and silence. -/
theorem frames_read_back_in_order_across_cuts :
    ∃ inlet' : Script,
      readFrames receiveScript .quiet 7 [3, 0]
          ((closed .serial).install ⟨[.ok [1, 2], .error (.system 4), .ok [3, 97], .ok [],
            .ok [49, 0, 0, 7]], .kept⟩ "") () =
        ([⟨[1, 2, 3, 97, 49], some (.ok 5)⟩, ⟨[0, 0], some (.ok 2)⟩],
          (closed .serial).install inlet' "", ()) ∧
      (Script.streamView .quiet).Carries (inlet', ()) [7] := by
  let script : Script :=
    ⟨[.ok [1, 2], .error (.system 4), .ok [3, 97], .ok [], .ok [49, 0, 0, 7]], .kept⟩
  let recorded : SendView (Bytes × Unit) := ⟨fun _ => True, Prod.fst⟩
  have whole : recorded.TakesWhole fun bytes channel =>
      (.ok bytes.length, (channel.1 ++ bytes, ())) :=
    fun _ _ _ => ⟨rfl, rfl, trivial⟩
  obtain ⟨_, _, _, _, reads⟩ :=
    frames_read_back_in_order whole (Script.streamView_delivers .quiet)
      ((closed .serial).install [] "") [] () rfl trivial ((closed .serial).install script "")
      script () rfl [[1, 2, 3], []]
  have carried : (Script.streamView .quiet).Carries (script, ())
      (Frame.stream [[1, 2, 3], []] ++ [7]) :=
    ⟨⟨rfl, by decide⟩, by decide +kernel⟩
  obtain ⟨inlet', ⟨⟩, read, left⟩ :=
    reads [7] carried [[1, 2, 3], []] [] rfl 7 (by decide)
  refine ⟨inlet', read.trans ?_, left⟩
  have first : ([1, 2, 3] : Bytes) ++ Frame.trailer (Checksum.shared.checksum [1, 2, 3]) =
      [1, 2, 3, 97, 49] := by
    decide +kernel
  have second : ([] : Bytes) ++ Frame.trailer (Checksum.shared.checksum []) = [0, 0] := by
    decide +kernel
  simp only [List.map_cons, List.map_nil, first, second]
  rfl

end Link
end Framelink
