import SbnClient.Mailboxes.Delivered
import SbnClient.Output.SizeGate
import SbnClient.Output.Writers

/-!
# From one client to another

What the writers of one client put on their socket is what the receive minder of another one
reads, as far as the connection lasts: the stream may end anywhere, in the middle of a header
or of a payload.  The threads of the second client then get messages of the first one in the
order in which they were sent, whole, and none twice.
-/

namespace SbnClient

open Dealing SegmentedInput

variable {P : Platform} {Thread : Type*}

/-! ## Frames on a connection that may break -/

/-- The payload that a message has for the application. -/
def SbnMessage.appPayload (P : Platform) (message : SbnMessage) : List (List UInt8) :=
  if message.msgType = P.sbnAppMsg then [message.payload] else []

/-- A message that the receiver drops has nothing for the applications. -/
theorem appPayload_of_dropped {message : SbnMessage} (isDropped : message.msgType ∈ dropped P) :
    message.appPayload P = [] :=
  if_neg fun (isApp : message.msgType = P.sbnAppMsg) =>
    appMsg_not_dropped P (isApp ▸ isDropped)

theorem appPayload_of_app {message : SbnMessage} (isApp : message.msgType = P.sbnAppMsg) :
    message.appPayload P = [message.payload] :=
  if_pos isApp

/-- A message that `recv_msg` reads to its end; an app message begins with a message id. -/
structure SbnMessage.Sound (P : Platform) (message : SbnMessage) : Prop where
  recognised : message.msgType ∈ dropped P ∨ message.msgType = P.sbnAppMsg
  fits : message.payload.length ≤ P.maxMessageSize
  msgId : message.msgType = P.sbnAppMsg → 2 ≤ message.payload.length

/-- The header of a frame is there, and so much of its payload. -/
theorem decodeFrame_header (frame : Frame) (body : List UInt8) :
    decodeFrame P (frame.header ++ body) =
      if frame.msgType ∈ dropped P then
        ⟨readStatus P frame.payload.length body, none, unreadAfter P frame.payload.length body⟩
      else if frame.msgType = P.sbnAppMsg then
        ⟨.success, decodePayload P frame.payload.length body,
          unreadAfter P frame.payload.length body⟩
      else
        ⟨.evsError, none, body⟩ := by
  have complete : ¬ (frame.header ++ body).length < 7 := by
    rw [List.length_append, Frame.length_header]
    omega
  simp only [decodeFrame, if_neg complete, SbnHdr.ofBytes_header, Frame.toNat_msgSz,
    List.drop_left' frame.length_header]

/-- A whole frame is decoded, and nothing of what follows it. -/
theorem decodeFrame_frame {frame : Frame} (sound : frame.message.Sound P) (rest : List UInt8) :
    (decodeFrame P (frame.bytes ++ rest)).rest = rest ∧
      (decodeFrame P (frame.bytes ++ rest)).payload.toList.map Payload.bytes =
        frame.message.appPayload P := by
  have fits : frame.payload.length ≤ P.maxMessageSize := sound.fits
  have unread : unreadAfter P frame.payload.length (frame.payload ++ rest) = rest := by
    rw [unreadAfter, if_neg (Nat.not_lt.mpr fits), List.drop_left]
  have recognised : frame.msgType ∈ dropped P ∨ frame.msgType = P.sbnAppMsg := sound.recognised
  rw [Frame.bytes, List.append_assoc, decodeFrame_header]
  rcases recognised with isDropped | isApp
  · rw [if_pos isDropped, appPayload_of_dropped isDropped]
    exact ⟨unread, rfl⟩
  · have arrives : frame.payload.length ≤ P.maxMessageSize ∧
        frame.payload.length ≤ (frame.payload ++ rest).length := by
      rw [List.length_append]
      exact ⟨fits, Nat.le_add_right _ _⟩
    rw [if_neg (isApp ▸ appMsg_not_dropped P), if_pos isApp, appPayload_of_app isApp,
      decodePayload, dif_pos arrives]
    exact ⟨unread, by simp [Frame.message]⟩

/-- Of a frame that is cut short nothing is decoded, and nothing is left. -/
theorem decodeFrame_cut {frame : Frame} (sound : frame.message.Sound P) {stream : List UInt8}
    (isPrefix : stream <+: frame.bytes) (short : stream.length < frame.bytes.length) :
    (decodeFrame P stream).rest = [] ∧ (decodeFrame P stream).payload = none := by
  by_cases headerCut : stream.length < 7
  · rw [decodeFrame]
    simp only [if_pos headerCut, and_self]
  · obtain ⟨body, rfl⟩ : frame.header <+: stream := by
      refine List.prefix_of_prefix_length_le (List.prefix_append ..) isPrefix ?_
      rw [Frame.length_header]
      exact Nat.not_lt.mp headerCut
    have cut : body.length < frame.payload.length := by
      rw [Frame.bytes, List.length_append, List.length_append] at short
      omega
    have fits : frame.payload.length ≤ P.maxMessageSize := sound.fits
    have unread : unreadAfter P frame.payload.length body = [] := by
      rw [unreadAfter, if_neg (Nat.not_lt.mpr fits), List.drop_of_length_le cut.le]
    rw [decodeFrame_header]
    split
    next => exact ⟨unread, rfl⟩
    next notDropped =>
      have isApp : frame.msgType = P.sbnAppMsg := sound.recognised.resolve_left notDropped
      rw [if_pos isApp, decodePayload,
        dif_neg fun arrives => absurd arrives.2 (Nat.not_le.mpr cut)]
      exact ⟨unread, rfl⟩

theorem payloadsOf_nil (count : Nat) : payloadsOf P count [] = [] := by
  induction count with
  | zero => rfl
  | succ count ih =>
      exact ih

/-- The first message, and the others. -/
theorem payloadsOf_cons (count : Nat) (stream : List UInt8) :
    payloadsOf P (count + 1) stream =
      (decodeFrame P stream).payload.toList.map Payload.bytes ++
        payloadsOf P count (decodeFrame P stream).rest :=
  List.flatMap_cons

/-- What is decoded from the beginning of a stream of frames is the beginning of what the
frames carry. -/
theorem payloadsOf_isPrefix {frames : List Frame} (sound : ∀ frame ∈ frames, frame.message.Sound P)
    {stream : List UInt8} (isPrefix : stream <+: streamOf frames) (count : Nat) :
    payloadsOf P count stream <+: frames.flatMap fun frame => frame.message.appPayload P := by
  induction count generalizing frames stream with
  | zero => exact List.nil_prefix
  | succ count ih =>
      cases frames with
      | nil =>
          obtain rfl := List.prefix_nil.mp isPrefix
          rw [payloadsOf_nil]
          exact List.nil_prefix
      | cons frame frames =>
          obtain ⟨soundFirst, soundRest⟩ := List.forall_mem_cons.mp sound
          rw [payloadsOf_cons, List.flatMap_cons]
          rw [streamOf_cons] at isPrefix
          by_cases short : stream.length < frame.bytes.length
          · obtain ⟨rest, payload⟩ := decodeFrame_cut soundFirst
              (List.prefix_of_prefix_length_le isPrefix (List.prefix_append ..) short.le) short
            rw [rest, payload, payloadsOf_nil]
            exact List.nil_prefix
          · obtain ⟨later, rfl⟩ : frame.bytes <+: stream :=
              List.prefix_of_prefix_length_le (List.prefix_append ..) isPrefix
                (Nat.not_lt.mp short)
            obtain ⟨rest, payload⟩ := decodeFrame_frame soundFirst later
            rw [rest, payload, List.prefix_append_right_inj]
            exact ih soundRest ((List.prefix_append_right_inj _).mp isPrefix)

/-- What is decoded from all of a stream of frames is all that the frames carry. -/
theorem payloadsOf_eq_of_rest_eq_nil {frames : List Frame}
    (sound : ∀ frame ∈ frames, frame.message.Sound P) {count : Nat}
    (whole : (decodeFrames P count (streamOf frames)).2 = []) :
    payloadsOf P count (streamOf frames) =
      frames.flatMap fun frame => frame.message.appPayload P := by
  induction frames generalizing count with
  | nil => exact payloadsOf_nil count
  | cons frame frames ih =>
      obtain ⟨soundFirst, soundRest⟩ := List.forall_mem_cons.mp sound
      obtain ⟨rest, payload⟩ := decodeFrame_frame soundFirst (streamOf frames)
      rw [streamOf_cons] at whole ⊢
      cases count with
      | zero =>
          have size := congrArg List.length whole
          simp [decodeFrames, Frame.bytes, Frame.length_header] at size
      | succ count =>
          rw [decodeFrames, rest] at whole
          rw [payloadsOf_cons, rest, payload, List.flatMap_cons, ih soundRest whole]

/-- Sound frames carry message ids. -/
theorem hasMsgIds_of_sound {frames : List Frame} (sound : ∀ frame ∈ frames, frame.message.Sound P)
    {stream : List UInt8} (isPrefix : stream <+: streamOf frames) : HasMsgIds P stream := by
  intro count decoded member payload isPayload
  have arrived : payload.bytes ∈ payloadsOf P count stream :=
    List.mem_flatMap.mpr
      ⟨decoded, member, List.mem_map.mpr ⟨payload, by simpa using isPayload, rfl⟩⟩
  obtain ⟨frame, isFrame, carried⟩ :=
    List.mem_flatMap.mp ((payloadsOf_isPrefix sound isPrefix count).subset arrived)
  rw [SbnMessage.appPayload] at carried
  split at carried
  next isApp =>
    rw [List.mem_singleton.mp carried]
    exact (sound frame isFrame).msgId isApp
  next => exact absurd carried List.not_mem_nil

/-! ## What the writers send -/

/-- A message that is sent has a header, and one that tells no more than 65535 bytes. -/
def OutputCall.Tells : OutputCall P → Prop
  | .sendMsg _ memory => 6 ≤ memory.length ∧ totalLength memory ≤ 65535
  | _ => True

/-- The calls of a client whose messages are read by another one. -/
def OutputCall.Publishable (tbl : PipeTbl P) (call : OutputCall P) : Prop :=
  call.Permits tbl ∧ call.Tells

/-- The messages that a call has published for the applications: one or none. -/
def OutputCall.published (call : OutputCall P) (returned : Returned) : List (List UInt8) :=
  match call with
  | .sendMsg _ memory =>
      if returned = .code .success then [memory.take (totalLength memory)] else []
  | _ => []

/-- What a call sends is sound, and is for the applications what it publishes. -/
structure Publishes (call : OutputCall P) (output : Output) : Prop extends Emits call output where
  sound : ∀ message ∈ call.sent output.returned, message.Sound P
  published : (call.sent output.returned).flatMap (SbnMessage.appPayload P) =
    call.published output.returned

theorem heartbeat_dropped (P : Platform) : sbnHeartbeatMsg ∈ dropped P := by
  simp [dropped]

theorem subMsg_dropped (P : Platform) : P.sbnSubMsg ∈ dropped P := by
  simp [dropped]

/-- A call that has sent one message. -/
theorem publishes_message {call : OutputCall P} {output : Output} (emits : Emits call output)
    {message : SbnMessage} (sent : call.sent output.returned = [message]) (sound : message.Sound P)
    (published : message.appPayload P = call.published output.returned) :
    Publishes call output where
  toEmits := emits
  sound := by
    rw [sent, List.forall_mem_singleton]
    exact sound
  published := by
    rw [sent, List.flatMap_singleton, published]

/-- A call that has sent nothing. -/
theorem publishes_nothing {call : OutputCall P} {output : Output} (emits : Emits call output)
    (sent : call.sent output.returned = []) (unpublished : call.published output.returned = []) :
    Publishes call output where
  toEmits := emits
  sound := by
    rw [sent]
    exact List.forall_mem_nil _
  published := by
    rw [sent, unpublished, List.flatMap_nil]

/-- Messages for the bus itself. -/
theorem sound_of_dropped {message : SbnMessage} (isDropped : message.msgType ∈ dropped P)
    (fits : message.payload.length ≤ P.maxMessageSize) : message.Sound P where
  recognised := .inl isDropped
  fits := fits
  msgId isApp := absurd (isApp ▸ isDropped) (appMsg_not_dropped P)

/-- A message that passes the size gate has the size that its header tells. -/
theorem publishes_sendMsg (layout : SbnLayout P) (format : DefaultFormat P)
    {malloc : (size : Nat) → Buffer size} {memory written : List UInt8}
    (header : 6 ≤ memory.length) (tells : totalLength memory ≤ 65535)
    (fits : (getTotalMsgLength P memory).toNat + P.packedHdrSz ≤ P.maxMessageSize)
    (whole : (getTotalMsgLength P memory).toNat ≤ memory.length)
    (emits : Emits (P := P) (.sendMsg malloc memory) ⟨.code .success, written⟩) :
    Publishes (P := P) (.sendMsg malloc memory) ⟨.code .success, written⟩ := by
  have length : (getTotalMsgLength P memory).toNat = totalLength memory :=
    (toNat_getTotalMsgLength format header).trans (Nat.mod_eq_of_lt (Nat.lt_succ_of_le tells))
  have hdrSize := layout.packedHdrSz_eq
  have atLeast : 7 ≤ totalLength memory := Nat.le_add_left 7 _
  rw [length] at fits whole
  refine publishes_message emits rfl ⟨.inr rfl, ?_, fun _ => ?_⟩ ?_
  · rw [length, List.length_take_of_le whole]
    omega
  · rw [length, List.length_take_of_le whole]
    omega
  · rw [appPayload_of_app rfl, length]
    rfl

/-- Every permitted call returns and publishes what it should. -/
theorem outputStep_publishes (layout : SbnLayout P) (format : DefaultFormat P)
    (room : 54 ≤ P.maxMessageSize) {tbl : PipeTbl P} {call : OutputCall P}
    (registry : Registry tbl) (publishable : call.Publishable tbl) :
    ∃ next output, outputStep tbl call = some (next, output) ∧ Registry next ∧
      Publishes call output := by
  obtain ⟨permitted, tells⟩ := publishable
  obtain ⟨next, output, ran, kept, emits⟩ := outputStep_emits layout registry permitted
  refine ⟨next, output, ran, kept, ?_⟩
  cases call with
  | sendHeartbeat =>
      rw [outputStep, outputStepWith, sendHeartbeat_complete layout, Option.some.injEq,
        Prod.mk.injEq] at ran
      rw [← ran.2] at emits ⊢
      refine publishes_message emits rfl (sound_of_dropped (heartbeat_dropped P) ?_) ?_
      · exact Nat.zero_le _
      · exact appPayload_of_dropped (heartbeat_dropped P)
  | sendMsg malloc memory =>
      rw [outputStep, outputStepWith] at ran
      by_cases tooBig : P.maxMessageSize < (getTotalMsgLength P memory).toNat + P.packedHdrSz
      · rw [sendMsg_tooBig tooBig, Option.map_some, Option.some.injEq, Prod.mk.injEq] at ran
        rw [← ran.2] at emits ⊢
        exact publishes_nothing emits rfl rfl
      · have fits := Nat.not_lt.mp tooBig
        have whole := permitted.1.resolve_left tooBig
        rw [sendMsg_complete layout clientCpuId malloc fits whole, Option.map_some,
          Option.some.injEq, Prod.mk.injEq] at ran
        rw [← ran.2] at emits ⊢
        exact publishes_sendMsg layout format tells.1 tells.2 fits whole emits
  | subscribe msgId pipeId =>
      by_cases succeeded : output.returned.Succeeded
      · refine publishes_message emits (if_pos succeeded)
          (sound_of_dropped (subMsg_dropped P) ?_) (appPayload_of_dropped (subMsg_dropped P))
        rw [length_subPayload layout]
        exact room
      · exact publishes_nothing emits (if_neg succeeded) rfl
  | silent op =>
      exact publishes_nothing emits (ite_self _) rfl

/-- A run of the writers is a stream of sound frames that carries what they publish. -/
theorem exists_frames_of_publishes {calls : List (OutputCall P)} {outputs : List Output}
    (publishes : List.Forall₂ Publishes calls outputs) :
    ∃ frames : List Frame, outputs.flatMap Output.written = streamOf frames ∧
      (∀ frame ∈ frames, frame.message.Sound P) ∧
      (frames.flatMap fun frame => frame.message.appPayload P) =
        (calls.zip outputs).flatMap fun pair => pair.1.published pair.2.returned := by
  obtain ⟨frames, written, messages⟩ :=
    exists_frames_of_emits (publishes.imp fun _ _ publishes => publishes.toEmits)
  have each : ∀ pair ∈ calls.zip outputs, Publishes pair.1 pair.2 := fun pair member =>
    (List.forall₂_iff_zip.mp publishes).2 member
  refine ⟨frames, written, fun frame member => ?_, ?_⟩
  · have sent := List.mem_map_of_mem (f := Frame.message) member
    rw [messages] at sent
    obtain ⟨pair, paired, isSent⟩ := List.mem_flatMap.mp sent
    exact (each pair paired).sound frame.message isSent
  · rw [← List.flatMap_map, messages, List.flatMap_assoc]
    exact List.flatMap_congr fun pair paired => (each pair paired).published

/-- A permitted run of the writers returns, and leaves such a stream. -/
theorem exists_frames_of_permitted (layout : SbnLayout P) (format : DefaultFormat P)
    (room : 54 ≤ P.maxMessageSize) {start : PipeTbl P} (reachable : Reachable start)
    {calls : List (OutputCall P)}
    (permitted : Machine.Permitted outputStep OutputCall.Publishable start calls) :
    ∃ final outputs, ∃ frames : List Frame,
      Machine.run outputStep start calls = some (final, outputs) ∧
      outputs.flatMap Output.written = streamOf frames ∧
      (∀ frame ∈ frames, frame.message.Sound P) ∧
      (frames.flatMap fun frame => frame.message.appPayload P) =
        (calls.zip outputs).flatMap fun pair => pair.1.published pair.2.returned := by
  have publishing : ∀ (tbl : PipeTbl P) (call : OutputCall P), Registry tbl →
      call.Publishable tbl → ∃ next output, outputStep tbl call = some (next, output) ∧
        Registry next ∧ Publishes call output :=
    fun _ _ registry publishable => outputStep_publishes layout format room registry publishable
  obtain ⟨final, outputs, ran, -, publishes⟩ :=
    Machine.run_postcondition publishing calls reachable.registry permitted
  obtain ⟨frames, written, sound, published⟩ := exists_frames_of_publishes publishes
  exact ⟨final, outputs, frames, ran, written, sound, published⟩

/-! ## Both clients -/

/-- The threads of a client that reads the beginning of a stream of frames. -/
theorem exists_payloads_of_frames [DecidableEq Thread] (layout : SbnLayout P)
    (format : DefaultFormat P) (initial : PipeTbl P) {frames : List Frame}
    (sound : ∀ frame ∈ frames, frame.message.Sound P) {socket : Socket}
    (ends : EndsInClose socket) (arrives : available socket <+: streamOf frames)
    {trace : List (ConcurrentEvent P Thread)} {threads : Concurrent P Thread}
    (run : Machine.Run (Machine.Guarded Concurrent.Step Concurrent.Proper)
      (.start (initPipeTbl initial) socket) trace threads)
    (calm : ∀ event ∈ trace, event.Calm) :
    ∃ payloads,
      (∀ k, List.Forall₂ Shows (trace.flatMap (ConcurrentEvent.handedOut k)) (payloads k)) ∧
      Dealt (frames.flatMap fun frame => frame.message.appPayload P) payloads := by
  obtain ⟨state, events, bus, -, -, onBus, agreed⟩ :=
    exists_bus_run layout format initial ends (hasMsgIds_of_sound sound arrives) run calm
  obtain ⟨count, dealtOut⟩ := exists_dealtOut onBus
  obtain ⟨payloads, shown, dealt⟩ := dealtOut.exists_payloads agreed
  exact ⟨payloads, shown, dealt.extend (payloadsOf_isPrefix sound arrives count)⟩

/-- One client sends messages, subscriptions and heartbeats, each with one complete `write`.
Another client reads what it has written, cut into any segments and up to any byte at which the
connection ends, while its threads use their pipes in any way.  The buffers that these threads
get from a pipe show messages that the first client has sent with success, all of their bytes,
in the order in which they were sent, and no message is handed out twice. -/
theorem published_in_order [DecidableEq Thread] (layout : SbnLayout P) (format : DefaultFormat P)
    (room : 54 ≤ P.maxMessageSize) {start : PipeTbl P} (reachable : Reachable start)
    {calls : List (OutputCall P)}
    (permitted : Machine.Permitted outputStep OutputCall.Publishable start calls)
    (initial : PipeTbl P) :
    ∃ final outputs, Machine.run outputStep start calls = some (final, outputs) ∧
      ∀ (socket : Socket) (trace : List (ConcurrentEvent P Thread)) (threads : Concurrent P Thread),
        EndsInClose socket → available socket <+: outputs.flatMap Output.written →
        Machine.Run (Machine.Guarded Concurrent.Step Concurrent.Proper)
          (.start (initPipeTbl initial) socket) trace threads →
        (∀ event ∈ trace, event.Calm) →
        ∃ payloads,
          (∀ k, List.Forall₂ Shows (trace.flatMap (ConcurrentEvent.handedOut k)) (payloads k)) ∧
          Dealt ((calls.zip outputs).flatMap fun pair => pair.1.published pair.2.returned)
            payloads := by
  obtain ⟨final, outputs, frames, ran, written, sound, published⟩ :=
    exists_frames_of_permitted layout format room reachable permitted
  refine ⟨final, outputs, ran, fun socket trace threads ends arrives run calm => ?_⟩
  rw [written] at arrives
  rw [← published]
  exact exists_payloads_of_frames layout format initial sound ends arrives run calm

/-- One client sends the message of `frameInPieces` and a heartbeat.  The connection ends before
the heartbeat, and the other client is that of `exists_midFrame_run`. -/
theorem midFrame_published :
    let calls : List (OutputCall (standardPlatform 64)) :=
      [.sendMsg (Buffer.filled · 0xEE) [8, 1, 0, 0, 0, 0, 9], .sendHeartbeat]
    let start := initPipeTbl (zeroPipeTbl (standardPlatform 64))
    ∃ (final : PipeTbl (standardPlatform 64)) (outputs : List Output)
      (trace : List (ConcurrentEvent (standardPlatform 64) Unit))
      (payloads : Fin maxPipes → List (List UInt8)),
      Machine.run outputStep start calls = some (final, outputs) ∧ trace.length = 14 ∧
      (∀ k, List.Forall₂ Shows (trace.flatMap (ConcurrentEvent.handedOut k)) (payloads k)) ∧
      Dealt ((calls.zip outputs).flatMap fun pair => pair.1.published pair.2.returned)
        payloads := by
  intro calls start
  obtain ⟨trace, threads, length, run⟩ := exists_midFrame_run
  have permitted : Machine.Permitted outputStep OutputCall.Publishable start calls := by
    refine ⟨⟨⟨.inr (by decide), trivial⟩, by decide, by decide⟩, fun _ _ _ => ⟨?_, ?_⟩⟩
    · exact ⟨⟨trivial, trivial⟩, trivial⟩
    · exact fun _ _ _ => trivial
  obtain ⟨final, outputs, ran, receives⟩ := @published_in_order _ Unit _
    (standardPlatform_sbnLayout (by decide)) (standardPlatform_defaultFormat 64) (by decide) start
    ⟨_, [], [], trivial, rfl⟩ calls permitted (zeroPipeTbl _)
  have computed : Machine.run outputStep start calls = some (start,
      [⟨.code .success, available frameInPieces⟩, ⟨.count 7, heartbeatFrame.bytes⟩]) := rfl
  rw [computed, Option.some.injEq, Prod.mk.injEq] at ran
  obtain ⟨rfl, rfl⟩ := ran
  have arrives : available frameInPieces <+: [(⟨.code .success, available frameInPieces⟩ : Output),
      ⟨.count 7, heartbeatFrame.bytes⟩].flatMap Output.written := List.prefix_append ..
  have ends : EndsInClose frameInPieces := ⟨trivial, rfl⟩
  obtain ⟨payloads, dealt⟩ := receives frameInPieces trace threads ends arrives
    (run.mono fun _ _ _ guarded => ⟨guarded.1, guarded.2.1⟩)
    (run.each fun _ _ _ guarded => guarded.2.2)
  exact ⟨_, _, trace, payloads, computed, length, dealt⟩

/-- One client sends messages, subscriptions and heartbeats, each with one complete `write`.
Another client has created and subscribed its pipes before it reads any of them, and leaves them
as they are until it has read all.  As long as a pipe is not full when a message has been read,
each message that the first client has sent with success and that the table routes to that pipe
is handed out of it or waits in it at last: all of their bytes, in the order in which they were
sent, and none twice. -/
theorem published_arrives [DecidableEq Thread] (layout : SbnLayout P) (format : DefaultFormat P)
    (room : 54 ≤ P.maxMessageSize) {start : PipeTbl P} (reachable : Reachable start)
    {calls : List (OutputCall P)}
    (permitted : Machine.Permitted outputStep OutputCall.Publishable start calls)
    (initial : PipeTbl P) :
    ∃ final outputs, Machine.run outputStep start calls = some (final, outputs) ∧
      ∀ (socket : Socket) (earlier trace : List (ConcurrentEvent P Thread))
        (threads later : Concurrent P Thread) (k : Fin maxPipes),
        EndsInClose socket → HasMsgIds P (available socket) →
        Machine.Run (Machine.Guarded Concurrent.Step Concurrent.Proper)
          (.start (initPipeTbl initial) socket) earlier threads →
        (∀ event ∈ earlier, event.Calm) → (threads.tbl k).inUse = inUse →
        threads.point = .outside →
        available threads.socket = outputs.flatMap Output.written →
        Machine.Run (Machine.Guarded Concurrent.Step (Concurrent.Preserves k)) threads trace
          later →
        later.point = .outside → available later.socket = [] →
        ∃ waiting taken left, Passes k threads later trace
          ((calls.zip outputs).flatMap fun pair => pair.1.published pair.2.returned)
          waiting taken left := by
  obtain ⟨final, outputs, frames, ran, written, sound, published⟩ :=
    exists_frames_of_permitted layout format room reachable permitted
  refine ⟨final, outputs, ran, fun socket earlier trace threads later k ends msgIds prepared calm
    used outside arrives run ended whole => ?_⟩
  obtain ⟨state, events, bus, linked, onBus, -, -⟩ :=
    exists_bus_run layout format initial ends msgIds prepared calm
  obtain ⟨count, waiting, taken, left, passes, rest⟩ :=
    exists_passes layout format linked onBus used run
  have stream : bus.stream = streamOf frames := by
    rw [onBus.stream_eq_of_outside linked outside, arrives, written]
  rw [stream] at passes rest
  rw [rest ended] at whole
  rw [payloadsOf_eq_of_rest_eq_nil sound whole, published] at passes
  exact ⟨waiting, taken, left, passes⟩

/-- One client sends the message of `frameInPieces`, and the other one is that of
`exists_preserving_run`. -/
theorem frameInPieces_arrives :
    let calls : List (OutputCall (standardPlatform 64)) :=
      [.sendMsg (Buffer.filled · 0xEE) [8, 1, 0, 0, 0, 0, 9]]
    let start := initPipeTbl (zeroPipeTbl (standardPlatform 64))
    ∃ (final : PipeTbl (standardPlatform 64)) (outputs : List Output)
      (trace : List (ConcurrentEvent (standardPlatform 64) Unit))
      (threads later : Concurrent (standardPlatform 64) Unit)
      (waiting taken left : List (List UInt8)),
      Machine.run outputStep start calls = some (final, outputs) ∧ trace.length = 12 ∧
      Passes 0 threads later trace
        ((calls.zip outputs).flatMap fun pair => pair.1.published pair.2.returned)
        waiting taken left := by
  intro calls start
  obtain ⟨earlier, trace, threads, later, length, prepared, calm, used, outside, unread, run, ended,
    whole⟩ := exists_preserving_run
  have permitted : Machine.Permitted outputStep OutputCall.Publishable start calls :=
    ⟨⟨⟨.inr (by decide), trivial⟩, by decide, by decide⟩, fun _ _ _ => trivial⟩
  obtain ⟨final, outputs, ran, receives⟩ := @published_arrives _ Unit _
    (standardPlatform_sbnLayout (by decide)) (standardPlatform_defaultFormat 64) (by decide) start
    ⟨_, [], [], trivial, rfl⟩ calls permitted (zeroPipeTbl _)
  have computed : Machine.run outputStep start calls =
      some (start, [⟨.code .success, available frameInPieces⟩]) := rfl
  rw [computed, Option.some.injEq, Prod.mk.injEq] at ran
  obtain ⟨rfl, rfl⟩ := ran
  have ends : EndsInClose frameInPieces := ⟨trivial, rfl⟩
  obtain ⟨waiting, taken, left, passes⟩ := receives frameInPieces earlier trace threads later 0
    ends hasMsgIds_frameInPieces prepared calm used outside (by rw [unread]; rfl) run ended whole
  exact ⟨_, _, trace, threads, later, waiting, taken, left, computed, length, passes⟩

/-- The same with threads on both sides, that may come between the work that a call of the first
client does and its `write`: what the threads of the second client get are messages in the order
in which the calls of the first one have returned, and each thread of the first one has ended its
calls in the order in which it has begun them. -/
theorem threads_publish_in_order {Writer : Type*} [DecidableEq Writer] [DecidableEq Thread]
    (layout : SbnLayout P) (format : DefaultFormat P) (room : 54 ≤ P.maxMessageSize)
    {start : PipeTbl P} (reachable : Reachable start) {sends : List (WriterEvent P Writer)}
    {writers : Writers P Writer}
    (sent : Machine.Run (Machine.Guarded Writers.Step (Writers.Permits OutputCall.Publishable))
      (.start start) sends writers)
    (initial : PipeTbl P) {socket : Socket} (ends : EndsInClose socket)
    (arrives : available socket <+: writers.stream)
    {trace : List (ConcurrentEvent P Thread)} {threads : Concurrent P Thread}
    (run : Machine.Run (Machine.Guarded Concurrent.Step Concurrent.Proper)
      (.start (initPipeTbl initial) socket) trace threads)
    (calm : ∀ event ∈ trace, event.Calm) :
    ∃ payloads,
      (∀ k, List.Forall₂ Shows (trace.flatMap (ConcurrentEvent.handedOut k)) (payloads k)) ∧
      Dealt ((endedCalls sends).flatMap fun done => done.call.published done.output.returned)
        payloads ∧
      ∀ writer, callsBy writer (begunCalls sends) =
        callsBy writer (endedCalls sends) ++ writers.unended writer := by
  have progress := progress_run
    (fun _ _ registry publishable => outputStep_publishes layout format room registry publishable)
    reachable.registry sent
  obtain ⟨frames, written, sound, published⟩ :=
    exists_frames_of_publishes progress.good_of_ended
  rw [List.flatMap_map] at written
  rw [List.zip_map', List.flatMap_map] at published
  rw [progress.stream_eq, written] at arrives
  obtain ⟨payloads, shown, dealt⟩ :=
    exists_payloads_of_frames layout format initial sound ends arrives run calm
  rw [published] at dealt
  exact ⟨payloads, shown, dealt, progress.order⟩

/-- A thread prepares the message of `frameInPieces`, and a heartbeat goes out after it.  The
connection ends before the heartbeat. -/
theorem midFrame_threads_publish :
    ∃ (sends : List (WriterEvent (standardPlatform 64) Bool))
      (writers : Writers (standardPlatform 64) Bool)
      (trace : List (ConcurrentEvent (standardPlatform 64) Unit))
      (payloads : Fin maxPipes → List (List UInt8)), sends.length = 4 ∧ trace.length = 14 ∧
      (∀ k, List.Forall₂ Shows (trace.flatMap (ConcurrentEvent.handedOut k)) (payloads k)) ∧
      Dealt ((endedCalls sends).flatMap fun done => done.call.published done.output.returned)
        payloads ∧
      ∀ writer, callsBy writer (begunCalls sends) =
        callsBy writer (endedCalls sends) ++ writers.unended writer := by
  obtain ⟨trace, threads, length, run⟩ := exists_midFrame_run
  have sent := Machine.Run.refl
    |>.snoc (show Machine.Guarded Writers.Step (Writers.Permits OutputCall.Publishable)
        (.start (initPipeTbl (zeroPipeTbl (standardPlatform 64))))
        (.prepared false .sendHeartbeat _) _ from
        ⟨.prepared false rfl rfl, ⟨trivial, trivial⟩, trivial⟩)
    |>.snoc (show Machine.Guarded Writers.Step _ _
        (.prepared true (.sendMsg (Buffer.filled · 0xEE) [8, 1, 0, 0, 0, 0, 9]) _) _ from
        ⟨.prepared true rfl rfl, ⟨.inr (by decide), trivial⟩, by decide, by decide⟩)
    |>.snoc ⟨.wrote true .complete rfl, rfl⟩
    |>.snoc ⟨.wrote false .complete rfl, rfl⟩
  have ends : EndsInClose frameInPieces := ⟨trivial, rfl⟩
  obtain ⟨payloads, published⟩ := threads_publish_in_order
    (standardPlatform_sbnLayout (by decide)) (standardPlatform_defaultFormat 64) (by decide)
    ⟨_, [], [], trivial, rfl⟩ sent (zeroPipeTbl _) ends ⟨heartbeatFrame.bytes, rfl⟩
    (run.mono fun _ _ _ guarded => ⟨guarded.1, guarded.2.1⟩)
    (run.each fun _ _ _ guarded => guarded.2.2)
  exact ⟨_, _, trace, payloads, rfl, length, published⟩

end SbnClient
