import SbnClient.Mailboxes.Held
import SbnClient.Mailboxes.Pending
import SbnClient.Registry.FirstPipe
import SbnClient.Stream.Step

/-!
# What a delivered message depends on

`ingest_app_message` reads a payload into an uninitialised buffer and copies as many bytes
into a slot that still holds an earlier message.  Neither compares that number with the
length that the packet itself declares, which is how much the application reads.
-/

namespace SbnClient

open RetainedRing SegmentedInput

variable {P : Platform} {tbl left right : PipeTbl P} {i : Fin maxPipes}

/-- Two pipes that differ at most in the contents of their slots, in the fields that are used. -/
structure PipeD.SameControl (left right : PipeD P) : Prop where
  inUse_eq : left.inUse = right.inUse
  pipeId_eq : left.pipeId = right.pipeId
  subscribedMsgIds_eq : left.subscribedMsgIds = right.subscribedMsgIds
  numberOfMessages_eq : left.numberOfMessages = right.numberOfMessages
  readMessage_eq : left.readMessage = right.readMessage

/-- Two tables of such pipes. -/
def SameControl (left right : PipeTbl P) : Prop :=
  ∀ i, (left i).SameControl (right i)

/-- What the application sees of a slot through the total length of its CCSDS header. -/
def visible (message : Buffer P.maxMessageSize) : List UInt8 :=
  message.read (P.ccsdsRdLen message.bytes)

/-- After some calls a `RcvMsg` hands out the message that was put into the pipe last: all
that were there before it have been taken. -/
def DeliversLatest (i : Fin maxPipes) (tbl : PipeTbl P) (message : Buffer P.maxMessageSize) :
    Prop :=
  ∃ ops before outcomes bufPtr timeOut env result,
    Machine.Permitted applyOp (Op.KeepsPipe (indexId i)) tbl ops ∧
      Machine.run applyOp tbl ops = some (before, outcomes) ∧
      (ops.zip outcomes).countP (receives (indexId i)) + 2 = (tbl i).numberOfMessages ∧
      Op.Sequential before (.rcvMsg bufPtr (indexId i) timeOut env) ∧
      rcvMsg before bufPtr (indexId i) timeOut env = some result ∧ result.status = .success ∧
      result.bufPtr.bind (MsgPtr.deref result.tbl) = some message

/-- Nothing but the frame decides which pipe its message is put into and what the application
sees of it. -/
def Isolated (P : Platform) (frame : Frame) : Prop :=
  ∀ (left right : PipeTbl P) (bufferLeft bufferRight : Buffer P.maxMessageSize)
    (socketLeft socketRight : Socket) (afterLeft afterRight : List UInt8),
    Reachable left → Reachable right → SameControl left right →
    available socketLeft = frame.payload ++ afterLeft →
    available socketRight = frame.payload ++ afterRight →
    ∃ nextLeft restLeft nextRight restRight result,
      ingestAppMessage left bufferLeft socketLeft frame.msgSz =
          some (nextLeft, restLeft, result) ∧
        ingestAppMessage right bufferRight socketRight frame.msgSz =
          some (nextRight, restRight, result) ∧
        SameControl nextLeft nextRight ∧
        ∀ i, result = .received i → ∀ messageLeft messageRight,
          DeliversLatest i nextLeft messageLeft → DeliversLatest i nextRight messageRight →
            visible messageLeft = visible messageRight

/-! ## Control does not depend on contents -/

theorem PipeD.SameControl.pushMessage {left right : PipeD P} (same : left.SameControl right)
    (payload : Payload P) :
    (pushMessage left payload).SameControl (pushMessage right payload) where
  inUse_eq := same.inUse_eq
  pipeId_eq := same.pipeId_eq
  subscribedMsgIds_eq := same.subscribedMsgIds_eq
  numberOfMessages_eq := by
    simp only [SbnClient.pushMessage, same.numberOfMessages_eq]
  readMessage_eq := same.readMessage_eq

theorem SameControl.route_eq (same : SameControl left right) (msgId : MsgId P) :
    route left msgId = route right msgId :=
  route_congr (fun i => (same i).inUse_eq) (fun i => (same i).subscribedMsgIds_eq) msgId

theorem SameControl.ingestResult_eq (same : SameControl left right) (msgId : MsgId P) :
    ingestResult left msgId = ingestResult right msgId := by
  simp only [ingestResult, same.route_eq, fun i => (same i).numberOfMessages_eq,
    fun i => (same i).inUse_eq]

theorem SameControl.update (same : SameControl left right) {pipeLeft pipeRight : PipeD P}
    (pipes : pipeLeft.SameControl pipeRight) :
    SameControl (Function.update left i pipeLeft) (Function.update right i pipeRight) := by
  intro k
  by_cases equal : k = i
  · subst equal
    simpa using pipes
  · simpa [equal] using same k

theorem SameControl.deliver (same : SameControl left right) (msgId : MsgId P)
    (payload : Payload P) : SameControl (deliver left msgId payload)
      (deliver right msgId payload) := by
  rw [SbnClient.deliver, SbnClient.deliver, same.route_eq]
  cases route right msgId with
  | none => exact same
  | some i =>
      simp only [(same i).numberOfMessages_eq]
      split
      · exact same
      · exact same.update ((same i).pushMessage payload)

/-! ## The message that was put into the pipe last -/

/-- The slot of the message that was put into the pipe last. -/
def latest (pipe : PipeD P) : Fin maxPipeDepth :=
  slotAfter pipe (pipe.numberOfMessages - 1)

theorem latest_pushMessage {pipe : PipeD P} (live : LivePipe i pipe) (payload : Payload P) :
    latest (pushMessage pipe payload) = entrySlot pipe := by
  apply Fin.ext
  have entry := val_entrySlot live.readMessage_lt live.numberOfMessages_le
  have grown := numberOfMessages_pushMessage payload live.numberOfMessages_le
  rw [latest, slotAfter, grown, Nat.add_sub_cancel, entry]
  rfl

/-- Until it is handed out, its slot is written by nobody. -/
theorem DeliversLatest.message_eq {message : Buffer P.maxMessageSize}
    (delivers : DeliversLatest i tbl message) (registry : Registry tbl)
    (used : (tbl i).inUse = inUse) : message = (tbl i).messages (latest (tbl i)) := by
  obtain ⟨ops, before, outcomes, bufPtr, timeOut, env, result, permitted, ran, taken, sequential,
    received, success, handed⟩ := delivers
  have live := registry.live used
  have occupied : (tbl i).Occupied (latest (tbl i)) ((tbl i).numberOfMessages - 1) := by
    refine ⟨rfl, ?_, live.numberOfMessages_le⟩
    have := live.numberOfMessages_ge
    omega
  have keeps := Machine.holds_of_run (registry.keepsSlot_run used occupied ops permitted) ran
  obtain ⟨next, contents⟩ := keeps.kept (by omega)
  obtain ⟨k, same, -, -, rfl⟩ := keeps.registry.rcvMsg_success sequential received success
  obtain rfl := indexId_injective same
  have one : (tbl i).numberOfMessages - 1 -
      (ops.zip outcomes).countP (receives (indexId i)) = 1 := by omega
  rw [one] at next
  have slot : nextMsg (before i) = latest (tbl i) := by
    apply Fin.ext
    rw [val_nextMsg (keeps.registry.live keeps.inUse_eq).readMessage_lt, next.slot_eq]
    rfl
  rw [← contents, ← slot]
  simpa [MsgPtr.deref] using handed.symm

/-- A message that is alone in its pipe is handed out by the next `RcvMsg`. -/
theorem deliversLatest_of_two (registry : Registry tbl) (used : (tbl i).inUse = inUse)
    (two : (tbl i).numberOfMessages = 2) :
    DeliversLatest i tbl ((tbl i).messages (latest (tbl i))) := by
  have live := registry.live used
  have atOnce : ReturnsAtOnce tbl (indexId i) P.sbPoll := .inr (.inl rfl)
  have received := rcvMsg_of_returnsAtOnce registry used P.sbPoll_ge
    (show (calmEnv P).lockMutexStatus = 0 from rfl) atOnce
  rw [if_neg (by omega)] at received
  refine ⟨[], tbl, [], true, P.sbPoll, calmEnv P, _, trivial, rfl, by simp [two],
    ⟨by simp, .inr atOnce⟩, received, rfl, ?_⟩
  have slot : nextMsg (tbl i) = latest (tbl i) := by
    apply Fin.ext
    rw [val_nextMsg live.readMessage_lt, latest, slotAfter, two]
    rfl
  simp [rcvFinish, calmEnv, MsgPtr.deref, slot]

/-! ## Messages that are isolated -/

theorem Payload.zero_add_length_le (payload : Payload P) :
    0 + payload.bytes.length ≤ P.maxMessageSize := by
  rw [Nat.zero_add]
  exact payload.length_le

/-- What a slot holds after the payload has been copied into it. -/
def overwritten (message : Buffer P.maxMessageSize) (payload : Payload P) :
    Buffer P.maxMessageSize :=
  message.store 0 payload.bytes payload.zero_add_length_le

theorem messages_latest_pushMessage {pipe : PipeD P} (live : LivePipe i pipe)
    (payload : Payload P) :
    (pushMessage pipe payload).messages (latest (pushMessage pipe payload)) =
      overwritten (pipe.messages (entrySlot pipe)) payload := by
  rw [latest_pushMessage live]
  exact Function.update_self ..

theorem bytes_overwritten (message : Buffer P.maxMessageSize) (payload : Payload P) :
    (overwritten message payload).bytes =
      payload.bytes ++ message.bytes.drop payload.bytes.length :=
  Buffer.bytes_store_zero ..

/-- The length field of a payload that has one is not overlaid. -/
theorem ccsdsRdLen_overwritten (format : DefaultFormat P) (message : Buffer P.maxMessageSize)
    {payload : Payload P} (header : 6 ≤ payload.bytes.length) :
    P.ccsdsRdLen (overwritten message payload).bytes = P.ccsdsRdLen payload.bytes := by
  have room : 6 ≤ (overwritten message payload).bytes.length := by
    rw [bytes_overwritten, List.length_append]
    omega
  have field : ((overwritten message payload).bytes.drop 4).take 2 =
      (payload.bytes.drop 4).take 2 := by
    rw [bytes_overwritten, List.drop_append_of_le_length (by omega),
      List.take_append_of_le_length (by rw [List.length_drop]; omega)]
  rw [format.ccsdsRdLen_eq _ room, format.ccsdsRdLen_eq _ header, field]

/-- A payload with a header of its own, that is as long as the header says or fills the slot,
covers everything that is seen. -/
theorem visible_overwritten (format : DefaultFormat P) (message : Buffer P.maxMessageSize)
    {payload : Payload P} (header : 6 ≤ payload.bytes.length)
    (covers : min (P.ccsdsRdLen payload.bytes) P.maxMessageSize ≤ payload.bytes.length) :
    visible (overwritten message payload) =
      payload.bytes.take (P.ccsdsRdLen payload.bytes) := by
  rw [visible, ccsdsRdLen_overwritten format message header, Buffer.read, bytes_overwritten]
  by_cases inside : P.ccsdsRdLen payload.bytes ≤ payload.bytes.length
  · exact List.take_append_of_le_length inside
  · have full : P.maxMessageSize ≤ payload.bytes.length := by omega
    rw [List.drop_of_length_le (message.length_bytes.le.trans full), List.append_nil]

/-- A message for a pipe with room, right after it has been put into the pipe. -/
theorem Registry.of_received (registry : Registry tbl) {msgId : MsgId P} {payload : Payload P}
    (received : ingestResult tbl msgId = .received i) :
    Registry (deliver tbl msgId payload) ∧ (deliver tbl msgId payload i).inUse = inUse ∧
      deliver tbl msgId payload i = pushMessage (tbl i) payload ∧ LivePipe i (tbl i) := by
  obtain ⟨routed, room⟩ := ingestResult_eq_received_iff.mp received
  have used := (route_eq_some_iff.mp routed).1.1
  have pushed : deliver tbl msgId payload i = pushMessage (tbl i) payload := by
    rw [deliver, routed]
    simp only [if_neg room, Function.update_self]
  refine ⟨registry.contentStep (arrivalStep_deliver tbl msgId payload).contentStep, ?_, pushed,
    registry.live used⟩
  rw [pushed]
  exact used

/-- A frame that carries its whole message is isolated. -/
theorem isolated_of_covers (format : DefaultFormat P) {frame : Frame} (fits : frame.Fits P)
    (header : 6 ≤ frame.payload.length)
    (covers : min (P.ccsdsRdLen frame.payload) P.maxMessageSize ≤ frame.payload.length) :
    Isolated P frame := by
  intro left right bufferLeft bufferRight socketLeft socketRight afterLeft afterRight
    reachableLeft reachableRight same arrivesLeft arrivesRight
  have long : 2 ≤ (frame.asPayload fits).bytes.length := (by decide : 2 ≤ 6).trans header
  obtain ⟨restLeft, ranLeft, -⟩ := ingestAppMessage_of_frame left bufferLeft fits arrivesLeft
  obtain ⟨restRight, ranRight, -⟩ := ingestAppMessage_of_frame right bufferRight fits arrivesRight
  rw [getMsgId_filledWith format _ long] at ranLeft
  rw [getMsgId_filledWith format _ long, ← same.ingestResult_eq] at ranRight
  refine ⟨_, restLeft, _, restRight, _, ranLeft, ranRight, same.deliver _ _, ?_⟩
  intro i received messageLeft messageRight deliversLeft deliversRight
  obtain ⟨registryLeft, usedLeft, pushedLeft, liveLeft⟩ :=
    reachableLeft.registry.of_received received
  obtain ⟨registryRight, usedRight, pushedRight, liveRight⟩ :=
    reachableRight.registry.of_received (same.ingestResult_eq _ ▸ received)
  rw [deliversLeft.message_eq registryLeft usedLeft,
    deliversRight.message_eq registryRight usedRight, pushedLeft, pushedRight,
    messages_latest_pushMessage liveLeft, messages_latest_pushMessage liveRight,
    visible_overwritten format _ header covers, visible_overwritten format _ header covers]

/-! ## Messages that are not -/

/-- The first byte after the payload is seen: the length field is one of the bytes that the
payload does not cover, or tells to read more. -/
theorem getElem?_visible_overwritten (format : DefaultFormat P) (slotSize : 7 ≤ P.maxMessageSize)
    (payload : Payload P) (uncovered : payload.bytes.length < 6 ∨
      payload.bytes.length < min (P.ccsdsRdLen payload.bytes) P.maxMessageSize) (byte : UInt8) :
    (visible (overwritten (Buffer.filled _ byte) payload))[payload.bytes.length]? = some byte := by
  have inSlot : payload.bytes.length < P.maxMessageSize := by omega
  have seen : payload.bytes.length <
      P.ccsdsRdLen (overwritten (Buffer.filled _ byte) payload).bytes := by
    by_cases header : 6 ≤ payload.bytes.length
    · rw [ccsdsRdLen_overwritten format _ header]
      omega
    · rw [format.ccsdsRdLen_eq _ (by rw [Buffer.length_bytes]; omega)]
      omega
  rw [visible, Buffer.read, List.getElem?_take_of_lt seen, bytes_overwritten,
    List.getElem?_append_right (Nat.le_refl _), Nat.sub_self, List.getElem?_drop, Nat.add_zero]
  simp [Buffer.filled, inSlot]

/-- A table whose slots all hold the same byte. -/
def stalePipeTbl (P : Platform) (byte : UInt8) : PipeTbl P := fun i =>
  { zeroPipeTbl P i with messages := fun _ => Buffer.filled _ byte }

/-- The first pipe of such a table, subscribed to an id. -/
abbrev stalePipe (P : Platform) (byte : UInt8) (msgId : MsgId P) : PipeTbl P :=
  subscribedPipe (stalePipeTbl P byte) [] msgId

theorem sameControl_stalePipe (left right : UInt8) (msgId : MsgId P) :
    SameControl (stalePipe P left msgId) (stalePipe P right msgId) := by
  have initially : SameControl (initPipeTbl (stalePipeTbl P left))
      (initPipeTbl (stalePipeTbl P right)) := fun _ => ⟨rfl, rfl, rfl, rfl, rfl⟩
  have opened : SameControl (firstPipe (stalePipeTbl P left) [])
      (firstPipe (stalePipeTbl P right) []) := initially.update ⟨rfl, rfl, rfl, rfl, rfl⟩
  exact opened.update ⟨rfl, rfl, rfl, rfl, rfl⟩

/-- The message that the pipe delivers lies over the old bytes. -/
theorem deliversLatest_stalePipe (byte : UInt8) (msgId : MsgId P) (payload : Payload P) :
    DeliversLatest 0 (deliver (stalePipe P byte msgId) msgId payload)
      (overwritten (Buffer.filled _ byte) payload) := by
  obtain ⟨registry, used, pushed, live⟩ :=
    (reachable_subscribedPipe (stalePipeTbl P byte) [] msgId).registry.of_received
      (ingestResult_subscribedPipe _ _ msgId)
  have two : (deliver (stalePipe P byte msgId) msgId payload 0).numberOfMessages = 2 := by
    rw [pushed, numberOfMessages_pushMessage payload live.numberOfMessages_le,
      numberOfMessages_subscribedPipe]
  have delivers := deliversLatest_of_two registry used two
  rw [pushed, messages_latest_pushMessage live, subscribedPipe_zero] at delivers
  exact delivers

/-- Without a header of its own, or shorter than the header says, the message shows what was
in its slot. -/
theorem not_isolated (format : DefaultFormat P) (slotSize : 7 ≤ P.maxMessageSize) {frame : Frame}
    (fits : frame.Fits P) (uncovered : frame.payload.length < 6 ∨
      frame.payload.length < min (P.ccsdsRdLen frame.payload) P.maxMessageSize) :
    ¬ Isolated P frame := by
  intro isolated
  have arrives : available (whole frame.payload) = frame.payload ++ [] := by simp
  let buffer : Buffer P.maxMessageSize := Buffer.filled _ 0
  let msgId := getMsgId P (filledWith buffer (frame.asPayload fits))
  have ran (byte : UInt8) : ∃ rest, ingestAppMessage (stalePipe P byte msgId) buffer
      (whole frame.payload) frame.msgSz =
        some (deliver (stalePipe P byte msgId) msgId (frame.asPayload fits), rest,
          .received 0) := by
    obtain ⟨rest, ingested, -⟩ :=
      ingestAppMessage_of_frame (stalePipe P byte msgId) buffer fits arrives
    rw [ingestResult_subscribedPipe] at ingested
    exact ⟨rest, ingested⟩
  obtain ⟨nextLeft, restLeft, nextRight, restRight, result, ingestedLeft, ingestedRight, -,
    agree⟩ := isolated (stalePipe P 0 msgId) (stalePipe P 1 msgId) buffer buffer
      (whole frame.payload) (whole frame.payload) [] []
      (reachable_subscribedPipe _ [] msgId) (reachable_subscribedPipe _ [] msgId)
      (sameControl_stalePipe 0 1 msgId) arrives arrives
  obtain ⟨leftoverLeft, ranLeft⟩ := ran 0
  obtain ⟨leftoverRight, ranRight⟩ := ran 1
  rw [ranLeft] at ingestedLeft
  cases ingestedLeft
  rw [ranRight] at ingestedRight
  cases ingestedRight
  have seen := agree 0 rfl _ _ (deliversLatest_stalePipe 0 msgId (frame.asPayload fits))
    (deliversLatest_stalePipe 1 msgId (frame.asPayload fits))
  have zero := getElem?_visible_overwritten format slotSize (frame.asPayload fits) uncovered 0
  have one := getElem?_visible_overwritten format slotSize (frame.asPayload fits) uncovered 1
  rw [seen, one] at zero
  simp at zero

/-- A delivered message depends on its own frame alone, exactly when the frame has the length
field of the CCSDS header, and all the bytes that the field and the slot let the application
see. -/
theorem isolated_iff (layout : SbnLayout P) (format : DefaultFormat P) (frame : Frame)
    (fits : frame.Fits P) :
    Isolated P frame ↔ 6 ≤ frame.payload.length ∧
      min (P.ccsdsRdLen frame.payload) P.maxMessageSize ≤ frame.payload.length := by
  have slotSize : 7 ≤ P.maxMessageSize := layout.packedHdrSz_eq.symm.trans_le layout.packedHdrSz_le
  constructor
  · intro isolated
    by_contra uncovered
    refine not_isolated format slotSize fits ?_ isolated
    omega
  · rintro ⟨header, covers⟩
    exact isolated_of_covers format fits header covers

/-- Eight bytes of a message that declares sixteen, on top of zeros and on top of ones. -/
theorem stale_bytes_delivered :
    ¬ Isolated (standardPlatform 32768) ⟨3, 2, [8, 1, 0xC0, 0, 0, 9, 1, 2], by decide⟩ ∧
      (∃ tbl message, Machine.run applyOp (initPipeTbl (stalePipeTbl (standardPlatform 32768) 0))
          [.createPipe true 4 [0x41], .subscribe 0x0801 0 .complete,
            .ingestAppMessage (Buffer.filled _ 0) (whole [8, 1, 0xC0, 0, 0, 9, 1, 2]) 8,
            .rcvMsg true 0 0 (calmEnv _)] =
        some (tbl, [.created .success (some 0), .subscribed .success, .ingested (.received 0),
          .delivered .success (some message)]) ∧
        visible message = [8, 1, 0xC0, 0, 0, 9, 1, 2, 0, 0, 0, 0, 0, 0, 0, 0]) ∧
      ∃ tbl message, Machine.run applyOp (initPipeTbl (stalePipeTbl (standardPlatform 32768) 1))
          [.createPipe true 4 [0x41], .subscribe 0x0801 0 .complete,
            .ingestAppMessage (Buffer.filled _ 0) (whole [8, 1, 0xC0, 0, 0, 9, 1, 2]) 8,
            .rcvMsg true 0 0 (calmEnv _)] =
        some (tbl, [.created .success (some 0), .subscribed .success, .ingested (.received 0),
          .delivered .success (some message)]) ∧
        visible message = [8, 1, 0xC0, 0, 0, 9, 1, 2, 1, 1, 1, 1, 1, 1, 1, 1] := by
  refine ⟨?_, ⟨_, _, rfl, rfl⟩, ⟨_, _, rfl, rfl⟩⟩
  have slotSize : 7 ≤ (standardPlatform 32768).maxMessageSize := Nat.le_of_ble_eq_true rfl
  have fits : (⟨3, 2, [8, 1, 0xC0, 0, 0, 9, 1, 2], by decide⟩ : Frame).Fits
      (standardPlatform 32768) := Nat.le_of_ble_eq_true rfl
  exact not_isolated (standardPlatform_defaultFormat 32768) slotSize fits
    (.inr (Nat.le_of_ble_eq_true rfl))

/-- Eight bytes of a message that declares eight. -/
theorem whole_message_isolated :
    Isolated (standardPlatform 32768) ⟨3, 2, [8, 1, 0xC0, 0, 0, 1, 1, 2], by decide⟩ ↔
      6 ≤ [(8 : UInt8), 1, 0xC0, 0, 0, 1, 1, 2].length ∧
        min ((standardPlatform 32768).ccsdsRdLen [8, 1, 0xC0, 0, 0, 1, 1, 2])
          (standardPlatform 32768).maxMessageSize ≤
            [(8 : UInt8), 1, 0xC0, 0, 0, 1, 1, 2].length :=
  isolated_iff (standardPlatform_sbnLayout (by decide)) (standardPlatform_defaultFormat 32768)
    ⟨3, 2, [8, 1, 0xC0, 0, 0, 1, 1, 2], by decide⟩ (Nat.le_of_ble_eq_true rfl)

end SbnClient
