import SbnClient.Input.Reading

/-!
# Routing a message that has been read

The rule that `ingest_app_message` implements once it has a payload: the first pipe in
use with a matching slot takes it, unless that pipe is full.  `deliver` is the rule on
the table; `enqueueMessage` is shown to be it.
-/

namespace SbnClient

open Wire

variable {P : Platform}

/-- The bytes of a message that fits a slot. -/
structure Payload (P : Platform) where
  bytes : List UInt8
  length_le : bytes.length ≤ P.maxMessageSize

/-- The message id of a payload in the default CCSDS header format. -/
def Payload.msgId (payload : Payload P) : MsgId P :=
  BitVec.ofNat P.msgIdBits (ofBigEndian (payload.bytes.take 2))

/-- The slot that the next message enters. -/
def entrySlot (pipe : PipeD P) : Fin maxPipeDepth :=
  ⟨messageEntryPoint pipe, messageEntryPoint_lt pipe⟩

/-- The pipe with one more message. -/
def pushMessage (pipe : PipeD P) (payload : Payload P) : PipeD P :=
  { pipe with
    messages := Function.update pipe.messages (entrySlot pipe)
      ((pipe.messages (entrySlot pipe)).store 0 payload.bytes (by simpa using payload.length_le))
    numberOfMessages := uint32 (pipe.numberOfMessages + 1) }

/-- The routing rule. -/
def deliver (tbl : PipeTbl P) (msgId : MsgId P) (payload : Payload P) : PipeTbl P :=
  match route tbl msgId with
  | some i =>
      if (tbl i).numberOfMessages = maxPipeDepth then tbl
      else Function.update tbl i (pushMessage (tbl i) payload)
  | none => tbl

/-- Where `ingest_app_message` returns for a message with this id. -/
def ingestResult (tbl : PipeTbl P) (msgId : MsgId P) : IngestResult :=
  match route tbl msgId with
  | some i => if (tbl i).numberOfMessages = maxPipeDepth then .pipeOverflow i else .received i
  | none => if ∃ i, (tbl i).inUse = inUse then .noSubscription else .noPipesInUse

/-! ## The code is the rule -/

theorem route_eq_some_iff {tbl : PipeTbl P} {msgId : MsgId P} {i : Fin maxPipes} :
    route tbl msgId = some i ↔ ((tbl i).inUse = inUse ∧ (tbl i).Subscribed msgId) ∧
      ∀ k < i, ¬ ((tbl k).inUse = inUse ∧ (tbl k).Subscribed msgId) := by
  rw [route, Fin.find?_eq_some_iff]
  simp

theorem route_eq_none_iff {tbl : PipeTbl P} {msgId : MsgId P} :
    route tbl msgId = none ↔ ∀ i, ¬ ((tbl i).inUse = inUse ∧ (tbl i).Subscribed msgId) := by
  rw [route, Fin.find?_eq_none_iff]
  simp

/-- Which pipe gets a message depends only on which pipes are in use and on their slots. -/
theorem route_congr {left right : PipeTbl P}
    (inUse_eq : ∀ i, (left i).inUse = (right i).inUse)
    (slots_eq : ∀ i, (left i).subscribedMsgIds = (right i).subscribedMsgIds) (msgId : MsgId P) :
    route left msgId = route right msgId := by
  refine congrArg Fin.find? (funext fun i => decide_eq_decide.mpr ?_)
  rw [inUse_eq i, PipeD.Subscribed, PipeD.Subscribed, slots_eq i]

/-- A change of one pipe that keeps its use and its slots changes no route. -/
theorem route_update (tbl : PipeTbl P) (i : Fin maxPipes) (pipe : PipeD P)
    (inUse_eq : pipe.inUse = (tbl i).inUse)
    (slots_eq : pipe.subscribedMsgIds = (tbl i).subscribedMsgIds) (msgId : MsgId P) :
    route (Function.update tbl i pipe) msgId = route tbl msgId := by
  refine route_congr (fun k => ?_) (fun k => ?_) msgId
  · by_cases same : k = i <;> simp [same, inUse_eq]
  · by_cases same : k = i <;> simp [same, slots_eq]

/-- A message that is put into a pipe changes no route. -/
theorem route_update_pushMessage (tbl : PipeTbl P) (i : Fin maxPipes) (payload : Payload P)
    (msgId : MsgId P) :
    route (Function.update tbl i (pushMessage (tbl i) payload)) msgId = route tbl msgId :=
  route_update tbl i (pushMessage (tbl i) payload) rfl rfl msgId

theorem ingestResult_eq_received_iff {tbl : PipeTbl P} {msgId : MsgId P} {i : Fin maxPipes} :
    ingestResult tbl msgId = .received i ↔
      route tbl msgId = some i ∧ (tbl i).numberOfMessages ≠ maxPipeDepth := by
  rw [ingestResult]
  cases route tbl msgId with
  | none =>
      simp only
      split <;> simp
  | some k =>
      simp only
      split
      next full =>
        refine iff_of_false (by simp) ?_
        rintro ⟨same, room⟩
        cases same
        exact room full
      next room =>
        simp only [IngestResult.received.injEq, Option.some.injEq]
        exact ⟨fun same => ⟨same, same ▸ room⟩, And.left⟩

theorem ingestResult_eq_pipeOverflow_iff {tbl : PipeTbl P} {msgId : MsgId P}
    {i : Fin maxPipes} : ingestResult tbl msgId = .pipeOverflow i ↔
      route tbl msgId = some i ∧ (tbl i).numberOfMessages = maxPipeDepth := by
  rw [ingestResult]
  cases route tbl msgId with
  | none =>
      simp only
      split <;> simp
  | some k =>
      simp only
      split
      next full =>
        simp only [IngestResult.pipeOverflow.injEq, Option.some.injEq]
        exact ⟨fun same => ⟨same, same ▸ full⟩, And.left⟩
      next room =>
        refine iff_of_false (by simp) ?_
        rintro ⟨same, full⟩
        cases same
        exact room full

/-- The copy into a slot never leaves the slot or the array of slots. -/
theorem storeMessage?_entry (pipe : PipeD P) {msgBuffer : Buffer P.maxMessageSize}
    {payload : Payload P} (read : msgBuffer.read payload.bytes.length = payload.bytes) :
    (pipe.storeMessage? (messageEntryPoint pipe) msgBuffer payload.bytes.length).map
        (fun pipe => { pipe with numberOfMessages := uint32 (pipe.numberOfMessages + 1) }) =
      some (pushMessage pipe payload) := by
  have fits : 0 + payload.bytes.length ≤ P.maxMessageSize := by
    simpa using payload.length_le
  simp [PipeD.storeMessage?, payload.length_le, read, Buffer.store?_eq_some fits, pushMessage,
    entrySlot]

theorem enqueueMessage_eq (tbl : PipeTbl P) {msgBuffer : Buffer P.maxMessageSize}
    {payload : Payload P} (read : msgBuffer.read payload.bytes.length = payload.bytes) :
    enqueueMessage tbl msgBuffer payload.bytes.length =
      some (deliver tbl (getMsgId P msgBuffer.bytes) payload,
        ingestResult tbl (getMsgId P msgBuffer.bytes)) := by
  rw [enqueueMessage, deliver, ingestResult]
  cases found : route tbl (getMsgId P msgBuffer.bytes) with
  | none => rfl
  | some i =>
      simp only
      split
      · rfl
      · have stored := storeMessage?_entry (tbl i) read
        obtain ⟨pipe, stored, pushed⟩ := Option.map_eq_some_iff.mp stored
        rw [stored, ← pushed]
        rfl

/-! ## A whole `ingest_app_message` -/

/-- What is in `msg_buffer` after a payload has been read into it. -/
def filledWith (msgBuffer : Buffer P.maxMessageSize) (payload : Payload P) : List UInt8 :=
  payload.bytes ++ msgBuffer.bytes.drop payload.bytes.length

/-- `CFE_SBN_Client_GetMsgId` in the default format. -/
theorem getMsgId_of_defaultFormat (format : DefaultFormat P) {memory : List UInt8}
    (long : 2 ≤ memory.length) :
    getMsgId P memory = BitVec.ofNat P.msgIdBits (ofBigEndian (memory.take 2)) := by
  obtain ⟨rdSid, formatEq, rdSidEq⟩ := format.messageFormat_eq
  rw [getMsgId, formatEq]
  exact congrArg (BitVec.ofNat P.msgIdBits) (rdSidEq memory long)

/-- In the default format two bytes of payload decide the id, whatever was in the buffer. -/
theorem getMsgId_filledWith (format : DefaultFormat P) (msgBuffer : Buffer P.maxMessageSize)
    {payload : Payload P} (long : 2 ≤ payload.bytes.length) :
    getMsgId P (filledWith msgBuffer payload) = payload.msgId := by
  have enough : 2 ≤ (filledWith msgBuffer payload).length := by
    rw [filledWith, List.length_append]
    omega
  have front : (filledWith msgBuffer payload).take 2 = payload.bytes.take 2 :=
    List.take_append_of_le_length long
  rw [getMsgId_of_defaultFormat format enough, front, Payload.msgId]

/-- The payload of `count` bytes at the front of what is available. -/
def incoming (socket : Socket) (count : Nat) (accepted : count ≤ P.maxMessageSize) : Payload P :=
  ⟨(SegmentedInput.available socket).take count, (List.length_take_le _ _).trans accepted⟩

theorem toNat_le_intMax (msgSz : UInt16) : msgSz.toNat ≤ intMax := by
  have := msgSz.toNat_lt
  rw [intMax]
  omega

theorem packedHdrSz_le_intMax (P : Platform) : P.packedHdrSz ≤ intMax := by
  have := P.packedHdrSz_lt
  rw [intMax]
  omega

/-- A payload that arrives completely is routed. -/
theorem ingestAppMessage_of_complete (tbl : PipeTbl P) (msgBuffer : Buffer P.maxMessageSize)
    {socket : Socket} {msgSz : UInt16} (accepted : msgSz.toNat ≤ P.maxMessageSize)
    (complete : msgSz.toNat ≤ (SegmentedInput.available socket).length) :
    ∃ rest, ingestAppMessage tbl msgBuffer socket msgSz =
        some (deliver tbl (getMsgId P (filledWith msgBuffer (incoming socket _ accepted)))
            (incoming socket _ accepted),
          rest, ingestResult tbl (getMsgId P (filledWith msgBuffer (incoming socket _ accepted)))) ∧
      SegmentedInput.available rest = (SegmentedInput.available socket).drop msgSz.toNat := by
  obtain ⟨⟨status, filled, rest⟩, ran, reads⟩ :=
    readBytes_spec accepted accepted (toNat_le_intMax msgSz) socket msgBuffer
  have success : status = .success := reads.success_iff.mpr complete
  have length : (incoming (P := P) socket _ accepted).bytes.length = msgSz.toNat :=
    List.length_take_of_le complete
  have contents : filled.bytes = filledWith msgBuffer (incoming socket _ accepted) := by
    rw [filledWith, length]
    exact reads.bytes_eq complete
  have front : filled.read (incoming (P := P) socket _ accepted).bytes.length =
      (incoming (P := P) socket _ accepted).bytes := by
    rw [Buffer.read, contents, filledWith, List.take_left]
  have enqueued := enqueueMessage_eq tbl front
  rw [contents, length] at enqueued
  refine ⟨rest, ?_, reads.consumed complete⟩
  simp [ingestAppMessage, ran, success, enqueued]

/-- In the default format the id is that of the payload, when it has one. -/
theorem ingestAppMessage_of_defaultFormat (format : DefaultFormat P) (tbl : PipeTbl P)
    (msgBuffer : Buffer P.maxMessageSize) {socket : Socket} {msgSz : UInt16}
    (long : 2 ≤ msgSz.toNat) (accepted : msgSz.toNat ≤ P.maxMessageSize)
    (complete : msgSz.toNat ≤ (SegmentedInput.available socket).length) :
    ∃ rest, ingestAppMessage tbl msgBuffer socket msgSz =
        some (deliver tbl (incoming socket _ accepted).msgId (incoming socket _ accepted), rest,
          ingestResult tbl (incoming (P := P) socket _ accepted).msgId) ∧
      SegmentedInput.available rest = (SegmentedInput.available socket).drop msgSz.toNat := by
  have length : 2 ≤ (incoming (P := P) socket _ accepted).bytes.length :=
    le_of_le_of_eq long (List.length_take_of_le complete).symm
  rw [← getMsgId_filledWith format msgBuffer length]
  exact ingestAppMessage_of_complete tbl msgBuffer accepted complete

/-- A payload that is too large or does not arrive changes nothing. -/
theorem ingestAppMessage_of_incomplete (tbl : PipeTbl P) (msgBuffer : Buffer P.maxMessageSize)
    {socket : Socket} {msgSz : UInt16}
    (incomplete : P.maxMessageSize < msgSz.toNat ∨
      (SegmentedInput.available socket).length < msgSz.toNat) :
    ∃ rest status, ingestAppMessage tbl msgBuffer socket msgSz =
      some (tbl, rest, .readFailed status) := by
  by_cases accepted : msgSz.toNat ≤ P.maxMessageSize
  · obtain ⟨⟨status, filled, rest⟩, ran, reads⟩ :=
      readBytes_spec accepted accepted (toNat_le_intMax msgSz) socket msgBuffer
    have failing : status ≠ .success := by
      intro success
      have := reads.success_iff.mp success
      omega
    exact ⟨rest, status, by simp [ingestAppMessage, ran, failing]⟩
  · exact ⟨socket, .badArgument, by
      simp [ingestAppMessage, readBytes_tooLarge (Nat.not_le.mp accepted)]⟩

end SbnClient
