import SbnClient.Model.Ingest

/-!
# Pipe management, subscription and output

`__wrap_CFE_SB_CreatePipe`, `__wrap_CFE_SB_DeletePipe`, `__wrap_CFE_SB_Subscribe` and
the three functions that write to the socket.  How much one `write` accepts is chosen
by its environment; every writer returns the bytes that it put on the socket.  A writer
is its part before `write` followed by its part from there on.
-/

namespace SbnClient

variable {P : Platform}

/-! ## Pipe management -/

/-- `strncpy` of a C string into an array of `size` bytes. -/
def strncpy (size : Nat) (text : List UInt8) : Buffer size where
  bytes :=
    let copied := (text.takeWhile (· ≠ 0)).take size
    copied ++ List.replicate (size - copied.length) 0
  length_bytes := by
    simp only [List.length_append, List.length_replicate, List.length_take]
    omega

/-- What `__wrap_CFE_SB_CreatePipe` leaves behind; `pipeId` is what it stored at `PipeIdPtr`. -/
structure Created (P : Platform) where
  tbl : PipeTbl P
  status : Status
  pipeId : Option UInt8

/-- `__wrap_CFE_SB_CreatePipe`; `pipeIdPtr` tells whether the pointer is non-null. -/
def createPipe (tbl : PipeTbl P) (pipeIdPtr : Bool) (depth : UInt16) (pipeName : List UInt8) :
    Created P :=
  if ¬ pipeIdPtr then
    ⟨tbl, .badArgument, none⟩
  else if depth.toNat > maxPipeDepth ∨ depth = 0 then
    ⟨tbl, .badArgument, some invalidPipe⟩
  else
    match Fin.find? fun i => (tbl i).inUse ≠ inUse with
    | some i =>
        let pipe := { tbl i with
          inUse := inUse
          pipeId := indexId i
          sendErrors := 0
          pipeName := strncpy P.osMaxApiName pipeName }
        ⟨Function.update tbl i pipe, .success, some (indexId i)⟩
    | none => ⟨tbl, .maxPipesMet, some invalidPipe⟩

/-- `__wrap_CFE_SB_DeletePipe`.  The search ends at the first entry with the id, in use
or not. -/
def deletePipe (tbl : PipeTbl P) (pipeId : UInt8) : PipeTbl P × Status :=
  match Fin.find? fun i => (tbl i).pipeId = pipeId with
  | some i =>
      if (tbl i).inUse = inUse then
        (Function.update tbl i (invalidatePipe (tbl i)), .success)
      else
        (tbl, .minusOne)
  | none => (tbl, .minusTwo)

/-! ## Output -/

/-- How much of its buffer one `write` accepts. -/
inductive WriteOutcome where
  | failed
  | short (count : Nat)
  | complete
  deriving DecidableEq, Repr

/-- `write`: its result and the bytes it put on the socket. -/
def write (outcome : WriteOutcome) (buffer : List UInt8) : Int × List UInt8 :=
  match outcome with
  | .failed => (-1, [])
  | .short count => (min count buffer.length, buffer.take count)
  | .complete => (buffer.length, buffer)

/-- `write_message`, which returns the result of `write` as a `size_t`. -/
def writeMessage (outcome : WriteOutcome) (buffer : List UInt8) : Nat × List UInt8 :=
  let (result, written) := write outcome buffer
  ((result % 2 ^ 64).toNat, written)

/-- How far a function gets without its `write`. -/
inductive Prepared (α : Type*) where
  | writes (buffer : List UInt8)
  | returns (value : α)

/-- What is returned does not touch the bytes to write. -/
def Prepared.map {α β : Type*} (f : α → β) : Prepared α → Prepared β
  | .writes buffer => .writes buffer
  | .returns value => .returns (f value)

/-- The function to its end, where `finish` is its part from the `write` on. -/
def Prepared.andThen {α : Type*} (finish : List UInt8 → α × List UInt8) :
    Prepared α → α × List UInt8
  | .writes buffer => finish buffer
  | .returns value => (value, [])

/-- `CFE_SB_Qos_t` -/
structure Qos where
  priority : UInt8
  reliability : UInt8

/-- The bytes of `CFE_SB_Qos_t` in memory. -/
def Qos.bytes (qos : Qos) : List UInt8 :=
  [qos.priority, qos.reliability]

/-- The subscription message that `SendSubToSbn` packs. -/
def packSub (P : Platform) (subType : UInt8) (msgId : MsgId P) (qos : Qos) :
    Cursor P.packedSubSz :=
  let cursor := P.packInit (Buffer.filled P.packedSubSz 0) false
  let cursor := P.packUInt16 cursor 54
  let cursor := P.packUInt8 cursor subType
  let cursor := P.packUInt32 cursor 2
  let cursor := P.packData cursor P.sbnIdent
  let cursor := P.packUInt16 cursor 1
  let cursor := P.packMsgID cursor msgId
  P.packData cursor qos.bytes

/-- `SendSubToSbn` from its `write_message` on.  A `write` that fell short is only logged. -/
def finishSub (outcome : WriteOutcome) (buffer : List UInt8) : List UInt8 :=
  (writeMessage outcome buffer).2

/-- `SendSubToSbn` -/
def sendSubToSbn (P : Platform) (subType : UInt8) (msgId : MsgId P) (qos : Qos)
    (outcome : WriteOutcome) : List UInt8 :=
  finishSub outcome (packSub P subType msgId qos).packed

/-- The assignment `PipeTbl[PipeIdx].SubscribedMsgIds[MsgIdIdx] = MsgId` -/
def setSubscribedMsgId? (tbl : PipeTbl P) (pipeIdx msgIdIdx : UInt8) (msgId : MsgId P) :
    Option (PipeTbl P) :=
  if inRange : pipeIdx.toNat < maxPipes ∧ msgIdIdx.toNat < maxMsgIdsPerPipe then
    let i : Fin maxPipes := ⟨pipeIdx.toNat, inRange.1⟩
    let j : Fin maxMsgIdsPerPipe := ⟨msgIdIdx.toNat, inRange.2⟩
    let pipe := { tbl i with
      subscribedMsgIds := Function.update (tbl i).subscribedMsgIds j msgId }
    some (Function.update tbl i pipe)
  else
    none

/-- `__wrap_CFE_SB_Subscribe` up to the `write` of `SendSubToSbn`.  The free slot is looked up
by `PipeId` and written by `PipeIdx`. -/
def prepareSubscribe (tbl : PipeTbl P) (msgId : MsgId P) (pipeId : UInt8) :
    Option (PipeTbl P × Prepared Status) :=
  (getPipeIdx tbl pipeId).bind fun pipeIdx =>
    if pipeIdx = invalidPipe then
      some (tbl, .returns .badArgument)
    else
      (getMessageSubscribeIndex tbl pipeId).bind fun msgIdIdx =>
        if msgIdIdx = maxMsgIdsMet then
          some (tbl, .returns .badArgument)
        else
          (setSubscribedMsgId? tbl pipeIdx msgIdIdx msgId).map fun tbl =>
            (tbl, .writes (packSub P P.sbnSubMsg msgId ⟨0, 0⟩).packed)

/-- `__wrap_CFE_SB_Subscribe` from the `write` of `SendSubToSbn` on -/
def finishSubscribe (outcome : WriteOutcome) (buffer : List UInt8) : Status × List UInt8 :=
  (.success, finishSub outcome buffer)

/-- `__wrap_CFE_SB_Subscribe` -/
def subscribe (tbl : PipeTbl P) (msgId : MsgId P) (pipeId : UInt8) (outcome : WriteOutcome) :
    Option (PipeTbl P × Status × List UInt8) :=
  (prepareSubscribe tbl msgId pipeId).map fun (tbl, prepared) =>
    (tbl, prepared.andThen (finishSubscribe outcome))

/-- `CFE_SBN_Client_GetTotalMsgLength` of the message that `memory` starts with. -/
def getTotalMsgLength (P : Platform) (memory : List UInt8) : UInt16 :=
  UInt16.ofNat (P.ccsdsRdLen memory)

/-- The header that `__wrap_CFE_SB_SendMsg` packs into the memory that `malloc` returned. -/
def packAppHdr (P : Platform) (cpuId : Int32) {size : Nat} (buffer : Buffer size)
    (msgSize : UInt16) : Cursor size :=
  let cursor := P.packInit buffer false
  let cursor := P.packUInt16 cursor msgSize
  let cursor := P.packUInt8 cursor P.sbnAppMsg
  P.packUInt32 cursor cpuId.toUInt32

/-- The local `total_size` of `__wrap_CFE_SB_SendMsg` -/
def totalSize (P : Platform) (memory : List UInt8) : Nat :=
  (getTotalMsgLength P memory).toNat + P.packedHdrSz

/-- `__wrap_CFE_SB_SendMsg` of the message at the start of `memory` up to its
`write_message`, where `malloc` is the old contents of a fresh allocation and `cpuId` is
`sbn_client_cpuId`. -/
def prepareMsg (P : Platform) (cpuId : Int32) (malloc : (size : Nat) → Buffer size)
    (memory : List UInt8) : Option (Prepared Status) :=
  let msgSize := getTotalMsgLength P memory
  if P.maxMessageSize < totalSize P memory then
    some (.returns .msgTooBig)
  else if memory.length < msgSize.toNat then
    none
  else
    let buffer := (packAppHdr P cpuId (malloc (totalSize P memory)) msgSize).buf
    (buffer.store? P.packedHdrSz (memory.take msgSize.toNat)).map fun buffer =>
      .writes buffer.bytes

/-- `__wrap_CFE_SB_SendMsg` from its `write_message` on -/
def finishMsg (P : Platform) (memory : List UInt8) (outcome : WriteOutcome)
    (buffer : List UInt8) : Status × List UInt8 :=
  let (result, written) := writeMessage outcome buffer
  (if result ≠ totalSize P memory then .bufAlocErr else .success, written)

/-- `__wrap_CFE_SB_SendMsg` -/
def sendMsg (P : Platform) (cpuId : Int32) (malloc : (size : Nat) → Buffer size)
    (memory : List UInt8) (outcome : WriteOutcome) : Option (Status × List UInt8) :=
  (prepareMsg P cpuId malloc memory).map (Prepared.andThen (finishMsg P memory outcome))

/-- The header that `send_heartbeat` packs. -/
def packHeartbeat (P : Platform) : Cursor P.packedHdrSz :=
  let cursor := P.packInit (Buffer.filled P.packedHdrSz 0) false
  let cursor := P.packUInt16 cursor 0
  let cursor := P.packUInt8 cursor sbnHeartbeatMsg
  P.packUInt32 cursor 2

/-- `send_heartbeat` -/
def sendHeartbeat (P : Platform) (outcome : WriteOutcome) : Int × List UInt8 :=
  write outcome (packHeartbeat P).buf.bytes

end SbnClient
