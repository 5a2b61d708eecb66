import SbnClient.Foundations.SegmentedInput
import SbnClient.Model.PipeTable

/-!
# Reading and routing messages

`CFE_SBN_Client_ReadBytes`, `ingest_app_message` and `recv_msg`.  `none` is undefined
behaviour: a byte stored outside its buffer, an index outside the table, a wrapped
size or an overflowing `int`.  The socket is what is still to arrive on it, cut into
segments by the network.  Log messages are left out; `IngestResult` tells which of
them `ingest_app_message` ends with.
-/

namespace SbnClient

open SegmentedInput

/-- What is still to arrive on the socket. -/
abbrev Socket := List (Arrival UInt8)

/-- `INT_MAX` -/
def intMax : Nat := 2 ^ 31 - 1

/-! ## Reading -/

/-- The loop of `CFE_SBN_Client_ReadBytes`.  Every successful `read` delivers a byte,
so `MsgSz` turns are enough. -/
def readLoop {size : Nat} (msgSz : Nat) :
    Nat → Buffer size → Nat → Socket → Option (Status × Buffer size × Socket)
  | fuel, buffer, total, socket =>
      if total = msgSz then
        some (.success, buffer, socket)
      else
        match fuel with
        | 0 => none
        | fuel + 1 =>
            -- `MsgSz - total_bytes_recd` is a `size_t`
            if msgSz < total then none
            else
              match read socket (msgSz - total) with
              | (.failed, socket) => some (.pipeBrokenErr, buffer, socket)
              | (.closed, socket) => some (.pipeClosedErr, buffer, socket)
              | (.received chunk, socket) =>
                  -- both byte counters are `int`s
                  if intMax < total + chunk.length then none
                  else
                    match buffer.store? total chunk with
                    | none => none
                    | some buffer => readLoop msgSz fuel buffer (total + chunk.length) socket

/-- `CFE_SBN_Client_ReadBytes` into `buffer` -/
def readBytes (P : Platform) {size : Nat} (socket : Socket) (buffer : Buffer size)
    (msgSz : Nat) : Option (Status × Buffer size × Socket) :=
  if P.maxMessageSize < msgSz then
    some (.badArgument, buffer, socket)
  else
    readLoop msgSz msgSz buffer 0 socket

/-! ## Routing -/

variable {P : Platform}

/-- `CFE_SBN_Client_GetMsgId` of the message that `memory` starts with. -/
def getMsgId (P : Platform) (memory : List UInt8) : MsgId P :=
  match P.messageFormat with
  | .ccsdsVer1 rdSid => BitVec.ofNat P.msgIdBits (rdSid memory)
  | .ccsdsVer2 rdApid rdType rdSubsystemId cmd cmdMessageType =>
      let apid := BitVec.ofNat P.msgIdBits (rdApid memory)
      let msgId :=
        if rdType memory = cmd then apid ||| BitVec.ofNat P.msgIdBits cmdMessageType else apid
      msgId ||| BitVec.ofNat P.msgIdBits (rdSubsystemId memory <<< 8)

/-- Some slot of `SubscribedMsgIds` equals the id; free slots are compared like any other. -/
def PipeD.Subscribed (pipe : PipeD P) (msgId : MsgId P) : Prop :=
  ∃ j, pipe.subscribedMsgIds j = msgId

instance (pipe : PipeD P) (msgId : MsgId P) : Decidable (pipe.Subscribed msgId) :=
  inferInstanceAs (Decidable (∃ j, pipe.subscribedMsgIds j = msgId))

/-- The pipe at which the two nested loops of `ingest_app_message` return. -/
def route (tbl : PipeTbl P) (msgId : MsgId P) : Option (Fin maxPipes) :=
  Fin.find? fun i => (tbl i).inUse = inUse ∧ (tbl i).Subscribed msgId

/-- `memcpy` of `msgSz` bytes of `msgBuffer` into a slot that C does not check. -/
def PipeD.storeMessage? (pipe : PipeD P) (slot : Nat) (msgBuffer : Buffer P.maxMessageSize)
    (msgSz : Nat) : Option (PipeD P) :=
  if inRange : slot < maxPipeDepth ∧ msgSz ≤ P.maxMessageSize then
    let entry : Fin maxPipeDepth := ⟨slot, inRange.1⟩
    ((pipe.messages entry).store? 0 (msgBuffer.read msgSz)).map fun message =>
      { pipe with messages := Function.update pipe.messages entry message }
  else
    none

/-- Where `ingest_app_message` returns. -/
inductive IngestResult where
  | readFailed (status : Status)
  | pipeOverflow (pipe : Fin maxPipes)
  /-- The only exit that signals `received_condition`. -/
  | received (pipe : Fin maxPipes)
  | noSubscription
  | noPipesInUse
  deriving DecidableEq, Repr

/-- What `ingest_app_message` does while it holds `receive_mutex`.  Both branches of the
innermost `if` return, so no pipe after the first match is looked at. -/
def enqueueMessage (tbl : PipeTbl P) (msgBuffer : Buffer P.maxMessageSize) (msgSz : Nat) :
    Option (PipeTbl P × IngestResult) :=
  match route tbl (getMsgId P msgBuffer.bytes) with
  | some i =>
      if (tbl i).numberOfMessages = maxPipeDepth then
        some (tbl, .pipeOverflow i)
      else
        ((tbl i).storeMessage? (messageEntryPoint (tbl i)) msgBuffer msgSz).map fun pipe =>
          let pipe := { pipe with numberOfMessages := uint32 (pipe.numberOfMessages + 1) }
          (Function.update tbl i pipe, .received i)
  | none =>
      some (tbl, if ∃ i, (tbl i).inUse = inUse then .noSubscription else .noPipesInUse)

/-- `ingest_app_message`, with `msgBuffer` uninitialised at the start. -/
def ingestAppMessage (tbl : PipeTbl P) (msgBuffer : Buffer P.maxMessageSize) (socket : Socket)
    (msgSz : UInt16) : Option (PipeTbl P × Socket × IngestResult) :=
  (readBytes P socket msgBuffer msgSz.toNat).bind fun (status, msgBuffer, socket) =>
    if status ≠ .success then
      some (tbl, socket, .readFailed status)
    else
      (enqueueMessage tbl msgBuffer msgSz.toNat).map fun (tbl, result) => (tbl, socket, result)

/-! ## Dispatch -/

/-- The uninitialised local buffers of one `recv_msg` call. -/
structure RecvLocals (P : Platform) where
  sbnHdrBuffer : Buffer P.packedHdrSz
  msg : Buffer P.maxMessageSize
  msgBuffer : Buffer P.maxMessageSize

/-- The fields of an unpacked SBN header. -/
structure SbnHdr where
  msgSz : UInt16
  msgType : UInt8
  cpuId : UInt32

/-- The three `Unpack` calls of `recv_msg`. -/
def unpackSbnHdr (P : Platform) (sbnHdrBuffer : Buffer P.packedHdrSz) : SbnHdr :=
  let cursor := P.unpackInit sbnHdrBuffer
  let (cursor, msgSz) := P.unpackUInt16 cursor
  let (cursor, msgType) := P.unpackUInt8 cursor
  let (_, cpuId) := P.unpackUInt32 cursor
  ⟨msgSz, msgType, cpuId⟩

/-- What one `recv_msg` call leaves behind. -/
structure Received (P : Platform) where
  status : Status
  tbl : PipeTbl P
  socket : Socket

/-- The message types whose payload `recv_msg` reads and drops. -/
def dropped (P : Platform) : List UInt8 :=
  [P.sbnNoMsg, P.sbnSubMsg, P.sbnUnsubMsg, P.sbnProtoMsg, sbnHeartbeatMsg]

/-- The `switch` of `recv_msg`. -/
def recvPayload (tbl : PipeTbl P) (locals : RecvLocals P) (hdr : SbnHdr) (socket : Socket) :
    Option (Received P) :=
  if hdr.msgType ∈ dropped P then
    (readBytes P socket locals.msg hdr.msgSz.toNat).map fun (status, _, socket) =>
      ⟨status, tbl, socket⟩
  else if hdr.msgType = P.sbnAppMsg then
    (ingestAppMessage tbl locals.msgBuffer socket hdr.msgSz).map fun (tbl, socket, _) =>
      ⟨.success, tbl, socket⟩
  else
    some ⟨.evsError, tbl, socket⟩

/-- `recv_msg` -/
def recvMsg (tbl : PipeTbl P) (locals : RecvLocals P) (socket : Socket) : Option (Received P) :=
  (readBytes P socket locals.sbnHdrBuffer P.packedHdrSz).bind fun (status, sbnHdrBuffer, socket) =>
    if status ≠ .success then
      some ⟨status, tbl, socket⟩
    else
      recvPayload tbl locals (unpackSbnHdr P sbnHdrBuffer) socket

end SbnClient
