import Mathlib.Data.Fin.Tuple.Basic
import Mathlib.Logic.Function.Basic
import SbnClient.Model.Platform

/-!
# The pipe table

`PipeTbl` and the functions that search or reset it.  An index that C would use
without a range check goes through `PipeTbl.at?`, where `none` is the access
outside the table.  Counters are `uint32`, so they are reduced where they are updated.

`AppName`, `Opts`, `Spare`, `AppId`, `LastSender` and `QueueDepth` of a pipe, and the
table `MsgId_Subscriptions`, are used by no function and are left out.
-/

namespace SbnClient

/-! ## Constants -/

/-- `CFE_PLATFORM_SBN_CLIENT_MAX_PIPES` -/
abbrev maxPipes : Nat := 5
/-- `CFE_PLATFORM_SBN_CLIENT_MAX_PIPE_DEPTH` -/
abbrev maxPipeDepth : Nat := 32
/-- `CFE_SBN_CLIENT_MAX_MSG_IDS_PER_PIPE` -/
abbrev maxMsgIdsPerPipe : Nat := 4
/-- `CFE_SBN_CLIENT_NOT_IN_USE` -/
def notInUse : UInt8 := 0
/-- `CFE_SBN_CLIENT_IN_USE` -/
def inUse : UInt8 := 1
/-- `CFE_SBN_CLIENT_UNUSED_QUEUE` -/
def unusedQueue : UInt32 := 0xFFFF
/-- `CFE_SBN_CLIENT_INVALID_PIPE` -/
def invalidPipe : UInt8 := 0xFF
/-- `CFE_SBN_CLIENT_MAX_MSG_IDS_MET` -/
def maxMsgIdsMet : UInt8 := 0xFF

/-- The status codes.  `CFE_SUCCESS` and `SBN_CLIENT_SUCCESS` are both zero, and
`CFE_SBN_CLIENT_BAD_ARGUMENT` is `CFE_SB_BAD_ARGUMENT`. -/
inductive Status where
  | success
  | badArgument
  | maxPipesMet
  | pipeBrokenErr
  | pipeClosedErr
  | evsError
  | noMessage
  | timeOut
  | pipeRdErr
  | msgTooBig
  | bufAlocErr
  /-- `-1`, which only `__wrap_CFE_SB_DeletePipe` returns. -/
  | minusOne
  /-- `-2`, which only `__wrap_CFE_SB_DeletePipe` returns. -/
  | minusTwo
  deriving DecidableEq, Repr

/-- The value a `uint32` holds after `value` is assigned to it. -/
def uint32 (value : Int) : Nat :=
  (value % 2 ^ 32).toNat

/-! ## Pipes -/

/-- `CFE_SBN_Client_PipeD_t` -/
structure PipeD (P : Platform) where
  inUse : UInt8
  pipeId : UInt8
  pipeName : Buffer P.osMaxApiName
  sysQueueId : UInt32
  sendErrors : UInt16
  numberOfMessages : Nat
  readMessage : Nat
  messages : Fin maxPipeDepth → Buffer P.maxMessageSize
  subscribedMsgIds : Fin maxMsgIdsPerPipe → MsgId P

/-- `PipeTbl` -/
abbrev PipeTbl (P : Platform) := Fin maxPipes → PipeD P

variable {P : Platform}

/-- The entry in use at an index that the caller has not checked. -/
def PipeTbl.at? (tbl : PipeTbl P) (index : Nat) : Option (PipeD P) :=
  if inRange : index < maxPipes then some (tbl ⟨index, inRange⟩) else none

/-- `message_entry_point` -/
def messageEntryPoint (pipe : PipeD P) : Nat :=
  uint32 (pipe.readMessage + pipe.numberOfMessages) % maxPipeDepth

/-- `invalidate_pipe` -/
def invalidatePipe (pipe : PipeD P) : PipeD P :=
  { pipe with
    inUse := notInUse
    sysQueueId := unusedQueue
    pipeId := invalidPipe
    numberOfMessages := 1
    readMessage := maxPipeDepth - 1
    pipeName := Buffer.filled P.osMaxApiName 0
    subscribedMsgIds := fun _ => invalidMsgId }

/-- `CFE_SBN_Client_InitPipeTbl`, whatever the table held before. -/
def initPipeTbl (tbl : PipeTbl P) : PipeTbl P :=
  fun i => invalidatePipe (tbl i)

/-! ## Searches -/

/-- The index found by a search as a `uint8`, or the value for "not found". -/
def indexOr {size : Nat} (missing : UInt8) : Option (Fin size) → UInt8
  | some i => UInt8.ofNat i
  | none => missing

/-- `CFE_SBN_Client_GetAvailPipeIdx` -/
def getAvailPipeIdx (tbl : PipeTbl P) : UInt8 :=
  indexOr invalidPipe (Fin.find? fun i => (tbl i).inUse = notInUse)

/-- The search over the whole table in `CFE_SBN_Client_GetPipeIdx`. -/
def searchPipeIdx (tbl : PipeTbl P) (pipeId : UInt8) : UInt8 :=
  indexOr invalidPipe (Fin.find? fun i => (tbl i).pipeId = pipeId ∧ (tbl i).inUse = inUse)

/-- `CFE_SBN_Client_GetPipeIdx`.  The quick check indexes the table by the id. -/
def getPipeIdx (tbl : PipeTbl P) (pipeId : UInt8) : Option UInt8 :=
  (tbl.at? pipeId.toNat).map fun pipe =>
    if pipe.pipeId = pipeId ∧ pipe.inUse = inUse then pipeId else searchPipeIdx tbl pipeId

/-- `CFE_SBN_Client_GetMessageSubscribeIndex` -/
def getMessageSubscribeIndex (tbl : PipeTbl P) (pipeId : UInt8) : Option UInt8 :=
  (tbl.at? pipeId.toNat).map fun pipe =>
    indexOr maxMsgIdsMet (Fin.find? fun j => pipe.subscribedMsgIds j = invalidMsgId)

/-! ## Facts about indices and reset pipes -/

theorem maxPipeDepth_eq : maxPipeDepth = 32 := rfl

@[simp] theorem PipeTbl.at?_val (tbl : PipeTbl P) (i : Fin maxPipes) :
    tbl.at? i.val = some (tbl i) :=
  dif_pos i.isLt

theorem PipeTbl.at?_of_lt (tbl : PipeTbl P) {index : Nat} (inRange : index < maxPipes) :
    tbl.at? index = some (tbl ⟨index, inRange⟩) :=
  dif_pos inRange

/-- The id that `__wrap_CFE_SB_CreatePipe` gives to the pipe at an index. -/
def indexId (i : Fin maxPipes) : UInt8 :=
  UInt8.ofNat i

@[simp] theorem toNat_indexId (i : Fin maxPipes) : (indexId i).toNat = i.val := by
  revert i
  decide

theorem indexId_injective : Function.Injective indexId := by
  intro left right equal
  apply Fin.ext
  simpa using congrArg UInt8.toNat equal

theorem indexId_ne_invalidPipe (i : Fin maxPipes) : indexId i ≠ invalidPipe := by
  revert i
  decide

/-- Every id below the number of pipes is the id of an index. -/
theorem exists_indexId {pipeId : UInt8} (inRange : pipeId.toNat < maxPipes) :
    ∃ i, pipeId = indexId i := by
  refine ⟨⟨pipeId.toNat, inRange⟩, ?_⟩
  apply UInt8.toNat_inj.mp
  simp

@[simp] theorem messageEntryPoint_lt (pipe : PipeD P) : messageEntryPoint pipe < maxPipeDepth :=
  Nat.mod_lt _ (by decide)

end SbnClient
