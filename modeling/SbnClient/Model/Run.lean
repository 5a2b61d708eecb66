import SbnClient.Foundations.Machine
import SbnClient.Model.Receive
import SbnClient.Model.Wrappers

/-!
# Sequential runs

One application thread and the receive thread use the pipe table one call at a time.
Each call brings the answers of its environment with it: what arrives on the socket,
the old contents of its local buffers, the results of the mutex calls.
-/

namespace SbnClient

open SegmentedInput

variable {P : Platform}

/-- A call that reads or changes the pipe table. -/
inductive Op (P : Platform) where
  | createPipe (pipeIdPtr : Bool) (depth : UInt16) (pipeName : List UInt8)
  | deletePipe (pipeId : UInt8)
  | subscribe (msgId : MsgId P) (pipeId : UInt8) (outcome : WriteOutcome)
  | ingestAppMessage (msgBuffer : Buffer P.maxMessageSize) (socket : Socket) (msgSz : UInt16)
  | recvMsg (locals : RecvLocals P) (socket : Socket)
  | rcvMsg (bufPtr : Bool) (pipeId : UInt8) (timeOut : Int) (env : RcvEnv P)

/-- What a caller learns from a call. -/
inductive Outcome (P : Platform) where
  | created (status : Status) (pipeId : Option UInt8)
  | deleted (status : Status)
  | subscribed (status : Status)
  | ingested (result : IngestResult)
  | frame (status : Status)
  | delivered (status : Status) (message : Option (Buffer P.maxMessageSize))

/-- The memory a stored `BufPtr` points at. -/
def MsgPtr.deref (tbl : PipeTbl P) : MsgPtr → Option (Buffer P.maxMessageSize)
  | .null => none
  | .message pipe slot => some ((tbl pipe).messages slot)

/-- One call, as a step of the pipe table. -/
def applyOp (tbl : PipeTbl P) : Op P → Option (PipeTbl P × Outcome P)
  | .createPipe pipeIdPtr depth pipeName =>
      let created := createPipe tbl pipeIdPtr depth pipeName
      some (created.tbl, .created created.status created.pipeId)
  | .deletePipe pipeId =>
      let (tbl, status) := deletePipe tbl pipeId
      some (tbl, .deleted status)
  | .subscribe msgId pipeId outcome =>
      (subscribe tbl msgId pipeId outcome).map fun (tbl, status, _) => (tbl, .subscribed status)
  | .ingestAppMessage msgBuffer socket msgSz =>
      (ingestAppMessage tbl msgBuffer socket msgSz).map fun (tbl, _, result) =>
        (tbl, .ingested result)
  | .recvMsg locals socket =>
      (recvMsg tbl locals socket).map fun received => (received.tbl, .frame received.status)
  | .rcvMsg bufPtr pipeId timeOut env =>
      (rcvMsg tbl bufPtr pipeId timeOut env).map fun result =>
        (result.tbl, .delivered result.status (result.bufPtr.bind (MsgPtr.deref result.tbl)))

/-- A `RcvMsg` call with these arguments returns without waiting. -/
def ReturnsAtOnce (tbl : PipeTbl P) (pipeId : UInt8) (timeOut : Int) : Prop :=
  timeOut < -1 ∨ timeOut = P.sbPoll ∨
    ∀ i, indexId i = pipeId → (tbl i).inUse = inUse → 2 ≤ (tbl i).numberOfMessages

/-- The calls of a sequential run.  An id outside the table is undefined behaviour in
`GetPipeIdx`, and nobody could wake a call that waits. -/
def Op.Sequential (tbl : PipeTbl P) : Op P → Prop
  | .subscribe _ pipeId _ => pipeId.toNat < maxPipes
  | .rcvMsg _ pipeId timeOut env =>
      pipeId.toNat < maxPipes ∧
        (env.lockMutexStatus ≠ 0 ∨ ReturnsAtOnce tbl pipeId timeOut)
  | _ => True

/-- A table that some sequential run produces from the initial one. -/
def Reachable (tbl : PipeTbl P) : Prop :=
  ∃ (initial : PipeTbl P) (ops : List (Op P)) (outcomes : List (Outcome P)),
    Machine.Permitted applyOp Op.Sequential (initPipeTbl initial) ops ∧
      Machine.run applyOp (initPipeTbl initial) ops = some (tbl, outcomes)

end SbnClient
