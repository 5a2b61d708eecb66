import SbnClient.Model.Ingest

/-!
# Receiving from a pipe

`__wrap_CFE_SB_RcvMsg`, cut where it may wait: `rcvBegin` is the call up to the wait and
`rcvFinish` what it does after it.  A sequential call composes the two, and the steps of
several threads take them one at a time.
-/

namespace SbnClient

variable {P : Platform}

/-- `struct timespec` -/
structure Timespec where
  sec : Int
  nsec : Int
  deriving DecidableEq, Repr

/-- The deadline of a timed wait.  The `double` arithmetic is exact here and truncates
where C converts it to an integer. -/
def futureTimeout (enterTime : Timespec) (timeOut : Int) : Timespec :=
  let nsec := enterTime.nsec + timeOut * 10 ^ 6
  if 10 ^ 9 ≤ nsec then
    ⟨(enterTime.sec * 10 ^ 9 + nsec).tdiv (10 ^ 9), nsec.tmod (10 ^ 9)⟩
  else
    ⟨enterTime.sec, nsec⟩

/-- What is stored at `BufPtr`. -/
inductive MsgPtr where
  | null
  | message (pipe : Fin maxPipes) (slot : Fin maxPipeDepth)
  deriving DecidableEq, Repr

/-- What one `__wrap_CFE_SB_RcvMsg` call leaves behind; `bufPtr` is what it stored at
`BufPtr`, if anything. -/
structure RcvResult (P : Platform) where
  tbl : PipeTbl P
  status : Status
  bufPtr : Option MsgPtr

/-- What `__wrap_CFE_SB_RcvMsg` does once it holds `receive_mutex`. -/
inductive RcvAction where
  | noMessage
  | wait (deadline : Option Timespec)
  | take
  deriving DecidableEq, Repr

/-- The test of `NumberOfMessages` before the wait. -/
def rcvAction (pipe : PipeD P) (enterTime : Timespec) (timeOut : Int) : RcvAction :=
  if pipe.numberOfMessages < 2 then
    if timeOut = P.sbPoll then .noMessage
    else if timeOut = P.sbPendForever then .wait none
    else .wait (some (futureTimeout enterTime timeOut))
  else
    .take

/-- The status for what the wait on `received_condition` returned. -/
def waitResult (P : Platform) (waitMutexStatus : Int) : Status :=
  if waitMutexStatus = 0 then .success
  else if waitMutexStatus = P.etimedout then .timeOut
  else .pipeRdErr

/-- `next_msg` -/
def nextMsg (pipe : PipeD P) : Fin maxPipeDepth :=
  ⟨uint32 (pipe.readMessage + 1) % maxPipeDepth, Nat.mod_lt _ (by decide)⟩

/-- The pipe after it has moved on to its next message.  `NumberOfMessages` is unsigned:
taking one from zero wraps. -/
def advance (pipe : PipeD P) : PipeD P :=
  { pipe with
    readMessage := nextMsg pipe
    numberOfMessages := uint32 (pipe.numberOfMessages - 1) }

/-- What `__wrap_CFE_SB_RcvMsg` does after the wait.  It does not look at
`NumberOfMessages` again. -/
def rcvFinish (tbl : PipeTbl P) (i : Fin maxPipes) (status : Status) (unlockMutexStatus : Int) :
    RcvResult P :=
  let result : RcvResult P :=
    if status = .success then
      ⟨Function.update tbl i (advance (tbl i)), .success, some (.message i (nextMsg (tbl i)))⟩
    else
      ⟨tbl, status, some .null⟩
  if unlockMutexStatus ≠ 0 then ⟨result.tbl, .pipeRdErr, some .null⟩ else result

/-- What the environment answers during one `__wrap_CFE_SB_RcvMsg` call.  `duringWait` is
what other threads do to the table while the call waits. -/
structure RcvEnv (P : Platform) where
  enterTime : Timespec
  lockMutexStatus : Int
  waitMutexStatus : Int
  duringWait : PipeTbl P → PipeTbl P
  unlockMutexStatus : Int

/-- How far `__wrap_CFE_SB_RcvMsg` gets before it waits on `received_condition`. -/
inductive RcvBegun (P : Platform) where
  | returned (result : RcvResult P)
  | waits (pipe : Fin maxPipes) (deadline : Option Timespec)

/-- `__wrap_CFE_SB_RcvMsg` from its argument checks to the wait. -/
def rcvLocked (tbl : PipeTbl P) (i : Fin maxPipes) (timeOut : Int) (env : RcvEnv P) :
    RcvBegun P :=
  if env.lockMutexStatus ≠ 0 then
    .returned ⟨tbl, .pipeRdErr, some .null⟩
  else
    match rcvAction (tbl i) env.enterTime timeOut with
    | .noMessage => .returned (rcvFinish tbl i .noMessage env.unlockMutexStatus)
    | .wait deadline => .waits i deadline
    | .take => .returned (rcvFinish tbl i .success env.unlockMutexStatus)

/-- `__wrap_CFE_SB_RcvMsg` up to the wait; `bufPtr` tells whether the pointer is non-null. -/
def rcvBegin (tbl : PipeTbl P) (bufPtr : Bool) (pipeId : UInt8) (timeOut : Int)
    (env : RcvEnv P) : Option (RcvBegun P) :=
  if ¬ bufPtr ∨ timeOut < -1 then
    some (.returned ⟨tbl, .badArgument, none⟩)
  else
    (getPipeIdx tbl pipeId).bind fun pipeIdx =>
      if pipeIdx = invalidPipe then
        some (.returned ⟨tbl, .badArgument, none⟩)
      else if inRange : pipeIdx.toNat < maxPipes then
        some (rcvLocked tbl ⟨pipeIdx.toNat, inRange⟩ timeOut env)
      else
        none

/-- `__wrap_CFE_SB_RcvMsg` -/
def rcvMsg (tbl : PipeTbl P) (bufPtr : Bool) (pipeId : UInt8) (timeOut : Int) (env : RcvEnv P) :
    Option (RcvResult P) :=
  (rcvBegin tbl bufPtr pipeId timeOut env).map fun
    | .returned result => result
    | .waits i _ =>
        rcvFinish (env.duringWait tbl) i (waitResult P env.waitMutexStatus)
          env.unlockMutexStatus

end SbnClient
