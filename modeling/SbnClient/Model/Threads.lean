import SbnClient.Foundations.ConditionVariable
import SbnClient.Model.Receive

/-!
# The receive thread and the application threads

`receive_mutex` and `received_condition` as a monitor.  What a thread does while it holds
the mutex is one step: the whole of `ingest_app_message` but its signal, a `RcvMsg` call
up to its wait, and the rest of the call after the wait.  The steps before the mutex is
taken (`GetPipeIdx`, reading the socket) see nothing that these steps change.  The owner
of the mutex unlocks it without error.
-/

namespace SbnClient

open ConditionVariable SegmentedInput

variable {P : Platform} {Thread : Type*}

/-- Where the receive thread is. -/
inductive Receiver where
  | reading
  /-- It has put a message into the pipe and not yet called `pthread_cond_signal`. -/
  | signalling (pipe : Fin maxPipes)
  deriving DecidableEq, Repr

/-- Only a received message sends a signal. -/
def IngestResult.receiver : IngestResult → Receiver
  | .received pipe => .signalling pipe
  | _ => .reading

/-- The pipe table and where its users are; an application thread waits for its pipe. -/
structure Threads (P : Platform) (Thread : Type*) where
  tbl : PipeTbl P
  receiver : Receiver
  phase : Thread → Phase (Fin maxPipes)

/-- No thread is inside a call. -/
def Threads.start (tbl : PipeTbl P) : Threads P Thread :=
  ⟨tbl, .reading, fun _ => .running⟩

/-- What a `RcvMsg` call hands its caller: the status, and the pipe and contents of the
slot that `BufPtr` points at. -/
structure Answer (P : Platform) where
  status : Status
  message : Option (Fin maxPipes × Buffer P.maxMessageSize)

/-- What the caller finds when the call has returned. -/
def RcvResult.answer (result : RcvResult P) : Answer P where
  status := result.status
  message :=
    match result.bufPtr with
    | some (.message pipe slot) => some (pipe, (result.tbl pipe).messages slot)
    | _ => none

/-- What happens in one step. -/
inductive Event (P : Platform) (Thread : Type*) where
  | ingested (payload : List UInt8) (result : IngestResult)
  | signalled (woken : Option Thread)
  | woke (thread : Thread) (waitMutexStatus : Int)
  | blocked (thread : Thread) (pipe : Fin maxPipes)
  /-- A call that did not wait. -/
  | returned (thread : Thread) (answer : Answer P)
  /-- A call that did wait. -/
  | resumed (thread : Thread) (pipe : Fin maxPipes) (answer : Answer P)

/-- The steps of all threads. -/
inductive Threads.Step [DecidableEq Thread] (threads : Threads P Thread) :
    Event P Thread → Threads P Thread → Prop where
  | ingested {msgBuffer : Buffer P.maxMessageSize} {socket rest : Socket} {msgSz : UInt16}
      {tbl : PipeTbl P} {result : IngestResult} (reading : threads.receiver = .reading)
      (ran : ingestAppMessage threads.tbl msgBuffer socket msgSz = some (tbl, rest, result)) :
      Step threads (.ingested ((available socket).take msgSz.toNat) result)
        { threads with tbl, receiver := result.receiver }
  | signalled {pipe : Fin maxPipes} {woken : Option Thread} {phase : Thread → Phase (Fin maxPipes)}
      (due : threads.receiver = .signalling pipe) (signal : Signal threads.phase woken phase) :
      Step threads (.signalled woken) { threads with receiver := .reading, phase }
  | woke (thread : Thread) {waitMutexStatus : Int} {phase : Thread → Phase (Fin maxPipes)}
      (wake : Wake threads.phase thread waitMutexStatus phase) :
      Step threads (.woke thread waitMutexStatus) { threads with phase }
  | blocked (thread : Thread) {bufPtr : Bool} {pipeId : UInt8} {timeOut : Int} {env : RcvEnv P}
      {pipe : Fin maxPipes} {deadline : Option Timespec}
      (running : threads.phase thread = .running)
      (began : rcvBegin threads.tbl bufPtr pipeId timeOut env = some (.waits pipe deadline)) :
      Step threads (.blocked thread pipe)
        { threads with phase := Function.update threads.phase thread (.waiting pipe) }
  | returned (thread : Thread) {bufPtr : Bool} {pipeId : UInt8} {timeOut : Int} {env : RcvEnv P}
      {result : RcvResult P} (running : threads.phase thread = .running)
      (unlocked : env.unlockMutexStatus = 0)
      (began : rcvBegin threads.tbl bufPtr pipeId timeOut env = some (.returned result)) :
      Step threads (.returned thread result.answer) { threads with tbl := result.tbl }
  | resumed (thread : Thread) {pipe : Fin maxPipes} {waitMutexStatus : Int} {result : RcvResult P}
      (woken : threads.phase thread = .woken pipe waitMutexStatus)
      (ran : rcvFinish threads.tbl pipe (waitResult P waitMutexStatus) 0 = result) :
      Step threads (.resumed thread pipe result.answer)
        { threads with
          tbl := result.tbl
          phase := Function.update threads.phase thread .running }

end SbnClient
