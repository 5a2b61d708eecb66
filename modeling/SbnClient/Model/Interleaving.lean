import SbnClient.Foundations.ConditionVariable
import SbnClient.Model.Run

/-!
# All threads, one system call at a time

The receive minder reads from the socket in as many turns as the network makes of it, and
every other thread may go on between two of them.  A `RcvMsg` call looks for its pipe before
it locks `receive_mutex`, and may find the table changed when it has the lock.  What a thread
does while it holds the mutex is one step, as in `Threads`, and the calls that manage pipes
are made one at a time.
-/

namespace SbnClient

open ConditionVariable SegmentedInput

variable {P : Platform} {Thread : Type*}

/-! ## `CFE_SBN_Client_ReadBytes` in turns -/

/-- Where the loop of `CFE_SBN_Client_ReadBytes` is after a turn. -/
inductive ReadTurn (size : Nat) where
  | again (buffer : Buffer size) (total : Nat)
  | returned (status : Status) (buffer : Buffer size)

/-- One turn of the loop, with at most one `read`. -/
def readTurn {size : Nat} (msgSz : Nat) (buffer : Buffer size) (total : Nat) (socket : Socket) :
    Option (ReadTurn size × Socket) :=
  if total = msgSz then
    some (.returned .success buffer, socket)
  else if msgSz < total then none
  else
    match read socket (msgSz - total) with
    | (.failed, socket) => some (.returned .pipeBrokenErr buffer, socket)
    | (.closed, socket) => some (.returned .pipeClosedErr buffer, socket)
    | (.received chunk, socket) =>
        if intMax < total + chunk.length then none
        else
          (buffer.store? total chunk).map fun buffer =>
            (.again buffer (total + chunk.length), socket)

/-! ## `recv_msg` in turns -/

/-- Where the receive minder is in `recv_msg`. -/
inductive RecvPoint (P : Platform) where
  | outside
  /-- It reads the header; `locals` are the buffers of the call as they are now. -/
  | readingHdr (locals : RecvLocals P) (total : Nat)
  | readingMsg (msgSz : UInt16) (msg : Buffer P.maxMessageSize) (total : Nat)
  | readingApp (msgSz : UInt16) (msgBuffer : Buffer P.maxMessageSize) (total : Nat)
  /-- It has the whole message and waits for `receive_mutex`. -/
  | enqueueing (msgSz : UInt16) (msgBuffer : Buffer P.maxMessageSize)
  | signalling (pipe : Fin maxPipes)
  | returning (status : Status)

/-- `recv_msg` up to its first `read`. -/
def enterRecv (locals : RecvLocals P) : RecvPoint P :=
  if P.maxMessageSize < P.packedHdrSz then .returning .badArgument else .readingHdr locals 0

/-- The `switch` of `recv_msg` up to the next `read`. -/
def dispatch (locals : RecvLocals P) (hdr : SbnHdr) : RecvPoint P :=
  if hdr.msgType ∈ dropped P then
    if P.maxMessageSize < hdr.msgSz.toNat then .returning .badArgument
    else .readingMsg hdr.msgSz locals.msg 0
  else if hdr.msgType = P.sbnAppMsg then
    -- `ingest_app_message` returns nothing, and `recv_msg` goes on with `CFE_SUCCESS`
    if P.maxMessageSize < hdr.msgSz.toNat then .returning .success
    else .readingApp hdr.msgSz locals.msgBuffer 0
  else
    .returning .evsError

/-- Where `ingest_app_message` goes on when it has released the mutex. -/
def IngestResult.point : IngestResult → RecvPoint P
  | .received pipe => .signalling pipe
  | _ => .returning .success

/-- One turn of a `recv_msg` call.  `none` is undefined behaviour, or a point at which the call
has done all its work. -/
def recvTurn (tbl : PipeTbl P) (socket : Socket) :
    RecvPoint P → Option (PipeTbl P × Socket × RecvPoint P)
  | .readingHdr locals total =>
      (readTurn P.packedHdrSz locals.sbnHdrBuffer total socket).map fun
        | (.again sbnHdrBuffer total, socket) =>
            (tbl, socket, .readingHdr { locals with sbnHdrBuffer } total)
        | (.returned status sbnHdrBuffer, socket) =>
            (tbl, socket, if status ≠ .success then .returning status
              else dispatch locals (unpackSbnHdr P sbnHdrBuffer))
  | .readingMsg msgSz msg total =>
      (readTurn msgSz.toNat msg total socket).map fun
        | (.again msg total, socket) => (tbl, socket, .readingMsg msgSz msg total)
        | (.returned status _, socket) => (tbl, socket, .returning status)
  | .readingApp msgSz msgBuffer total =>
      (readTurn msgSz.toNat msgBuffer total socket).map fun
        | (.again msgBuffer total, socket) => (tbl, socket, .readingApp msgSz msgBuffer total)
        | (.returned status msgBuffer, socket) =>
            (tbl, socket, if status ≠ .success then .returning .success
              else .enqueueing msgSz msgBuffer)
  | .enqueueing msgSz msgBuffer =>
      (enqueueMessage tbl msgBuffer msgSz.toNat).map fun (tbl, result) =>
        (tbl, socket, result.point)
  | .outside | .signalling _ | .returning _ => none

/-- The status that `recv_msg` is going to return, once nothing can change it any more. -/
def RecvPoint.status? : RecvPoint P → Option Status
  | .signalling _ => some .success
  | .returning status => some status
  | _ => none

/-- The call still has turns to take. -/
def RecvPoint.Busy : RecvPoint P → Prop
  | .outside | .signalling _ | .returning _ => False
  | _ => True

/-! ## `__wrap_CFE_SB_RcvMsg` in steps -/

/-- `__wrap_CFE_SB_RcvMsg` before it locks the mutex: the pipe it goes on with, unless it returns
`CFE_SB_BAD_ARGUMENT`. -/
def rcvLookup (tbl : PipeTbl P) (bufPtr : Bool) (pipeId : UInt8) (timeOut : Int) :
    Option (Option (Fin maxPipes)) :=
  if ¬ bufPtr ∨ timeOut < -1 then
    some none
  else
    (getPipeIdx tbl pipeId).bind fun pipeIdx =>
      if pipeIdx = invalidPipe then some none
      else if inRange : pipeIdx.toNat < maxPipes then some (some ⟨pipeIdx.toNat, inRange⟩)
      else none

/-- A `RcvMsg` call that has found its pipe. -/
structure RcvEntered (P : Platform) where
  pipe : Fin maxPipes
  pipeId : UInt8
  timeOut : Int
  env : RcvEnv P

/-- The call from its beginning. -/
def RcvEntered.op (entered : RcvEntered P) : Op P :=
  .rcvMsg true entered.pipeId entered.timeOut entered.env

/-- What the caller of `RcvMsg` learns. -/
def RcvResult.outcome (result : RcvResult P) : Outcome P :=
  .delivered result.status (result.bufPtr.bind (MsgPtr.deref result.tbl))

/-! ## The threads -/

/-- The calls with which an application manages its pipes. -/
def Op.OfApplication : Op P → Prop
  | .createPipe .. | .deletePipe _ | .subscribe .. => True
  | _ => False

/-- The pipe table, the socket, and where every thread is. -/
structure Concurrent (P : Platform) (Thread : Type*) where
  tbl : PipeTbl P
  socket : Socket
  point : RecvPoint P
  /-- The calls that have found their pipe and not yet locked the mutex. -/
  entering : Thread → Option (RcvEntered P)
  phase : Thread → Phase (RcvEntered P)

/-- No thread is inside a call. -/
def Concurrent.start (tbl : PipeTbl P) (socket : Socket) : Concurrent P Thread :=
  ⟨tbl, socket, .outside, fun _ => none, fun _ => .running⟩

/-- The thread is inside a `RcvMsg` call that has found its pipe. -/
def Concurrent.Inside (threads : Concurrent P Thread) (thread : Thread)
    (entered : RcvEntered P) : Prop :=
  threads.entering thread = some entered ∨ (threads.phase thread).key? = some entered

/-- The thread can begin a call. -/
structure Concurrent.Idle (threads : Concurrent P Thread) (thread : Thread) : Prop where
  running : threads.phase thread = .running
  outside : threads.entering thread = none

/-- What happens in one step. -/
inductive ConcurrentEvent (P : Platform) (Thread : Type*) where
  /-- The receive minder goes on in `recv_msg`; `status` where this settles what it returns. -/
  | turned (status : Option Status)
  | signalled (woken : Option Thread)
  | recvReturned (status : Status)
  /-- A call that returns without waiting. -/
  | called (thread : Thread) (op : Op P) (outcome : Outcome P)
  | looked (thread : Thread) (entered : RcvEntered P)
  | blocked (thread : Thread) (entered : RcvEntered P)
  | woke (thread : Thread) (waitMutexStatus : Int)
  /-- A call that has waited returns. -/
  | resumed (thread : Thread) (entered : RcvEntered P) (waitMutexStatus : Int)
      (outcome : Outcome P)

/-- The steps of all threads. -/
inductive Concurrent.Step [DecidableEq Thread] (threads : Concurrent P Thread) :
    ConcurrentEvent P Thread → Concurrent P Thread → Prop where
  | recvCalled (locals : RecvLocals P) (outside : threads.point = .outside) :
      Step threads (.turned (enterRecv locals).status?)
        { threads with point := enterRecv locals }
  | turned {tbl : PipeTbl P} {socket : Socket} {point : RecvPoint P}
      (ran : recvTurn threads.tbl threads.socket threads.point = some (tbl, socket, point)) :
      Step threads (.turned point.status?) { threads with tbl, socket, point }
  | signalled {pipe : Fin maxPipes} {woken : Option Thread}
      {phase : Thread → Phase (RcvEntered P)} (due : threads.point = .signalling pipe)
      (signal : Signal threads.phase woken phase) :
      Step threads (.signalled woken) { threads with point := .returning .success, phase }
  | recvReturned {status : Status} (returning : threads.point = .returning status) :
      Step threads (.recvReturned status) { threads with point := .outside }
  | managed (thread : Thread) {op : Op P} {tbl : PipeTbl P} {outcome : Outcome P}
      (idle : threads.Idle thread) (application : op.OfApplication)
      (ran : applyOp threads.tbl op = some (tbl, outcome)) :
      Step threads (.called thread op outcome) { threads with tbl }
  | refused (thread : Thread) {bufPtr : Bool} {pipeId : UInt8} {timeOut : Int} {env : RcvEnv P}
      (idle : threads.Idle thread)
      (found : rcvLookup threads.tbl bufPtr pipeId timeOut = some none) :
      Step threads (.called thread (.rcvMsg bufPtr pipeId timeOut env)
        (.delivered .badArgument none)) threads
  | looked (thread : Thread) {pipeId : UInt8} {timeOut : Int} {env : RcvEnv P}
      {pipe : Fin maxPipes} (idle : threads.Idle thread)
      (found : rcvLookup threads.tbl true pipeId timeOut = some (some pipe)) :
      Step threads (.looked thread ⟨pipe, pipeId, timeOut, env⟩)
        { threads with
          entering := Function.update threads.entering thread
            (some ⟨pipe, pipeId, timeOut, env⟩) }
  | returned (thread : Thread) {entered : RcvEntered P} {result : RcvResult P}
      (entering : threads.entering thread = some entered)
      (locked : rcvLocked threads.tbl entered.pipe entered.timeOut entered.env =
        .returned result) :
      Step threads (.called thread entered.op result.outcome)
        { threads with
          tbl := result.tbl
          entering := Function.update threads.entering thread none }
  | blocked (thread : Thread) {entered : RcvEntered P} {deadline : Option Timespec}
      (entering : threads.entering thread = some entered)
      (locked : rcvLocked threads.tbl entered.pipe entered.timeOut entered.env =
        .waits entered.pipe deadline) :
      Step threads (.blocked thread entered)
        { threads with
          entering := Function.update threads.entering thread none
          phase := Function.update threads.phase thread (.waiting entered) }
  | woke (thread : Thread) {waitMutexStatus : Int} {phase : Thread → Phase (RcvEntered P)}
      (wake : Wake threads.phase thread waitMutexStatus phase) :
      Step threads (.woke thread waitMutexStatus) { threads with phase }
  | resumed (thread : Thread) {entered : RcvEntered P} {waitMutexStatus : Int}
      {result : RcvResult P} (woken : threads.phase thread = .woken entered waitMutexStatus)
      (ran : rcvFinish threads.tbl entered.pipe (waitResult P waitMutexStatus)
        entered.env.unlockMutexStatus = result) :
      Step threads (.resumed thread entered waitMutexStatus result.outcome)
        { threads with
          tbl := result.tbl
          phase := Function.update threads.phase thread .running }

/-! ## The same calls, each in one step -/

/-- A call as its caller sees it, or a `recv_msg` call. -/
inductive AtomicEvent (P : Platform) (Thread : Type*) where
  | frame (status : Status)
  | called (thread : Thread) (op : Op P) (outcome : Outcome P)
  /-- A call whose wait failed. -/
  | gaveUp (thread : Thread) (outcome : Outcome P)

/-- The steps of a client in which every call is one step of the table and the socket. -/
inductive AtomicStep : PipeTbl P × Socket → AtomicEvent P Thread → PipeTbl P × Socket → Prop where
  | frame {tbl : PipeTbl P} {socket : Socket} {locals : RecvLocals P} {received : Received P}
      (ran : recvMsg tbl locals socket = some received) :
      AtomicStep (tbl, socket) (.frame received.status) (received.tbl, received.socket)
  | managed (thread : Thread) {tbl next : PipeTbl P} {socket : Socket} {op : Op P}
      {outcome : Outcome P} (application : op.OfApplication)
      (ran : applyOp tbl op = some (next, outcome)) :
      AtomicStep (tbl, socket) (.called thread op outcome) (next, socket)
  /-- A `RcvMsg` call that does not wait. -/
  | received (thread : Thread) {tbl : PipeTbl P} {socket : Socket} {bufPtr : Bool}
      {pipeId : UInt8} {timeOut : Int} {env : RcvEnv P} {result : RcvResult P}
      (ran : rcvBegin tbl bufPtr pipeId timeOut env = some (.returned result)) :
      AtomicStep (tbl, socket) (.called thread (.rcvMsg bufPtr pipeId timeOut env) result.outcome)
        (result.tbl, socket)
  | gaveUp (thread : Thread) {state : PipeTbl P × Socket} {status : Status}
      (failed : status ≠ .success) :
      AtomicStep state (.gaveUp thread (.delivered status none)) state

/-- The calls that take effect in a step: a call that waits does when it goes on. -/
def ConcurrentEvent.effects : ConcurrentEvent P Thread → List (AtomicEvent P Thread)
  | .turned (some status) => [.frame status]
  | .called thread op outcome => [.called thread op outcome]
  | .resumed thread entered waitMutexStatus outcome =>
      if waitMutexStatus = 0 then [.called thread entered.op outcome] else [.gaveUp thread outcome]
  | _ => []

end SbnClient
