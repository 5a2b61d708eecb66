import SbnClient.Model.Run
import SbnClient.Registry.Calls

/-!
# Receiving on a valid table

`RcvMsg` for an id of the table, and what it does when it returns without waiting.
-/

namespace SbnClient

variable {P : Platform} {tbl : PipeTbl P}

/-- The call gets past its argument checks. -/
def ValidArguments (pipe : PipeD P) (bufPtr : Bool) (timeOut : Int) : Prop :=
  bufPtr ∧ -1 ≤ timeOut ∧ pipe.inUse = inUse

instance (pipe : PipeD P) (bufPtr : Bool) (timeOut : Int) :
    Decidable (ValidArguments pipe bufPtr timeOut) :=
  inferInstanceAs (Decidable (_ ∧ _ ∧ _))

/-- The argument checks of `RcvMsg`. -/
theorem rcvBegin_indexId (registry : Registry tbl) (bufPtr : Bool) (k : Fin maxPipes)
    (timeOut : Int) (env : RcvEnv P) :
    rcvBegin tbl bufPtr (indexId k) timeOut env = some (
      if ValidArguments (tbl k) bufPtr timeOut then rcvLocked tbl k timeOut env
      else .returned ⟨tbl, .badArgument, none⟩) := by
  rw [rcvBegin]
  by_cases badArgument : ¬ bufPtr ∨ timeOut < -1
  · rw [if_pos badArgument, if_neg]
    rintro ⟨nonNull, inRange, -⟩
    rcases badArgument with null | outOfRange
    · exact null nonNull
    · omega
  · obtain ⟨nonNull, inRange⟩ := not_or.mp badArgument
    rw [if_neg badArgument, getPipeIdx_indexId registry, Option.bind_some]
    by_cases used : (tbl k).inUse = inUse
    · simp [ValidArguments, used, indexId_ne_invalidPipe, not_not.mp nonNull,
        Int.not_lt.mp inRange]
    · simp [ValidArguments, used]

/-- The ways through `RcvMsg`. -/
inductive RcvCall (tbl : PipeTbl P) (bufPtr : Bool) (k : Fin maxPipes) (timeOut : Int)
    (env : RcvEnv P) : RcvResult P → Prop where
  | refused (invalid : ¬ ValidArguments (tbl k) bufPtr timeOut) :
      RcvCall tbl bufPtr k timeOut env ⟨tbl, .badArgument, none⟩
  | lockFailed (valid : ValidArguments (tbl k) bufPtr timeOut)
      (failed : env.lockMutexStatus ≠ 0) :
      RcvCall tbl bufPtr k timeOut env ⟨tbl, .pipeRdErr, some .null⟩
  | polled (valid : ValidArguments (tbl k) bufPtr timeOut) (locked : env.lockMutexStatus = 0)
      (empty : (tbl k).numberOfMessages < 2) (poll : timeOut = P.sbPoll) :
      RcvCall tbl bufPtr k timeOut env (rcvFinish tbl k .noMessage env.unlockMutexStatus)
  | waited (valid : ValidArguments (tbl k) bufPtr timeOut) (locked : env.lockMutexStatus = 0)
      (empty : (tbl k).numberOfMessages < 2) (patient : timeOut ≠ P.sbPoll) :
      RcvCall tbl bufPtr k timeOut env (rcvFinish (env.duringWait tbl) k
        (waitResult P env.waitMutexStatus) env.unlockMutexStatus)
  | took (valid : ValidArguments (tbl k) bufPtr timeOut) (locked : env.lockMutexStatus = 0)
      (available : 2 ≤ (tbl k).numberOfMessages) :
      RcvCall tbl bufPtr k timeOut env (rcvFinish tbl k .success env.unlockMutexStatus)

/-- Every call for an id of the table is defined and takes one of these ways. -/
theorem exists_rcvCall (registry : Registry tbl) (bufPtr : Bool) (k : Fin maxPipes)
    (timeOut : Int) (env : RcvEnv P) :
    ∃ result, rcvMsg tbl bufPtr (indexId k) timeOut env = some result ∧
      RcvCall tbl bufPtr k timeOut env result := by
  rw [rcvMsg, rcvBegin_indexId registry]
  by_cases valid : ValidArguments (tbl k) bufPtr timeOut
  · rw [if_pos valid, rcvLocked]
    by_cases locked : env.lockMutexStatus = 0
    · rw [if_neg (not_not.mpr locked), rcvAction]
      by_cases empty : (tbl k).numberOfMessages < 2
      · rw [if_pos empty]
        by_cases poll : timeOut = P.sbPoll
        · rw [if_pos poll]
          exact ⟨_, rfl, .polled valid locked empty poll⟩
        · rw [if_neg poll]
          by_cases forever : timeOut = P.sbPendForever
          · rw [if_pos forever]
            exact ⟨_, rfl, .waited valid locked empty poll⟩
          · rw [if_neg forever]
            exact ⟨_, rfl, .waited valid locked empty poll⟩
      · rw [if_neg empty]
        exact ⟨_, rfl, .took valid locked (Nat.not_lt.mp empty)⟩
    · rw [if_pos locked]
      exact ⟨_, rfl, .lockFailed valid locked⟩
  · rw [if_neg valid]
    exact ⟨_, rfl, .refused valid⟩

/-- A call that takes the way of waiting does not return at once. -/
theorem not_returnsAtOnce {k : Fin maxPipes} {bufPtr : Bool} {timeOut : Int}
    (valid : ValidArguments (tbl k) bufPtr timeOut) (empty : (tbl k).numberOfMessages < 2)
    (patient : timeOut ≠ P.sbPoll) : ¬ ReturnsAtOnce tbl (indexId k) timeOut := by
  rintro (outOfRange | poll | available)
  · have := valid.2.1
    omega
  · exact patient poll
  · have := available k rfl valid.2.2
    omega

/-- A call on a pipe that holds a message does. -/
theorem returnsAtOnce_of_available {k : Fin maxPipes} (timeOut : Int)
    (available : 2 ≤ (tbl k).numberOfMessages) : ReturnsAtOnce tbl (indexId k) timeOut := by
  refine .inr (.inr fun i sameId _ => ?_)
  rwa [indexId_injective sameId]

/-- A `RcvMsg` call for a pipe in use that returns at once. -/
theorem rcvMsg_of_returnsAtOnce (registry : Registry tbl) {k : Fin maxPipes} {timeOut : Int}
    {env : RcvEnv P} (used : (tbl k).inUse = inUse) (inRange : -1 ≤ timeOut)
    (locked : env.lockMutexStatus = 0) (atOnce : ReturnsAtOnce tbl (indexId k) timeOut) :
    rcvMsg tbl true (indexId k) timeOut env = some
      (rcvFinish tbl k (if (tbl k).numberOfMessages < 2 then .noMessage else .success)
        env.unlockMutexStatus) := by
  obtain ⟨result, ran, call⟩ := exists_rcvCall registry true k timeOut env
  rw [ran]
  cases call with
  | refused invalid => exact absurd ⟨rfl, inRange, used⟩ invalid
  | lockFailed valid failed => exact absurd locked failed
  | polled valid locked empty poll => rw [if_pos empty]
  | waited valid locked empty patient => exact absurd atOnce (not_returnsAtOnce valid empty patient)
  | took valid locked available => rw [if_neg (Nat.not_lt.mpr available)]

/-- A `RcvMsg` call whose arguments are refused. -/
theorem rcvMsg_of_badArgument (registry : Registry tbl) {bufPtr : Bool} {k : Fin maxPipes}
    {timeOut : Int} {env : RcvEnv P}
    (bad : ¬ ValidArguments (tbl k) bufPtr timeOut) :
    rcvMsg tbl bufPtr (indexId k) timeOut env = some ⟨tbl, .badArgument, none⟩ := by
  rw [rcvMsg, rcvBegin_indexId registry, if_neg bad, Option.map_some]

/-! ## Calls that do not wait -/

/-- What a call that does not wait does to its pipe: the pipe after it, its status and what it
stores at `BufPtr`. -/
def receiveAct (k : Fin maxPipes) (bufPtr : Bool) (timeOut : Int) (env : RcvEnv P)
    (pipe : PipeD P) : PipeD P × Status × Option MsgPtr :=
  if ValidArguments pipe bufPtr timeOut then
    if env.lockMutexStatus ≠ 0 then (pipe, .pipeRdErr, some .null)
    else if pipe.numberOfMessages < 2 then
      (pipe, if env.unlockMutexStatus = 0 then .noMessage else .pipeRdErr, some .null)
    else if env.unlockMutexStatus = 0 then
      (advance pipe, .success, some (.message k (nextMsg pipe)))
    else (advance pipe, .pipeRdErr, some .null)
  else (pipe, .badArgument, none)

/-- The ends of such a call. -/
inductive ReceiveEnd (k : Fin maxPipes) (env : RcvEnv P) (pipe : PipeD P) :
    PipeD P × Status × Option MsgPtr → Prop where
  | refused {status : Status} (failed : status ≠ .success) :
      ReceiveEnd k env pipe (pipe, status, none)
  | kept {status : Status} (failed : status ≠ .success) :
      ReceiveEnd k env pipe (pipe, status, some .null)
  | hidden (used : pipe.inUse = inUse) (available : 2 ≤ pipe.numberOfMessages)
      (stuck : env.unlockMutexStatus ≠ 0) :
      ReceiveEnd k env pipe (advance pipe, .pipeRdErr, some .null)
  | took (used : pipe.inUse = inUse) (available : 2 ≤ pipe.numberOfMessages)
      (unlocked : env.unlockMutexStatus = 0) :
      ReceiveEnd k env pipe (advance pipe, .success, some (.message k (nextMsg pipe)))

theorem receiveEnd_receiveAct (k : Fin maxPipes) (bufPtr : Bool) (timeOut : Int)
    (env : RcvEnv P) (pipe : PipeD P) :
    ReceiveEnd k env pipe (receiveAct k bufPtr timeOut env pipe) := by
  rw [receiveAct]
  split
  next valid =>
    split
    next => exact .kept (by simp)
    next =>
      split
      next =>
        refine .kept ?_
        split <;> simp
      next available =>
        split
        next unlocked => exact .took valid.2.2 (Nat.not_lt.mp available) unlocked
        next stuck => exact .hidden valid.2.2 (Nat.not_lt.mp available) stuck
  next => exact .refused (by simp)

/-- `RcvMsg` without a wait acts on its own pipe. -/
theorem Registry.rcvMsg_eq (registry : Registry tbl) (bufPtr : Bool) {k : Fin maxPipes}
    {timeOut : Int} {env : RcvEnv P}
    (atOnce : env.lockMutexStatus ≠ 0 ∨ ReturnsAtOnce tbl (indexId k) timeOut) :
    rcvMsg tbl bufPtr (indexId k) timeOut env = some
      ⟨Function.update tbl k (receiveAct k bufPtr timeOut env (tbl k)).1,
        (receiveAct k bufPtr timeOut env (tbl k)).2.1,
        (receiveAct k bufPtr timeOut env (tbl k)).2.2⟩ := by
  obtain ⟨result, ran, call⟩ := exists_rcvCall registry bufPtr k timeOut env
  rw [ran, Option.some.injEq]
  cases call with
  | refused invalid =>
      have act : receiveAct k bufPtr timeOut env (tbl k) = (tbl k, .badArgument, none) := by
        rw [receiveAct, if_neg invalid]
      rw [act, Function.update_eq_self]
  | lockFailed valid failed =>
      have act : receiveAct k bufPtr timeOut env (tbl k) = (tbl k, .pipeRdErr, some .null) := by
        rw [receiveAct, if_pos valid, if_pos failed]
      rw [act, Function.update_eq_self]
  | polled valid locked empty poll =>
      have act : receiveAct k bufPtr timeOut env (tbl k) =
          (tbl k, if env.unlockMutexStatus = 0 then .noMessage else .pipeRdErr, some .null) := by
        rw [receiveAct, if_pos valid, if_neg (not_not.mpr locked), if_pos empty]
      rw [act, Function.update_eq_self]
      by_cases unlocked : env.unlockMutexStatus = 0 <;> simp [rcvFinish, unlocked]
  | waited valid locked empty patient =>
      exact absurd (atOnce.resolve_left (not_not.mpr locked))
        (not_returnsAtOnce valid empty patient)
  | took valid locked available =>
      have act : receiveAct k bufPtr timeOut env (tbl k) =
          if env.unlockMutexStatus = 0 then
            (advance (tbl k), .success, some (.message k (nextMsg (tbl k))))
          else (advance (tbl k), .pipeRdErr, some .null) := by
        rw [receiveAct, if_pos valid, if_neg (not_not.mpr locked),
          if_neg (Nat.not_lt.mpr available)]
      rw [act]
      by_cases unlocked : env.unlockMutexStatus = 0 <;> simp [rcvFinish, unlocked]

/-! ## Around the wait -/

/-- `RcvMsg` waits for a pipe without a message unless it polls, and only a timeout proper has a
deadline. -/
theorem rcvAction_eq_wait_iff {pipe : PipeD P} {enterTime : Timespec} {timeOut : Int}
    {deadline : Option Timespec} :
    rcvAction pipe enterTime timeOut = .wait deadline ↔
      pipe.numberOfMessages < 2 ∧ timeOut ≠ P.sbPoll ∧
        deadline = if timeOut = P.sbPendForever then none
          else some (futureTimeout enterTime timeOut) := by
  rw [rcvAction]
  by_cases empty : pipe.numberOfMessages < 2
  · by_cases poll : timeOut = P.sbPoll
    · simp [empty, poll]
    · by_cases forever : timeOut = P.sbPendForever
      · simp [empty, forever, P.sbPoll_ne_sbPendForever.symm, eq_comm]
      · simp [empty, poll, forever, eq_comm]
  · simp [empty]

theorem rcvLocked_eq_waits_iff {k i : Fin maxPipes} {timeOut : Int} {env : RcvEnv P}
    {deadline : Option Timespec} :
    rcvLocked tbl k timeOut env = .waits i deadline ↔
      k = i ∧ env.lockMutexStatus = 0 ∧
        rcvAction (tbl k) env.enterTime timeOut = .wait deadline := by
  rw [rcvLocked]
  by_cases locked : env.lockMutexStatus = 0
  · rw [if_neg (not_not.mpr locked)]
    cases rcvAction (tbl k) env.enterTime timeOut <;> simp [locked]
  · simp [locked]

/-- Under the mutex a call that does not wait fails, finds nothing or takes a message. -/
theorem rcvLocked_returned {k : Fin maxPipes} {timeOut : Int} {env : RcvEnv P}
    {result : RcvResult P} (returned : rcvLocked tbl k timeOut env = .returned result) :
    result = ⟨tbl, .pipeRdErr, some .null⟩ ∨
      result = rcvFinish tbl k .noMessage env.unlockMutexStatus ∨
      (2 ≤ (tbl k).numberOfMessages ∧ result = rcvFinish tbl k .success env.unlockMutexStatus) := by
  rw [rcvLocked] at returned
  split at returned
  next =>
    cases returned
    exact .inl rfl
  next =>
    split at returned
    next =>
      cases returned
      exact .inr (.inl rfl)
    next => cases returned
    next take =>
      cases returned
      refine .inr (.inr ⟨?_, rfl⟩)
      by_contra empty
      rw [rcvAction, if_pos (Nat.not_le.mp empty)] at take
      split at take
      next => cases take
      next => split at take <;> cases take

theorem waitResult_cases (P : Platform) (waitMutexStatus : Int) :
    waitResult P waitMutexStatus = .success ∨ waitResult P waitMutexStatus = .timeOut ∨
      waitResult P waitMutexStatus = .pipeRdErr := by
  rw [waitResult]
  split
  · exact .inl rfl
  · split
    · exact .inr (.inl rfl)
    · exact .inr (.inr rfl)

theorem waitResult_eq_success_iff (P : Platform) (waitMutexStatus : Int) :
    waitResult P waitMutexStatus = .success ↔ waitMutexStatus = 0 := by
  rw [waitResult]
  split
  next none => simp [none]
  next failed =>
    split <;> simp [failed]

theorem waitResult_eq_timeOut_iff (P : Platform) (waitMutexStatus : Int) :
    waitResult P waitMutexStatus = .timeOut ↔ waitMutexStatus = P.etimedout := by
  rw [waitResult]
  split
  next none => simp [none, P.etimedout_ne_zero.symm]
  next =>
    split <;> simp [*]

theorem waitResult_eq_pipeRdErr_iff (P : Platform) (waitMutexStatus : Int) :
    waitResult P waitMutexStatus = .pipeRdErr ↔
      waitMutexStatus ≠ 0 ∧ waitMutexStatus ≠ P.etimedout := by
  rw [waitResult]
  split
  next none => simp [none]
  next failed =>
    split <;> simp [*]

/-- With the mutex unlocked, the status alone decides whether the call takes a message. -/
theorem rcvFinish_unlocked (tbl : PipeTbl P) (k : Fin maxPipes) (status : Status) :
    rcvFinish tbl k status 0 =
      if status = .success then
        ⟨Function.update tbl k (advance (tbl k)), .success, some (.message k (nextMsg (tbl k)))⟩
      else
        ⟨tbl, status, some .null⟩ := by
  simp only [rcvFinish, ne_eq, not_true_eq_false, ↓reduceIte]

/-- A failed unlock hides what the call has done. -/
theorem status_rcvFinish (tbl : PipeTbl P) (k : Fin maxPipes) (status : Status)
    (unlockMutexStatus : Int) :
    (rcvFinish tbl k status unlockMutexStatus).status =
      if unlockMutexStatus = 0 then status else .pipeRdErr := by
  simp only [rcvFinish]
  by_cases success : status = .success
  · by_cases unlocked : unlockMutexStatus = 0 <;> simp [success, unlocked]
  · by_cases unlocked : unlockMutexStatus = 0 <;> simp [success, unlocked]

/-! ## The next message -/

@[simp] theorem inUse_advance (pipe : PipeD P) : (advance pipe).inUse = pipe.inUse := rfl

@[simp] theorem pipeId_advance (pipe : PipeD P) : (advance pipe).pipeId = pipe.pipeId := rfl

@[simp] theorem messages_advance (pipe : PipeD P) :
    (advance pipe).messages = pipe.messages := rfl

@[simp] theorem subscribedMsgIds_advance (pipe : PipeD P) :
    (advance pipe).subscribedMsgIds = pipe.subscribedMsgIds := rfl

@[simp] theorem readMessage_advance (pipe : PipeD P) :
    (advance pipe).readMessage = (nextMsg pipe).val := rfl

theorem val_nextMsg {pipe : PipeD P} (inRange : pipe.readMessage < maxPipeDepth) :
    (nextMsg pipe).val = (pipe.readMessage + 1) % maxPipeDepth := by
  rw [maxPipeDepth_eq] at inRange
  have noWrap : uint32 (pipe.readMessage + 1) = pipe.readMessage + 1 := by
    simp only [uint32]
    omega
  simp only [nextMsg, noWrap]

/-- Taking a message frees the slot of the one taken before it. -/
theorem numberOfMessages_advance {pipe : PipeD P} (available : 1 ≤ pipe.numberOfMessages)
    (bounded : pipe.numberOfMessages ≤ maxPipeDepth) :
    (advance pipe).numberOfMessages = pipe.numberOfMessages - 1 := by
  rw [maxPipeDepth_eq] at bounded
  simp only [advance, uint32]
  omega

theorem LivePipe.advance {i : Fin maxPipes} {pipe : PipeD P} (live : LivePipe i pipe)
    (available : 2 ≤ pipe.numberOfMessages) : LivePipe i (advance pipe) := by
  have fewer := numberOfMessages_advance live.numberOfMessages_ge live.numberOfMessages_le
  have bounded := live.numberOfMessages_le
  refine ⟨?_, ?_, ?_, ?_, ?_, ?_⟩
  · rw [inUse_advance, live.inUse_eq]
  · rw [pipeId_advance, live.pipeId_eq]
  · omega
  · omega
  · rw [readMessage_advance]
    exact (nextMsg pipe).isLt
  · rw [subscribedMsgIds_advance]
    exact live.subscribed_before

end SbnClient
