import SbnClient.Registry.History

/-!
# What one call does to one pipe

`EntryStep` follows a single pipe in use through a sequential run.  Each change of it is
tied to the call that makes it and to what that call returns, so that a fact about one
pipe over a run is one case analysis over `EntryStep`.
-/

namespace SbnClient

variable {P : Platform} {tbl next : PipeTbl P} {i : Fin maxPipes}

/-- The call is a `Subscribe` of the id to the pipe, and succeeded. -/
def Subscribes (call : Op P × Outcome P) (msgId : MsgId P) (pipeId : UInt8) : Prop :=
  ∃ outcome, call = (.subscribe msgId pipeId outcome, .subscribed .success)

/-- The call is an `ingest_app_message` that put its message into the pipe. -/
def accepts (i : Fin maxPipes) : Op P × Outcome P → Bool
  | (.ingestAppMessage .., .ingested (.received k)) => k == i
  | _ => false

/-- The call is a `RcvMsg` on the pipe, and succeeded. -/
def receives (pipeId : UInt8) : Op P × Outcome P → Bool
  | (.rcvMsg _ id _ _, .delivered status _) => id == pipeId && status == .success
  | _ => false

/-- A `recv_msg` call, which may ingest a message and does not tell. -/
def Op.ReceivesFrame : Op P → Prop
  | .recvMsg .. => True
  | _ => False

/-- The pipe in use at an index before and after a call. -/
inductive EntryStep (i : Fin maxPipes) (pipe : PipeD P) (call : Op P × Outcome P) :
    PipeD P → Prop where
  | kept (uncreated : ¬ Creates call (indexId i)) (undeleted : ¬ Deletes call (indexId i))
      (unreceived : receives (indexId i) call = false) : EntryStep i pipe call pipe
  | subscribed {j : Fin maxMsgIdsPerPipe} {msgId : MsgId P}
      (subscribes : Subscribes call msgId (indexId i)) (slot : freeSlot pipe = some j) :
      EntryStep i pipe call (storeMsgId pipe j msgId)
  | pushed (payload : Payload P) (arrived : accepts i call = true ∨ call.1.ReceivesFrame)
      (room : pipe.numberOfMessages ≠ maxPipeDepth) :
      EntryStep i pipe call (pushMessage pipe payload)
  | taken {bufPtr : Bool} {timeOut : Int} {env : RcvEnv P} {outcome : Outcome P}
      (isCall : call = (.rcvMsg bufPtr (indexId i) timeOut env, outcome))
      (handed : env.unlockMutexStatus = 0 →
        outcome = .delivered .success (some (pipe.messages (nextMsg pipe))))
      (available : 2 ≤ pipe.numberOfMessages) : EntryStep i pipe call (advance pipe)
  | closed (deletes : Deletes call (indexId i)) : EntryStep i pipe call (invalidatePipe pipe)

/-! ## The calls -/

theorem entryStep_createPipe (used : (tbl i).inUse = inUse) (pipeIdPtr : Bool) (depth : UInt16)
    (pipeName : List UInt8) :
    let created := createPipe tbl pipeIdPtr depth pipeName
    EntryStep i (tbl i)
      (.createPipe pipeIdPtr depth pipeName, .created created.status created.pipeId)
      (created.tbl i) := by
  rcases createPipe_cases tbl pipeIdPtr depth pipeName with
    ⟨status, pipeId, failing, refused⟩ | ⟨k, -, -, found, opened⟩
  · simp only [refused]
    exact .kept (by simp [Creates, failing]) (by simp [Deletes]) (by simp [receives])
  · have distinct : i ≠ k := by
      rintro rfl
      exact (availPipe_eq_some_iff.mp found).1 used
    have otherId : indexId k ≠ indexId i := fun same =>
      distinct (indexId_injective same).symm
    simp only [opened, Function.update_of_ne distinct]
    exact .kept (by simp [Creates, otherId]) (by simp [Deletes]) (by simp [receives])

theorem entryStep_deletePipe (registry : Registry tbl) (used : (tbl i).inUse = inUse)
    (pipeId : UInt8) :
    EntryStep i (tbl i) (.deletePipe pipeId, .deleted (deletePipe tbl pipeId).2)
      ((deletePipe tbl pipeId).1 i) := by
  by_cases same : pipeId = indexId i
  · subst same
    rw [deletePipe_indexId registry, if_pos used]
    simp only [Function.update_self]
    exact .closed rfl
  · have untouched : (deletePipe tbl pipeId).1 i = tbl i := by
      rcases deletePipe_cases tbl pipeId with ⟨status, -, refused⟩ | ⟨k, matched, -, closed⟩
      · rw [refused]
      · have distinct : i ≠ k := by
          rintro rfl
          exact same (matched.symm.trans (registry.live used).pipeId_eq)
        rw [closed]
        exact Function.update_of_ne distinct ..
    rw [untouched]
    exact .kept (by simp [Creates]) (by simp [Deletes, same]) (by simp [receives])

theorem entryStep_subscribe (registry : Registry tbl) {msgId : MsgId P} {k : Fin maxPipes}
    {outcome : WriteOutcome} {status : Status} {written : List UInt8}
    (ran : subscribe tbl msgId (indexId k) outcome = some (next, status, written)) :
    EntryStep i (tbl i) (.subscribe msgId (indexId k) outcome, .subscribed status) (next i) := by
  rw [subscribe_indexId registry] at ran
  split at ran
  next j found =>
    cases ran
    by_cases same : i = k
    · subst same
      rw [Function.update_self]
      split at found
      next => exact .subscribed ⟨outcome, rfl⟩ found
      next => simp at found
    · rw [Function.update_of_ne same]
      exact .kept (by simp [Creates]) (by simp [Deletes]) (by simp [receives])
  next =>
    cases ran
    exact .kept (by simp [Creates]) (by simp [Deletes]) (by simp [receives])

theorem deliver_cases (tbl : PipeTbl P) (msgId : MsgId P) (payload : Payload P)
    (i : Fin maxPipes) :
    deliver tbl msgId payload i = tbl i ∨
      (deliver tbl msgId payload i = pushMessage (tbl i) payload ∧
        ingestResult tbl msgId = .received i ∧ (tbl i).numberOfMessages ≠ maxPipeDepth) := by
  rw [deliver, ingestResult]
  cases found : route tbl msgId with
  | none => exact .inl rfl
  | some k =>
      simp only
      split
      next => exact .inl rfl
      next room =>
        by_cases same : i = k
        · subst same
          exact .inr ⟨Function.update_self .., rfl, room⟩
        · exact .inl (Function.update_of_ne same ..)

theorem entryStep_ingestAppMessage {msgBuffer : Buffer P.maxMessageSize}
    {socket rest : Socket} {msgSz : UInt16} {result : IngestResult}
    (ran : ingestAppMessage tbl msgBuffer socket msgSz = some (next, rest, result)) :
    EntryStep i (tbl i) (.ingestAppMessage msgBuffer socket msgSz, .ingested result) (next i) := by
  have kept : EntryStep i (tbl i) (.ingestAppMessage msgBuffer socket msgSz, .ingested result)
      (tbl i) :=
    .kept (by simp [Creates]) (by simp [Deletes]) (by simp [receives])
  by_cases complete : msgSz.toNat ≤ P.maxMessageSize ∧
      msgSz.toNat ≤ (SegmentedInput.available socket).length
  · obtain ⟨left, routed, -⟩ := ingestAppMessage_of_complete tbl msgBuffer complete.1 complete.2
    rw [routed] at ran
    cases ran
    rcases deliver_cases tbl _ (incoming socket _ complete.1) i with same | ⟨pushed, accepted, room⟩
    · rw [same]
      exact kept
    · rw [pushed, accepted]
      exact .pushed _ (.inl (by simp [accepts])) room
  · have incomplete : P.maxMessageSize < msgSz.toNat ∨
        (SegmentedInput.available socket).length < msgSz.toNat := by omega
    obtain ⟨left, status, failed⟩ := ingestAppMessage_of_incomplete tbl msgBuffer incomplete
    rw [failed] at ran
    cases ran
    exact kept

theorem entryStep_recvMsg {locals : RecvLocals P} {socket : Socket} {received : Received P}
    (ran : recvMsg tbl locals socket = some received) :
    EntryStep i (tbl i) (.recvMsg locals socket, .frame received.status) (received.tbl i) := by
  have kept : EntryStep i (tbl i) (.recvMsg locals socket, .frame received.status) (tbl i) :=
    .kept (by simp [Creates]) (by simp [Deletes]) (by simp [receives])
  have step := arrivalStep_of_recvMsg ran
  generalize received.tbl = after at step ⊢
  cases step with
  | kept => exact kept
  | pushed k payload used room =>
      by_cases same : i = k
      · subst same
        rw [Function.update_self]
        exact .pushed payload (.inr trivial) room
      · rw [Function.update_of_ne same]
        exact kept

theorem entryStep_rcvMsg (registry : Registry tbl) {bufPtr : Bool} {k : Fin maxPipes}
    {timeOut : Int} {env : RcvEnv P} {result : RcvResult P}
    (atOnce : env.lockMutexStatus ≠ 0 ∨ ReturnsAtOnce tbl (indexId k) timeOut)
    (ran : rcvMsg tbl bufPtr (indexId k) timeOut env = some result) :
    EntryStep i (tbl i) (.rcvMsg bufPtr (indexId k) timeOut env,
      .delivered result.status (result.bufPtr.bind (MsgPtr.deref result.tbl))) (result.tbl i) := by
  have refused : ∀ status message, status ≠ .success → EntryStep i (tbl i)
      (.rcvMsg bufPtr (indexId k) timeOut env, .delivered status message) (tbl i) :=
    fun status message failing =>
      .kept (by simp [Creates]) (by simp [Deletes]) (by simp [receives, failing])
  rw [registry.rcvMsg_eq bufPtr atOnce, Option.some.injEq] at ran
  subst ran
  have ended := receiveEnd_receiveAct k bufPtr timeOut env (tbl k)
  generalize receiveAct k bufPtr timeOut env (tbl k) = act at ended ⊢
  by_cases same : i = k
  · subst same
    simp only [Function.update_self]
    cases ended with
    | refused failed => exact refused _ _ failed
    | kept failed => exact refused _ _ failed
    | hidden used available stuck =>
        exact .taken rfl (fun unlocked => absurd unlocked stuck) available
    | took used available unlocked =>
        refine .taken rfl (fun _ => ?_) available
        simp [MsgPtr.deref]
  · simp only [Function.update_of_ne same]
    have otherId : indexId k ≠ indexId i := fun equal => same (indexId_injective equal).symm
    exact .kept (by simp [Creates]) (by simp [Deletes]) (by simp [receives, otherId])

/-- Every call of a sequential run makes one of the changes to each pipe in use. -/
theorem Registry.entryStep (registry : Registry tbl) {op : Op P} (sequential : op.Sequential tbl)
    {outcome : Outcome P} (ran : SbnClient.applyOp tbl op = some (next, outcome))
    (used : (tbl i).inUse = inUse) : EntryStep i (tbl i) (op, outcome) (next i) := by
  cases op with
  | createPipe pipeIdPtr depth pipeName =>
      cases ran
      exact entryStep_createPipe used pipeIdPtr depth pipeName
  | deletePipe pipeId =>
      cases ran
      exact entryStep_deletePipe registry used pipeId
  | subscribe msgId pipeId written =>
      obtain ⟨k, rfl⟩ := exists_indexId sequential
      obtain ⟨result, called, equal⟩ := Option.map_eq_some_iff.mp ran
      cases equal
      exact entryStep_subscribe registry called
  | ingestAppMessage msgBuffer socket msgSz =>
      obtain ⟨result, called, equal⟩ := Option.map_eq_some_iff.mp ran
      cases equal
      exact entryStep_ingestAppMessage called
  | recvMsg locals socket =>
      obtain ⟨received, called, equal⟩ := Option.map_eq_some_iff.mp ran
      cases equal
      exact entryStep_recvMsg called
  | rcvMsg bufPtr pipeId timeOut env =>
      obtain ⟨k, rfl⟩ := exists_indexId sequential.1
      obtain ⟨result, called, equal⟩ := Option.map_eq_some_iff.mp ran
      cases equal
      exact entryStep_rcvMsg registry sequential.2 called

/-! ## What a step leaves -/

theorem receives_of_arrived {call : Op P × Outcome P} {pipeId : UInt8}
    (arrived : accepts i call = true ∨ call.1.ReceivesFrame) : receives pipeId call = false := by
  obtain ⟨op, outcome⟩ := call
  cases op with
  | rcvMsg bufPtr id timeOut env => rcases arrived with accepted | frame <;> contradiction
  | _ => rfl

theorem EntryStep.inUse_eq {pipe after : PipeD P} {call : Op P × Outcome P}
    (step : EntryStep i pipe call after) (live : LivePipe i pipe)
    (undeleted : ¬ Deletes call (indexId i)) : after.inUse = inUse := by
  cases step with
  | closed deletes => exact absurd deletes undeleted
  | _ => exact live.inUse_eq

end SbnClient
