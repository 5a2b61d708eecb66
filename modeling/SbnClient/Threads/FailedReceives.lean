import SbnClient.Registry.FirstPipe
import SbnClient.Threads.Delivery

/-!
# Receives that fail

Whatever the mutex and the wait of a `__wrap_CFE_SB_RcvMsg` call return, and whatever the
receive thread ingests while the call waits: a call that fails has left the pipes as it found
them, and one that succeeds has taken one slot of its own pipe.
-/

namespace SbnClient

open SegmentedInput

variable {P : Platform} {tbl : PipeTbl P} {k : Fin maxPipes} {bufPtr : Bool} {timeOut : Int}
  {env : RcvEnv P} {result : RcvResult P}

/-! ## Messages that arrive during the wait -/

/-- One `ingest_app_message` call of the receive thread. -/
structure IngestCall (P : Platform) where
  msgBuffer : Buffer P.maxMessageSize
  socket : Socket
  msgSz : UInt16

namespace IngestCall

/-- The payload that is there to be read. -/
def payload (call : IngestCall P) : List UInt8 :=
  (available call.socket).take call.msgSz.toNat

/-- The call, as a step of the pipe table. -/
def step (tbl : PipeTbl P) (call : IngestCall P) : Option (PipeTbl P × IngestResult) :=
  (ingestAppMessage tbl call.msgBuffer call.socket call.msgSz).map fun (tbl, _, result) =>
    (tbl, result)

/-- The queues after some calls. -/
def queuesAfter (queues : Queues) (ingested : List (IngestCall P × IngestResult)) : Queues :=
  ingested.foldl (fun queues call => call.2.enqueue call.1.payload queues) queues

/-- The pipes in use carry the queues, and are those that were in use at the start. -/
structure Arrived (start : PipeTbl P) (queues : Queues)
    (ingested : List (IngestCall P × IngestResult)) (tbl : PipeTbl P) : Prop where
  registry : Registry tbl
  carries : Carries tbl (queuesAfter queues ingested)
  inUse_eq : ∀ i, (tbl i).inUse = (start i).inUse

theorem Arrived.step {start : PipeTbl P} {queues : Queues}
    {ingested : List (IngestCall P × IngestResult)} (arrived : Arrived start queues ingested tbl)
    (call : IngestCall P) :
    ∃ next result, call.step tbl = some (next, result) ∧
      Arrived start queues (ingested ++ [(call, result)]) next := by
  obtain ⟨⟨next, rest, result⟩, ran, -⟩ :=
    arrivalStep_ingestAppMessage tbl call.msgBuffer call.socket call.msgSz
  have step := ingestStep_ingestAppMessage ran
  refine ⟨next, result, by rw [IngestCall.step, ran]; rfl,
    arrived.registry.contentStep step.contentStep, ?_, fun i =>
      (step.contentStep.inUse_eq i).trans (arrived.inUse_eq i)⟩
  rw [queuesAfter, List.foldl_concat]
  exact arrived.carries.ingest step

/-- What arrives joins the queues of the pipes that get it. -/
theorem arrived_run (registry : Registry tbl) {calls : List (IngestCall P)} {after : PipeTbl P}
    {results : List IngestResult}
    (ran : Machine.run IngestCall.step tbl calls = some (after, results)) :
    Arrived tbl (fun i => pending (tbl i)) (calls.zip results) after := by
  have start : Arrived tbl (fun i => pending (tbl i)) [] tbl :=
    ⟨registry, registry.carries_pending, fun _ => rfl⟩
  exact Machine.holds_of_run (@Machine.run_history _ _ _ IngestCall.step (fun _ _ => True)
    (Arrived tbl fun i => pending (tbl i)) (fun _ _ call arrived _ => arrived.step call)
    calls [] tbl start (Machine.permitted_of_forall (fun _ _ _ => trivial) _)) ran

end IngestCall

/-! ## One call -/

/-- The call waits on `received_condition`. -/
def Waits (tbl : PipeTbl P) (bufPtr : Bool) (k : Fin maxPipes) (timeOut : Int)
    (env : RcvEnv P) : Prop :=
  ValidArguments (tbl k) bufPtr timeOut ∧ env.lockMutexStatus = 0 ∧
    (tbl k).numberOfMessages < 2 ∧ timeOut ≠ P.sbPoll

instance : Decidable (Waits tbl bufPtr k timeOut env) :=
  inferInstanceAs (Decidable (_ ∧ _ ∧ _ ∧ _))

/-- The table with what arrives during the wait, if there is one. -/
def afterWait (tbl : PipeTbl P) (bufPtr : Bool) (k : Fin maxPipes) (timeOut : Int)
    (env : RcvEnv P) : PipeTbl P :=
  if Waits tbl bufPtr k timeOut env then env.duringWait tbl else tbl

/-- The call consumes one slot of the pipe, the next one, and leaves everything else alone. -/
structure TakesOne (tbl : PipeTbl P) (k : Fin maxPipes) (result : RcvResult P) : Prop where
  consumed : 1 ≤ (tbl k).numberOfMessages
  tbl_eq : result.tbl = Function.update tbl k { tbl k with
    readMessage := ((tbl k).readMessage + 1) % maxPipeDepth
    numberOfMessages := (tbl k).numberOfMessages - 1 }
  bufPtr_eq : ∃ slot : Fin maxPipeDepth, result.bufPtr = some (.message k slot) ∧
    slot.val = ((tbl k).readMessage + 1) % maxPipeDepth

/-- What the status of a call tells. -/
structure LosesNothing (tbl : PipeTbl P) (bufPtr : Bool) (k : Fin maxPipes) (timeOut : Int)
    (env : RcvEnv P) (result : RcvResult P) : Prop where
  failed : result.status ≠ .success → result.tbl = afterWait tbl bufPtr k timeOut env ∧
    (ValidArguments (tbl k) bufPtr timeOut → result.bufPtr = some .null)
  succeeded : result.status = .success →
    TakesOne (afterWait tbl bufPtr k timeOut env) k result
  pipeRdErr_iff : result.status = .pipeRdErr ↔ ValidArguments (tbl k) bufPtr timeOut ∧
    (env.lockMutexStatus ≠ 0 ∨ (Waits tbl bufPtr k timeOut env ∧ env.waitMutexStatus ≠ 0 ∧
      env.waitMutexStatus ≠ P.etimedout))
  timeOut_iff : result.status = .timeOut ↔
    Waits tbl bufPtr k timeOut env ∧ env.waitMutexStatus = P.etimedout
  noMessage_iff : result.status = .noMessage ↔ ValidArguments (tbl k) bufPtr timeOut ∧
    env.lockMutexStatus = 0 ∧ timeOut = P.sbPoll ∧ (tbl k).numberOfMessages < 2
  badArgument_iff : result.status = .badArgument ↔ ¬ ValidArguments (tbl k) bufPtr timeOut

theorem LivePipe.takesOne (live : LivePipe k (tbl k)) :
    TakesOne tbl k ⟨Function.update tbl k (SbnClient.advance (tbl k)), .success,
      some (.message k (nextMsg (tbl k)))⟩ where
  consumed := live.numberOfMessages_ge
  tbl_eq := by
    rw [← val_nextMsg live.readMessage_lt,
      ← numberOfMessages_advance live.numberOfMessages_ge live.numberOfMessages_le]
    rfl
  bufPtr_eq := ⟨_, rfl, val_nextMsg live.readMessage_lt⟩

theorem RcvCall.losesNothing (call : RcvCall tbl bufPtr k timeOut env result)
    (registry : Registry tbl) (unlocked : env.unlockMutexStatus = 0)
    (live : ValidArguments (tbl k) bufPtr timeOut → LivePipe k (env.duringWait tbl k)) :
    LosesNothing tbl bufPtr k timeOut env result := by
  cases call with
  | refused invalid =>
      have atOnce : ¬ Waits tbl bufPtr k timeOut env := fun waits => invalid waits.1
      constructor <;> simp [afterWait, invalid, atOnce]
  | lockFailed valid failed =>
      have atOnce : ¬ Waits tbl bufPtr k timeOut env := fun waits => failed waits.2.1
      constructor <;> simp [afterWait, valid, failed, atOnce]
  | polled valid locked empty poll =>
      subst poll
      have atOnce : ¬ Waits tbl bufPtr k P.sbPoll env := fun waits => waits.2.2.2 rfl
      rw [unlocked, rcvFinish_unlocked]
      constructor <;> simp [afterWait, valid, locked, empty, atOnce]
  | waited valid locked empty patient =>
      have waits : Waits tbl bufPtr k timeOut env := ⟨valid, locked, empty, patient⟩
      rw [unlocked, rcvFinish_unlocked]
      rcases waitResult_cases P env.waitMutexStatus with status | status | status
      · have signalled := (waitResult_eq_success_iff P _).mp status
        have takes := (live valid).takesOne
        rw [status, if_pos rfl]
        constructor <;> simp [afterWait, waits, valid, locked, patient, signalled, takes,
          P.etimedout_ne_zero.symm]
      · have timedOut := (waitResult_eq_timeOut_iff P _).mp status
        rw [status, if_neg (by simp)]
        constructor <;> simp [afterWait, waits, valid, locked, patient, timedOut]
      · have broken := (waitResult_eq_pipeRdErr_iff P _).mp status
        rw [status, if_neg (by simp)]
        constructor <;> simp [afterWait, waits, valid, locked, patient, broken]
  | took valid locked available =>
      have atOnce : ¬ Waits tbl bufPtr k timeOut env := fun waits => by
        have := waits.2.2.1
        omega
      have full : ¬ (tbl k).numberOfMessages < 2 := Nat.not_lt.mpr available
      rw [unlocked, rcvFinish_unlocked, if_pos rfl]
      have takes := (registry.live valid.2.2).takesOne
      constructor <;> simp [afterWait, valid, locked, full, atOnce, takes]

/-! ## The messages that remain -/

/-- As many successful `RcvMsg` calls as the queue of a pipe is long hand over all of it. -/
def HandsOut (tbl : PipeTbl P) (queues : Queues) : Prop :=
  ∀ i, (tbl i).inUse = inUse → ∀ polls : List (Poll P), polls.length = (queues i).length →
    (∀ poll ∈ polls, poll.Ready) →
      ∃ final outcomes, Machine.run applyOp tbl (polls.map (Poll.op i)) = some (final, outcomes) ∧
        List.Forall₂ Delivers outcomes (queues i)

/-- The messages that were there, and those that arrived during the wait, if there was one. -/
def queuesAfterWait (tbl : PipeTbl P) (bufPtr : Bool) (k : Fin maxPipes) (timeOut : Int)
    (env : RcvEnv P) (ingested : List (IngestCall P × IngestResult)) : Queues :=
  if Waits tbl bufPtr k timeOut env then
    IngestCall.queuesAfter (fun i => pending (tbl i)) ingested
  else
    fun i => pending (tbl i)

theorem Carries.handsOut (registry : Registry tbl) {queues : Queues}
    (carries : Carries tbl queues) : HandsOut tbl queues :=
  fun i used _ oneEach ready => registry.drain used (carries i used) oneEach ready

/-- For every reachable table, all results of the mutex and the wait and all messages ingested
during the wait: a `RcvMsg` call that fails loses no message, and its status tells why it
failed. -/
theorem rcvMsg_losesNothing (reachable : Reachable tbl) {pipeId : UInt8}
    (inRange : pipeId.toNat < maxPipes) (bufPtr : Bool) (timeOut : Int) {env : RcvEnv P}
    (unlocked : env.unlockMutexStatus = 0) {calls : List (IngestCall P)}
    {results : List IngestResult}
    (meanwhile : Machine.run IngestCall.step tbl calls = some (env.duringWait tbl, results)) :
    ∃ k result, pipeId = indexId k ∧ rcvMsg tbl bufPtr pipeId timeOut env = some result ∧
      LosesNothing tbl bufPtr k timeOut env result ∧
      (result.status ≠ .success →
        HandsOut result.tbl (queuesAfterWait tbl bufPtr k timeOut env (calls.zip results))) := by
  obtain ⟨k, rfl⟩ := exists_indexId inRange
  have registry := reachable.registry
  have arrived := IngestCall.arrived_run registry meanwhile
  obtain ⟨result, ran, call⟩ := exists_rcvCall registry bufPtr k timeOut env
  have loses := call.losesNothing registry unlocked fun valid =>
    arrived.registry.live ((arrived.inUse_eq k).trans valid.2.2)
  refine ⟨k, result, rfl, ran, loses, fun failing => ?_⟩
  rw [(loses.failed failing).1, afterWait, queuesAfterWait]
  by_cases waits : Waits tbl bufPtr k timeOut env
  · rw [if_pos waits, if_pos waits]
    exact arrived.carries.handsOut arrived.registry
  · rw [if_neg waits, if_neg waits]
    exact registry.carries_pending.handsOut registry

/-- The payload of a message that arrives late. -/
def latePayload : Payload (standardPlatform 32768) :=
  ⟨[8, 1, 7], Nat.le_of_ble_eq_true rfl⟩

/-- A `RcvMsg` call during whose wait the message arrives, and which times out all the same. -/
def lateEnv : RcvEnv (standardPlatform 32768) :=
  ⟨⟨0, 0⟩, 0, 110, fun tbl => deliver tbl 0x0801 latePayload, 0⟩

theorem late_message_kept :
    let tbl := subscribedPipe (zeroPipeTbl (standardPlatform 32768)) [0x41] 0x0801
    let call : IngestCall (standardPlatform 32768) := ⟨Buffer.filled _ 0, whole [8, 1, 7], 3⟩
    ∃ k result, (0 : UInt8) = indexId k ∧ rcvMsg tbl true 0 1000 lateEnv = some result ∧
      LosesNothing tbl true k 1000 lateEnv result ∧
      (result.status ≠ .success → HandsOut result.tbl
        (queuesAfterWait tbl true k 1000 lateEnv [(call, .received 0)])) := by
  intro tbl call
  have accepted : call.msgSz.toNat ≤ (standardPlatform 32768).maxMessageSize :=
    Nat.le_of_ble_eq_true rfl
  have complete : call.msgSz.toNat ≤ (available call.socket).length := Nat.le_refl 3
  have msgId : getMsgId (standardPlatform 32768)
      (filledWith call.msgBuffer (incoming call.socket _ accepted)) = 0x0801 := rfl
  have payload : incoming call.socket _ accepted = latePayload := rfl
  obtain ⟨rest, ran, -⟩ := ingestAppMessage_of_complete tbl call.msgBuffer accepted complete
  rw [msgId, payload, ingestResult_subscribedPipe] at ran
  have stepped : call.step tbl = some (lateEnv.duringWait tbl, .received 0) := by
    rw [IngestCall.step, ran]
    rfl
  have meanwhile : Machine.run IngestCall.step tbl [call] =
      some (lateEnv.duringWait tbl, [.received 0]) := by
    simp [Machine.run, stepped]
  exact rcvMsg_losesNothing (reachable_subscribedPipe _ _ _) (by decide) true 1000 rfl meanwhile

end SbnClient
