import SbnClient.Mailboxes.Pending
import SbnClient.Model.Threads

/-!
# What the steps of the threads do

Each step of the threads changes at most one pipe of the table.  The lemmas of this file
say how, from the code of the critical section it stands for; they assume nothing about
the counters, which a wrong step may have left out of range.
-/

namespace SbnClient

open ConditionVariable SegmentedInput

variable {P : Platform} {tbl next : PipeTbl P}

/-! ## Ingesting -/

/-- What `ingest_app_message` does with a payload. -/
inductive IngestStep (tbl : PipeTbl P) (payload : List UInt8) :
    PipeTbl P → IngestResult → Prop where
  | kept {result : IngestResult} (silent : ∀ i, result ≠ .received i) :
      IngestStep tbl payload tbl result
  | pushed {i : Fin maxPipes} (stored : Payload P) (bytes : stored.bytes = payload)
      (used : (tbl i).inUse = inUse) (room : (tbl i).numberOfMessages ≠ maxPipeDepth) :
      IngestStep tbl payload (Function.update tbl i (pushMessage (tbl i) stored)) (.received i)

theorem ingestStep_deliver (tbl : PipeTbl P) (msgId : MsgId P) (payload : Payload P) :
    IngestStep tbl payload.bytes (deliver tbl msgId payload) (ingestResult tbl msgId) := by
  rw [deliver, ingestResult]
  cases found : route tbl msgId with
  | none =>
      apply IngestStep.kept
      intro i
      simp only
      split <;> simp
  | some i =>
      simp only
      split
      next => exact .kept (by simp)
      next room => exact .pushed payload rfl (route_eq_some_iff.mp found).1.1 room

theorem ingestStep_ingestAppMessage {msgBuffer : Buffer P.maxMessageSize}
    {socket rest : Socket} {msgSz : UInt16} {result : IngestResult}
    (ran : ingestAppMessage tbl msgBuffer socket msgSz = some (next, rest, result)) :
    IngestStep tbl ((available socket).take msgSz.toNat) next result := by
  by_cases complete : msgSz.toNat ≤ P.maxMessageSize ∧ msgSz.toNat ≤ (available socket).length
  · obtain ⟨left, routed, -⟩ := ingestAppMessage_of_complete tbl msgBuffer complete.1 complete.2
    rw [routed] at ran
    cases ran
    exact ingestStep_deliver tbl _ (incoming socket _ complete.1)
  · have incomplete : P.maxMessageSize < msgSz.toNat ∨ (available socket).length < msgSz.toNat := by
      omega
    obtain ⟨left, status, failed⟩ := ingestAppMessage_of_incomplete tbl msgBuffer incomplete
    rw [failed] at ran
    cases ran
    exact .kept (by simp)

theorem IngestStep.contentStep {payload : List UInt8} {result : IngestResult}
    (step : IngestStep tbl payload next result) : ContentStep tbl next := by
  cases step with
  | kept silent => exact .unchanged
  | pushed stored bytes used room => exact .pushed _ stored used room

/-! ## Receiving -/

/-- The answer that hands over the slot after the one handed out last. -/
def taken (tbl : PipeTbl P) (i : Fin maxPipes) : Answer P :=
  ⟨.success, some (i, (tbl i).messages (nextMsg (tbl i)))⟩

/-- The end of a `RcvMsg` call whose mutex is unlocked without error. -/
theorem rcvFinish_success (tbl : PipeTbl P) (i : Fin maxPipes) :
    (rcvFinish tbl i .success 0).tbl = Function.update tbl i (advance (tbl i)) ∧
      (rcvFinish tbl i .success 0).answer = taken tbl i := by
  simp [rcvFinish, RcvResult.answer, taken]

theorem rcvFinish_of_ne_success (tbl : PipeTbl P) (i : Fin maxPipes) {status : Status}
    (failed : status ≠ .success) :
    (rcvFinish tbl i status 0).tbl = tbl ∧ (rcvFinish tbl i status 0).answer = ⟨status, none⟩ := by
  simp [rcvFinish, failed, RcvResult.answer]

/-- A call goes on after its wait: it takes a message when the wait returned zero, and otherwise
leaves the table alone and fails. -/
theorem rcvFinish_waitResult_cases (tbl : PipeTbl P) (i : Fin maxPipes) (waitMutexStatus : Int) :
    let result := rcvFinish tbl i (waitResult P waitMutexStatus) 0
    (waitMutexStatus = 0 ∧ result.tbl = Function.update tbl i (advance (tbl i)) ∧
      result.answer = taken tbl i) ∨
    (waitMutexStatus ≠ 0 ∧ result.tbl = tbl ∧ result.answer.status ≠ .success ∧
      result.answer.message = none) := by
  intro result
  by_cases success : waitResult P waitMutexStatus = .success
  · obtain ⟨moved, answer⟩ := rcvFinish_success tbl i
    refine .inl ⟨(waitResult_eq_success_iff P _).mp success, ?_⟩
    simp only [result, success, moved, answer, and_self]
  · obtain ⟨same, answer⟩ := rcvFinish_of_ne_success tbl i success
    refine .inr ⟨fun zero => success ((waitResult_eq_success_iff P _).mpr zero), same, ?_⟩
    simp [result, answer, success]

/-- What a `RcvMsg` call does that does not wait. -/
inductive RcvStep (tbl : PipeTbl P) : PipeTbl P → Answer P → Prop where
  | kept {status : Status} (failed : status ≠ .success) : RcvStep tbl tbl ⟨status, none⟩
  | took {i : Fin maxPipes} (used : (tbl i).inUse = inUse)
      (available : 2 ≤ (tbl i).numberOfMessages) :
      RcvStep tbl (Function.update tbl i (advance (tbl i))) (taken tbl i)

theorem RcvStep.contentStep {answer : Answer P} (step : RcvStep tbl next answer) :
    ContentStep tbl next := by
  cases step with
  | kept failed => exact .unchanged
  | took used available => exact .taken _ used available

theorem getPipeIdx_inUse {pipeId pipeIdx : UInt8} (found : getPipeIdx tbl pipeId = some pipeIdx)
    (inRange : pipeIdx.toNat < maxPipes) : (tbl ⟨pipeIdx.toNat, inRange⟩).inUse = inUse := by
  obtain ⟨pipe, entry, chosen⟩ := Option.map_eq_some_iff.mp found
  split at chosen
  next quick =>
    subst chosen
    rw [PipeTbl.at?_of_lt tbl inRange, Option.some.injEq] at entry
    rw [entry]
    exact quick.2
  next =>
    rw [searchPipeIdx] at chosen
    cases searched : Fin.find? fun i => (tbl i).pipeId = pipeId ∧ (tbl i).inUse = inUse with
    | none =>
        rw [searched] at chosen
        subst chosen
        exact absurd inRange (by decide)
    | some i =>
        rw [searched] at chosen
        have index : pipeIdx.toNat = i.val := by
          rw [← chosen]
          exact toNat_indexId i
        simp only [index]
        exact (of_decide_eq_true (Fin.find?_eq_some_iff.mp searched).1).2

/-- A `RcvMsg` call is refused or goes on under the mutex, for a pipe in use. -/
theorem rcvBegin_cases {bufPtr : Bool} {pipeId : UInt8} {timeOut : Int} {env : RcvEnv P}
    {begun : RcvBegun P} (began : rcvBegin tbl bufPtr pipeId timeOut env = some begun) :
    begun = .returned ⟨tbl, .badArgument, none⟩ ∨
      ∃ i, (tbl i).inUse = inUse ∧ rcvLocked tbl i timeOut env = begun := by
  rw [rcvBegin] at began
  split at began
  next => exact .inl (Option.some.inj began).symm
  next =>
    obtain ⟨pipeIdx, found, began⟩ := Option.bind_eq_some_iff.mp began
    split at began
    next => exact .inl (Option.some.inj began).symm
    next =>
      split at began
      next inRange => exact .inr ⟨_, getPipeIdx_inUse found inRange, Option.some.inj began⟩
      next => simp at began

/-- It waits only for a pipe that holds no message. -/
theorem rcvBegin_waits {bufPtr : Bool} {pipeId : UInt8} {timeOut : Int} {env : RcvEnv P}
    {i : Fin maxPipes} {deadline : Option Timespec}
    (began : rcvBegin tbl bufPtr pipeId timeOut env = some (.waits i deadline)) :
    (tbl i).inUse = inUse ∧ (tbl i).numberOfMessages < 2 := by
  rcases rcvBegin_cases began with refused | ⟨k, used, locked⟩
  · cases refused
  · obtain ⟨rfl, -, waiting⟩ := rcvLocked_eq_waits_iff.mp locked
    exact ⟨used, (rcvAction_eq_wait_iff.mp waiting).1⟩

/-- It returns at once with an error, or with a message that was there. -/
theorem rcvStep_rcvBegin {bufPtr : Bool} {pipeId : UInt8} {timeOut : Int} {env : RcvEnv P}
    {result : RcvResult P} (unlocked : env.unlockMutexStatus = 0)
    (began : rcvBegin tbl bufPtr pipeId timeOut env = some (.returned result)) :
    RcvStep tbl result.tbl result.answer := by
  rcases rcvBegin_cases began with refused | ⟨k, used, locked⟩
  · cases refused
    exact .kept (by simp)
  · rcases rcvLocked_returned locked with rfl | rfl | ⟨available, rfl⟩
    · exact .kept (by simp)
    · have polled : Status.noMessage ≠ .success := by simp
      obtain ⟨same, answer⟩ := rcvFinish_of_ne_success tbl k polled
      rw [unlocked, same, answer]
      exact .kept polled
    · obtain ⟨moved, answer⟩ := rcvFinish_success tbl k
      rw [unlocked, moved, answer]
      exact .took used available

end SbnClient
