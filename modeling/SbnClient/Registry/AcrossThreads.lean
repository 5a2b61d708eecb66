import SbnClient.Registry.Control
import SbnClient.Threads.Atomicity

/-!
# The registry and one step of the threads

The table is shared by the receive minder and the threads of the application, and what it says
about the pipes can still be told from their calls alone, taken in the order in which they took
effect.  Except for the counters this needs no assumption on the step: a pipe may be deleted
while a `RcvMsg` call waits for it, and a wait may end without a message.
-/

namespace SbnClient

variable {P : Platform} {Thread : Type*} {tbl : PipeTbl P} {history : History P}

/-- The call of an application that returns in the step. -/
def ConcurrentEvent.call? : ConcurrentEvent P Thread → Option (Op P × Outcome P)
  | .called _ op outcome => some (op, outcome)
  | .resumed _ entered _ outcome => some (entered.op, outcome)
  | _ => none

/-- The receive minder changes nothing that the calls have made. -/
theorem sameBindings_recvTurn {next : PipeTbl P} {socket rest : Socket}
    {point later : RecvPoint P} (inRange : point.InRange)
    (ran : recvTurn tbl socket point = some (next, rest, later)) : SameBindings next tbl := by
  cases point with
  | outside | signalling pipe | returning status => cases ran
  | readingHdr | readingMsg | readingApp =>
      obtain ⟨⟨turn, left⟩, turned, equal⟩ := Option.map_eq_some_iff.mp ran
      cases turn <;> cases equal <;> exact .refl tbl
  | enqueueing msgSz msgBuffer =>
      obtain ⟨payload, -, enqueued⟩ := @exists_enqueueMessage P msgSz msgBuffer inRange tbl
      rw [recvTurn, enqueued] at ran
      cases ran
      exact (ingestStep_deliver tbl _ payload).sameBindings

/-- A call that begins or ends a pipe or subscribes one to an id. -/
theorem Recorded.managed {next : PipeTbl P} (recorded : Recorded history (withoutCounters tbl))
    {op : Op P} {outcome : Outcome P} (application : op.OfApplication)
    (ran : SbnClient.applyOp tbl op = some (next, outcome)) :
    Recorded (history ++ [(op, outcome)]) (withoutCounters next) := by
  have ranWithout : SbnClient.applyOp (withoutCounters tbl) op =
      some (withoutCounters next, outcome) := by
    cases op with
    | createPipe pipeIdPtr depth pipeName =>
        cases ran
        rw [SbnClient.applyOp, createPipe_withoutCounters]
    | deletePipe pipeId =>
        rw [SbnClient.applyOp, Option.some.injEq, Prod.mk.injEq] at ran
        rw [← ran.1, ← ran.2, SbnClient.applyOp, deletePipe_withoutCounters]
    | subscribe msgId pipeId written =>
        obtain ⟨result, subscribed, equal⟩ := Option.map_eq_some_iff.mp ran
        cases equal
        rw [SbnClient.applyOp, subscribe_withoutCounters, subscribed]
        rfl
    | ingestAppMessage | recvMsg | rcvMsg => exact application.elim
  exact recorded.applyOp (sequential_of_application application ranWithout) ranWithout

/-- A `RcvMsg` call, whatever it does to the counters. -/
theorem Recorded.received {next : PipeTbl P} (recorded : Recorded history (withoutCounters tbl))
    (same : SameBindings next tbl) (bufPtr : Bool) (pipeId : UInt8) (timeOut : Int)
    (env : RcvEnv P) (outcome : Outcome P) :
    Recorded (history ++ [(.rcvMsg bufPtr pipeId timeOut env, outcome)])
      (withoutCounters next) := by
  refine (recorded.concat ?_ ?_ ?_).of_sameBindings same <;>
    simp [Creates, Deletes, Subscribes]

/-- What holds of the threads in every run: the calls are recorded, and where a `recv_msg` call
is under way it stays within its buffers. -/
structure Consistent (history : History P) (threads : Concurrent P Thread) : Prop where
  recorded : Recorded history (withoutCounters threads.tbl)
  inRange : threads.point = .outside ∨ threads.point.InRange

theorem Consistent.step [DecidableEq Thread] {threads after : Concurrent P Thread}
    (consistent : Consistent history threads) {event : ConcurrentEvent P Thread}
    (step : threads.Step event after) :
    Consistent (history ++ event.call?.toList) after := by
  have recorded := consistent.recorded
  have kept : Recorded (history ++ []) (withoutCounters threads.tbl) := by
    rwa [List.append_nil]
  refine ⟨?_, step.inRange consistent.inRange⟩
  cases step with
  | recvCalled | signalled | recvReturned | looked | blocked | woke => exact kept
  | turned ran =>
      have inRange := inRange_of_recvTurn consistent.inRange ran
      exact kept.of_sameBindings (sameBindings_recvTurn inRange ran)
  | managed thread idle application ran => exact recorded.managed application ran
  | refused thread idle found => exact recorded.received (.refl _) ..
  | returned thread entering locked =>
      exact recorded.received (sameBindings_rcvLocked locked) ..
  | resumed thread woken ran =>
      subst ran
      exact recorded.received (sameBindings_rcvFinish ..) ..

end SbnClient
