import SbnClient.Foundations.Budget
import SbnClient.Mailboxes.HandedOut
import SbnClient.Mailboxes.Held

/-!
# Buffers that threads hold

A thread reads the message that it has been handed while other threads go on: messages arrive
in pieces, calls for the same pipe wait, time out or find nothing, other pipes are created, used
and deleted.  Its buffer stays as it is until a thread is handed another message of the same
pipe, or deletes the pipe.
-/

namespace SbnClient

variable {P : Platform} {Thread : Type*} {tbl next : PipeTbl P} {k : Fin maxPipes}

/-- The slot of the pipe in use that was handed out last shows what it did then. -/
structure HoldsBuffer (k : Fin maxPipes) (slot : Fin maxPipeDepth)
    (buffer : Buffer P.maxMessageSize) (tbl : PipeTbl P) : Prop where
  registry : Registry tbl
  inUse_eq : (tbl k).inUse = inUse
  occupied : (tbl k).Occupied slot 0
  buffer_eq : (tbl k).messages slot = buffer

/-- A step that neither hands out a message of the pipe nor deletes it; the mutex calls of
`RcvMsg` calls succeed. -/
structure AtomicEvent.Leaves (k : Fin maxPipes) (event : AtomicEvent P Thread) : Prop where
  calm : event.Calm
  silent : event.handedOut k = []
  undeleted : ∀ thread outcome, event ≠ .called thread (.deletePipe (indexId k)) outcome

variable {slot : Fin maxPipeDepth} {buffer : Buffer P.maxMessageSize}

/-- What a call does to the slot, unless it closes the pipe or hands out a message of it. -/
theorem EntryStep.held {pipe after : PipeD P} {op : Op P} {outcome : Outcome P}
    (step : EntryStep k pipe (op, outcome) after) (live : LivePipe k pipe)
    (unclosed : ¬ Deletes (op, outcome) (indexId k))
    (silent : ∀ bufPtr timeOut env, op = .rcvMsg bufPtr (indexId k) timeOut env →
      env.unlockMutexStatus = 0 ∧ outcome.buffer? = none) (occupied : pipe.Occupied slot 0) :
    after.Occupied slot 0 ∧ after.messages slot = pipe.messages slot := by
  cases step with
  | kept => exact ⟨occupied, rfl⟩
  | subscribed => exact ⟨occupied, rfl⟩
  | pushed payload arrived room => exact occupied.pushMessage live.readMessage_lt room payload
  | taken isCall handed available =>
      cases isCall
      obtain ⟨unlocked, none⟩ := silent _ _ _ rfl
      rw [handed unlocked] at none
      cases none
  | closed deletes => exact absurd deletes unclosed

/-- A call that leaves the pipe open and hands out nothing of it. -/
theorem HoldsBuffer.applyOp (holds : HoldsBuffer k slot buffer tbl) {op : Op P}
    {outcome : Outcome P} (sequential : op.Sequential tbl)
    (ran : applyOp tbl op = some (next, outcome)) (undeleted : op ≠ .deletePipe (indexId k))
    (silent : ∀ bufPtr timeOut env, op = .rcvMsg bufPtr (indexId k) timeOut env →
      env.unlockMutexStatus = 0 ∧ outcome.buffer? = none) : HoldsBuffer k slot buffer next := by
  have step := holds.registry.entryStep sequential ran holds.inUse_eq
  have live := holds.registry.live holds.inUse_eq
  obtain ⟨again, told, ranAgain, registry⟩ := holds.registry.applyOp sequential
  rw [ran, Option.some.injEq, Prod.mk.injEq] at ranAgain
  obtain ⟨rfl, rfl⟩ := ranAgain
  have unclosed : ¬ Deletes (op, outcome) (indexId k) := by
    intro deletes
    cases deletes
    exact undeleted rfl
  obtain ⟨occupied, same⟩ := step.held live unclosed silent holds.occupied
  exact ⟨registry, step.inUse_eq live unclosed, occupied, same.trans holds.buffer_eq⟩

/-- A step that leaves the pipe. -/
theorem HoldsBuffer.step {state after : PipeTbl P × Socket}
    (holds : HoldsBuffer k slot buffer state.1) {event : AtomicEvent P Thread}
    (step : AtomicStep state event after) (leaves : event.Leaves k) :
    HoldsBuffer k slot buffer after.1 := by
  cases step with
  | @frame tbl socket locals received ran =>
      have sequential : Op.Sequential tbl (.recvMsg locals socket) := trivial
      have called : SbnClient.applyOp tbl (.recvMsg locals socket) =
          some (received.tbl, .frame received.status) := by
        rw [SbnClient.applyOp, ran]
        rfl
      exact holds.applyOp sequential called (by simp) (by simp)
  | @managed thread tbl next socket op outcome application ran =>
      refine holds.applyOp (sequential_of_application application ran) ran ?_ ?_
      · rintro rfl
        exact leaves.undeleted thread outcome rfl
      · rintro bufPtr timeOut env rfl
        exact application.elim
  | @received thread tbl socket bufPtr pipeId timeOut env result ran =>
      by_cases refused : ¬ bufPtr ∨ timeOut < -1
      · rw [rcvBegin, if_pos refused] at ran
        cases ran
        exact holds
      · have called : SbnClient.applyOp tbl (.rcvMsg bufPtr pipeId timeOut env) =
            some (result.tbl, result.outcome) := by
          rw [SbnClient.applyOp, rcvMsg, ran]
          rfl
        refine holds.applyOp (sequential_of_accepted holds.registry refused ran) called (by simp) ?_
        rintro _ _ _ isCall
        cases isCall
        have reads : Op.Reads k (.rcvMsg bufPtr (indexId k) timeOut env : Op P) := rfl
        have silent := leaves.silent
        rw [AtomicEvent.handedOut, if_pos reads, Option.toList_eq_nil_iff] at silent
        exact ⟨leaves.calm.2, silent⟩
  | gaveUp => exact holds

/-- A step of the threads that leaves the pipe. -/
structure ConcurrentEvent.Leaves (k : Fin maxPipes) (event : ConcurrentEvent P Thread) : Prop where
  calm : event.Calm
  silent : event.handedOut k = []
  undeleted : ∀ thread outcome, event ≠ .called thread (.deletePipe (indexId k)) outcome

theorem ConcurrentEvent.Leaves.effects {event : ConcurrentEvent P Thread}
    (leaves : event.Leaves k) : ∀ taken ∈ event.effects, taken.Leaves k := by
  intro taken member
  refine ⟨leaves.calm.effects taken member, ?_, ?_⟩
  · exact List.flatMap_eq_nil_iff.mp leaves.silent taken member
  · rintro thread outcome rfl
    exact leaves.undeleted thread outcome (eq_called_of_mem_effects trivial member)

variable [DecidableEq Thread]

end SbnClient
