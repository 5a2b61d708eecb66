import SbnClient.Mailboxes.Refinement
import SbnClient.Model.StandardPlatform
import SbnClient.Registry.EntrySteps

/-!
# Messages stay in their slots

`__wrap_CFE_SB_RcvMsg` hands out a pointer into the ring, and `ingest_app_message` writes
to the ring.  A slot between `ReadMessage` and the entry point is written by no call until
`RcvMsg` has moved past it: a message that waits to be delivered stays as it arrived, and
the one that was delivered last stays as the application was handed it.
-/

namespace SbnClient

open RetainedRing SegmentedInput

variable {P : Platform} {tbl next : PipeTbl P} {i : Fin maxPipes}

/-- The slot is in use, `offset` messages after the one handed out last. -/
abbrev PipeD.Occupied (pipe : PipeD P) (slot : Fin maxPipeDepth) (offset : Nat) : Prop :=
  RetainedRing.Occupied pipe.readMessage pipe.numberOfMessages slot offset

/-! ## One call -/

/-- A new message goes to another slot. -/
theorem PipeD.Occupied.pushMessage {pipe : PipeD P} {slot : Fin maxPipeDepth} {offset : Nat}
    (occupied : pipe.Occupied slot offset) (inRange : pipe.readMessage < maxPipeDepth)
    (room : pipe.numberOfMessages ≠ maxPipeDepth) (payload : Payload P) :
    (pushMessage pipe payload).Occupied slot offset ∧
      (pushMessage pipe payload).messages slot = pipe.messages slot := by
  have bounded := occupied.count_le
  have notFull : pipe.numberOfMessages < maxPipeDepth := lt_of_le_of_ne bounded room
  have entry := val_entrySlot inRange bounded
  have other : slot ≠ entrySlot pipe := by
    intro same
    exact occupied.ne_entry notFull (by rw [same, entry])
  refine ⟨?_, Function.update_of_ne other ..⟩
  have grown := occupied.push notFull
  rw [← numberOfMessages_pushMessage payload bounded] at grown
  exact grown

/-- A message that is taken brings the next ones one place nearer. -/
theorem PipeD.Occupied.advance {pipe : PipeD P} {slot : Fin maxPipeDepth} {offset : Nat}
    (occupied : pipe.Occupied slot (offset + 1)) (inRange : pipe.readMessage < maxPipeDepth) :
    (advance pipe).Occupied slot offset := by
  have positive : 1 ≤ pipe.numberOfMessages := (Nat.succ_pos _).trans occupied.offset_lt
  have nearer := occupied.pop
  rw [← numberOfMessages_advance positive occupied.count_le] at nearer
  have cursor : (SbnClient.advance pipe).readMessage =
      position maxPipeDepth pipe.readMessage 1 := val_nextMsg inRange
  rw [PipeD.Occupied, cursor]
  exact nearer

/-- The call neither deletes the pipe nor receives from it with a mutex that its owner
cannot unlock. -/
def Op.Spares (pipeId : UInt8) (op : Op P) : Prop :=
  op ≠ .deletePipe pipeId ∧ ∀ bufPtr timeOut env,
    op = .rcvMsg bufPtr pipeId timeOut env → env.unlockMutexStatus = 0

/-- A call leaves an occupied slot as it is, until `RcvMsg` has moved past it. -/
theorem EntryStep.occupied {pipe after : PipeD P} {op : Op P} {outcome : Outcome P}
    {slot : Fin maxPipeDepth} {offset : Nat} (step : EntryStep i pipe (op, outcome) after)
    (live : LivePipe i pipe) (spares : op.Spares (indexId i)) (occupied : pipe.Occupied slot offset)
    (within : [(op, outcome)].countP (receives (indexId i)) ≤ offset) :
    after.Occupied slot (offset - [(op, outcome)].countP (receives (indexId i))) ∧
      after.messages slot = pipe.messages slot := by
  rw [List.countP_singleton] at within ⊢
  cases step with
  | kept uncreated undeleted unreceived => simpa [unreceived] using occupied
  | subscribed subscribes found =>
      obtain ⟨written, isCall⟩ := subscribes
      cases isCall
      exact ⟨occupied, rfl⟩
  | pushed payload arrived room =>
      rw [receives_of_arrived arrived]
      exact occupied.pushMessage live.readMessage_lt room payload
  | taken isCall handed available =>
      cases isCall
      have received := handed (spares.2 _ _ _ rfl)
      subst received
      simp only [receives, BEq.rfl, Bool.and_self, ↓reduceIte] at within ⊢
      obtain ⟨ahead, rfl⟩ := Nat.exists_eq_add_of_le' within
      exact ⟨occupied.advance live.readMessage_lt, rfl⟩
  | closed deletes =>
      cases deletes
      exact absurd rfl spares.1

/-! ## Runs -/

/-- The calls of a run that leave the pipe open and its mutex usable. -/
def Op.KeepsPipe (pipeId : UInt8) (tbl : PipeTbl P) (op : Op P) : Prop :=
  op.Sequential tbl ∧ op.Spares pipeId

/-- After these calls the pipe is open, and a slot that had an offset keeps its contents, as
long as no more messages have been received than that. -/
structure KeepsSlot (i : Fin maxPipes) (slot : Fin maxPipeDepth) (offset : Nat)
    (contents : Buffer P.maxMessageSize) (history : History P) (tbl : PipeTbl P) : Prop where
  registry : Registry tbl
  inUse_eq : (tbl i).inUse = inUse
  kept : history.countP (receives (indexId i)) ≤ offset →
    (tbl i).Occupied slot (offset - history.countP (receives (indexId i))) ∧
      (tbl i).messages slot = contents

theorem KeepsSlot.applyOp {slot : Fin maxPipeDepth} {offset : Nat}
    {contents : Buffer P.maxMessageSize} {history : History P}
    (keeps : KeepsSlot i slot offset contents history tbl) {op : Op P}
    (permitted : op.KeepsPipe (indexId i) tbl) :
    ∃ next outcome, applyOp tbl op = some (next, outcome) ∧
      KeepsSlot i slot offset contents (history ++ [(op, outcome)]) next := by
  obtain ⟨sequential, spares⟩ := permitted
  obtain ⟨next, outcome, ran, registryNext⟩ := keeps.registry.applyOp sequential
  have step := keeps.registry.entryStep sequential ran keeps.inUse_eq
  have live := keeps.registry.live keeps.inUse_eq
  have undeleted : ¬ Deletes (op, outcome) (indexId i) := by
    intro deletes
    cases deletes
    exact spares.1 rfl
  refine ⟨next, outcome, ran, registryNext, step.inUse_eq live undeleted, fun within => ?_⟩
  rw [List.countP_append] at within ⊢
  obtain ⟨occupied, same⟩ := keeps.kept (by omega)
  obtain ⟨occupiedNext, sameNext⟩ := step.occupied live spares occupied (by omega)
  rw [Nat.sub_sub] at occupiedNext
  exact ⟨occupiedNext, sameNext.trans same⟩

theorem Registry.keepsSlot_run (registry : Registry tbl) (used : (tbl i).inUse = inUse)
    {slot : Fin maxPipeDepth} {offset : Nat} (occupied : (tbl i).Occupied slot offset)
    (ops : List (Op P))
    (permitted : Machine.Permitted SbnClient.applyOp (Op.KeepsPipe (indexId i)) tbl ops) :
    ∃ final outcomes, Machine.run SbnClient.applyOp tbl ops = some (final, outcomes) ∧
      KeepsSlot i slot offset ((tbl i).messages slot) (ops.zip outcomes) final := by
  have start : KeepsSlot i slot offset ((tbl i).messages slot) ([] : History P) tbl :=
    ⟨registry, used, fun _ => ⟨by simpa using occupied, rfl⟩⟩
  exact Machine.run_history (fun _ _ _ keeps permitted => keeps.applyOp permitted) ops start
    permitted

/-! ## The message handed out last -/

/-- A `RcvMsg` call that succeeds has moved to the next slot and hands out that one. -/
theorem Registry.rcvMsg_success (registry : Registry tbl) {bufPtr : Bool} {pipeId : UInt8}
    {timeOut : Int} {env : RcvEnv P} {result : RcvResult P}
    (sequential : Op.Sequential tbl (.rcvMsg bufPtr pipeId timeOut env))
    (ran : rcvMsg tbl bufPtr pipeId timeOut env = some result)
    (success : result.status = .success) :
    ∃ i, pipeId = indexId i ∧ (tbl i).inUse = inUse ∧ 2 ≤ (tbl i).numberOfMessages ∧
      result = ⟨Function.update tbl i (SbnClient.advance (tbl i)), .success,
        some (.message i (nextMsg (tbl i)))⟩ := by
  obtain ⟨inTable, atOnce⟩ := sequential
  obtain ⟨i, rfl⟩ := exists_indexId inTable
  rw [registry.rcvMsg_eq bufPtr atOnce, Option.some.injEq] at ran
  subst ran
  have ended := receiveEnd_receiveAct i bufPtr timeOut env (tbl i)
  generalize receiveAct i bufPtr timeOut env (tbl i) = act at ended success ⊢
  cases ended with
  | refused failed => exact absurd success failed
  | kept failed => exact absurd success failed
  | hidden used available stuck => cases success
  | took used available unlocked => exact ⟨i, rfl, used, available, rfl⟩

/-- The slot that `RcvMsg` hands out is not written before the next message of the pipe is
received or the pipe is deleted, whatever arrives in the meantime. -/
theorem held_message_unchanged (reachable : Reachable tbl) {bufPtr : Bool} {pipeId : UInt8}
    {timeOut : Int} {env : RcvEnv P}
    (sequential : Op.Sequential tbl (.rcvMsg bufPtr pipeId timeOut env)) {result : RcvResult P}
    (received : rcvMsg tbl bufPtr pipeId timeOut env = some result)
    (success : result.status = .success) {i : Fin maxPipes} {slot : Fin maxPipeDepth}
    (handed : result.bufPtr = some (.message i slot)) (ops : List (Op P))
    (permitted : Machine.Permitted applyOp (Op.KeepsPipe pipeId) result.tbl ops) :
    ∃ final outcomes, Machine.run applyOp result.tbl ops = some (final, outcomes) ∧
      ((∀ call ∈ ops.zip outcomes, receives pipeId call = false) →
        (final i).messages slot = (result.tbl i).messages slot) := by
  obtain ⟨k, rfl, used, available, rfl⟩ :=
    reachable.registry.rcvMsg_success sequential received success
  cases handed
  have registry := reachable.registry.contentStep (.taken i used available)
  have usedAfter : (Function.update tbl i (advance (tbl i)) i).inUse = inUse := by
    rwa [Function.update_self]
  have live := registry.live usedAfter
  have occupied : (Function.update tbl i (advance (tbl i)) i).Occupied (nextMsg (tbl i)) 0 := by
    refine ⟨?_, live.numberOfMessages_ge, live.numberOfMessages_le⟩
    rw [position_zero live.readMessage_lt, Function.update_self, readMessage_advance]
  obtain ⟨final, outcomes, ran, keeps⟩ :=
    registry.keepsSlot_run usedAfter occupied ops permitted
  refine ⟨final, outcomes, ran, fun unreceived => ?_⟩
  have none : (ops.zip outcomes).countP (receives (indexId i)) = 0 := by
    rw [List.countP_eq_zero]
    intro call member
    simp [unreceived call member]
  exact (keeps.kept none.le).2

/-- A pipe that has handed out its first message, which is in slot zero, and then gets another
one while the application subscribes to more and polls with no pointer. -/
theorem first_message_held :
    ∃ (tbl : PipeTbl (standardPlatform 32768)) (result : RcvResult (standardPlatform 32768))
      (final : PipeTbl (standardPlatform 32768)),
      Reachable tbl ∧ rcvMsg tbl true 0 0 (calmEnv _) = some result ∧
      result.bufPtr = some (.message 0 0) ∧
      Machine.run applyOp result.tbl [.ingestAppMessage (Buffer.filled _ 0) (whole [8, 1, 6]) 3,
          .subscribe 0x0802 0 .complete, .rcvMsg false 0 0 (calmEnv _)] =
        some (final, [.ingested (.received 0), .subscribed .success,
          .delivered .badArgument none]) ∧
      (final 0).messages 0 = (result.tbl 0).messages 0 := by
  have ran : ∃ tbl outcomes result final,
      Machine.run applyOp (initPipeTbl (zeroPipeTbl (standardPlatform 32768)))
        [.createPipe true 4 [0x41], .subscribe 0x0801 0 .complete,
          .ingestAppMessage (Buffer.filled _ 0) (whole [8, 1, 5]) 3] = some (tbl, outcomes) ∧
      rcvMsg tbl true 0 0 (calmEnv _) = some result ∧ result.status = .success ∧
      result.bufPtr = some (.message 0 0) ∧
      Machine.run applyOp result.tbl [.ingestAppMessage (Buffer.filled _ 0) (whole [8, 1, 6]) 3,
          .subscribe 0x0802 0 .complete, .rcvMsg false 0 0 (calmEnv _)] =
        some (final, [.ingested (.received 0), .subscribed .success,
          .delivered .badArgument none]) :=
    ⟨_, _, _, _, rfl, rfl, rfl, rfl, rfl⟩
  obtain ⟨tbl, outcomes, result, final, ran, received, success, handed, later⟩ := ran
  have reachable : Reachable tbl := by
    refine ⟨_, _, outcomes, Machine.permitted_of_forall ?_ _, ran⟩
    simp [Op.Sequential, maxPipes]
  have inTable : (0 : UInt8).toNat < maxPipes := by decide
  refine ⟨tbl, result, final, reachable, received, handed, later, ?_⟩
  have atOnce : ∀ tbl : PipeTbl (standardPlatform 32768), ReturnsAtOnce tbl 0 0 :=
    fun _ => .inr (.inl rfl)
  refine Machine.holds_of_run (held_message_unchanged reachable ⟨inTable, .inr (atOnce tbl)⟩
    received success handed _ (Machine.permitted_of_forall ?_ _)) later ?_
  · simp [Op.KeepsPipe, Op.Sequential, Op.Spares, maxPipes, atOnce, calmEnv]
  · simp [receives]

end SbnClient
