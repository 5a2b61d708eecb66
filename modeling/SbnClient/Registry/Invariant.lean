import SbnClient.Model.StandardPlatform
import SbnClient.Registry.Steps

/-!
# The registry over whole runs

Every change of the table keeps the registry invariant, so every reachable table has
it.  The history of the calls tells which ids belong to a pipe: those that `CreatePipe`
has returned and `DeletePipe` has not ended since.
-/

namespace SbnClient

variable {P : Platform} {tbl next : PipeTbl P}

/-! ## Steps -/

theorem numberOfMessages_pushMessage {pipe : PipeD P} (payload : Payload P)
    (bounded : pipe.numberOfMessages ≤ maxPipeDepth) :
    (pushMessage pipe payload).numberOfMessages = pipe.numberOfMessages + 1 := by
  rw [maxPipeDepth_eq] at bounded
  simp only [pushMessage, uint32]
  omega

theorem LivePipe.pushMessage {i : Fin maxPipes} {pipe : PipeD P} (live : LivePipe i pipe)
    (room : pipe.numberOfMessages ≠ maxPipeDepth) (payload : Payload P) :
    LivePipe i (pushMessage pipe payload) := by
  have more := numberOfMessages_pushMessage payload live.numberOfMessages_le
  have bounded := live.numberOfMessages_le
  refine ⟨live.inUse_eq, live.pipeId_eq, ?_, ?_, live.readMessage_lt, live.subscribed_before⟩
  · omega
  · omega

theorem Registry.contentStep (registry : Registry tbl) (step : ContentStep tbl next) :
    Registry next := by
  cases step with
  | unchanged => exact registry
  | subscribed i j msgId used slot =>
      exact registry.update (.inl ((registry.live used).storeMsgId slot msgId))
  | pushed i payload used room =>
      exact registry.update (.inl ((registry.live used).pushMessage room payload))
  | taken i used available =>
      exact registry.update (.inl ((registry.live used).advance available))

/-- Every change of the table keeps the registry. -/
theorem Registry.tableStep (registry : Registry tbl) (step : TableStep tbl next) :
    Registry next := by
  cases step with
  | content step => exact registry.contentStep step
  | opened i pipeName unused =>
      exact registry.update (.inl ((registry.free unused).livePipe_openPipe i pipeName))
  | closed i used => exact registry.update (.inr (freePipe_invalidatePipe (tbl i)))

theorem Registry.applyOp (registry : Registry tbl) {op : Op P} (sequential : op.Sequential tbl) :
    ∃ next outcome, applyOp tbl op = some (next, outcome) ∧ Registry next := by
  obtain ⟨next, outcome, ran, step⟩ := applyOp_tableStep registry sequential
  exact ⟨next, outcome, ran, registry.tableStep step⟩

/-! ## Runs -/

theorem Reachable.registry (reachable : Reachable tbl) : Registry tbl := by
  obtain ⟨initial, ops, outcomes, permitted, ran⟩ := reachable
  exact Machine.holds_of_run
    (Machine.run_invariant (fun _ _ registry sequential => Registry.applyOp registry sequential)
      ops (registry_initPipeTbl initial) permitted) ran

/-- One more call of a sequential run. -/
theorem Reachable.concat {next : PipeTbl P} {op : Op P} {outcome : Outcome P}
    (reachable : Reachable tbl) (sequential : op.Sequential tbl)
    (ran : applyOp tbl op = some (next, outcome)) : Reachable next := by
  obtain ⟨initial, ops, outcomes, permitted, ranBefore⟩ := reachable
  exact ⟨initial, ops ++ [op], _, permitted.concat ranBefore sequential,
    Machine.run_concat ranBefore ran⟩

/-- No sequential run reaches undefined behaviour, whatever the peer sends and however
reads are answered: no byte is stored outside a buffer, no index leaves the table and no
size wraps.  The counters of every pipe in use stay in range. -/
theorem sequential_runs_safe (initial : PipeTbl P) (ops : List (Op P))
    (sequential : Machine.Permitted applyOp Op.Sequential (initPipeTbl initial) ops) :
    ∃ tbl outcomes, Machine.run applyOp (initPipeTbl initial) ops = some (tbl, outcomes) ∧
      ∀ i, (tbl i).inUse = inUse →
        1 ≤ (tbl i).numberOfMessages ∧ (tbl i).numberOfMessages ≤ maxPipeDepth ∧
          (tbl i).readMessage < maxPipeDepth := by
  obtain ⟨tbl, outcomes, ran, registry⟩ :=
    Machine.run_invariant (fun _ _ registry sequential => Registry.applyOp registry sequential)
      ops (registry_initPipeTbl initial) sequential
  refine ⟨tbl, outcomes, ran, fun i used => ?_⟩
  have live := registry.live used
  exact ⟨live.numberOfMessages_ge, live.numberOfMessages_le, live.readMessage_lt⟩

/-- A run in which the peer announces more than the limit, cuts a header short and fails. -/
theorem hostile_run_safe :
    ∃ tbl outcomes, Machine.run applyOp (initPipeTbl (zeroPipeTbl (standardPlatform 32768)))
        [.createPipe true 4 [0x41], .subscribe 0x1801 0 .complete,
          .recvMsg (zeroLocals _) [.received 0xFF [0xFF, 3], .received 0 [0, 0], .received 2 [9]],
          .recvMsg (zeroLocals _) [.received 0 [2], .closed],
          .recvMsg (zeroLocals _) [.failed],
          .rcvMsg true 0 0 (calmEnv _)] = some (tbl, outcomes) ∧
      ∀ i, (tbl i).inUse = inUse →
        1 ≤ (tbl i).numberOfMessages ∧ (tbl i).numberOfMessages ≤ maxPipeDepth ∧
          (tbl i).readMessage < maxPipeDepth := by
  apply sequential_runs_safe
  apply Machine.permitted_of_forall
  have atOnce : ∀ tbl : PipeTbl (standardPlatform 32768), ReturnsAtOnce tbl 0 0 :=
    fun _ => .inr (.inl rfl)
  simp [Op.Sequential, maxPipes, atOnce]

end SbnClient
