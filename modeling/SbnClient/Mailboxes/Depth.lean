import SbnClient.Mailboxes.Refinement
import SbnClient.Model.StandardPlatform
import SbnClient.Registry.EntrySteps
import SbnClient.Registry.FirstPipe

/-!
# The depth of a pipe

`__wrap_CFE_SB_CreatePipe` accepts a depth of up to
`CFE_PLATFORM_SBN_CLIENT_MAX_PIPE_DEPTH` slots, and every ring has that many.  One of them
keeps the message that was delivered last, so that the others are what a pipe can hold.
-/

namespace SbnClient

open SegmentedInput

variable {P : Platform} {tbl : PipeTbl P} {i : Fin maxPipes}

/-- The messages put into the pipe that no successful `RcvMsg` has handed out yet. -/
def undelivered (i : Fin maxPipes) (history : History P) : Nat :=
  history.countP (accepts i) - history.countP (receives (indexId i))

/-- The calls of a run that leave the pipe open and tell what they put into it. -/
def Op.KeepsAccount (pipeId : UInt8) (tbl : PipeTbl P) (op : Op P) : Prop :=
  op.Sequential tbl ∧ ¬ op.ReceivesFrame ∧ op ≠ .deletePipe pipeId

/-- A pipe created for `depth` messages never refuses one while it holds fewer. -/
def HoldsDepth (P : Platform) (depth : UInt16) : Prop :=
  ∀ (tbl : PipeTbl P) (pipeName : List UInt8) (i : Fin maxPipes), Reachable tbl →
    let created := createPipe tbl true depth pipeName
    created.status = .success → created.pipeId = some (indexId i) →
    ∀ ops, Machine.Permitted applyOp (Op.KeepsAccount (indexId i)) created.tbl ops →
    ∀ final outcomes, Machine.run applyOp created.tbl ops = some (final, outcomes) →
    undelivered i (ops.zip outcomes) < depth.toNat →
    ∀ msgBuffer socket msgSz next rest,
      ingestAppMessage final msgBuffer socket msgSz ≠ some (next, rest, .pipeOverflow i)

/-! ## The account of a pipe -/

/-- What the counter of a pipe grows by has been put into the pipe and not been handed out. -/
theorem EntryStep.numberOfMessages_add_le {pipe after : PipeD P} {op : Op P}
    {outcome : Outcome P} (step : EntryStep i pipe (op, outcome) after) (live : LivePipe i pipe)
    (reported : ¬ op.ReceivesFrame) (undeleted : op ≠ .deletePipe (indexId i)) :
    after.numberOfMessages + [(op, outcome)].countP (receives (indexId i)) ≤
      pipe.numberOfMessages + [(op, outcome)].countP (accepts i) := by
  simp only [List.countP_singleton]
  cases step with
  | kept uncreated undeleted unreceived => simp [unreceived]
  | subscribed subscribes found =>
      obtain ⟨written, isCall⟩ := subscribes
      cases isCall
      exact Nat.le_refl _
  | pushed payload arrived room =>
      have accepted := arrived.resolve_right reported
      rw [receives_of_arrived arrived, accepted,
        numberOfMessages_pushMessage payload live.numberOfMessages_le]
      simp
  | taken isCall handed available =>
      have fewer := numberOfMessages_advance live.numberOfMessages_ge live.numberOfMessages_le
      rw [fewer]
      split <;> omega
  | closed deletes =>
      cases deletes
      exact absurd rfl undeleted

/-- The pipe is open, and its counter is at most one more than the messages it holds. -/
structure Accounts (i : Fin maxPipes) (history : History P) (tbl : PipeTbl P) : Prop where
  registry : Registry tbl
  inUse_eq : (tbl i).inUse = inUse
  balance : (tbl i).numberOfMessages + history.countP (receives (indexId i)) ≤
    history.countP (accepts i) + 1

theorem Accounts.applyOp {history : History P} (accounts : Accounts i history tbl) {op : Op P}
    (permitted : op.KeepsAccount (indexId i) tbl) :
    ∃ next outcome, applyOp tbl op = some (next, outcome) ∧
      Accounts i (history ++ [(op, outcome)]) next := by
  obtain ⟨sequential, reported, undeleted⟩ := permitted
  obtain ⟨next, outcome, ran, registryNext⟩ := accounts.registry.applyOp sequential
  have step := accounts.registry.entryStep sequential ran accounts.inUse_eq
  have live := accounts.registry.live accounts.inUse_eq
  have remains : ¬ Deletes (op, outcome) (indexId i) := by
    intro deletes
    cases deletes
    exact undeleted rfl
  refine ⟨next, outcome, ran, registryNext, step.inUse_eq live remains, ?_⟩
  have grown := step.numberOfMessages_add_le live reported undeleted
  have balance := accounts.balance
  rw [List.countP_append, List.countP_append]
  omega

theorem Accounts.numberOfMessages_le {history : History P} (accounts : Accounts i history tbl) :
    (tbl i).numberOfMessages ≤ undelivered i history + 1 := by
  have balance := accounts.balance
  have positive := (accounts.registry.live accounts.inUse_eq).numberOfMessages_ge
  rw [undelivered]
  omega

/-- A pipe begins with nothing in it. -/
theorem accounts_createPipe (registry : Registry tbl) {depth : UInt16} {pipeName : List UInt8}
    (success : (createPipe tbl true depth pipeName).status = .success)
    (returned : (createPipe tbl true depth pipeName).pipeId = some (indexId i)) :
    Accounts i [] (createPipe tbl true depth pipeName).tbl := by
  have registryNext := registry.tableStep (tableStep_createPipe tbl true depth pipeName)
  rcases createPipe_cases tbl true depth pipeName with
    ⟨status, pipeId, failing, refused⟩ | ⟨k, -, -, found, opened⟩
  · rw [refused] at success
    exact absurd success failing
  · simp only [opened, Option.some.injEq] at returned registryNext ⊢
    obtain rfl := indexId_injective returned
    have free := registry.free (availPipe_eq_some_iff.mp found).1
    refine ⟨registryNext, by rw [Function.update_self]; rfl, ?_⟩
    rw [Function.update_self]
    simp [openPipe, free.numberOfMessages_eq]

/-! ## A pipe that is filled -/

/-- A message with the buffer it is read into, which arrives completely. -/
structure CompleteMessage (P : Platform) where
  msgBuffer : Buffer P.maxMessageSize
  socket : Socket
  msgSz : UInt16
  accepted : msgSz.toNat ≤ P.maxMessageSize
  complete : msgSz.toNat ≤ (available socket).length

namespace CompleteMessage

variable (message : CompleteMessage P)

/-- The call that ingests the message. -/
def op : Op P :=
  .ingestAppMessage message.msgBuffer message.socket message.msgSz

/-- The id that `ingest_app_message` finds. -/
def msgId : MsgId P :=
  getMsgId P (filledWith message.msgBuffer (incoming message.socket _ message.accepted))

variable {message}

/-- A message for a pipe with room is put into it, and the next one finds the pipe again. -/
theorem applyOp_of_room (routed : route tbl message.msgId = some i)
    (room : (tbl i).numberOfMessages < maxPipeDepth) :
    ∃ next, applyOp tbl message.op = some (next, .ingested (.received i)) ∧
      route next message.msgId = some i ∧
      (next i).numberOfMessages = (tbl i).numberOfMessages + 1 := by
  obtain ⟨rest, ingested, -⟩ :=
    ingestAppMessage_of_complete tbl message.msgBuffer message.accepted message.complete
  have received := ingestResult_eq_received_iff.mpr ⟨routed, room.ne⟩
  rw [msgId] at received routed
  rw [received, deliver, routed] at ingested
  simp only [if_neg room.ne] at ingested
  refine ⟨_, by rw [op, SbnClient.applyOp, ingested]; rfl, ?_, ?_⟩
  · rw [route_update_pushMessage]
    exact routed
  · rw [Function.update_self]
    exact numberOfMessages_pushMessage _ room.le

/-- The same message, again and again, until the ring is full. -/
theorem run_replicate (routed : route tbl message.msgId = some i) (count : Nat)
    (room : (tbl i).numberOfMessages + count ≤ maxPipeDepth) :
    ∃ final, Machine.run applyOp tbl (List.replicate count message.op) =
        some (final, List.replicate count (.ingested (.received i))) ∧
      route final message.msgId = some i ∧
      (final i).numberOfMessages = (tbl i).numberOfMessages + count := by
  induction count generalizing tbl with
  | zero => exact ⟨tbl, rfl, routed, rfl⟩
  | succ count ih =>
      obtain ⟨next, ran, routedNext, grown⟩ := applyOp_of_room routed (by omega)
      obtain ⟨final, ranRest, routedFinal, full⟩ := ih routedNext (by omega)
      refine ⟨final, ?_, routedFinal, by omega⟩
      simp [List.replicate_succ, Machine.run, ran, ranRest]

theorem ingestAppMessage_of_full (routed : route tbl message.msgId = some i)
    (full : (tbl i).numberOfMessages = maxPipeDepth) :
    ∃ next rest, ingestAppMessage tbl message.msgBuffer message.socket message.msgSz =
      some (next, rest, .pipeOverflow i) := by
  obtain ⟨rest, ingested, -⟩ :=
    ingestAppMessage_of_complete tbl message.msgBuffer message.accepted message.complete
  have overflow := ingestResult_eq_pipeOverflow_iff.mpr ⟨routed, full⟩
  rw [msgId] at overflow
  rw [overflow] at ingested
  exact ⟨_, rest, ingested⟩

end CompleteMessage

/-- The calls that subscribe the first pipe to a message and send it as often as there is
room for it. -/
def fillingOps (message : CompleteMessage P) : List (Op P) :=
  .subscribe message.msgId 0 .complete :: List.replicate 31 message.op

/-- Whatever depth the pipe was created for, it refuses the thirty-second message. -/
theorem run_fillingOps (message : CompleteMessage P) (initial : PipeTbl P)
    (pipeName : List UInt8) :
    ∃ final, Machine.run applyOp (firstPipe initial pipeName) (fillingOps message) =
        some (final, .subscribed .success :: List.replicate 31 (.ingested (.received 0))) ∧
      ∃ next rest, ingestAppMessage final message.msgBuffer message.socket message.msgSz =
        some (next, rest, .pipeOverflow 0) := by
  have counter := numberOfMessages_subscribedPipe initial pipeName message.msgId
  obtain ⟨final, ran, routedFinal, full⟩ := CompleteMessage.run_replicate
    (route_subscribedPipe initial pipeName message.msgId) 31 (by rw [counter])
  refine ⟨final, ?_, CompleteMessage.ingestAppMessage_of_full routedFinal ?_⟩
  · rw [fillingOps, Machine.run, applyOp_subscribe_firstPipe]
    simp only [ran, Option.map_some]
  · rw [full, counter]

/-- All thirty-one messages are still in the pipe. -/
theorem undelivered_fillingOps (message : CompleteMessage P) :
    undelivered 0 ((fillingOps message).zip
      (.subscribed .success :: List.replicate 31 (.ingested (.received 0)))) = 31 := by
  rw [undelivered, fillingOps, List.zip_cons_cons, List.zip_replicate', List.countP_cons,
    List.countP_cons, List.countP_replicate, List.countP_replicate]
  simp [accepts, receives, CompleteMessage.op]

theorem keepsAccount_fillingOps (message : CompleteMessage P) :
    ∀ op ∈ fillingOps message, ∀ tbl, op.KeepsAccount (indexId 0) tbl := by
  intro op member tbl
  rcases List.mem_cons.mp member with rfl | repeated
  · simp [Op.KeepsAccount, Op.Sequential, Op.ReceivesFrame, maxPipes]
  · obtain rfl := List.eq_of_mem_replicate repeated
    simp [Op.KeepsAccount, Op.Sequential, Op.ReceivesFrame, CompleteMessage.op]

/-- A pipe as deep as the ring is refused a message that it was created for. -/
theorem not_holdsDepth (message : CompleteMessage P) {depth : UInt16}
    (deepest : depth.toNat = maxPipeDepth) : ¬ HoldsDepth P depth := by
  intro holds
  have nonzero : depth ≠ 0 := by
    rintro rfl
    cases deepest
  have created := createPipe_initPipeTbl (zeroPipeTbl P)
    (not_or.mpr ⟨Nat.not_lt.mpr deepest.le, nonzero⟩) []
  have reachable : Reachable (initPipeTbl (zeroPipeTbl P)) := ⟨_, [], [], trivial, rfl⟩
  have fills := holds (initPipeTbl (zeroPipeTbl P)) [] 0 reachable
  rw [created] at fills
  obtain ⟨final, ran, next, rest, overflow⟩ := run_fillingOps message (zeroPipeTbl P) []
  refine fills rfl rfl (fillingOps message)
    (Machine.permitted_of_forall (keepsAccount_fillingOps message) _) final _ ran ?_
    _ _ _ _ _ overflow
  rw [undelivered_fillingOps, deepest]
  decide

/-! ## The depths that hold -/

theorem numberOfMessages_of_pipeOverflow {msgBuffer : Buffer P.maxMessageSize}
    {socket rest : Socket} {msgSz : UInt16} {next : PipeTbl P}
    (ran : ingestAppMessage tbl msgBuffer socket msgSz = some (next, rest, .pipeOverflow i)) :
    (tbl i).numberOfMessages = maxPipeDepth := by
  by_cases complete : msgSz.toNat ≤ P.maxMessageSize ∧ msgSz.toNat ≤ (available socket).length
  · obtain ⟨left, ingested, -⟩ := ingestAppMessage_of_complete tbl msgBuffer complete.1 complete.2
    rw [ran, Option.some.injEq, Prod.mk.injEq, Prod.mk.injEq] at ingested
    exact (ingestResult_eq_pipeOverflow_iff.mp ingested.2.2.symm).2
  · have incomplete : P.maxMessageSize < msgSz.toNat ∨
        (available socket).length < msgSz.toNat := by omega
    obtain ⟨left, status, failed⟩ := ingestAppMessage_of_incomplete tbl msgBuffer incomplete
    rw [ran] at failed
    cases failed

/-- A pipe holds as many messages as it was created for, exactly when that is less than the
size of its ring. -/
theorem holdsDepth_iff (P : Platform) (depth : UInt16) (accepted : 1 ≤ depth.toNat)
    (bounded : depth.toNat ≤ maxPipeDepth) : HoldsDepth P depth ↔ depth.toNat ≤ 31 := by
  constructor
  · intro holds
    by_contra deep
    have deepest : depth.toNat = maxPipeDepth := by
      rw [maxPipeDepth_eq] at bounded ⊢
      omega
    exact not_holdsDepth ⟨Buffer.filled _ 0, [], 0, Nat.zero_le _, Nat.zero_le _⟩ deepest holds
  · intro shallow tbl pipeName i reachable created success returned ops permitted final outcomes
      ran fewer msgBuffer socket msgSz next rest overflow
    have accounts := Machine.holds_of_run
      (Machine.run_history (fun _ _ _ accounts permitted => accounts.applyOp permitted) ops
        (accounts_createPipe reachable.registry success returned) permitted) ran
    have holds := accounts.numberOfMessages_le
    have full := numberOfMessages_of_pipeOverflow overflow
    rw [List.nil_append] at holds
    rw [maxPipeDepth_eq] at full
    omega

/-- A pipe created for thirty-two messages gets thirty-one of them and, while the application
has taken none, is refused the next. -/
theorem thirty_second_message_refused :
    ¬ HoldsDepth (standardPlatform 32768) 32 ∧
      ∃ final next rest,
        Machine.run applyOp (initPipeTbl (zeroPipeTbl (standardPlatform 32768)))
            (.createPipe true 32 [0x41] :: .subscribe 0x0801 0 .complete ::
              List.replicate 31 (.ingestAppMessage (Buffer.filled _ 0) (whole [8, 1, 7]) 3)) =
          some (final, .created .success (some 0) :: .subscribed .success ::
            List.replicate 31 (.ingested (.received 0))) ∧
        ingestAppMessage final (Buffer.filled _ 0) (whole [8, 1, 7]) 3 =
          some (next, rest, .pipeOverflow 0) := by
  let message : CompleteMessage (standardPlatform 32768) :=
    ⟨Buffer.filled _ 0, whole [8, 1, 7], 3, Nat.le_of_ble_eq_true rfl, Nat.le_refl 3⟩
  refine ⟨not_holdsDepth message rfl, ?_⟩
  obtain ⟨final, ran, next, rest, overflow⟩ := run_fillingOps message (zeroPipeTbl _) [0x41]
  have good : ¬ ((32 : UInt16).toNat > maxPipeDepth ∨ (32 : UInt16) = 0) := by decide
  refine ⟨final, next, rest, ?_, overflow⟩
  rw [Machine.run, applyOp, createPipe_initPipeTbl _ good]
  have msgId : message.msgId = 0x0801 := rfl
  rw [fillingOps, msgId] at ran
  simp only
  exact congrArg (Option.map _) ran

/-- A pipe created for one message less. -/
theorem holdsDepth_31 : HoldsDepth (standardPlatform 32768) 31 ↔ (31 : UInt16).toNat ≤ 31 :=
  holdsDepth_iff _ 31 (by decide) (by decide)

end SbnClient
