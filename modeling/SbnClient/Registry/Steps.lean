import SbnClient.Input.Routing
import SbnClient.Registry.Receiving

/-!
# What one call can do to the table

`TableStep` lists the changes, each with the condition under which it is made.  Every
call of a sequential run is defined and makes one of them, so that an invariant of runs
is one case analysis over `TableStep`.
-/

namespace SbnClient

variable {P : Platform} {tbl next : PipeTbl P}

/-- Changes that neither begin nor end a pipe. -/
inductive ContentStep (tbl : PipeTbl P) : PipeTbl P → Prop where
  | unchanged : ContentStep tbl tbl
  | subscribed (i : Fin maxPipes) (j : Fin maxMsgIdsPerPipe) (msgId : MsgId P)
      (used : (tbl i).inUse = inUse) (slot : freeSlot (tbl i) = some j) :
      ContentStep tbl (Function.update tbl i (storeMsgId (tbl i) j msgId))
  | pushed (i : Fin maxPipes) (payload : Payload P) (used : (tbl i).inUse = inUse)
      (room : (tbl i).numberOfMessages ≠ maxPipeDepth) :
      ContentStep tbl (Function.update tbl i (pushMessage (tbl i) payload))
  | taken (i : Fin maxPipes) (used : (tbl i).inUse = inUse)
      (available : 2 ≤ (tbl i).numberOfMessages) :
      ContentStep tbl (Function.update tbl i (advance (tbl i)))

/-- The changes that a message from the peer can make. -/
inductive ArrivalStep (tbl : PipeTbl P) : PipeTbl P → Prop where
  | kept : ArrivalStep tbl tbl
  | pushed (i : Fin maxPipes) (payload : Payload P) (used : (tbl i).inUse = inUse)
      (room : (tbl i).numberOfMessages ≠ maxPipeDepth) :
      ArrivalStep tbl (Function.update tbl i (pushMessage (tbl i) payload))

theorem ArrivalStep.contentStep (step : ArrivalStep tbl next) : ContentStep tbl next := by
  cases step with
  | kept => exact .unchanged
  | pushed i payload used room => exact .pushed i payload used room

/-- All changes of the table. -/
inductive TableStep (tbl : PipeTbl P) : PipeTbl P → Prop where
  | content {next : PipeTbl P} (step : ContentStep tbl next) : TableStep tbl next
  | opened (i : Fin maxPipes) (pipeName : List UInt8) (unused : (tbl i).inUse ≠ inUse) :
      TableStep tbl (Function.update tbl i (openPipe i pipeName (tbl i)))
  | closed (i : Fin maxPipes) (used : (tbl i).inUse = inUse) :
      TableStep tbl (Function.update tbl i (invalidatePipe (tbl i)))

/-- A content step leaves every entry in or out of use. -/
theorem ContentStep.inUse_eq (step : ContentStep tbl next) (k : Fin maxPipes) :
    (next k).inUse = (tbl k).inUse := by
  cases step with
  | unchanged => rfl
  | subscribed i j msgId used slot => by_cases same : k = i <;> simp [same, storeMsgId]
  | pushed i payload used room => by_cases same : k = i <;> simp [same, pushMessage]
  | taken i used available => by_cases same : k = i <;> simp [same]

/-! ## The calls -/

theorem tableStep_createPipe (tbl : PipeTbl P) (pipeIdPtr : Bool) (depth : UInt16)
    (pipeName : List UInt8) : TableStep tbl (createPipe tbl pipeIdPtr depth pipeName).tbl := by
  rcases createPipe_cases tbl pipeIdPtr depth pipeName with
    ⟨status, pipeId, -, refused⟩ | ⟨i, -, -, found, opened⟩
  · rw [refused]
    exact .content .unchanged
  · rw [opened]
    exact .opened i pipeName (availPipe_eq_some_iff.mp found).1

theorem tableStep_deletePipe (tbl : PipeTbl P) (pipeId : UInt8) :
    TableStep tbl (deletePipe tbl pipeId).1 := by
  rcases deletePipe_cases tbl pipeId with ⟨status, -, refused⟩ | ⟨i, -, used, closed⟩
  · rw [refused]
    exact .content .unchanged
  · rw [closed]
    exact .closed i used

theorem contentStep_subscribe (registry : Registry tbl) (msgId : MsgId P) (k : Fin maxPipes)
    (outcome : WriteOutcome) :
    ∃ result, subscribe tbl msgId (indexId k) outcome = some result ∧ ContentStep tbl result.1 := by
  refine ⟨_, subscribe_indexId registry msgId k outcome, ?_⟩
  split
  next j found =>
    split at found
    next used => exact .subscribed k j msgId used found
    next => exact absurd found (by simp)
  next => exact .unchanged

theorem arrivalStep_deliver (tbl : PipeTbl P) (msgId : MsgId P) (payload : Payload P) :
    ArrivalStep tbl (deliver tbl msgId payload) := by
  rw [deliver]
  split
  next i found =>
    split
    next => exact .kept
    next room => exact .pushed i payload (route_eq_some_iff.mp found).1.1 room
  next => exact .kept

theorem arrivalStep_ingestAppMessage (tbl : PipeTbl P) (msgBuffer : Buffer P.maxMessageSize)
    (socket : Socket) (msgSz : UInt16) :
    ∃ result, ingestAppMessage tbl msgBuffer socket msgSz = some result ∧
      ArrivalStep tbl result.1 := by
  by_cases complete : msgSz.toNat ≤ P.maxMessageSize ∧
      msgSz.toNat ≤ (SegmentedInput.available socket).length
  · obtain ⟨rest, ran, -⟩ := ingestAppMessage_of_complete tbl msgBuffer complete.1 complete.2
    exact ⟨_, ran, arrivalStep_deliver tbl _ _⟩
  · have incomplete : P.maxMessageSize < msgSz.toNat ∨
        (SegmentedInput.available socket).length < msgSz.toNat := by omega
    obtain ⟨rest, status, ran⟩ := ingestAppMessage_of_incomplete tbl msgBuffer incomplete
    exact ⟨_, ran, .kept⟩

/-- A size that `ReadBytes` does not accept, or one that fits the buffer: it returns. -/
theorem exists_readBytes (P : Platform) {size msgSz : Nat}
    (fits : msgSz ≤ P.maxMessageSize → msgSz ≤ size)
    (small : msgSz ≤ intMax) (socket : Socket) (buffer : Buffer size) :
    ∃ result, readBytes P socket buffer msgSz = some result := by
  by_cases accepted : msgSz ≤ P.maxMessageSize
  · obtain ⟨result, ran, -⟩ := readBytes_spec accepted (fits accepted) small socket buffer
    exact ⟨result, ran⟩
  · exact ⟨_, readBytes_tooLarge (Nat.not_le.mp accepted) socket buffer⟩

theorem arrivalStep_recvPayload (tbl : PipeTbl P) (locals : RecvLocals P) (hdr : SbnHdr)
    (socket : Socket) :
    ∃ received, recvPayload tbl locals hdr socket = some received ∧
      ArrivalStep tbl received.tbl := by
  rw [recvPayload]
  split
  · obtain ⟨result, ran⟩ := exists_readBytes P (fun accepted => accepted)
      (toNat_le_intMax hdr.msgSz) socket locals.msg
    rw [ran]
    exact ⟨_, rfl, .kept⟩
  · split
    · obtain ⟨result, ran, step⟩ :=
        arrivalStep_ingestAppMessage tbl locals.msgBuffer socket hdr.msgSz
      rw [ran]
      exact ⟨_, rfl, step⟩
    · exact ⟨_, rfl, .kept⟩

theorem arrivalStep_recvMsg (tbl : PipeTbl P) (locals : RecvLocals P) (socket : Socket) :
    ∃ received, recvMsg tbl locals socket = some received ∧ ArrivalStep tbl received.tbl := by
  obtain ⟨result, header⟩ := exists_readBytes P (fun _ => Nat.le_refl P.packedHdrSz)
    (packedHdrSz_le_intMax P) socket locals.sbnHdrBuffer
  rw [recvMsg, header, Option.bind_some]
  by_cases failed : result.1 ≠ .success
  · exact ⟨_, if_pos failed, .kept⟩
  · obtain ⟨received, ran, step⟩ :=
      arrivalStep_recvPayload tbl locals (unpackSbnHdr P result.2.1) result.2.2
    exact ⟨received, (if_neg failed).trans ran, step⟩

theorem arrivalStep_of_recvMsg {locals : RecvLocals P} {socket : Socket} {received : Received P}
    (ran : recvMsg tbl locals socket = some received) : ArrivalStep tbl received.tbl := by
  obtain ⟨again, ranAgain, step⟩ := arrivalStep_recvMsg tbl locals socket
  rw [ran, Option.some.injEq] at ranAgain
  subst ranAgain
  exact step

theorem contentStep_rcvMsg (registry : Registry tbl) (bufPtr : Bool) (k : Fin maxPipes)
    {timeOut : Int} {env : RcvEnv P}
    (atOnce : env.lockMutexStatus ≠ 0 ∨ ReturnsAtOnce tbl (indexId k) timeOut) :
    ∃ result, rcvMsg tbl bufPtr (indexId k) timeOut env = some result ∧
      ContentStep tbl result.tbl := by
  refine ⟨_, registry.rcvMsg_eq bufPtr atOnce, ?_⟩
  have ended := receiveEnd_receiveAct k bufPtr timeOut env (tbl k)
  generalize receiveAct k bufPtr timeOut env (tbl k) = act at ended ⊢
  cases ended with
  | refused failed =>
      rw [Function.update_eq_self]
      exact .unchanged
  | kept failed =>
      rw [Function.update_eq_self]
      exact .unchanged
  | hidden used available stuck => exact .taken k used available
  | took used available unlocked => exact .taken k used available

/-- The two calls that begin and end pipes. -/
def Op.ManagesPipes : Op P → Prop
  | .createPipe .. => True
  | .deletePipe _ => True
  | _ => False

/-- Any other call of a sequential run is defined and makes a content step. -/
theorem applyOp_contentStep (registry : Registry tbl) {op : Op P}
    (sequential : op.Sequential tbl) (content : ¬ op.ManagesPipes) :
    ∃ next outcome, applyOp tbl op = some (next, outcome) ∧ ContentStep tbl next := by
  cases op with
  | createPipe pipeIdPtr depth pipeName => exact absurd trivial content
  | deletePipe pipeId => exact absurd trivial content
  | subscribe msgId pipeId outcome =>
      obtain ⟨k, rfl⟩ := exists_indexId sequential
      obtain ⟨result, ran, step⟩ := contentStep_subscribe registry msgId k outcome
      exact ⟨_, _, by rw [applyOp, ran]; rfl, step⟩
  | ingestAppMessage msgBuffer socket msgSz =>
      obtain ⟨result, ran, step⟩ := arrivalStep_ingestAppMessage tbl msgBuffer socket msgSz
      exact ⟨_, _, by rw [applyOp, ran]; rfl, step.contentStep⟩
  | recvMsg locals socket =>
      obtain ⟨received, ran, step⟩ := arrivalStep_recvMsg tbl locals socket
      exact ⟨_, _, by rw [applyOp, ran]; rfl, step.contentStep⟩
  | rcvMsg bufPtr pipeId timeOut env =>
      obtain ⟨k, rfl⟩ := exists_indexId sequential.1
      obtain ⟨result, ran, step⟩ := contentStep_rcvMsg registry bufPtr k sequential.2
      exact ⟨_, _, by rw [applyOp, ran]; rfl, step⟩

/-- Every call of a sequential run is defined and makes one of the changes. -/
theorem applyOp_tableStep (registry : Registry tbl) {op : Op P}
    (sequential : op.Sequential tbl) :
    ∃ next outcome, applyOp tbl op = some (next, outcome) ∧ TableStep tbl next := by
  by_cases manages : op.ManagesPipes
  · cases op with
    | createPipe pipeIdPtr depth pipeName =>
        exact ⟨_, _, rfl, tableStep_createPipe tbl pipeIdPtr depth pipeName⟩
    | deletePipe pipeId => exact ⟨_, _, rfl, tableStep_deletePipe tbl pipeId⟩
    | _ => exact manages.elim
  · obtain ⟨next, outcome, ran, step⟩ := applyOp_contentStep registry sequential manages
    exact ⟨next, outcome, ran, .content step⟩

end SbnClient
