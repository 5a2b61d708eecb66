import SbnClient.Registry.Recorded
import SbnClient.Threads.Steps

/-!
# The table without its counters

`NumberOfMessages` and `ReadMessage` can leave their range, when a `RcvMsg` call goes on with an
empty pipe or with one that has been deleted while it waited.  Nothing that begins or ends a
pipe or subscribes it to an id looks at them, so that the rest of the table is as valid as if
they were those of an initialised one.
-/

namespace SbnClient

variable {P : Platform} {tbl next : PipeTbl P} {history : History P}

/-- The entry with the counters that `invalidate_pipe` sets. -/
def PipeD.withoutCounters (pipe : PipeD P) : PipeD P :=
  { pipe with
    numberOfMessages := 1
    readMessage := maxPipeDepth - 1 }

/-- The table without what its counters say. -/
def withoutCounters (tbl : PipeTbl P) : PipeTbl P :=
  fun i => (tbl i).withoutCounters

/-- The same pipes exist and are subscribed to the same ids. -/
structure SameBindings (left right : PipeTbl P) : Prop where
  inUse_eq : ∀ i, (left i).inUse = (right i).inUse
  pipeId_eq : ∀ i, (left i).pipeId = (right i).pipeId
  subscribedMsgIds_eq : ∀ i, (left i).subscribedMsgIds = (right i).subscribedMsgIds

theorem SameBindings.refl (tbl : PipeTbl P) : SameBindings tbl tbl :=
  ⟨fun _ => rfl, fun _ => rfl, fun _ => rfl⟩

/-- One pipe gets other messages or counters. -/
theorem sameBindings_update (tbl : PipeTbl P) {i : Fin maxPipes} {pipe : PipeD P}
    (inUse_eq : pipe.inUse = (tbl i).inUse) (pipeId_eq : pipe.pipeId = (tbl i).pipeId)
    (subscribedMsgIds_eq : pipe.subscribedMsgIds = (tbl i).subscribedMsgIds) :
    SameBindings (Function.update tbl i pipe) tbl := by
  refine ⟨fun k => ?_, fun k => ?_, fun k => ?_⟩ <;> by_cases same : k = i
  · simpa [same] using inUse_eq
  · simp [same]
  · simpa [same] using pipeId_eq
  · simp [same]
  · simpa [same] using subscribedMsgIds_eq
  · simp [same]

theorem IngestStep.sameBindings {payload : List UInt8} {result : IngestResult}
    (step : IngestStep tbl payload next result) : SameBindings next tbl := by
  cases step with
  | kept silent => exact .refl tbl
  | pushed stored bytes used room => exact sameBindings_update tbl rfl rfl rfl

theorem sameBindings_rcvFinish (tbl : PipeTbl P) (i : Fin maxPipes) (status : Status)
    (unlockMutexStatus : Int) :
    SameBindings (rcvFinish tbl i status unlockMutexStatus).tbl tbl := by
  by_cases success : status = .success <;> by_cases unlocked : unlockMutexStatus = 0 <;>
    simp only [rcvFinish, success, unlocked, ne_eq, not_true_eq_false, not_false_eq_true,
      ↓reduceIte]
  · exact sameBindings_update tbl rfl rfl rfl
  · exact sameBindings_update tbl rfl rfl rfl
  · exact .refl tbl
  · exact .refl tbl

theorem sameBindings_rcvLocked {i : Fin maxPipes} {timeOut : Int} {env : RcvEnv P}
    {result : RcvResult P} (returned : rcvLocked tbl i timeOut env = .returned result) :
    SameBindings result.tbl tbl := by
  rcases rcvLocked_returned returned with rfl | rfl | ⟨-, rfl⟩
  · exact .refl tbl
  · exact sameBindings_rcvFinish ..
  · exact sameBindings_rcvFinish ..

theorem SameBindings.slots_eq (same : SameBindings next tbl) (i : Fin maxPipes) :
    (withoutCounters next i).subscribedMsgIds = (withoutCounters tbl i).subscribedMsgIds :=
  same.subscribedMsgIds_eq i

/-- What the calls record does not depend on messages and counters. -/
theorem Recorded.of_sameBindings (recorded : Recorded history (withoutCounters tbl))
    (same : SameBindings next tbl) : Recorded history (withoutCounters next) where
  registry i := by
    rcases recorded.registry i with live | free
    · refine .inl ⟨(same.inUse_eq i).trans live.inUse_eq, (same.pipeId_eq i).trans live.pipeId_eq,
        live.numberOfMessages_ge, live.numberOfMessages_le, live.readMessage_lt, ?_⟩
      rw [same.slots_eq]
      exact live.subscribed_before
    · refine .inr ⟨(same.inUse_eq i).trans free.inUse_eq, (same.pipeId_eq i).trans free.pipeId_eq,
        rfl, rfl, fun j => ?_⟩
      exact (congrFun (same.subscribedMsgIds_eq i) j).trans (free.subscribedMsgIds_eq j)
  agrees pipeId := by
    simp only [recorded.agrees pipeId, withoutCounters, PipeD.withoutCounters, same.inUse_eq]
  subscribed_iff i used msgId proper := by
    have before := recorded.subscribed_iff i ((same.inUse_eq i).symm.trans used) msgId proper
    rw [← before]
    simp only [PipeD.Subscribed, withoutCounters, PipeD.withoutCounters,
      same.subscribedMsgIds_eq]
  card_usedSlots i used := by
    rw [usedSlots_congr (same.slots_eq i)]
    exact recorded.card_usedSlots i ((same.inUse_eq i).symm.trans used)

/-! ## The calls that manage pipes -/

theorem withoutCounters_update (tbl : PipeTbl P) (i : Fin maxPipes) (pipe : PipeD P) :
    withoutCounters (Function.update tbl i pipe) =
      Function.update (withoutCounters tbl) i pipe.withoutCounters :=
  Function.comp_update PipeD.withoutCounters tbl i pipe

theorem createPipe_withoutCounters (tbl : PipeTbl P) (pipeIdPtr : Bool) (depth : UInt16)
    (pipeName : List UInt8) :
    let created := createPipe tbl pipeIdPtr depth pipeName
    createPipe (withoutCounters tbl) pipeIdPtr depth pipeName =
      ⟨withoutCounters created.tbl, created.status, created.pipeId⟩ := by
  have same : availPipe (withoutCounters tbl) = availPipe tbl := rfl
  cases pipeIdPtr with
  | false => simp only [createPipe_null]
  | true =>
      by_cases bad : depth.toNat > maxPipeDepth ∨ depth = 0
      · simp only [createPipe_badDepth pipeName bad]
      · simp only [createPipe_goodDepth pipeName bad, same]
        cases availPipe tbl with
        | none => rfl
        | some i =>
            simp only [withoutCounters_update]
            rfl

theorem deletePipe_withoutCounters (tbl : PipeTbl P) (pipeId : UInt8) :
    deletePipe (withoutCounters tbl) pipeId =
      (withoutCounters (deletePipe tbl pipeId).1, (deletePipe tbl pipeId).2) := by
  have same : (Fin.find? fun i => (withoutCounters tbl i).pipeId = pipeId) =
      Fin.find? fun i => (tbl i).pipeId = pipeId := rfl
  rw [deletePipe, deletePipe, same]
  cases Fin.find? fun i => (tbl i).pipeId = pipeId with
  | none => rfl
  | some i =>
      by_cases used : (tbl i).inUse = inUse
      · have usedAlso : (withoutCounters tbl i).inUse = inUse := used
        simp only [used, usedAlso, ↓reduceIte, withoutCounters_update]
        rfl
      · have unusedAlso : (withoutCounters tbl i).inUse ≠ inUse := used
        simp only [used, unusedAlso, ↓reduceIte]

theorem at?_withoutCounters (tbl : PipeTbl P) (index : Nat) :
    (withoutCounters tbl).at? index = (tbl.at? index).map PipeD.withoutCounters := by
  rw [PipeTbl.at?, PipeTbl.at?]
  split <;> rfl

theorem getPipeIdx_withoutCounters (tbl : PipeTbl P) (pipeId : UInt8) :
    getPipeIdx (withoutCounters tbl) pipeId = getPipeIdx tbl pipeId := by
  rw [getPipeIdx, getPipeIdx, at?_withoutCounters, Option.map_map]
  rfl

theorem getMessageSubscribeIndex_withoutCounters (tbl : PipeTbl P) (pipeId : UInt8) :
    getMessageSubscribeIndex (withoutCounters tbl) pipeId =
      getMessageSubscribeIndex tbl pipeId := by
  rw [getMessageSubscribeIndex, getMessageSubscribeIndex, at?_withoutCounters, Option.map_map]
  rfl

theorem setSubscribedMsgId?_withoutCounters (tbl : PipeTbl P) (pipeIdx msgIdIdx : UInt8)
    (msgId : MsgId P) :
    setSubscribedMsgId? (withoutCounters tbl) pipeIdx msgIdIdx msgId =
      (setSubscribedMsgId? tbl pipeIdx msgIdIdx msgId).map withoutCounters := by
  rw [setSubscribedMsgId?, setSubscribedMsgId?]
  split
  · simp only [Option.map_some, withoutCounters_update]
    rfl
  · rfl

theorem prepareSubscribe_withoutCounters (tbl : PipeTbl P) (msgId : MsgId P) (pipeId : UInt8) :
    prepareSubscribe (withoutCounters tbl) msgId pipeId =
      (prepareSubscribe tbl msgId pipeId).map fun (tbl, prepared) =>
        (withoutCounters tbl, prepared) := by
  rw [prepareSubscribe, prepareSubscribe, getPipeIdx_withoutCounters, Option.map_bind]
  refine congrArg (Option.bind _) (funext fun pipeIdx => ?_)
  simp only [Function.comp_apply]
  split
  · rfl
  · rw [getMessageSubscribeIndex_withoutCounters, Option.map_bind]
    refine congrArg (Option.bind _) (funext fun msgIdIdx => ?_)
    simp only [Function.comp_apply]
    split
    · rfl
    · rw [setSubscribedMsgId?_withoutCounters, Option.map_map, Option.map_map]
      rfl

theorem subscribe_withoutCounters (tbl : PipeTbl P) (msgId : MsgId P) (pipeId : UInt8)
    (outcome : WriteOutcome) :
    subscribe (withoutCounters tbl) msgId pipeId outcome =
      (subscribe tbl msgId pipeId outcome).map fun (tbl, status, written) =>
        (withoutCounters tbl, status, written) := by
  rw [subscribe, subscribe, prepareSubscribe_withoutCounters, Option.map_map, Option.map_map]
  rfl

end SbnClient
