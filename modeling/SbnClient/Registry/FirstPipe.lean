import SbnClient.Model.Run
import SbnClient.Input.Routing
import SbnClient.Registry.Calls

/-!
# The first pipe of a new table

`CreatePipe` and one `Subscribe` after `CFE_SBN_Client_InitPipeTbl`, whatever the table held
before: the pipe that the shortest runs use.
-/

namespace SbnClient

variable {P : Platform}

/-- The table after its first `CreatePipe`. -/
def firstPipe (initial : PipeTbl P) (pipeName : List UInt8) : PipeTbl P :=
  Function.update (initPipeTbl initial) 0 (openPipe 0 pipeName (initPipeTbl initial 0))

/-- The table after the pipe has also been subscribed to an id. -/
def subscribedPipe (initial : PipeTbl P) (pipeName : List UInt8) (msgId : MsgId P) : PipeTbl P :=
  Function.update (firstPipe initial pipeName) 0
    (storeMsgId (firstPipe initial pipeName 0) 0 msgId)

theorem createPipe_initPipeTbl (initial : PipeTbl P) {depth : UInt16}
    (good : ¬ (depth.toNat > maxPipeDepth ∨ depth = 0)) (pipeName : List UInt8) :
    createPipe (initPipeTbl initial) true depth pipeName =
      ⟨firstPipe initial pipeName, .success, some 0⟩ := by
  have found : availPipe (initPipeTbl initial) = some 0 :=
    availPipe_eq_some_iff.mpr ⟨inUse_ne_notInUse.symm, by simp⟩
  rw [createPipe_goodDepth pipeName good, found]
  rfl

theorem registry_firstPipe (initial : PipeTbl P) (pipeName : List UInt8) :
    Registry (firstPipe initial pipeName) :=
  (registry_initPipeTbl initial).update
    (.inl ((freePipe_invalidatePipe _).livePipe_openPipe 0 pipeName))

theorem applyOp_subscribe_firstPipe (initial : PipeTbl P) (pipeName : List UInt8)
    (msgId : MsgId P) :
    applyOp (firstPipe initial pipeName) (.subscribe msgId 0 .complete) =
      some (subscribedPipe initial pipeName msgId, .subscribed .success) := by
  have slot : freeSlot (firstPipe initial pipeName 0) = some 0 :=
    freeSlot_eq_some_iff.mpr ⟨rfl, by simp⟩
  have used : (firstPipe initial pipeName 0).inUse = inUse := rfl
  have subscribed := subscribe_indexId (registry_firstPipe initial pipeName) msgId 0 .complete
  rw [slot, if_pos used] at subscribed
  rw [applyOp, show (0 : UInt8) = indexId 0 from rfl, subscribed]
  rfl

@[simp] theorem subscribedPipe_zero (initial : PipeTbl P) (pipeName : List UInt8)
    (msgId : MsgId P) :
    subscribedPipe initial pipeName msgId 0 =
      storeMsgId (firstPipe initial pipeName 0) 0 msgId :=
  Function.update_self ..

theorem inUse_subscribedPipe (initial : PipeTbl P) (pipeName : List UInt8) (msgId : MsgId P) :
    (subscribedPipe initial pipeName msgId 0).inUse = inUse := by
  rw [subscribedPipe_zero]
  rfl

theorem numberOfMessages_subscribedPipe (initial : PipeTbl P) (pipeName : List UInt8)
    (msgId : MsgId P) : (subscribedPipe initial pipeName msgId 0).numberOfMessages = 1 := by
  rw [subscribedPipe_zero]
  rfl

theorem route_subscribedPipe (initial : PipeTbl P) (pipeName : List UInt8) (msgId : MsgId P) :
    route (subscribedPipe initial pipeName msgId) msgId = some 0 := by
  refine route_eq_some_iff.mpr ⟨⟨?_, 0, ?_⟩, by simp⟩
  · rw [subscribedPipe_zero]
    rfl
  · simp [storeMsgId]

theorem route_subscribedPipe_of_ne (initial : PipeTbl P) (pipeName : List UInt8)
    {msgId other : MsgId P} (different : other ≠ msgId) (valid : other ≠ invalidMsgId) :
    route (subscribedPipe initial pipeName msgId) other = none := by
  rw [route_eq_none_iff]
  rintro i ⟨used, j, subscribed⟩
  by_cases first : i = 0
  · subst first
    rw [subscribedPipe_zero] at subscribed
    simp only [storeMsgId] at subscribed
    by_cases slot : j = 0
    · rw [slot, Function.update_self] at subscribed
      exact different subscribed.symm
    · rw [Function.update_of_ne slot] at subscribed
      exact valid subscribed.symm
  · rw [subscribedPipe, firstPipe, Function.update_of_ne first, Function.update_of_ne first] at used
    exact inUse_ne_notInUse used.symm

/-- The pipe has room for a message with the id. -/
theorem ingestResult_subscribedPipe (initial : PipeTbl P) (pipeName : List UInt8)
    (msgId : MsgId P) : ingestResult (subscribedPipe initial pipeName msgId) msgId =
      .received 0 := by
  refine ingestResult_eq_received_iff.mpr ⟨route_subscribedPipe _ _ _, ?_⟩
  rw [numberOfMessages_subscribedPipe]
  decide

/-- The two calls, as a run. -/
theorem run_subscribedPipe (initial : PipeTbl P) (pipeName : List UInt8) (msgId : MsgId P) :
    Machine.run applyOp (initPipeTbl initial)
        [.createPipe true 1 pipeName, .subscribe msgId 0 .complete] =
      some (subscribedPipe initial pipeName msgId,
        [.created .success (some 0), .subscribed .success]) := by
  have good : ¬ ((1 : UInt16).toNat > maxPipeDepth ∨ (1 : UInt16) = 0) := by decide
  have created : applyOp (initPipeTbl initial) (.createPipe true 1 pipeName) =
      some (firstPipe initial pipeName, .created .success (some 0)) := by
    rw [applyOp, createPipe_initPipeTbl initial good]
  simp [Machine.run, created, applyOp_subscribe_firstPipe]

theorem reachable_subscribedPipe (initial : PipeTbl P) (pipeName : List UInt8)
    (msgId : MsgId P) : Reachable (subscribedPipe initial pipeName msgId) := by
  refine ⟨initial, _, _, Machine.permitted_of_forall ?_ _,
    run_subscribedPipe initial pipeName msgId⟩
  simp [Op.Sequential, maxPipes]

end SbnClient
