import SbnClient.Registry.EntrySteps

/-!
# Where subscriptions come from

Every used slot of a pipe holds an id that was subscribed on the pipe since it was
created.  A free slot holds `CFE_SBN_CLIENT_INVALID_MSG_ID`, which is an ordinary message
id, and `ingest_app_message` compares it like any other: a message with that id goes to a
pipe that has a free slot.
-/

namespace SbnClient

open SegmentedInput

variable {P : Platform} {tbl next : PipeTbl P} {i : Fin maxPipes}

/-- The id has been subscribed on the pipe since the `CreatePipe` that made the pipe. -/
def SubscribedSince (history : History P) (msgId : MsgId P) (pipeId : UInt8) : Prop :=
  Since (fun call => Subscribes call msgId pipeId) (fun call => Creates call pipeId) history

/-- Every used slot of a pipe in use comes from a subscription. -/
def SubscriptionsMade (history : History P) (tbl : PipeTbl P) : Prop :=
  ∀ i, (tbl i).inUse = inUse → ∀ j, (tbl i).subscribedMsgIds j ≠ invalidMsgId →
    SubscribedSince history ((tbl i).subscribedMsgIds j) (indexId i)

/-- The first pipe in use that has a free slot. -/
structure FirstWithFreeSlot (tbl : PipeTbl P) (i : Fin maxPipes) : Prop where
  inUse_eq : (tbl i).inUse = inUse
  slot : ∃ j, (tbl i).subscribedMsgIds j = invalidMsgId
  first : ∀ k < i, (tbl k).inUse = inUse → ∀ j, (tbl k).subscribedMsgIds j ≠ invalidMsgId

theorem route_invalidMsgId_iff : route tbl invalidMsgId = some i ↔ FirstWithFreeSlot tbl i := by
  rw [route_eq_some_iff]
  constructor
  · rintro ⟨⟨used, slot⟩, first⟩
    exact ⟨used, slot, fun k before usedK j free => first k before ⟨usedK, j, free⟩⟩
  · intro firstFree
    refine ⟨⟨firstFree.inUse_eq, firstFree.slot⟩, ?_⟩
    rintro k before ⟨usedK, j, free⟩
    exact firstFree.first k before usedK j free

/-! ## One call -/

theorem SubscribedSince.concat {history : History P} {msgId : MsgId P} {pipeId : UInt8}
    (since : SubscribedSince history msgId pipeId) {call : Op P × Outcome P}
    (uncreated : ¬ Creates call pipeId) :
    SubscribedSince (history ++ [call]) msgId pipeId :=
  (Since.concat_iff history call).mpr (.inr ⟨since, uncreated⟩)

/-- No call creates a pipe that exists. -/
theorem EntryStep.not_creates {pipe after : PipeD P} {call : Op P × Outcome P}
    (step : EntryStep i pipe call after) : ¬ Creates call (indexId i) := by
  cases step with
  | kept uncreated undeleted unreceived => exact uncreated
  | subscribed subscribes slot =>
      rintro ⟨_, _, _, rfl⟩
      obtain ⟨_, isCall⟩ := subscribes
      cases isCall
  | pushed payload arrived room =>
      rintro ⟨_, _, _, rfl⟩
      rcases arrived with accepted | frame <;> contradiction
  | taken isCall handed available =>
      rintro ⟨_, _, _, rfl⟩
      cases isCall
  | closed deletes =>
      rintro ⟨_, _, _, rfl⟩
      cases deletes

/-- The slots of a pipe that was there before the call. -/
theorem EntryStep.subscriptionsMade {pipe after : PipeD P} {call : Op P × Outcome P}
    {history : History P} (step : EntryStep i pipe call after) (used : after.inUse = inUse)
    (made : ∀ j, pipe.subscribedMsgIds j ≠ invalidMsgId →
      SubscribedSince history (pipe.subscribedMsgIds j) (indexId i))
    (j : Fin maxMsgIdsPerPipe) (slotUsed : after.subscribedMsgIds j ≠ invalidMsgId) :
    SubscribedSince (history ++ [call]) (after.subscribedMsgIds j) (indexId i) := by
  have uncreated := step.not_creates
  cases step with
  | @subscribed filled msgId subscribes slot =>
      by_cases same : j = filled
      · subst same
        simp only [storeMsgId, Function.update_self]
        exact (Since.concat_iff history call).mpr (.inl subscribes)
      · simp only [storeMsgId, Function.update_of_ne same] at slotUsed ⊢
        exact (made j slotUsed).concat uncreated
  | closed deletes => exact absurd used inUse_ne_notInUse.symm
  | kept => exact (made j slotUsed).concat uncreated
  | pushed => exact (made j slotUsed).concat uncreated
  | taken => exact (made j slotUsed).concat uncreated

/-- A pipe that begins with the call has free slots only. -/
theorem TableStep.subscribedMsgIds_of_opened (registry : Registry tbl)
    (step : TableStep tbl next) (unused : (tbl i).inUse ≠ inUse) (used : (next i).inUse = inUse)
    (j : Fin maxMsgIdsPerPipe) : (next i).subscribedMsgIds j = invalidMsgId := by
  cases step with
  | content step => exact absurd ((step.inUse_eq i).symm.trans used) unused
  | opened k pipeName unusedK =>
      by_cases same : i = k
      · subst same
        rw [Function.update_self]
        exact (registry.free unused).subscribedMsgIds_eq j
      · rw [Function.update_of_ne same] at used
        exact absurd used unused
  | closed k usedK =>
      by_cases same : i = k
      · subst same
        exact absurd usedK unused
      · rw [Function.update_of_ne same] at used
        exact absurd used unused

theorem SubscriptionsMade.applyOp {history : History P} (registry : Registry tbl)
    (made : SubscriptionsMade history tbl) {op : Op P} (sequential : op.Sequential tbl) :
    ∃ next outcome, applyOp tbl op = some (next, outcome) ∧ Registry next ∧
      SubscriptionsMade (history ++ [(op, outcome)]) next := by
  obtain ⟨next, outcome, ran, step⟩ := applyOp_tableStep registry sequential
  refine ⟨next, outcome, ran, registry.tableStep step, fun i used j slotUsed => ?_⟩
  by_cases usedBefore : (tbl i).inUse = inUse
  · exact (registry.entryStep sequential ran usedBefore).subscriptionsMade used
      (made i usedBefore) j slotUsed
  · exact absurd (step.subscribedMsgIds_of_opened registry usedBefore used j) slotUsed

/-! ## Runs -/

theorem subscriptionsMade_run (initial : PipeTbl P) (ops : List (Op P))
    (sequential : Machine.Permitted applyOp Op.Sequential (initPipeTbl initial) ops) :
    ∃ tbl outcomes, Machine.run applyOp (initPipeTbl initial) ops = some (tbl, outcomes) ∧
      Registry tbl ∧ SubscriptionsMade (ops.zip outcomes) tbl := by
  have initially : SubscriptionsMade ([] : History P) (initPipeTbl initial) :=
    fun _ used => absurd used inUse_ne_notInUse.symm
  exact @Machine.run_history _ _ _ applyOp Op.Sequential
    (fun history tbl => Registry tbl ∧ SubscriptionsMade history tbl)
    (fun _ _ _ invariant sequential => invariant.2.applyOp invariant.1 sequential)
    ops [] _ ⟨registry_initPipeTbl initial, initially⟩ sequential

/-- After any sequential run, the message that `ingest_app_message` enqueues next is one that
its pipe has subscribed to, exactly when its id is not the one of free slots, or the first
pipe with a free slot is full or has subscribed to that id itself. -/
theorem enqueued_subscribed_iff (initial : PipeTbl P) (ops : List (Op P))
    (sequential : Machine.Permitted applyOp Op.Sequential (initPipeTbl initial) ops)
    (msgBuffer : Buffer P.maxMessageSize) (socket : Socket) (msgSz : UInt16)
    (accepted : msgSz.toNat ≤ P.maxMessageSize)
    (complete : msgSz.toNat ≤ (available socket).length) :
    ∃ tbl outcomes, Machine.run applyOp (initPipeTbl initial) ops = some (tbl, outcomes) ∧
      let msgId := getMsgId P (filledWith msgBuffer (incoming socket _ accepted))
      ((∀ i next rest, ingestAppMessage tbl msgBuffer socket msgSz =
          some (next, rest, .received i) →
            SubscribedSince (ops.zip outcomes) msgId (indexId i)) ↔
        (msgId ≠ invalidMsgId ∨ ∀ i, FirstWithFreeSlot tbl i →
          (tbl i).numberOfMessages = maxPipeDepth ∨
            SubscribedSince (ops.zip outcomes) invalidMsgId (indexId i))) := by
  obtain ⟨tbl, outcomes, ran, registry, made⟩ := subscriptionsMade_run initial ops sequential
  refine ⟨tbl, outcomes, ran, ?_⟩
  intro msgId
  obtain ⟨rest, ingested, -⟩ := ingestAppMessage_of_complete tbl msgBuffer accepted complete
  constructor
  · intro subscribed
    by_contra unmet
    obtain ⟨isInvalid, unfit⟩ := not_or.mp unmet
    rw [not_not] at isInvalid
    apply unfit
    intro i firstFree
    by_contra neither
    obtain ⟨room, unsubscribed⟩ := not_or.mp neither
    have routed := route_invalidMsgId_iff.mpr firstFree
    rw [← isInvalid] at routed unsubscribed
    have result := ingestResult_eq_received_iff.mpr ⟨routed, room⟩
    exact unsubscribed (subscribed i _ rest (by rw [ingested, result]))
  · intro condition i next left enqueued
    rw [ingested, Option.some.injEq, Prod.mk.injEq, Prod.mk.injEq] at enqueued
    obtain ⟨routed, room⟩ := ingestResult_eq_received_iff.mp enqueued.2.2
    by_cases isInvalid : msgId = invalidMsgId
    · rw [show getMsgId P _ = msgId from rfl, isInvalid] at routed
      rw [isInvalid]
      rcases condition with other | fits
      · exact absurd isInvalid other
      · exact (fits i (route_invalidMsgId_iff.mp routed)).resolve_left room
    · obtain ⟨⟨used, j, slot⟩, -⟩ := route_eq_some_iff.mp routed
      have since := made i used j (slot.trans_ne isInvalid)
      rwa [slot] at since

/-- A pipe that has been created, with no subscription at all, is handed a message with the
id of free slots. -/
theorem unsubscribed_pipe_enqueued :
    ∃ (tbl : PipeTbl (standardPlatform 32768)) (outcomes : List (Outcome (standardPlatform 32768))),
      Machine.run applyOp (initPipeTbl (zeroPipeTbl _)) [.createPipe true 4 [0x41]] =
        some (tbl, outcomes) ∧
      (∃ next rest, ingestAppMessage tbl (Buffer.filled _ 0xEE) (whole [0, 0, 7]) 3 =
        some (next, rest, .received 0)) ∧
      getMsgId (standardPlatform 32768) (filledWith (Buffer.filled _ 0xEE)
        (incoming (P := standardPlatform 32768) (whole [0, 0, 7]) 3
          (Nat.le_of_ble_eq_true rfl))) = invalidMsgId ∧
      ¬ SubscribedSince (List.zip [.createPipe true 4 [0x41]] outcomes) invalidMsgId 0 := by
  refine ⟨_, _, rfl, ⟨_, _, rfl⟩, rfl, ?_⟩
  rintro ⟨before, call, after, split, ⟨outcome, isCall⟩, -⟩
  have mem := List.mem_append_right before (List.mem_cons_self (a := call) (l := after))
  rw [← split, List.zip_cons_cons, List.zip_nil_left, List.mem_singleton, isCall] at mem
  cases mem

/-- A pipe that is subscribed to the id that arrives. -/
theorem subscribed_pipe_enqueued :
    ∃ (tbl : PipeTbl (standardPlatform 32768)) (outcomes : List (Outcome (standardPlatform 32768))),
      Machine.run applyOp (initPipeTbl (zeroPipeTbl _))
        [.createPipe true 4 [0x41], .subscribe 0x0801 0 .complete] = some (tbl, outcomes) ∧
      let msgId := getMsgId (standardPlatform 32768) (filledWith (Buffer.filled _ 0xEE)
        (incoming (P := standardPlatform 32768) (whole [8, 1, 7]) 3
          (Nat.le_of_ble_eq_true rfl)))
      ((∀ i next rest, ingestAppMessage tbl (Buffer.filled _ 0xEE) (whole [8, 1, 7]) 3 =
          some (next, rest, .received i) →
            SubscribedSince (List.zip [.createPipe true 4 [0x41], .subscribe 0x0801 0 .complete]
              outcomes) msgId (indexId i)) ↔
        (msgId ≠ invalidMsgId ∨ ∀ i, FirstWithFreeSlot tbl i →
          (tbl i).numberOfMessages = maxPipeDepth ∨
            SubscribedSince (List.zip [.createPipe true 4 [0x41], .subscribe 0x0801 0 .complete]
              outcomes) invalidMsgId (indexId i))) := by
  refine enqueued_subscribed_iff (zeroPipeTbl _) _ (Machine.permitted_of_forall ?_ _) _
    (whole [8, 1, 7]) 3 _ (Nat.le_refl 3)
  simp [Op.Sequential, maxPipes]

end SbnClient
