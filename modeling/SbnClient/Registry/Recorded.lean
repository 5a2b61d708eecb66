import SbnClient.Input.Publishing
import SbnClient.Registry.Consequences
import SbnClient.Registry.Slots
import SbnClient.Registry.Subscriptions

/-!
# What the calls record

The table as the calls of the application have made it: which pipes exist, and which ids each of
them has subscribed to since it was created.  What the receive minder does to the table is no
part of that, so that the calls alone decide which pipe a message goes to.
-/

namespace SbnClient

variable {P : Platform} {tbl next : PipeTbl P} {i : Fin maxPipes}

/-- The pipe exists and has subscribed to the id. -/
structure Enlisted (history : History P) (msgId : MsgId P) (i : Fin maxPipes) : Prop where
  owned : Owned history (indexId i)
  since : SubscribedSince history msgId (indexId i)

/-- The first pipe that has subscribed to the id. -/
structure FirstEnlisted (history : History P) (msgId : MsgId P) (i : Fin maxPipes) : Prop where
  enlisted : Enlisted history msgId i
  first : ∀ k < i, ¬ Enlisted history msgId k

/-- What becomes of a message, as far as the calls of the application decide it. -/
inductive RoutedByCalls (history : History P) (msgId : MsgId P) (payload : Payload P)
    (tbl : PipeTbl P) : PipeTbl P → IngestResult → Prop where
  | enqueued (i : Fin maxPipes) (first : FirstEnlisted history msgId i)
      (room : (tbl i).numberOfMessages ≠ maxPipeDepth) :
      RoutedByCalls history msgId payload tbl
        (Function.update tbl i (pushMessage (tbl i) payload)) (.received i)
  | overflowed (i : Fin maxPipes) (first : FirstEnlisted history msgId i)
      (full : (tbl i).numberOfMessages = maxPipeDepth) :
      RoutedByCalls history msgId payload tbl tbl (.pipeOverflow i)
  | unsubscribed (none : ∀ i, ¬ Enlisted history msgId i)
      (owned : ∃ i, Owned history (indexId i)) :
      RoutedByCalls history msgId payload tbl tbl .noSubscription
  | unowned (none : ∀ i, ¬ Owned history (indexId i)) :
      RoutedByCalls history msgId payload tbl tbl .noPipesInUse

/-! ## The invariant -/

/-- Table and calls agree on the pipes and on what these have subscribed to. -/
structure Recorded (history : History P) (tbl : PipeTbl P) : Prop where
  registry : Registry tbl
  agrees : Agrees history tbl
  subscribed_iff : ∀ i, (tbl i).inUse = inUse → ∀ msgId ≠ invalidMsgId,
    ((tbl i).Subscribed msgId ↔ SubscribedSince history msgId (indexId i))
  card_usedSlots : ∀ i, (tbl i).inUse = inUse →
    (usedSlots (tbl i)).card = slotsTaken history (indexId i)

theorem recorded_initPipeTbl (initial : PipeTbl P) : Recorded [] (initPipeTbl initial) where
  registry := registry_initPipeTbl initial
  agrees pipeId := by
    simp [not_owned_nil, initPipeTbl, invalidatePipe, inUse_ne_notInUse.symm]
  subscribed_iff i used := absurd used inUse_ne_notInUse.symm
  card_usedSlots i used := absurd used inUse_ne_notInUse.symm

/-- A message from the peer changes nothing of what the calls have made. -/
theorem Recorded.arrivalStep {history : History P} (recorded : Recorded history tbl)
    (step : ArrivalStep tbl next) : Recorded history next := by
  cases step with
  | kept => exact recorded
  | pushed k payload used room =>
      have content : ContentStep tbl (Function.update tbl k (pushMessage (tbl k) payload)) :=
        .pushed k payload used room
      have same : ∀ i, (Function.update tbl k (pushMessage (tbl k) payload) i).subscribedMsgIds =
          (tbl i).subscribedMsgIds := by
        intro i
        by_cases same : i = k <;> simp [same, pushMessage]
      refine ⟨recorded.registry.contentStep content, fun pipeId => ?_, fun i usedAfter => ?_,
        fun i usedAfter => ?_⟩
      · simp only [recorded.agrees pipeId, content.inUse_eq]
      · have kept := recorded.subscribed_iff i ((content.inUse_eq i).symm.trans usedAfter)
        simpa only [PipeD.Subscribed, same] using kept
      · have kept := recorded.card_usedSlots i ((content.inUse_eq i).symm.trans usedAfter)
        rwa [usedSlots_congr (same i)]

/-- A call that says nothing about any pipe. -/
theorem Recorded.concat {history : History P} (recorded : Recorded history tbl)
    {call : Op P × Outcome P} (creates : ∀ pipeId, ¬ Creates call pipeId)
    (deletes : ∀ pipeId, ¬ Deletes call pipeId)
    (subscribes : ∀ msgId pipeId, ¬ Subscribes call msgId pipeId) :
    Recorded (history ++ [call]) tbl where
  registry := recorded.registry
  agrees := recorded.agrees.concat creates deletes fun _ => rfl
  subscribed_iff i used msgId proper := by
    rw [SubscribedSince, Since.concat_iff, recorded.subscribed_iff i used msgId proper]
    simp [creates, subscribes, SubscribedSince]
  card_usedSlots i used := by
    rw [recorded.card_usedSlots i used,
      slotsTaken_of_other (creates _) fun msgId => subscribes msgId _]

/-! ## One call -/

/-- A subscription that succeeds fills a free slot of its pipe. -/
theorem Registry.stored_of_subscribes (registry : Registry tbl) {op : Op P}
    {outcome : Outcome P} (ran : SbnClient.applyOp tbl op = some (next, outcome))
    {msgId : MsgId P} (subscribes : Subscribes (op, outcome) msgId (indexId i)) :
    ∃ j, (tbl i).subscribedMsgIds j = invalidMsgId ∧ next i = storeMsgId (tbl i) j msgId := by
  obtain ⟨written, isCall⟩ := subscribes
  cases isCall
  obtain ⟨⟨changed, status, bytes⟩, called, equal⟩ := Option.map_eq_some_iff.mp ran
  cases equal
  obtain ⟨k, j, same, -, free, stored⟩ := registry.subscribe_success (by simp) called
  obtain rfl := indexId_injective same
  rw [stored, Function.update_self]
  exact ⟨j, free, rfl⟩

theorem Registry.subscribed_of_subscribes (registry : Registry tbl) {op : Op P}
    {outcome : Outcome P} (ran : SbnClient.applyOp tbl op = some (next, outcome))
    {msgId : MsgId P} (subscribes : Subscribes (op, outcome) msgId (indexId i)) :
    (next i).Subscribed msgId := by
  obtain ⟨j, -, stored⟩ := registry.stored_of_subscribes ran subscribes
  rw [stored]
  exact ⟨j, Function.update_self ..⟩

/-- Any other call leaves the slots of a pipe that stays. -/
theorem EntryStep.subscribedMsgIds_eq {pipe after : PipeD P} {call : Op P × Outcome P}
    (step : EntryStep i pipe call after) (used : after.inUse = inUse)
    (unsubscribed : ∀ msgId, ¬ Subscribes call msgId (indexId i)) :
    after.subscribedMsgIds = pipe.subscribedMsgIds := by
  cases step with
  | subscribed subscribes slot => exact absurd subscribes (unsubscribed _)
  | closed deletes => exact absurd used inUse_ne_notInUse.symm
  | kept | pushed | taken => rfl

/-- The slots of a pipe that was there before the call. -/
theorem card_usedSlots_applyOp {history : History P} (registry : Registry tbl) {op : Op P}
    {outcome : Outcome P} (sequential : op.Sequential tbl)
    (ran : SbnClient.applyOp tbl op = some (next, outcome)) (usedBefore : (tbl i).inUse = inUse)
    (used : (next i).inUse = inUse)
    (before : (usedSlots (tbl i)).card = slotsTaken history (indexId i)) :
    (usedSlots (next i)).card = slotsTaken (history ++ [(op, outcome)]) (indexId i) := by
  have step := registry.entryStep sequential ran usedBefore
  by_cases subscription : ∃ msgId, Subscribes (op, outcome) msgId (indexId i)
  · obtain ⟨msgId, subscribes⟩ := subscription
    obtain ⟨j, free, stored⟩ := registry.stored_of_subscribes ran subscribes
    rw [stored, slotsTaken_of_subscribes subscribes, ← before]
    by_cases proper : msgId = invalidMsgId
    · rw [if_neg (not_not.mpr proper), proper, storeMsgId_invalidMsgId free]
    · have fresh : j ∉ usedSlots (tbl i) := fun member => mem_usedSlots.mp member free
      rw [if_pos proper, usedSlots_storeMsgId proper, Finset.card_insert_of_notMem fresh]
  · have unsubscribed := not_exists.mp subscription
    rw [slotsTaken_of_other step.not_creates unsubscribed, ← before,
      usedSlots_congr (step.subscribedMsgIds_eq used unsubscribed)]

/-- The ids of a pipe that was there before the call. -/
theorem EntryStep.subscribed_iff {pipe after : PipeD P} {call : Op P × Outcome P}
    {history : History P} {msgId : MsgId P} (step : EntryStep i pipe call after)
    (used : after.inUse = inUse) (proper : msgId ≠ invalidMsgId)
    (stored : Subscribes call msgId (indexId i) → after.Subscribed msgId)
    (before : pipe.Subscribed msgId ↔ SubscribedSince history msgId (indexId i)) :
    after.Subscribed msgId ↔ SubscribedSince (history ++ [call]) msgId (indexId i) := by
  have uncreated := step.not_creates
  rw [SubscribedSince, Since.concat_iff]
  constructor
  · rintro ⟨j, held⟩
    cases step with
    | @subscribed filled other subscribes slot =>
        by_cases same : j = filled
        · subst same
          simp only [storeMsgId, Function.update_self] at held
          exact .inl (held ▸ subscribes)
        · simp only [storeMsgId, Function.update_of_ne same] at held
          exact .inr ⟨before.mp ⟨j, held⟩, uncreated⟩
    | closed deletes => exact absurd used inUse_ne_notInUse.symm
    | kept => exact .inr ⟨before.mp ⟨j, held⟩, uncreated⟩
    | pushed => exact .inr ⟨before.mp ⟨j, held⟩, uncreated⟩
    | taken => exact .inr ⟨before.mp ⟨j, held⟩, uncreated⟩
  · rintro (subscribes | ⟨since, -⟩)
    · exact stored subscribes
    · obtain ⟨j, held⟩ := before.mpr since
      cases step with
      | @subscribed filled other subscribes slot =>
          have distinct : j ≠ filled := by
            rintro rfl
            exact proper (held.symm.trans (freeSlot_eq_some_iff.mp slot).1)
          exact ⟨j, (Function.update_of_ne distinct ..).trans held⟩
      | closed deletes => exact absurd used inUse_ne_notInUse.symm
      | kept => exact ⟨j, held⟩
      | pushed => exact ⟨j, held⟩
      | taken => exact ⟨j, held⟩

/-- A pipe that begins with the call has been created by it. -/
theorem Agrees.creates {history : History P} {call : Op P × Outcome P}
    (before : Agrees history tbl) (after : Agrees (history ++ [call]) next)
    (unused : (tbl i).inUse ≠ inUse) (used : (next i).inUse = inUse) :
    Creates call (indexId i) := by
  have owned := (after (indexId i)).mpr ⟨i, rfl, used⟩
  rcases (owned_concat_iff history call _).mp owned with creates | ⟨ownedBefore, -⟩
  · exact creates
  · obtain ⟨k, same, usedBefore⟩ := (before (indexId i)).mp ownedBefore
    obtain rfl := indexId_injective same
    exact absurd usedBefore unused

theorem Recorded.applyOp {history : History P} (recorded : Recorded history tbl) {op : Op P}
    {outcome : Outcome P} (sequential : op.Sequential tbl)
    (ran : SbnClient.applyOp tbl op = some (next, outcome)) :
    Recorded (history ++ [(op, outcome)]) next := by
  have registry := recorded.registry
  obtain ⟨changed, returned, ranAgain, kept, agrees⟩ := recorded.agrees.applyOp registry sequential
  rw [ran, Option.some.injEq, Prod.mk.injEq] at ranAgain
  obtain ⟨rfl, rfl⟩ := ranAgain
  obtain ⟨again, outcomeAgain, ranAgain, step⟩ := applyOp_tableStep registry sequential
  rw [ran, Option.some.injEq, Prod.mk.injEq] at ranAgain
  obtain ⟨rfl, rfl⟩ := ranAgain
  have opened := fun i => @TableStep.subscribedMsgIds_of_opened P tbl next i registry step
  refine ⟨kept, agrees, fun i used msgId proper => ?_, fun i used => ?_⟩
  · by_cases usedBefore : (tbl i).inUse = inUse
    · exact (registry.entryStep sequential ran usedBefore).subscribed_iff used proper
        (registry.subscribed_of_subscribes ran) (recorded.subscribed_iff i usedBefore msgId proper)
    · have creates := recorded.agrees.creates agrees usedBefore used
      refine iff_of_false ?_ ?_
      · rintro ⟨j, held⟩
        exact proper (held.symm.trans (opened i usedBefore used j))
      · rw [SubscribedSince, Since.concat_iff]
        rintro (⟨written, isCall⟩ | ⟨-, uncreated⟩)
        · obtain ⟨pointer, depth, name, created⟩ := creates
          cases isCall.symm.trans created
        · exact uncreated creates
  · by_cases usedBefore : (tbl i).inUse = inUse
    · exact card_usedSlots_applyOp registry sequential ran usedBefore used
        (recorded.card_usedSlots i usedBefore)
    · have none : usedSlots (next i) = ∅ := Finset.eq_empty_of_forall_notMem fun j member =>
        mem_usedSlots.mp member (opened i usedBefore used j)
      rw [none, slotsTaken_of_creates (recorded.agrees.creates agrees usedBefore used)]
      rfl

/-! ## Where a message goes -/

/-- A pipe that takes messages with the id is one that the calls have subscribed to it. -/
theorem Recorded.enlisted_iff {history : History P} (recorded : Recorded history tbl)
    {msgId : MsgId P} (proper : msgId ≠ invalidMsgId) :
    Enlisted history msgId i ↔ Subscriber tbl msgId i := by
  constructor
  · rintro ⟨owned, since⟩
    obtain ⟨k, same, used⟩ := (recorded.agrees (indexId i)).mp owned
    obtain rfl := indexId_injective same
    exact ⟨used, (recorded.subscribed_iff i used msgId proper).mpr since⟩
  · rintro ⟨used, subscribed⟩
    exact ⟨(recorded.agrees (indexId i)).mpr ⟨i, rfl, used⟩,
      (recorded.subscribed_iff i used msgId proper).mp subscribed⟩

theorem Recorded.owned_iff {history : History P} (recorded : Recorded history tbl) :
    Owned history (indexId i) ↔ (tbl i).inUse = inUse := by
  rw [recorded.agrees (indexId i)]
  constructor
  · rintro ⟨k, same, used⟩
    exact indexId_injective same ▸ used
  · exact fun used => ⟨i, rfl, used⟩

theorem firstEnlisted_iff {history : History P} {msgId : MsgId P}
    (enlisted_iff : ∀ i, Enlisted history msgId i ↔ Subscriber tbl msgId i) :
    FirstEnlisted history msgId i ↔ FirstSubscriber tbl msgId i := by
  constructor
  · rintro ⟨enlisted, first⟩
    exact ⟨(enlisted_iff i).mp enlisted, fun k less => mt (enlisted_iff k).mpr (first k less)⟩
  · rintro ⟨subscriber, first⟩
    exact ⟨(enlisted_iff i).mpr subscriber, fun k less => mt (enlisted_iff k).mp (first k less)⟩

theorem Recorded.route_eq_some_iff {history : History P} (recorded : Recorded history tbl)
    {msgId : MsgId P} (proper : msgId ≠ invalidMsgId) :
    route tbl msgId = some i ↔ FirstEnlisted history msgId i := by
  rw [route_eq_some_iff_first, firstEnlisted_iff fun _ => recorded.enlisted_iff proper]

/-- Where the calls tell which pipes exist and take the id, they decide the route of a message. -/
theorem routedByCalls {history : History P} {msgId : MsgId P}
    (enlisted_iff : ∀ i, Enlisted history msgId i ↔ Subscriber tbl msgId i)
    (owned_iff : ∀ i, Owned history (indexId i) ↔ (tbl i).inUse = inUse) (payload : Payload P) :
    RoutedByCalls history msgId payload tbl (deliver tbl msgId payload)
      (ingestResult tbl msgId) := by
  rw [deliver, ingestResult]
  cases routed : route tbl msgId with
  | some i =>
      have first := (firstEnlisted_iff enlisted_iff).mpr (route_eq_some_iff_first.mp routed)
      simp only
      split
      next full => exact .overflowed i first full
      next room => exact .enqueued i first room
  | none =>
      have none : ∀ i, ¬ Enlisted history msgId i := fun i enlisted =>
        route_eq_none_iff.mp routed i ((enlisted_iff i).mp enlisted)
      simp only
      split
      next used =>
        obtain ⟨i, used⟩ := used
        exact .unsubscribed none ⟨i, (owned_iff i).mpr used⟩
      next unused => exact .unowned fun i owned => unused ⟨i, (owned_iff i).mp owned⟩

end SbnClient
