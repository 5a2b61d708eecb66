import SbnClient.Registry.Entries

/-!
# Pipe management on a valid table

What `CreatePipe`, `DeletePipe` and `Subscribe` do to a table with the registry
invariant, and what the entries they leave behind look like.
-/

namespace SbnClient

variable {P : Platform} {tbl : PipeTbl P}

/-! ## `CreatePipe` -/

/-- The entry that `CreatePipe` takes. -/
def availPipe (tbl : PipeTbl P) : Option (Fin maxPipes) :=
  Fin.find? fun i => (tbl i).inUse ≠ inUse

theorem availPipe_eq_some_iff {i : Fin maxPipes} :
    availPipe tbl = some i ↔ (tbl i).inUse ≠ inUse ∧ ∀ k < i, (tbl k).inUse = inUse := by
  rw [availPipe, Fin.find?_eq_some_iff]
  simp

/-- `GetAvailPipeIdx` tests for `NOT_IN_USE` where `CreatePipe` tests for anything but
`IN_USE`; on a valid table the two searches agree. -/
theorem getAvailPipeIdx_eq (registry : Registry tbl) :
    getAvailPipeIdx tbl = indexOr invalidPipe (availPipe tbl) := by
  have same : ∀ i, (tbl i).inUse = notInUse ↔ (tbl i).inUse ≠ inUse := by
    intro i
    constructor
    · intro unused used
      exact inUse_ne_notInUse (used.symm.trans unused)
    · exact fun unused => (registry.free unused).inUse_eq
  simp only [getAvailPipeIdx, availPipe, same]

/-- The entry after `CreatePipe` has taken it. -/
def openPipe (i : Fin maxPipes) (pipeName : List UInt8) (pipe : PipeD P) : PipeD P :=
  { pipe with
    inUse := inUse
    pipeId := indexId i
    sendErrors := 0
    pipeName := strncpy P.osMaxApiName pipeName }

/-- `CreatePipe` resets neither the counters nor the subscriptions of an entry, but they
are those that `invalidate_pipe` left. -/
theorem FreePipe.livePipe_openPipe {pipe : PipeD P} (free : FreePipe pipe) (i : Fin maxPipes)
    (pipeName : List UInt8) : LivePipe i (openPipe i pipeName pipe) where
  inUse_eq := rfl
  pipeId_eq := rfl
  numberOfMessages_ge := by simp [openPipe, free.numberOfMessages_eq]
  numberOfMessages_le := by simp [openPipe, free.numberOfMessages_eq, maxPipeDepth]
  readMessage_lt := by simp [openPipe, free.readMessage_eq]
  subscribed_before := fun _ k _ used => absurd (free.subscribedMsgIds_eq k) used

theorem createPipe_null (depth : UInt16) (pipeName : List UInt8) :
    createPipe tbl false depth pipeName = ⟨tbl, .badArgument, none⟩ := by
  simp [createPipe]

theorem createPipe_badDepth {depth : UInt16} (pipeName : List UInt8)
    (bad : depth.toNat > maxPipeDepth ∨ depth = 0) :
    createPipe tbl true depth pipeName = ⟨tbl, .badArgument, some invalidPipe⟩ := by
  simp [createPipe, bad]

theorem createPipe_goodDepth {depth : UInt16} (pipeName : List UInt8)
    (good : ¬ (depth.toNat > maxPipeDepth ∨ depth = 0)) :
    createPipe tbl true depth pipeName =
      match availPipe tbl with
      | some i => ⟨Function.update tbl i (openPipe i pipeName (tbl i)), .success,
          some (indexId i)⟩
      | none => ⟨tbl, .maxPipesMet, some invalidPipe⟩ := by
  simp only [createPipe, not_true_eq_false, ↓reduceIte, good]
  rfl

/-- A call is refused, or opens the first entry that is not in use. -/
theorem createPipe_cases (tbl : PipeTbl P) (pipeIdPtr : Bool) (depth : UInt16)
    (pipeName : List UInt8) :
    (∃ status pipeId, status ≠ .success ∧
        createPipe tbl pipeIdPtr depth pipeName = ⟨tbl, status, pipeId⟩) ∨
      ∃ i, pipeIdPtr ∧ ¬ (depth.toNat > maxPipeDepth ∨ depth = 0) ∧ availPipe tbl = some i ∧
        createPipe tbl pipeIdPtr depth pipeName =
          ⟨Function.update tbl i (openPipe i pipeName (tbl i)), .success, some (indexId i)⟩ := by
  cases pipeIdPtr with
  | false => exact .inl ⟨_, _, by decide, createPipe_null depth pipeName⟩
  | true =>
      by_cases bad : depth.toNat > maxPipeDepth ∨ depth = 0
      · exact .inl ⟨_, _, by decide, createPipe_badDepth pipeName bad⟩
      · rw [createPipe_goodDepth pipeName bad]
        cases found : availPipe tbl with
        | none => exact .inl ⟨.maxPipesMet, _, by decide, rfl⟩
        | some i => exact .inr ⟨i, rfl, bad, rfl, rfl⟩

/-! ## `DeletePipe` -/

/-- A call is refused, or ends a pipe in use. -/
theorem deletePipe_cases (tbl : PipeTbl P) (pipeId : UInt8) :
    (∃ status, status ≠ .success ∧ deletePipe tbl pipeId = (tbl, status)) ∨
      ∃ i, (tbl i).pipeId = pipeId ∧ (tbl i).inUse = inUse ∧
        deletePipe tbl pipeId =
          (Function.update tbl i (invalidatePipe (tbl i)), .success) := by
  rw [deletePipe]
  split
  next i found =>
    split
    next used =>
      exact .inr ⟨i, of_decide_eq_true (Fin.find?_eq_some_iff.mp found).1, used, rfl⟩
    next => exact .inl ⟨_, by decide, rfl⟩
  next => exact .inl ⟨_, by decide, rfl⟩

/-- Deleting an id of the table ends its pipe, if there is one. -/
theorem deletePipe_indexId (registry : Registry tbl) (k : Fin maxPipes) :
    deletePipe tbl (indexId k) =
      if (tbl k).inUse = inUse then
        (Function.update tbl k (invalidatePipe (tbl k)), .success)
      else
        (tbl, .minusTwo) := by
  rw [deletePipe]
  split
  next i found =>
    have matched := (Fin.find?_eq_some_iff.mp found).1
    simp only [registry.pipeId_eq_indexId_iff, decide_eq_true_eq] at matched
    obtain ⟨rfl, used⟩ := matched
    rw [if_pos used, if_pos used]
  next missing =>
    have unmatched := Fin.find?_eq_none_iff.mp missing k
    simp only [registry.pipeId_eq_indexId_iff, true_and, decide_eq_false_iff_not] at unmatched
    rw [if_neg unmatched]

/-- Any other id leaves the table as it is; free entries answer to the invalid id. -/
theorem deletePipe_of_ne_indexId (registry : Registry tbl) {pipeId : UInt8}
    (unknown : ∀ i, pipeId ≠ indexId i) :
    deletePipe tbl pipeId =
      (tbl, if pipeId = invalidPipe ∧ ∃ i, (tbl i).inUse ≠ inUse then .minusOne
        else .minusTwo) := by
  have matches_iff : ∀ i, (tbl i).pipeId = pipeId ↔
      pipeId = invalidPipe ∧ (tbl i).inUse ≠ inUse := by
    intro i
    rcases registry i with live | free
    · simp [live.pipeId_eq, live.inUse_eq, (unknown i).symm]
    · simp [free.pipeId_eq, free.inUse_ne, eq_comm]
  rw [deletePipe]
  split
  next i found =>
    have matched := (Fin.find?_eq_some_iff.mp found).1
    simp only [matches_iff, decide_eq_true_eq] at matched
    rw [if_neg matched.2, if_pos ⟨matched.1, i, matched.2⟩]
  next missing =>
    have unmatched := Fin.find?_eq_none_iff.mp missing
    simp only [matches_iff, decide_eq_false_iff_not] at unmatched
    rw [if_neg]
    rintro ⟨invalid, i, unused⟩
    exact unmatched i ⟨invalid, unused⟩

/-! ## `Subscribe` -/

/-- The entry with a message id stored in one slot. -/
def storeMsgId (pipe : PipeD P) (j : Fin maxMsgIdsPerPipe) (msgId : MsgId P) : PipeD P :=
  { pipe with subscribedMsgIds := Function.update pipe.subscribedMsgIds j msgId }

theorem indexOr_freeSlot_eq_maxMsgIdsMet_iff (pipe : PipeD P) :
    indexOr maxMsgIdsMet (freeSlot pipe) = maxMsgIdsMet ↔ freeSlot pipe = none := by
  cases freeSlot pipe with
  | none => simp [indexOr]
  | some j =>
      revert j
      decide

theorem setSubscribedMsgId?_indexId (tbl : PipeTbl P) (k : Fin maxPipes)
    (j : Fin maxMsgIdsPerPipe) (msgId : MsgId P) :
    setSubscribedMsgId? tbl (indexId k) (UInt8.ofNat j) msgId =
      some (Function.update tbl k (storeMsgId (tbl k) j msgId)) := by
  have slot : (UInt8.ofNat j).toNat = j.val := by
    revert j
    decide
  simp [setSubscribedMsgId?, storeMsgId, slot]

/-- Looking the slot up by id and writing it by index meet in the same entry. -/
theorem prepareSubscribe_indexId (registry : Registry tbl) (msgId : MsgId P) (k : Fin maxPipes) :
    prepareSubscribe tbl msgId (indexId k) = some (
      match if (tbl k).inUse = inUse then freeSlot (tbl k) else none with
      | some j => (Function.update tbl k (storeMsgId (tbl k) j msgId),
          .writes (packSub P P.sbnSubMsg msgId ⟨0, 0⟩).packed)
      | none => (tbl, .returns .badArgument)) := by
  rw [prepareSubscribe, getPipeIdx_indexId registry, Option.bind_some]
  by_cases used : (tbl k).inUse = inUse
  · simp only [used, ↓reduceIte, indexId_ne_invalidPipe, getMessageSubscribeIndex_indexId,
      Option.bind_some, indexOr_freeSlot_eq_maxMsgIdsMet_iff]
    cases found : freeSlot (tbl k) with
    | none => simp
    | some j => simp [indexOr, setSubscribedMsgId?_indexId]
  · simp [used]

theorem subscribe_indexId (registry : Registry tbl) (msgId : MsgId P) (k : Fin maxPipes)
    (outcome : WriteOutcome) :
    subscribe tbl msgId (indexId k) outcome = some (
      match if (tbl k).inUse = inUse then freeSlot (tbl k) else none with
      | some j => (Function.update tbl k (storeMsgId (tbl k) j msgId), .success,
          sendSubToSbn P P.sbnSubMsg msgId ⟨0, 0⟩ outcome)
      | none => (tbl, .badArgument, [])) := by
  rw [subscribe, prepareSubscribe_indexId registry, Option.map_some]
  cases if (tbl k).inUse = inUse then freeSlot (tbl k) else none <;> rfl

/-- The quick check of `GetPipeIdx` reads outside the table. -/
theorem getPipeIdx_of_le (tbl : PipeTbl P) {pipeId : UInt8} (outside : maxPipes ≤ pipeId.toNat) :
    getPipeIdx tbl pipeId = none := by
  rw [getPipeIdx, PipeTbl.at?, dif_neg (Nat.not_lt.mpr outside), Option.map_none]

theorem getPipeIdx_inTable {pipeId pipeIdx : UInt8}
    (found : getPipeIdx tbl pipeId = some pipeIdx) : pipeId.toNat < maxPipes := by
  by_contra outside
  rw [getPipeIdx_of_le tbl (Nat.not_lt.mp outside)] at found
  cases found

theorem subscribe_of_le (tbl : PipeTbl P) (msgId : MsgId P) {pipeId : UInt8}
    (outside : maxPipes ≤ pipeId.toNat) (outcome : WriteOutcome) :
    subscribe tbl msgId pipeId outcome = none := by
  rw [subscribe, prepareSubscribe, getPipeIdx_of_le tbl outside]
  rfl

theorem inTable_of_subscribe {msgId : MsgId P} {pipeId : UInt8} {outcome : WriteOutcome}
    {result : PipeTbl P × Status × List UInt8}
    (subscribed : subscribe tbl msgId pipeId outcome = some result) :
    pipeId.toNat < maxPipes := by
  by_contra outside
  rw [subscribe_of_le tbl msgId (Nat.not_lt.mp outside) outcome] at subscribed
  cases subscribed

/-- The first free slot extends the prefix of used ones. -/
theorem LivePipe.storeMsgId {i : Fin maxPipes} {pipe : PipeD P} (live : LivePipe i pipe)
    {j : Fin maxMsgIdsPerPipe} (found : freeSlot pipe = some j) (msgId : MsgId P) :
    LivePipe i (storeMsgId pipe j msgId) where
  inUse_eq := live.inUse_eq
  pipeId_eq := live.pipeId_eq
  numberOfMessages_ge := live.numberOfMessages_ge
  numberOfMessages_le := live.numberOfMessages_le
  readMessage_lt := live.readMessage_lt
  subscribed_before := by
    obtain ⟨free, before⟩ := freeSlot_eq_some_iff.mp found
    intro a b order used
    simp only [SbnClient.storeMsgId] at used ⊢
    by_cases atSlot : b = j
    · by_cases same : a = j
      · simpa [same, atSlot] using used
      · rw [Function.update_of_ne same]
        exact before a (lt_of_le_of_ne (atSlot ▸ order) same)
    · rw [Function.update_of_ne atSlot] at used
      have inPrefix : b < j := by
        by_contra notBefore
        exact live.subscribed_before j b (not_lt.mp notBefore) used free
      have earlier : a < j := lt_of_le_of_lt order inPrefix
      rw [Function.update_of_ne earlier.ne]
      exact before a earlier

end SbnClient
