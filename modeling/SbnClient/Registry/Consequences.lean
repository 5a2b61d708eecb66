import SbnClient.Registry.History

/-!
# What the registry decides

In a reachable table the searches of `GetPipeIdx`, `CreatePipe`, `DeletePipe` and
`Subscribe` agree with each other although they are written differently, and a call that
is refused changes nothing.
-/

namespace SbnClient

variable {P : Platform} {tbl : PipeTbl P}

/-! ## `GetPipeIdx` and `Subscribe` -/

/-- Where the quick check fails, the linear search finds nothing. -/
theorem Registry.searchPipeIdx_eq_invalidPipe (registry : Registry tbl) {pipeId : UInt8}
    (inTable : pipeId.toNat < maxPipes) {pipe : PipeD P}
    (entry : tbl.at? pipeId.toNat = some pipe)
    (missed : ¬ (pipe.pipeId = pipeId ∧ pipe.inUse = inUse)) :
    searchPipeIdx tbl pipeId = invalidPipe := by
  obtain ⟨k, rfl⟩ := exists_indexId inTable
  rw [toNat_indexId, PipeTbl.at?_val, Option.some.injEq] at entry
  subst entry
  rw [searchPipeIdx_indexId registry, if_neg]
  intro used
  exact missed ⟨(registry.live used).pipeId_eq, used⟩

/-- A subscription goes to the entry with the id, into the slot found free there. -/
theorem Registry.subscribe_success (registry : Registry tbl) {pipeId : UInt8}
    (inTable : pipeId.toNat < maxPipes) {msgId : MsgId P} {outcome : WriteOutcome}
    {next : PipeTbl P} {written : List UInt8}
    (accepted : subscribe tbl msgId pipeId outcome = some (next, .success, written)) :
    ∃ (i : Fin maxPipes) (j : Fin maxMsgIdsPerPipe),
      pipeId = indexId i ∧ getMessageSubscribeIndex tbl pipeId = some (UInt8.ofNat j) ∧
      (tbl i).subscribedMsgIds j = invalidMsgId ∧
      next = Function.update tbl i (storeMsgId (tbl i) j msgId) := by
  obtain ⟨k, rfl⟩ := exists_indexId inTable
  rw [subscribe_indexId registry] at accepted
  split at accepted
  next j found =>
    split at found
    next used =>
      cases accepted
      refine ⟨k, j, rfl, ?_, (freeSlot_eq_some_iff.mp found).1, rfl⟩
      rw [getMessageSubscribeIndex_indexId, found]
      rfl
    next => exact absurd found (by simp)
  next => simp at accepted

/-- `Subscribe` succeeds for the pipes with a free slot. -/
theorem Registry.subscribe_success_iff (registry : Registry tbl) (msgId : MsgId P)
    (pipeId : UInt8) (outcome : WriteOutcome) :
    (∃ next written, subscribe tbl msgId pipeId outcome = some (next, .success, written)) ↔
      ∃ i j, pipeId = indexId i ∧ (tbl i).inUse = inUse ∧
        (tbl i).subscribedMsgIds j = invalidMsgId := by
  constructor
  · rintro ⟨next, written, accepted⟩
    obtain ⟨i, rfl⟩ := exists_indexId (inTable_of_subscribe accepted)
    rw [subscribe_indexId registry] at accepted
    split at accepted
    next j found =>
      obtain ⟨used, slot⟩ := Option.ite_none_right_eq_some.mp found
      exact ⟨i, j, rfl, used, (freeSlot_eq_some_iff.mp slot).1⟩
    next => simp at accepted
  · rintro ⟨i, j, rfl, used, free⟩
    rw [subscribe_indexId registry, if_pos used]
    cases found : freeSlot (tbl i) with
    | none => exact absurd free (freeSlot_eq_none_iff.mp found j)
    | some slot => exact ⟨_, _, rfl⟩

theorem Registry.subscribe_refused (registry : Registry tbl) {pipeId : UInt8}
    (inTable : pipeId.toNat < maxPipes) {msgId : MsgId P} {outcome : WriteOutcome}
    {next : PipeTbl P} {status : Status} {written : List UInt8}
    (ran : subscribe tbl msgId pipeId outcome = some (next, status, written))
    (refused : status ≠ .success) : next = tbl := by
  obtain ⟨k, rfl⟩ := exists_indexId inTable
  rw [subscribe_indexId registry] at ran
  split at ran
  next =>
    cases ran
    exact absurd rfl refused
  next =>
    cases ran
    rfl

/-! ## `CreatePipe` -/

theorem indexOr_availPipe_eq_invalidPipe_iff (tbl : PipeTbl P) :
    indexOr invalidPipe (availPipe tbl) = invalidPipe ↔ availPipe tbl = none := by
  cases availPipe tbl with
  | none => simp [indexOr]
  | some i => exact iff_of_false (indexId_ne_invalidPipe i) (by simp)

/-- With an acceptable depth `CreatePipe` succeeds just when `GetAvailPipeIdx` finds an
entry, and takes that one, with no subscription in it. -/
theorem Registry.createPipe_spec (registry : Registry tbl) {depth : UInt16}
    (atLeast : 1 ≤ depth.toNat) (atMost : depth.toNat ≤ maxPipeDepth) (pipeName : List UInt8) :
    let created := createPipe tbl true depth pipeName
    (created.status = .success ↔ getAvailPipeIdx tbl ≠ invalidPipe) ∧
      (created.status = .success → ∃ i, getAvailPipeIdx tbl = indexId i ∧
        created.pipeId = some (indexId i) ∧ (created.tbl i).inUse = inUse ∧
        ∀ j, (created.tbl i).subscribedMsgIds j = invalidMsgId) := by
  have good : ¬ (depth.toNat > maxPipeDepth ∨ depth = 0) := by
    rintro (tooDeep | zero)
    · omega
    · simp [zero] at atLeast
  simp only [createPipe_goodDepth pipeName good, getAvailPipeIdx_eq registry, ne_eq,
    indexOr_availPipe_eq_invalidPipe_iff]
  cases found : availPipe tbl with
  | none => simp
  | some i =>
      have free := registry.free (availPipe_eq_some_iff.mp found).1
      refine ⟨by simp, fun _ => ⟨i, rfl, rfl, ?_, ?_⟩⟩
      · simp [openPipe]
      · simpa [openPipe] using free.subscribedMsgIds_eq

theorem createPipe_refused (tbl : PipeTbl P) {pipeIdPtr : Bool} {depth : UInt16}
    {pipeName : List UInt8}
    (refused : (createPipe tbl pipeIdPtr depth pipeName).status ≠ .success) :
    (createPipe tbl pipeIdPtr depth pipeName).tbl = tbl := by
  rcases createPipe_cases tbl pipeIdPtr depth pipeName with
    ⟨status, pipeId, -, same⟩ | ⟨i, -, -, -, opened⟩
  · rw [same]
  · rw [opened] at refused
    exact absurd rfl refused

/-! ## `DeletePipe` -/

theorem Registry.deletePipe_success_iff (registry : Registry tbl) (pipeId : UInt8) :
    (deletePipe tbl pipeId).2 = .success ↔ ∃ k, pipeId = indexId k ∧ (tbl k).inUse = inUse := by
  constructor
  · intro succeeded
    rcases deletePipe_cases tbl pipeId with ⟨status, failing, refused⟩ | ⟨k, matched, used, -⟩
    · rw [refused] at succeeded
      exact absurd succeeded failing
    · exact ⟨k, matched.symm.trans (registry.live used).pipeId_eq, used⟩
  · rintro ⟨k, rfl, used⟩
    rw [deletePipe_indexId registry, if_pos used]

theorem deletePipe_refused (tbl : PipeTbl P) {pipeId : UInt8}
    (refused : (deletePipe tbl pipeId).2 ≠ .success) : (deletePipe tbl pipeId).1 = tbl := by
  rcases deletePipe_cases tbl pipeId with ⟨status, -, same⟩ | ⟨i, -, -, closed⟩
  · rw [same]
  · rw [closed] at refused
    exact absurd rfl refused

/-! ## The registry of a reachable table -/

/-- The state of the entries, and what the calls make of it. -/
structure PipeRegistry (history : History P) (tbl : PipeTbl P) : Prop where
  used : ∀ i, (tbl i).inUse = inUse → (tbl i).pipeId = indexId i ∧
    ∀ j k, j ≤ k → (tbl i).subscribedMsgIds k ≠ invalidMsgId →
      (tbl i).subscribedMsgIds j ≠ invalidMsgId
  unused : ∀ i, (tbl i).inUse ≠ inUse → (tbl i).pipeId = invalidPipe ∧
    (tbl i).numberOfMessages = 1 ∧ (tbl i).readMessage = maxPipeDepth - 1 ∧
    ∀ j, (tbl i).subscribedMsgIds j = invalidMsgId
  fallback : ∀ pipeId pipe, pipeId.toNat < maxPipes → tbl.at? pipeId.toNat = some pipe →
    ¬ (pipe.pipeId = pipeId ∧ pipe.inUse = inUse) → searchPipeIdx tbl pipeId = invalidPipe
  subscribeSucceeds : ∀ msgId pipeId outcome,
    (∃ next written, subscribe tbl msgId pipeId outcome = some (next, .success, written)) ↔
      Owned history pipeId ∧ ∃ i j, pipeId = indexId i ∧
        (tbl i).subscribedMsgIds j = invalidMsgId
  subscribes : ∀ msgId pipeId outcome next written, pipeId.toNat < maxPipes →
    subscribe tbl msgId pipeId outcome = some (next, .success, written) →
    ∃ (i : Fin maxPipes) (j : Fin maxMsgIdsPerPipe),
      pipeId = indexId i ∧ getMessageSubscribeIndex tbl pipeId = some (UInt8.ofNat j) ∧
      (tbl i).subscribedMsgIds j = invalidMsgId ∧
      next = Function.update tbl i (storeMsgId (tbl i) j msgId)
  creates : ∀ depth pipeName, 1 ≤ depth.toNat → depth.toNat ≤ maxPipeDepth →
    let created := createPipe tbl true depth pipeName
    (created.status = .success ↔ getAvailPipeIdx tbl ≠ invalidPipe) ∧
      (created.status = .success → ∃ i, getAvailPipeIdx tbl = indexId i ∧
        created.pipeId = some (indexId i) ∧ (created.tbl i).inUse = inUse ∧
        ∀ j, (created.tbl i).subscribedMsgIds j = invalidMsgId)
  deletes : ∀ pipeId, (deletePipe tbl pipeId).2 = .success ↔ Owned history pipeId
  createRefused : ∀ pipeIdPtr depth pipeName,
    (createPipe tbl pipeIdPtr depth pipeName).status ≠ .success →
    (createPipe tbl pipeIdPtr depth pipeName).tbl = tbl
  deleteRefused : ∀ pipeId, (deletePipe tbl pipeId).2 ≠ .success → (deletePipe tbl pipeId).1 = tbl
  subscribeRefused : ∀ msgId pipeId outcome next status written, pipeId.toNat < maxPipes →
    subscribe tbl msgId pipeId outcome = some (next, status, written) → status ≠ .success →
    next = tbl

theorem Registry.pipeRegistry {history : History P} (registry : Registry tbl)
    (agrees : Agrees history tbl) : PipeRegistry history tbl where
  used _ used := ⟨(registry.live used).pipeId_eq, (registry.live used).subscribed_before⟩
  unused _ unused :=
    have free := registry.free unused
    ⟨free.pipeId_eq, free.numberOfMessages_eq, free.readMessage_eq, free.subscribedMsgIds_eq⟩
  fallback _ _ inTable entry missed := registry.searchPipeIdx_eq_invalidPipe inTable entry missed
  subscribeSucceeds msgId pipeId outcome := by
    rw [registry.subscribe_success_iff, agrees]
    constructor
    · rintro ⟨i, j, matched, used, free⟩
      exact ⟨⟨i, matched, used⟩, i, j, matched, free⟩
    · rintro ⟨⟨k, rfl, used⟩, i, j, matched, free⟩
      obtain rfl := indexId_injective matched
      exact ⟨k, j, rfl, used, free⟩
  subscribes _ _ _ _ _ inTable accepted := registry.subscribe_success inTable accepted
  creates _ pipeName atLeast atMost := registry.createPipe_spec atLeast atMost pipeName
  deletes pipeId := (registry.deletePipe_success_iff pipeId).trans (agrees pipeId).symm
  createRefused _ _ _ refused := createPipe_refused tbl refused
  deleteRefused _ refused := deletePipe_refused tbl refused
  subscribeRefused _ _ _ _ _ _ inTable ran refused :=
    registry.subscribe_refused inTable ran refused

/-- Every sequential run from the initial table is defined and ends in a table whose
entries and searches agree with each other and with the calls of the run. -/
theorem sequential_runs_registry (initial : PipeTbl P) (ops : List (Op P))
    (sequential : Machine.Permitted applyOp Op.Sequential (initPipeTbl initial) ops) :
    ∃ tbl outcomes, Machine.run applyOp (initPipeTbl initial) ops = some (tbl, outcomes) ∧
      PipeRegistry (ops.zip outcomes) tbl := by
  have initially : Agrees ([] : History P) (initPipeTbl initial) := by
    intro pipeId
    simp [not_owned_nil, initPipeTbl, invalidatePipe, inUse_ne_notInUse.symm]
  obtain ⟨tbl, outcomes, ran, registry, agrees⟩ :=
    @Machine.run_history _ _ _ applyOp Op.Sequential
      (fun history tbl => Registry tbl ∧ Agrees history tbl)
      (fun _ _ _ invariant sequential => invariant.2.applyOp invariant.1 sequential)
      ops [] _ ⟨registry_initPipeTbl initial, initially⟩ sequential
  exact ⟨tbl, outcomes, ran, registry.pipeRegistry agrees⟩

/-- Two pipes, a subscription, and the first pipe deleted again. -/
theorem deleted_pipe_registry :
    ∃ tbl outcomes, Machine.run applyOp (initPipeTbl (zeroPipeTbl (standardPlatform 32768)))
        [.createPipe true 1 [0x41], .createPipe true 32 [0x42], .subscribe 0x0801 1 .complete,
          .deletePipe 0] = some (tbl, outcomes) ∧
      PipeRegistry (List.zip [.createPipe true 1 [0x41], .createPipe true 32 [0x42],
        .subscribe 0x0801 1 .complete, .deletePipe 0] outcomes) tbl := by
  apply sequential_runs_registry
  apply Machine.permitted_of_forall
  simp [Op.Sequential, maxPipes]

end SbnClient
