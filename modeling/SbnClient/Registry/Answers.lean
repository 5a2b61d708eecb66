import SbnClient.Model.Interleaving
import SbnClient.Registry.Control

/-!
# What the calls are told

Whatever the minders and the threads are doing, the next `CreatePipe`, `DeletePipe`, `Subscribe`
and `RcvMsg` call of an application is told what the calls before it decide, back to the last
connection.  No message that has arrived and no counter has a part in it.
-/

namespace SbnClient

variable {P : Platform} {tbl : PipeTbl P} {history : History P} {i : Fin maxPipes}

/-- What the calls up to now decide about the next one, for ids and depths that the code
accepts. -/
structure Answers (history : History P) (tbl : PipeTbl P) : Prop where
  found : ∀ pipeId, pipeId.toNat < maxPipes → ∃ pipeIdx, getPipeIdx tbl pipeId = some pipeIdx ∧
    (Owned history pipeId → pipeIdx = pipeId) ∧ (¬ Owned history pipeId → pipeIdx = invalidPipe)
  /-- `CreatePipe` returns the least id that is free. -/
  created : ∀ depth pipeName, 1 ≤ depth.toNat → depth.toNat ≤ maxPipeDepth →
    let created := createPipe tbl true depth pipeName
    (created.status = .success ↔ ∃ i, ¬ Owned history (indexId i)) ∧
      ∀ i, created.pipeId = some (indexId i) ↔
        ¬ Owned history (indexId i) ∧ ∀ k < i, Owned history (indexId k)
  deleted : ∀ pipeId, (deletePipe tbl pipeId).2 = .success ↔ Owned history pipeId
  /-- `Subscribe` succeeds while the calls have not filled all slots of the pipe. -/
  subscribed : ∀ msgId pipeId outcome, pipeId.toNat < maxPipes →
    ∃ next status written, subscribe tbl msgId pipeId outcome = some (next, status, written) ∧
      (status = .success ↔
        Owned history pipeId ∧ slotsTaken history pipeId < maxMsgIdsPerPipe)
  /-- `RcvMsg` goes on with the pipe that has the id. -/
  looked : ∀ bufPtr pipeId timeOut, pipeId.toNat < maxPipes →
    ∃ found, rcvLookup tbl bufPtr pipeId timeOut = some found ∧
      ∀ i, found = some i ↔
        bufPtr ∧ -1 ≤ timeOut ∧ pipeId = indexId i ∧ Owned history pipeId

/-! ## The calls one by one -/

theorem Recorded.getPipeIdx_eq (recorded : Recorded history tbl) {pipeId : UInt8}
    (inTable : pipeId.toNat < maxPipes) :
    ∃ pipeIdx, getPipeIdx tbl pipeId = some pipeIdx ∧
      (Owned history pipeId → pipeIdx = pipeId) ∧
      (¬ Owned history pipeId → pipeIdx = invalidPipe) := by
  obtain ⟨k, rfl⟩ := exists_indexId inTable
  rw [getPipeIdx_indexId recorded.registry, recorded.owned_iff]
  exact ⟨_, rfl, fun used => if_pos used, fun unused => if_neg unused⟩

theorem Recorded.availPipe_eq_some_iff (recorded : Recorded history tbl) :
    availPipe tbl = some i ↔
      ¬ Owned history (indexId i) ∧ ∀ k < i, Owned history (indexId k) := by
  simp only [SbnClient.availPipe_eq_some_iff, recorded.owned_iff, ne_eq]

theorem Recorded.createPipe (recorded : Recorded history tbl) {depth : UInt16}
    (atLeast : 1 ≤ depth.toNat) (atMost : depth.toNat ≤ maxPipeDepth) (pipeName : List UInt8) :
    let created := createPipe tbl true depth pipeName
    (created.status = .success ↔ ∃ i, ¬ Owned history (indexId i)) ∧
      ∀ i, created.pipeId = some (indexId i) ↔
        ¬ Owned history (indexId i) ∧ ∀ k < i, Owned history (indexId k) := by
  have good : ¬ (depth.toNat > maxPipeDepth ∨ depth = 0) := by
    rintro (tooDeep | rfl)
    · omega
    · exact absurd atLeast (by decide)
  simp only [createPipe_goodDepth pipeName good, ← recorded.availPipe_eq_some_iff]
  cases avail : availPipe tbl with
  | some k =>
      refine ⟨iff_of_true rfl ⟨k, (recorded.availPipe_eq_some_iff.mp avail).1⟩, fun i => ?_⟩
      simp only [Option.some.injEq]
      exact ⟨fun same => indexId_injective same, congrArg indexId⟩
  | none =>
      refine ⟨iff_of_false (by simp) ?_, fun i => iff_of_false ?_ (by simp)⟩
      · rintro ⟨i, unowned⟩
        have unused := mt recorded.owned_iff.mpr unowned
        simp [availPipe] at avail
        exact unused (avail i)
      · simpa using (indexId_ne_invalidPipe i).symm

theorem Recorded.subscribe (recorded : Recorded history tbl) {pipeId : UInt8}
    (inTable : pipeId.toNat < maxPipes) (msgId : MsgId P) (outcome : WriteOutcome) :
    ∃ next status written,
      subscribe tbl msgId pipeId outcome = some (next, status, written) ∧
        (status = .success ↔
          Owned history pipeId ∧ slotsTaken history pipeId < maxMsgIdsPerPipe) := by
  obtain ⟨k, rfl⟩ := exists_indexId inTable
  refine ⟨_, _, _, subscribe_indexId recorded.registry msgId k outcome, ?_⟩
  rw [recorded.owned_iff]
  by_cases used : (tbl k).inUse = inUse
  · rw [if_pos used, and_iff_right used, ← recorded.card_usedSlots k used, ← exists_freeSlot_iff]
    cases freeSlot (tbl k) <;> simp
  · simp [used]

theorem Recorded.rcvLookup (recorded : Recorded history tbl) {pipeId : UInt8}
    (inTable : pipeId.toNat < maxPipes) (bufPtr : Bool) (timeOut : Int) :
    ∃ found, rcvLookup tbl bufPtr pipeId timeOut = some found ∧
      ∀ i, found = some i ↔
        bufPtr ∧ -1 ≤ timeOut ∧ pipeId = indexId i ∧ Owned history pipeId := by
  obtain ⟨k, rfl⟩ := exists_indexId inTable
  rw [SbnClient.rcvLookup, getPipeIdx_indexId recorded.registry, Option.bind_some,
    recorded.owned_iff]
  by_cases refused : ¬ bufPtr ∨ timeOut < -1
  · refine ⟨none, if_pos refused, fun i => iff_of_false (by simp) ?_⟩
    rintro ⟨given, accepted, -⟩
    rcases refused with missing | less
    · exact missing given
    · omega
  · obtain ⟨given, accepted⟩ := not_or.mp refused
    rw [if_neg refused]
    by_cases used : (tbl k).inUse = inUse
    · refine ⟨some k, by simp [used, indexId_ne_invalidPipe], fun i => ?_⟩
      rw [and_iff_right (not_not.mp given), and_iff_right (Int.not_lt.mp accepted),
        and_iff_left used, Option.some.injEq, indexId_injective.eq_iff]
    · exact ⟨none, by simp [used], fun i => by simp [used]⟩

theorem Recorded.answers (recorded : Recorded history tbl) : Answers history tbl where
  found _ inTable := recorded.getPipeIdx_eq inTable
  created _ pipeName atLeast atMost := recorded.createPipe atLeast atMost pipeName
  deleted pipeId := (recorded.registry.deletePipe_success_iff pipeId).trans
    (recorded.agrees pipeId).symm
  subscribed msgId _ outcome inTable := recorded.subscribe inTable msgId outcome
  looked bufPtr _ timeOut inTable := recorded.rcvLookup inTable bufPtr timeOut

/-- The counters have no part in an answer. -/
theorem Answers.of_withoutCounters (answers : Answers history (withoutCounters tbl)) :
    Answers history tbl where
  found pipeId inTable := by
    rw [← getPipeIdx_withoutCounters]
    exact answers.found pipeId inTable
  created depth pipeName atLeast atMost := by
    have created := answers.created depth pipeName atLeast atMost
    rwa [createPipe_withoutCounters] at created
  deleted pipeId := by
    have deleted := answers.deleted pipeId
    rwa [deletePipe_withoutCounters] at deleted
  subscribed msgId pipeId outcome inTable := by
    obtain ⟨next, status, written, ran, success⟩ := answers.subscribed msgId pipeId outcome inTable
    rw [subscribe_withoutCounters] at ran
    obtain ⟨⟨after, _, _⟩, subscribed, equal⟩ := Option.map_eq_some_iff.mp ran
    cases equal
    exact ⟨after, status, written, subscribed, success⟩
  looked bufPtr pipeId timeOut inTable := by
    have looked := answers.looked bufPtr pipeId timeOut inTable
    rwa [SbnClient.rcvLookup, getPipeIdx_withoutCounters] at looked

end SbnClient
