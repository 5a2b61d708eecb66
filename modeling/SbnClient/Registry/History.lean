import SbnClient.Foundations.Since
import SbnClient.Registry.Invariant

/-!
# Pipe ids and the history of calls

Which ids belong to a pipe can be told from the calls alone: those that `CreatePipe`
has returned and `DeletePipe` has not ended since.  With the registry invariant that
decides what every later `CreatePipe`, `DeletePipe` and `Subscribe` does.
-/

namespace SbnClient

variable {P : Platform} {tbl next : PipeTbl P}

/-- Calls with what they returned, oldest first. -/
abbrev History (P : Platform) := List (Op P × Outcome P)

/-- The call is a `CreatePipe` that returned the id. -/
def Creates (call : Op P × Outcome P) (pipeId : UInt8) : Prop :=
  ∃ pipeIdPtr depth pipeName,
    call = (.createPipe pipeIdPtr depth pipeName, .created .success (some pipeId))

/-- The call is a `DeletePipe` that ended the pipe with the id. -/
def Deletes (call : Op P × Outcome P) (pipeId : UInt8) : Prop :=
  call = (.deletePipe pipeId, .deleted .success)

/-- The id was returned by a `CreatePipe` and has not been deleted since. -/
def Owned (history : History P) (pipeId : UInt8) : Prop :=
  Since (fun call => Creates call pipeId) (fun call => Deletes call pipeId) history

theorem not_owned_nil (pipeId : UInt8) : ¬ Owned ([] : History P) pipeId :=
  Since.not_nil

theorem owned_concat_iff (history : History P) (call : Op P × Outcome P) (pipeId : UInt8) :
    Owned (history ++ [call]) pipeId ↔
      Creates call pipeId ∨ (Owned history pipeId ∧ ¬ Deletes call pipeId) :=
  Since.concat_iff history call

/-! ## The invariant -/

/-- The table and the calls agree on which ids belong to a pipe. -/
def Agrees (history : History P) (tbl : PipeTbl P) : Prop :=
  ∀ pipeId, Owned history pipeId ↔ ∃ k, pipeId = indexId k ∧ (tbl k).inUse = inUse

/-- A call that neither begins nor ends a pipe. -/
theorem Agrees.concat {history : History P} (agrees : Agrees history tbl)
    {call : Op P × Outcome P} (creates : ∀ pipeId, ¬ Creates call pipeId)
    (deletes : ∀ pipeId, ¬ Deletes call pipeId) (same : ∀ k, (next k).inUse = (tbl k).inUse) :
    Agrees (history ++ [call]) next := by
  intro pipeId
  rw [owned_concat_iff]
  simp [creates, deletes, agrees pipeId, same]

theorem Agrees.createPipe {history : History P} (agrees : Agrees history tbl)
    (pipeIdPtr : Bool) (depth : UInt16) (pipeName : List UInt8) :
    let created := createPipe tbl pipeIdPtr depth pipeName
    Agrees (history ++ [(.createPipe pipeIdPtr depth pipeName,
      .created created.status created.pipeId)]) created.tbl := by
  rcases createPipe_cases tbl pipeIdPtr depth pipeName with
    ⟨status, refusedId, failing, refused⟩ | ⟨i, -, -, -, opened⟩
  · simp only [refused]
    exact agrees.concat (by simp [Creates, failing]) (by simp [Deletes]) fun _ => rfl
  · simp only [opened]
    intro pipeId
    rw [owned_concat_iff, agrees pipeId]
    constructor
    · rintro (⟨_, _, _, created⟩ | ⟨⟨k, rfl, used⟩, -⟩)
      · simp only [Prod.mk.injEq, Outcome.created.injEq, Option.some.injEq, true_and] at created
        exact ⟨i, created.2.symm, by simp [openPipe]⟩
      · refine ⟨k, rfl, ?_⟩
        by_cases same : k = i
        · simp [same, openPipe]
        · simpa [same] using used
    · rintro ⟨k, rfl, used⟩
      by_cases same : k = i
      · subst same
        exact .inl ⟨_, _, _, rfl⟩
      · exact .inr ⟨⟨k, rfl, by simpa [same] using used⟩, by simp [Deletes]⟩

theorem Agrees.deletePipe {history : History P} (registry : Registry tbl)
    (agrees : Agrees history tbl) (pipeId : UInt8) :
    Agrees (history ++ [(.deletePipe pipeId, .deleted (deletePipe tbl pipeId).2)])
      (deletePipe tbl pipeId).1 := by
  rcases deletePipe_cases tbl pipeId with ⟨status, failing, refused⟩ | ⟨k, matched, used, closed⟩
  · rw [refused]
    exact agrees.concat (by simp [Creates]) (by simp [Deletes, failing]) fun _ => rfl
  · rw [closed]
    obtain rfl : indexId k = pipeId := (registry.live used).pipeId_eq.symm.trans matched
    intro other
    rw [owned_concat_iff, agrees other]
    simp only [Creates, Deletes, Prod.mk.injEq, reduceCtorEq, false_and, exists_const,
      Op.deletePipe.injEq, and_true, false_or]
    constructor
    · rintro ⟨⟨i, rfl, otherUsed⟩, different⟩
      have distinct : i ≠ k := fun same => different (congrArg indexId same.symm)
      exact ⟨i, rfl, by simpa [distinct] using otherUsed⟩
    · rintro ⟨i, rfl, otherUsed⟩
      have distinct : i ≠ k := by
        rintro rfl
        simp [invalidatePipe, inUse_ne_notInUse.symm] at otherUsed
      refine ⟨⟨i, rfl, by simpa [distinct] using otherUsed⟩, fun same => ?_⟩
      exact distinct (indexId_injective same.symm)

/-- Every call of a sequential run keeps table and history in agreement. -/
theorem Agrees.applyOp {history : History P} (registry : Registry tbl)
    (agrees : Agrees history tbl) {op : Op P} (sequential : op.Sequential tbl) :
    ∃ next outcome, applyOp tbl op = some (next, outcome) ∧ Registry next ∧
      Agrees (history ++ [(op, outcome)]) next := by
  by_cases manages : op.ManagesPipes
  · obtain ⟨next, outcome, ran, kept⟩ := registry.applyOp sequential
    refine ⟨next, outcome, ran, kept, ?_⟩
    cases op with
    | createPipe pipeIdPtr depth pipeName =>
        cases ran
        exact agrees.createPipe pipeIdPtr depth pipeName
    | deletePipe pipeId =>
        cases ran
        exact agrees.deletePipe registry pipeId
    | _ => exact manages.elim
  · obtain ⟨next, outcome, ran, step⟩ := applyOp_contentStep registry sequential manages
    refine ⟨next, outcome, ran, registry.contentStep step, ?_⟩
    apply agrees.concat _ _ step.inUse_eq
    · rintro pipeId ⟨_, _, _, created⟩
      cases created
      exact manages trivial
    · intro pipeId deleted
      cases deleted
      exact manages trivial

end SbnClient
