import SbnClient.Model.Receive
import SbnClient.Model.Wrappers

/-!
# Entries of the pipe table

Between calls every entry of the table is either in the state `invalidate_pipe` leaves
or belongs to a pipe whose id is its index.  `Registry` is that invariant, and with it
each search over the table has one answer.  The equations of this file say what the
searches and the calls that use them return; later proofs cite them and unfold nothing.
-/

namespace SbnClient

variable {P : Platform}

/-! ## The invariant -/

/-- An entry as `invalidate_pipe` leaves it. -/
structure FreePipe (pipe : PipeD P) : Prop where
  inUse_eq : pipe.inUse = notInUse
  pipeId_eq : pipe.pipeId = invalidPipe
  numberOfMessages_eq : pipe.numberOfMessages = 1
  readMessage_eq : pipe.readMessage = maxPipeDepth - 1
  subscribedMsgIds_eq : ∀ j, pipe.subscribedMsgIds j = invalidMsgId

/-- The entry at index `i` while its pipe exists. -/
structure LivePipe (i : Fin maxPipes) (pipe : PipeD P) : Prop where
  inUse_eq : pipe.inUse = inUse
  pipeId_eq : pipe.pipeId = indexId i
  numberOfMessages_ge : 1 ≤ pipe.numberOfMessages
  numberOfMessages_le : pipe.numberOfMessages ≤ maxPipeDepth
  readMessage_lt : pipe.readMessage < maxPipeDepth
  /-- The slots with an id come before the free ones. -/
  subscribed_before : ∀ j k, j ≤ k → pipe.subscribedMsgIds k ≠ invalidMsgId →
    pipe.subscribedMsgIds j ≠ invalidMsgId

/-- Every entry belongs to a pipe or is free. -/
def Registry (tbl : PipeTbl P) : Prop :=
  ∀ i, LivePipe i (tbl i) ∨ FreePipe (tbl i)

theorem inUse_ne_notInUse : inUse ≠ notInUse := by
  decide

theorem FreePipe.inUse_ne {pipe : PipeD P} (free : FreePipe pipe) : pipe.inUse ≠ inUse := by
  rw [free.inUse_eq]
  exact inUse_ne_notInUse.symm

theorem freePipe_invalidatePipe (pipe : PipeD P) : FreePipe (invalidatePipe pipe) :=
  ⟨rfl, rfl, rfl, rfl, fun _ => rfl⟩

theorem registry_initPipeTbl (tbl : PipeTbl P) : Registry (initPipeTbl tbl) :=
  fun i => .inr (freePipe_invalidatePipe (tbl i))

namespace Registry

variable {tbl : PipeTbl P}

theorem live (registry : Registry tbl) {i : Fin maxPipes} (used : (tbl i).inUse = inUse) :
    LivePipe i (tbl i) :=
  (registry i).resolve_right fun free => free.inUse_ne used

theorem free (registry : Registry tbl) {i : Fin maxPipes} (unused : (tbl i).inUse ≠ inUse) :
    FreePipe (tbl i) :=
  (registry i).resolve_left fun live => unused live.inUse_eq

/-- An id of the table belongs to the entry at its index, while that is in use. -/
theorem pipeId_eq_indexId_iff (registry : Registry tbl) (i k : Fin maxPipes) :
    (tbl i).pipeId = indexId k ↔ i = k ∧ (tbl k).inUse = inUse := by
  constructor
  · intro found
    rcases registry i with live | free
    · have same : i = k := indexId_injective (live.pipeId_eq.symm.trans found)
      subst same
      exact ⟨rfl, live.inUse_eq⟩
    · exact absurd (found.symm.trans free.pipeId_eq) (indexId_ne_invalidPipe k)
  · rintro ⟨rfl, used⟩
    exact (registry.live used).pipeId_eq

/-- The invariant is kept by any change to one entry that leaves it live or free. -/
theorem update (registry : Registry tbl) {i : Fin maxPipes} {pipe : PipeD P}
    (entry : LivePipe i pipe ∨ FreePipe pipe) : Registry (Function.update tbl i pipe) := by
  intro k
  by_cases same : k = i
  · subst same
    simpa using entry
  · simpa [same] using registry k

end Registry

/-! ## Searches -/

section Searches

variable {tbl : PipeTbl P}

/-- The linear search for an id of the table. -/
theorem searchPipeIdx_indexId (registry : Registry tbl) (k : Fin maxPipes) :
    searchPipeIdx tbl (indexId k) =
      if (tbl k).inUse = inUse then indexId k else invalidPipe := by
  rw [searchPipeIdx]
  split
  next used =>
    have found : (Fin.find? fun i => (tbl i).pipeId = indexId k ∧ (tbl i).inUse = inUse) =
        some k := by
      rw [Fin.find?_eq_some_iff]
      refine ⟨by simp [registry.pipeId_eq_indexId_iff, used], fun i before => ?_⟩
      simp [registry.pipeId_eq_indexId_iff, before.ne]
    rw [found]
    rfl
  next unused =>
    have missing : (Fin.find? fun i => (tbl i).pipeId = indexId k ∧ (tbl i).inUse = inUse) =
        none := by
      rw [Fin.find?_eq_none_iff]
      intro i
      simp [registry.pipeId_eq_indexId_iff, unused]
    rw [missing]
    rfl

/-- For an id of the table the quick check and the linear search agree. -/
theorem getPipeIdx_indexId (registry : Registry tbl) (k : Fin maxPipes) :
    getPipeIdx tbl (indexId k) =
      some (if (tbl k).inUse = inUse then indexId k else invalidPipe) := by
  rw [getPipeIdx, toNat_indexId, PipeTbl.at?_val, Option.map_some,
    searchPipeIdx_indexId registry]
  by_cases used : (tbl k).inUse = inUse
  · simp [used]
  · simp [used]

/-- The slot that `Subscribe` fills. -/
def freeSlot (pipe : PipeD P) : Option (Fin maxMsgIdsPerPipe) :=
  Fin.find? fun j => pipe.subscribedMsgIds j = invalidMsgId

theorem freeSlot_eq_some_iff {pipe : PipeD P} {j : Fin maxMsgIdsPerPipe} :
    freeSlot pipe = some j ↔ pipe.subscribedMsgIds j = invalidMsgId ∧
      ∀ k < j, pipe.subscribedMsgIds k ≠ invalidMsgId := by
  rw [freeSlot, Fin.find?_eq_some_iff]
  simp

theorem freeSlot_eq_none_iff {pipe : PipeD P} :
    freeSlot pipe = none ↔ ∀ j, pipe.subscribedMsgIds j ≠ invalidMsgId := by
  rw [freeSlot, Fin.find?_eq_none_iff]
  simp

theorem getMessageSubscribeIndex_indexId (tbl : PipeTbl P) (k : Fin maxPipes) :
    getMessageSubscribeIndex tbl (indexId k) = some (indexOr maxMsgIdsMet (freeSlot (tbl k))) := by
  rw [getMessageSubscribeIndex, toNat_indexId, PipeTbl.at?_val]
  rfl

end Searches

end SbnClient
