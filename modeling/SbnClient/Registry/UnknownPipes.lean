import SbnClient.Registry.FirstPipe
import SbnClient.Registry.Invariant
import SbnClient.Registry.Receiving

/-!
# Ids that belong to no pipe

The quick check of `CFE_SBN_Client_GetPipeIdx` takes the id for an index of `PipeTbl`.
For the ids of the table it finds what the search finds, and a call with the id of no
pipe is refused.  Any other id is read outside the table before it is refused, also
`CFE_SBN_CLIENT_INVALID_PIPE`, which a failed `__wrap_CFE_SB_CreatePipe` hands out.
-/

namespace SbnClient

variable {P : Platform} {tbl : PipeTbl P}

/-- A pipe in use has the id. -/
def LiveId (tbl : PipeTbl P) (pipeId : UInt8) : Prop :=
  ∃ i, (tbl i).pipeId = pipeId ∧ (tbl i).inUse = inUse

/-- `GetPipeIdx` stays inside the table and returns what the search over it returns, and the
calls that rely on it refuse an id that belongs to no pipe. -/
structure FastPathAgrees (tbl : PipeTbl P) (pipeId : UInt8) : Prop where
  getPipeIdx_eq : getPipeIdx tbl pipeId = some (searchPipeIdx tbl pipeId)
  subscribe_refused : ¬ LiveId tbl pipeId → ∀ msgId outcome,
    subscribe tbl msgId pipeId outcome = some (tbl, .badArgument, [])
  rcvMsg_refused : ¬ LiveId tbl pipeId → ∀ bufPtr timeOut env,
    rcvMsg tbl bufPtr pipeId timeOut env = some ⟨tbl, .badArgument, none⟩

/-! ## Ids of the table -/

theorem Registry.liveId_indexId_iff (registry : Registry tbl) (k : Fin maxPipes) :
    LiveId tbl (indexId k) ↔ (tbl k).inUse = inUse := by
  constructor
  · rintro ⟨i, matched, used⟩
    obtain ⟨rfl, -⟩ := (registry.pipeId_eq_indexId_iff i k).mp matched
    exact used
  · exact fun used => ⟨k, (registry.live used).pipeId_eq, used⟩

theorem Registry.fastPathAgrees_indexId (registry : Registry tbl) (k : Fin maxPipes) :
    FastPathAgrees tbl (indexId k) where
  getPipeIdx_eq := by
    rw [getPipeIdx_indexId registry, searchPipeIdx_indexId registry]
  subscribe_refused := by
    intro unknown msgId outcome
    rw [registry.liveId_indexId_iff] at unknown
    rw [subscribe_indexId registry, if_neg unknown]
  rcvMsg_refused := by
    intro unknown bufPtr timeOut env
    rw [registry.liveId_indexId_iff] at unknown
    exact rcvMsg_of_badArgument registry fun accepted => unknown accepted.2.2

/-! ## Any id -/

/-- In every reachable table, `GetPipeIdx` is the search, and unknown ids are refused, for
exactly the ids that are an index of the table. -/
theorem fastPathAgrees_iff (reachable : Reachable tbl) (pipeId : UInt8) :
    FastPathAgrees tbl pipeId ↔ pipeId.toNat < maxPipes := by
  constructor
  · intro agrees
    by_contra outside
    have found := agrees.getPipeIdx_eq
    rw [getPipeIdx_of_le tbl (Nat.not_lt.mp outside)] at found
    cases found
  · intro inRange
    obtain ⟨k, rfl⟩ := exists_indexId inRange
    exact reachable.registry.fastPathAgrees_indexId k

/-- The id of the only pipe, and one that no `CreatePipe` has handed out. -/
theorem fastPathAgrees_subscribedPipe :
    let tbl := subscribedPipe (zeroPipeTbl (standardPlatform 32768)) [0x41] 0x0801
    LiveId tbl 0 ∧ FastPathAgrees tbl 0 ∧ ¬ LiveId tbl 3 ∧ FastPathAgrees tbl 3 := by
  intro tbl
  have reachable : Reachable tbl := reachable_subscribedPipe _ _ _
  have live : LiveId tbl 0 := (reachable.registry.liveId_indexId_iff 0).mpr rfl
  have unknown : ¬ LiveId tbl 3 :=
    (reachable.registry.liveId_indexId_iff 3).not.mpr inUse_ne_notInUse.symm
  exact ⟨live, (fastPathAgrees_iff reachable 0).mpr (by decide), unknown,
    (fastPathAgrees_iff reachable 3).mpr (by decide)⟩

/-- The id that a refused `CreatePipe` leaves in the caller's variable is read outside the
table by `Subscribe` and by `RcvMsg`. -/
theorem invalid_pipe_read_outside :
    let tbl := initPipeTbl (zeroPipeTbl (standardPlatform 32768))
    ∃ outcomes, Machine.run applyOp tbl [.createPipe true 0 [0x41]] = some (tbl, outcomes) ∧
      outcomes = [.created .badArgument (some invalidPipe)] ∧
      ¬ FastPathAgrees tbl invalidPipe ∧
      getPipeIdx tbl invalidPipe = none ∧
      searchPipeIdx tbl invalidPipe = invalidPipe ∧
      subscribe tbl 0x0801 invalidPipe .complete = none ∧
      rcvMsg tbl true invalidPipe 0 (calmEnv _) = none := by
  intro tbl
  refine ⟨_, rfl, rfl, fun agrees => ?_, rfl, by decide, rfl, rfl⟩
  cases agrees.getPipeIdx_eq

end SbnClient
