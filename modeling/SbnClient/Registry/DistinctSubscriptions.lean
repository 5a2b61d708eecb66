import SbnClient.Foundations.SlotSet
import SbnClient.Registry.Consequences
import SbnClient.Registry.FirstPipe
import SbnClient.Registry.Subscriptions

/-!
# Subscriptions as a set

`SubscribedMsgIds` keeps the ids of a pipe in four slots.  Where `__wrap_CFE_SB_Subscribe`
should look whether the pipe has the id already there is only a comment, so that the slots
are a set exactly as long as no caller subscribes a pipe to an id that it holds.
-/

namespace SbnClient

open SlotSet

variable {P : Platform} {tbl next : PipeTbl P} {i : Fin maxPipes}

/-- The ids that a pipe is subscribed to. -/
def PipeD.msgIds (pipe : PipeD P) : Set (MsgId P) :=
  items invalidMsgId pipe.subscribedMsgIds

/-- The ids in the slots of each pipe in use are pairwise distinct. -/
def DistinctIds (tbl : PipeTbl P) : Prop :=
  ∀ i, (tbl i).inUse = inUse → Distinct invalidMsgId (tbl i).subscribedMsgIds

/-- A call that treats the subscriptions as sets: they stay distinct, an id that the pipe
holds is subscribed again without any change, and an id is refused only by a pipe that holds
as many others as it has slots. -/
structure SetStep (tbl : PipeTbl P) (op : Op P) (outcome : Outcome P) (next : PipeTbl P) :
    Prop where
  distinct : DistinctIds next
  again : ∀ i msgId written, op = .subscribe msgId (indexId i) written →
    (tbl i).inUse = inUse → (tbl i).Subscribed msgId →
      outcome = .subscribed .success ∧ next = tbl
  refused : ∀ i msgId written, op = .subscribe msgId (indexId i) written →
    (tbl i).inUse = inUse → outcome ≠ .subscribed .success →
      maxMsgIdsPerPipe ≤ ((tbl i).msgIds \ {msgId}).ncard

/-- The call is defined and treats the subscriptions as sets. -/
def Op.ActsAsSet (tbl : PipeTbl P) (op : Op P) : Prop :=
  ∃ next outcome, applyOp tbl op = some (next, outcome) ∧ SetStep tbl op outcome next

/-- The calls of a run that subscribes to ids proper. -/
def Op.SubscribesIds (tbl : PipeTbl P) (op : Op P) : Prop :=
  op.Sequential tbl ∧
    ∀ msgId pipeId written, op = .subscribe msgId pipeId written → msgId ≠ invalidMsgId

/-- The call does not subscribe a pipe to an id that it holds. -/
def Op.Fresh (tbl : PipeTbl P) (op : Op P) : Prop :=
  ∀ i msgId written, op = .subscribe msgId (indexId i) written →
    (tbl i).inUse = inUse → ¬ (tbl i).Subscribed msgId

/-! ## One call -/

theorem distinctIds_initPipeTbl (tbl : PipeTbl P) : DistinctIds (initPipeTbl tbl) :=
  fun _ used => absurd used inUse_ne_notInUse.symm

/-- A fresh id keeps the slots of a pipe distinct, and every other change keeps the slots. -/
theorem EntryStep.distinct {pipe after : PipeD P} {op : Op P} {outcome : Outcome P}
    (step : EntryStep i pipe (op, outcome) after) (used : after.inUse = inUse)
    (fresh : ∀ msgId written, op = .subscribe msgId (indexId i) written →
      ¬ pipe.Subscribed msgId)
    (distinct : Distinct invalidMsgId pipe.subscribedMsgIds) :
    Distinct invalidMsgId after.subscribedMsgIds := by
  cases step with
  | @subscribed j msgId subscribes slot =>
      obtain ⟨written, isCall⟩ := subscribes
      have missing := fresh msgId written (congrArg Prod.fst isCall)
      exact distinct.store (fun k stored => missing ⟨k, stored⟩) j
  | closed deletes => exact absurd used inUse_ne_notInUse.symm
  | kept => exact distinct
  | pushed => exact distinct
  | taken => exact distinct

theorem DistinctIds.applyOp (distinct : DistinctIds tbl) (registry : Registry tbl) {op : Op P}
    (sequential : op.Sequential tbl) (fresh : op.Fresh tbl) :
    ∃ next outcome, applyOp tbl op = some (next, outcome) ∧ Registry next ∧
      DistinctIds next := by
  obtain ⟨next, outcome, ran, step⟩ := applyOp_tableStep registry sequential
  refine ⟨next, outcome, ran, registry.tableStep step, fun i used => ?_⟩
  by_cases usedBefore : (tbl i).inUse = inUse
  · exact (registry.entryStep sequential ran usedBefore).distinct used
      (fun msgId written isCall => fresh i msgId written isCall usedBefore)
      (distinct i usedBefore)
  · exact distinct_of_free fun j => step.subscribedMsgIds_of_opened registry usedBefore used j

/-- A pipe with distinct ids that refuses a fresh one holds four others. -/
theorem ncard_msgIds_of_refused (registry : Registry tbl) (used : (tbl i).inUse = inUse)
    (distinct : Distinct invalidMsgId (tbl i).subscribedMsgIds) {msgId : MsgId P}
    (proper : msgId ≠ invalidMsgId) (fresh : ¬ (tbl i).Subscribed msgId)
    {written : WriteOutcome} {outcome : Outcome P}
    (ran : applyOp tbl (.subscribe msgId (indexId i) written) = some (next, outcome))
    (refused : outcome ≠ .subscribed .success) :
    maxMsgIdsPerPipe ≤ ((tbl i).msgIds \ {msgId}).ncard := by
  have full : ∀ j, (tbl i).subscribedMsgIds j ≠ invalidMsgId := by
    cases found : freeSlot (tbl i) with
    | none =>
        intro j
        simpa using Fin.find?_eq_none_iff.mp found j
    | some j =>
        rw [applyOp, subscribe_indexId registry, if_pos used, found] at ran
        cases ran
        exact absurd rfl refused
  have missing : msgId ∉ (tbl i).msgIds := fun held => fresh ((mem_items_iff proper).mp held)
  rw [Set.sdiff_singleton_eq_self missing]
  exact (distinct.ncard_items full).ge

/-- A second subscription to an id changes the table or is refused. -/
theorem not_again (registry : Registry tbl) {msgId : MsgId P} (proper : msgId ≠ invalidMsgId)
    {written : WriteOutcome} :
    applyOp tbl (.subscribe msgId (indexId i) written) ≠ some (tbl, .subscribed .success) := by
  intro ran
  obtain ⟨⟨next, status, bytes⟩, called, equal⟩ := Option.map_eq_some_iff.mp ran
  simp only [Prod.mk.injEq, Outcome.subscribed.injEq] at equal
  obtain ⟨rfl, rfl⟩ := equal
  obtain ⟨k, j, -, -, slot, unchanged⟩ := registry.subscribe_success (by simp) called
  have stored := congrArg (fun tbl => (tbl k).subscribedMsgIds j) unchanged
  simp only [Function.update_self, storeMsgId] at stored
  exact proper (stored.symm.trans slot)

/-- On distinct ids a call acts as on a set exactly when it subscribes to no id twice. -/
theorem Op.actsAsSet_iff (registry : Registry tbl) (distinct : DistinctIds tbl) {op : Op P}
    (contract : op.SubscribesIds tbl) : op.ActsAsSet tbl ↔ op.Fresh tbl := by
  constructor
  · rintro ⟨next, outcome, ran, step⟩ i msgId written rfl used held
    obtain ⟨rfl, rfl⟩ := step.again i msgId written rfl used held
    exact not_again registry (contract.2 msgId _ written rfl) ran
  · intro fresh
    obtain ⟨next, outcome, ran, -, kept⟩ := distinct.applyOp registry contract.1 fresh
    refine ⟨next, outcome, ran, kept, ?_, ?_⟩
    · intro i msgId written isCall used held
      exact absurd held (fresh i msgId written isCall used)
    · rintro i msgId written rfl used refused
      exact ncard_msgIds_of_refused registry used (distinct i used)
        (contract.2 msgId _ written rfl) (fresh i msgId written rfl used) ran refused

/-! ## Runs -/

/-- Every call of a sequential run treats the subscriptions as sets exactly when no call
subscribes a pipe to an id that it holds, and then the ids are distinct at its end. -/
theorem subscriptions_set_iff (initial : PipeTbl P) (ops : List (Op P))
    (contract : Machine.Permitted applyOp Op.SubscribesIds (initPipeTbl initial) ops) :
    (Machine.Permitted applyOp Op.ActsAsSet (initPipeTbl initial) ops ↔
        Machine.Permitted applyOp Op.Fresh (initPipeTbl initial) ops) ∧
      (Machine.Permitted applyOp Op.Fresh (initPipeTbl initial) ops →
        ∃ tbl outcomes, Machine.run applyOp (initPipeTbl initial) ops = some (tbl, outcomes) ∧
          DistinctIds tbl) := by
  have initially := registry_initPipeTbl initial
  constructor
  · refine @Machine.permitted_iff _ _ _ applyOp Op.SubscribesIds Op.ActsAsSet Op.Fresh
      (fun tbl => Registry tbl ∧ DistinctIds tbl) ?_ ?_ ops _
      ⟨initially, distinctIds_initPipeTbl initial⟩ contract
    · intro tbl op invariant permits
      exact Op.actsAsSet_iff invariant.1 invariant.2 permits
    · intro tbl op next outcome invariant permits fresh stepped
      obtain ⟨again, outcome, ran, kept⟩ := invariant.2.applyOp invariant.1 permits.1 fresh
      rw [stepped, Option.some.injEq, Prod.mk.injEq] at ran
      rw [ran.1]
      exact kept
  · intro fresh
    obtain ⟨tbl, outcomes, ran, -, distinct⟩ := @Machine.run_invariant _ _ _ applyOp
      (fun tbl op => op.SubscribesIds tbl ∧ op.Fresh tbl)
      (fun tbl => Registry tbl ∧ DistinctIds tbl)
      (fun _ _ invariant permits => invariant.2.applyOp invariant.1 permits.1.1 permits.2)
      ops _ ⟨initially, distinctIds_initPipeTbl initial⟩ (contract.and fresh)
    exact ⟨tbl, outcomes, ran, distinct⟩

/-- A pipe that is subscribed to two different ids. -/
theorem two_ids_set :
    let initial := zeroPipeTbl (standardPlatform 32768)
    let ops : List (Op (standardPlatform 32768)) := [.createPipe true 4 [0x41],
      .subscribe 0x0801 0 .complete, .subscribe 0x0802 0 .complete]
    (Machine.Permitted applyOp Op.ActsAsSet (initPipeTbl initial) ops ↔
        Machine.Permitted applyOp Op.Fresh (initPipeTbl initial) ops) ∧
      (Machine.Permitted applyOp Op.Fresh (initPipeTbl initial) ops →
        ∃ tbl outcomes, Machine.run applyOp (initPipeTbl initial) ops = some (tbl, outcomes) ∧
          DistinctIds tbl) := by
  have inTable : (0 : UInt8).toNat < maxPipes := by decide
  refine subscriptions_set_iff _ _ (Machine.permitted_of_forall ?_ _)
  intro op member tbl
  simp only [List.mem_cons, List.not_mem_nil, or_false] at member
  rcases member with rfl | rfl | rfl
  · exact ⟨trivial, by simp⟩
  · refine ⟨inTable, ?_⟩
    rintro msgId pipeId written ⟨⟩
    decide
  · refine ⟨inTable, ?_⟩
    rintro msgId pipeId written ⟨⟩
    decide

/-- A second subscription fills the second slot of the first pipe, whatever its id. -/
theorem applyOp_subscribe_subscribedPipe (initial : PipeTbl P) (pipeName : List UInt8)
    {msgId : MsgId P} (proper : msgId ≠ invalidMsgId) (again : MsgId P) :
    applyOp (subscribedPipe initial pipeName msgId) (.subscribe again 0 .complete) =
      some (Function.update (subscribedPipe initial pipeName msgId) 0
        (storeMsgId (subscribedPipe initial pipeName msgId 0) 1 again), .subscribed .success) := by
  have registry := (reachable_subscribedPipe initial pipeName msgId).registry
  have used := inUse_subscribedPipe initial pipeName msgId
  have slot : freeSlot (subscribedPipe initial pipeName msgId 0) = some 1 := by
    rw [subscribedPipe_zero, freeSlot_eq_some_iff]
    refine ⟨rfl, fun k before => ?_⟩
    obtain rfl : k = 0 := Fin.ext (Nat.lt_one_iff.mp before)
    simpa [storeMsgId] using proper
  rw [applyOp, show (0 : UInt8) = indexId 0 from rfl, subscribe_indexId registry, if_pos used, slot]
  rfl

/-- A pipe that is subscribed twice to one id holds it in two slots, and the second call has
changed the table. -/
theorem one_id_in_two_slots :
    let initial := zeroPipeTbl (standardPlatform 32768)
    let ops : List (Op (standardPlatform 32768)) := [.createPipe true 1 [0x41],
      .subscribe 0x0801 0 .complete, .subscribe 0x0801 0 .complete]
    ∃ tbl, Machine.run applyOp (initPipeTbl initial) ops =
        some (tbl, [.created .success (some 0), .subscribed .success, .subscribed .success]) ∧
      (tbl 0).subscribedMsgIds 0 = 0x0801 ∧ (tbl 0).subscribedMsgIds 1 = 0x0801 ∧
      ¬ DistinctIds tbl ∧ ¬ Machine.Permitted applyOp Op.ActsAsSet (initPipeTbl initial) ops := by
  intro initial ops
  have proper : (0x0801 : MsgId (standardPlatform 32768)) ≠ invalidMsgId := by decide
  have second := applyOp_subscribe_subscribedPipe initial [0x41] proper 0x0801
  have ran := Machine.run_concat (run_subscribedPipe initial [0x41] 0x0801) second
  generalize filled : Function.update (subscribedPipe initial [0x41] 0x0801) 0 _ = tbl at ran
  have used : (tbl 0).inUse = inUse := by
    rw [← filled, Function.update_self, subscribedPipe_zero]
    rfl
  have zero : (tbl 0).subscribedMsgIds 0 = 0x0801 := by
    rw [← filled, Function.update_self, subscribedPipe_zero]
    rfl
  have one : (tbl 0).subscribedMsgIds 1 = 0x0801 := by
    rw [← filled, Function.update_self]
    rfl
  have repeated : ¬ DistinctIds tbl := fun distinct => absurd
    (distinct 0 used (zero.trans_ne proper) (one.trans_ne proper) (zero.trans one.symm)) (by decide)
  refine ⟨tbl, ran, zero, one, repeated, fun acts => repeated ?_⟩
  exact Machine.holds_of_run (Machine.run_invariant
    (fun _ _ _ ⟨next, outcome, stepped, step⟩ => ⟨next, outcome, stepped, step.distinct⟩)
    _ (distinctIds_initPipeTbl initial) acts) ran

end SbnClient
