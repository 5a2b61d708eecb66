import Mathlib.Data.List.TakeDrop
import SbnClient.Output.ShortWrites
import SbnClient.Registry.Consequences
import SbnClient.Registry.FirstPipe
import SbnClient.Registry.Subscriptions

/-!
# Subscriptions that the bus has been told of

`__wrap_CFE_SB_Subscribe` stores the id and then lets `SendSubToSbn` write the subscription
frame.  That function logs a `write` that fell short and returns nothing, so that the call
succeeds, and the pipe keeps the id, whether or not SBN has heard of it.
-/

namespace SbnClient

variable {P : Platform} {tbl : PipeTbl P} {msgId : MsgId P} {pipeId : UInt8}
  {outcome : WriteOutcome}

/-- A pipe in use with the id has a free slot, so that `Subscribe` gets as far as its
`write`. -/
def HasRoom (tbl : PipeTbl P) (pipeId : UInt8) : Prop :=
  ∃ i, (tbl i).pipeId = pipeId ∧ (tbl i).inUse = inUse ∧
    ∃ j, (tbl i).subscribedMsgIds j = invalidMsgId

/-- `write` accepts every byte of the subscription frame. -/
def AcceptsFrame (layout : SbnLayout P) (msgId : MsgId P) (outcome : WriteOutcome) : Prop :=
  outcome.accepted (subFrame layout msgId).bytes.length = (subFrame layout msgId).bytes.length

/-- `Subscribe` succeeds only with the whole frame written, and without it fails and leaves
the ids of every pipe alone. -/
def HonestSubscribe (layout : SbnLayout P) (tbl : PipeTbl P) (msgId : MsgId P) (pipeId : UInt8)
    (outcome : WriteOutcome) : Prop :=
  ∃ next status written, subscribe tbl msgId pipeId outcome = some (next, status, written) ∧
    (status = .success → written = (subFrame layout msgId).bytes) ∧
    (written ≠ (subFrame layout msgId).bytes → status ≠ .success ∧
      ∀ i, (next i).subscribedMsgIds = (tbl i).subscribedMsgIds)

/-- A `Subscribe` whose frame is accepted as a whole, if it gets to the `write`; any other
call. -/
def Op.TellsBus (layout : SbnLayout P) (tbl : PipeTbl P) : Op P → Prop
  | .subscribe msgId pipeId outcome => AcceptsFrame layout msgId outcome ∨ ¬ HasRoom tbl pipeId
  | _ => True

/-- Some call of the run has written the whole subscription frame of the id. -/
def Announced (layout : SbnLayout P) (start : PipeTbl P) (ops : List (Op P)) (msgId : MsgId P) :
    Prop :=
  ∃ before pipeId outcome after middle earlier next,
    ops = before ++ .subscribe msgId pipeId outcome :: after ∧
      Machine.run applyOp start before = some (middle, earlier) ∧
      subscribe middle msgId pipeId outcome =
        some (next, .success, (subFrame layout msgId).bytes)

/-! ## One call -/

theorem acceptsFrame_iff (layout : SbnLayout P) (msgId : MsgId P) (outcome : WriteOutcome) :
    AcceptsFrame layout msgId outcome ↔
      (write outcome (subFrame layout msgId).bytes).2 = (subFrame layout msgId).bytes := by
  rw [AcceptsFrame, snd_write, List.take_eq_self_iff]
  exact ⟨Eq.ge, fun all => Nat.le_antisymm (outcome.accepted_le _) all⟩

/-- Room is what the search for a free slot finds. -/
theorem Registry.hasRoom_indexId_iff (registry : Registry tbl) (k : Fin maxPipes) :
    HasRoom tbl (indexId k) ↔
      ∃ j, (if (tbl k).inUse = inUse then freeSlot (tbl k) else none) = some j := by
  constructor
  · rintro ⟨i, matched, used, j, free⟩
    obtain ⟨rfl, -⟩ := (registry.pipeId_eq_indexId_iff i k).mp matched
    rw [if_pos used]
    cases found : freeSlot (tbl i) with
    | some j => exact ⟨j, rfl⟩
    | none =>
        have full := Fin.find?_eq_none_iff.mp found j
        simp [free] at full
  · rintro ⟨j, found⟩
    split at found
    next used =>
      exact ⟨k, (registry.live used).pipeId_eq, used, j, (freeSlot_eq_some_iff.mp found).1⟩
    next => cases found

/-- A call with room succeeds, whatever its `write` did, and any other is refused. -/
theorem Registry.subscribe_cases (registry : Registry tbl) (layout : SbnLayout P)
    (inRange : pipeId.toNat < maxPipes) (msgId : MsgId P) (outcome : WriteOutcome) :
    (HasRoom tbl pipeId ∧ ∃ next, subscribe tbl msgId pipeId outcome =
        some (next, .success, (write outcome (subFrame layout msgId).bytes).2)) ∨
      (¬ HasRoom tbl pipeId ∧
        subscribe tbl msgId pipeId outcome = some (tbl, .badArgument, [])) := by
  obtain ⟨k, rfl⟩ := exists_indexId inRange
  rw [registry.hasRoom_indexId_iff, subscribe_indexId registry]
  cases found : (if (tbl k).inUse = inUse then freeSlot (tbl k) else none) with
  | none => exact .inr ⟨by simp, rfl⟩
  | some j => exact .inl ⟨⟨j, rfl⟩, _, by rw [sendSubToSbn_eq layout]⟩

theorem bytes_subFrame_ne_nil (layout : SbnLayout P) (msgId : MsgId P) :
    (subFrame layout msgId).bytes ≠ [] := by
  have length := (subFrame layout msgId).length_bytes
  intro empty
  rw [empty, List.length_nil] at length
  omega

theorem honestSubscribe_iff (layout : SbnLayout P) (registry : Registry tbl)
    (inRange : pipeId.toNat < maxPipes) (msgId : MsgId P) (outcome : WriteOutcome) :
    HonestSubscribe layout tbl msgId pipeId outcome ↔
      AcceptsFrame layout msgId outcome ∨ ¬ HasRoom tbl pipeId := by
  rcases registry.subscribe_cases layout inRange msgId outcome with
    ⟨room, next, ran⟩ | ⟨refused, ran⟩
  · simp only [room, not_true_eq_false, or_false, acceptsFrame_iff]
    constructor
    · rintro ⟨_, _, _, again, whole, -⟩
      rw [ran] at again
      cases again
      exact whole rfl
    · intro whole
      exact ⟨_, _, _, ran, fun _ => whole, fun torn => absurd whole torn⟩
  · refine iff_of_true ⟨_, _, _, ran, by simp, fun _ => ⟨by simp, fun _ => rfl⟩⟩ (.inr refused)

/-! ## Runs -/

/-- A successful call of a run that tells the bus has written its frame. -/
theorem announced_of_mem (layout : SbnLayout P) {initial tbl : PipeTbl P} {ops : List (Op P)}
    {outcomes : List (Outcome P)}
    (sequential : Machine.Permitted applyOp Op.Sequential (initPipeTbl initial) ops)
    (tells : Machine.Permitted applyOp (Op.TellsBus layout) (initPipeTbl initial) ops)
    (ran : Machine.run applyOp (initPipeTbl initial) ops = some (tbl, outcomes))
    (member : (.subscribe msgId pipeId outcome, .subscribed .success) ∈ ops.zip outcomes) :
    Announced layout (initPipeTbl initial) ops msgId := by
  obtain ⟨before, after, middle, earlier, next, split, ranBefore, ⟨inRange, told⟩, stepped⟩ :=
    Machine.exists_step_of_mem (sequential.and tells) ran member
  rw [split] at sequential
  have reachable : Reachable middle := ⟨initial, before, earlier, sequential.of_append, ranBefore⟩
  refine ⟨before, pipeId, outcome, after, middle, earlier, next, split, ranBefore, ?_⟩
  rcases reachable.registry.subscribe_cases layout inRange msgId outcome with
    ⟨room, stored, called⟩ | ⟨refused, called⟩
  · have whole := (acceptsFrame_iff layout msgId outcome).mp (told.resolve_right (not_not.mpr room))
    rw [applyOp, called] at stepped
    rw [called, whole]
    cases stepped
    rfl
  · rw [applyOp, called] at stepped
    cases stepped

/-- After any sequential run, `Subscribe` is honest exactly when `write` accepts the whole
frame or the call is refused; and after a run of such calls, every id that a pipe in use
holds has been announced. -/
theorem subscribe_announces_iff (layout : SbnLayout P) (initial : PipeTbl P) (ops : List (Op P))
    (sequential : Machine.Permitted applyOp Op.Sequential (initPipeTbl initial) ops) :
    ∃ tbl outcomes, Machine.run applyOp (initPipeTbl initial) ops = some (tbl, outcomes) ∧
      (∀ msgId pipeId outcome, pipeId.toNat < maxPipes →
        (HonestSubscribe layout tbl msgId pipeId outcome ↔
          AcceptsFrame layout msgId outcome ∨ ¬ HasRoom tbl pipeId)) ∧
      (Machine.Permitted applyOp (Op.TellsBus layout) (initPipeTbl initial) ops →
        ∀ i, (tbl i).inUse = inUse → ∀ j, (tbl i).subscribedMsgIds j ≠ invalidMsgId →
          Announced layout (initPipeTbl initial) ops ((tbl i).subscribedMsgIds j)) := by
  obtain ⟨tbl, outcomes, ran, registry, made⟩ := subscriptionsMade_run initial ops sequential
  refine ⟨tbl, outcomes, ran, fun msgId pipeId outcome inRange =>
    honestSubscribe_iff layout registry inRange msgId outcome, fun tells i used j slotUsed => ?_⟩
  obtain ⟨before, call, after, split, ⟨outcome, rfl⟩, -⟩ := made i used j slotUsed
  have member : (.subscribe ((tbl i).subscribedMsgIds j) (indexId i) outcome,
      .subscribed .success) ∈ ops.zip outcomes := by
    rw [split]
    exact List.mem_append_right before List.mem_cons_self
  exact announced_of_mem layout sequential tells ran member

/-- Two ids of one pipe, both announced, and a third call that would not be honest. -/
theorem two_subscriptions_announce :
    let layout := @standardPlatform_sbnLayout 32768 (by decide)
    let start := initPipeTbl (zeroPipeTbl (standardPlatform 32768))
    let ops : List (Op (standardPlatform 32768)) := [.createPipe true 1 [0x41],
      .subscribe 0x0801 0 .complete, .subscribe 0x0802 0 .complete]
    ∃ tbl outcomes, Machine.run applyOp start ops = some (tbl, outcomes) ∧
      ¬ HonestSubscribe layout tbl 0x0803 0 .failed ∧
      Announced layout start ops 0x0801 ∧ Announced layout start ops 0x0802 := by
  intro layout start ops
  have ran : ∃ tbl outcomes, Machine.run applyOp start ops = some (tbl, outcomes) ∧
      (tbl 0).pipeId = 0 ∧ (tbl 0).inUse = inUse ∧ (tbl 0).subscribedMsgIds 0 = 0x0801 ∧
      (tbl 0).subscribedMsgIds 1 = 0x0802 ∧ (tbl 0).subscribedMsgIds 2 = invalidMsgId :=
    ⟨_, _, rfl, by decide +kernel⟩
  obtain ⟨tbl, outcomes, ran, isFirst, used, first, second, free⟩ := ran
  have tells : Machine.Permitted applyOp (Op.TellsBus layout) start ops := by
    refine Machine.permitted_of_forall ?_ _
    simp [ops, Op.TellsBus, AcceptsFrame, WriteOutcome.accepted]
  obtain ⟨honest, announced⟩ := Machine.holds_of_run
    (subscribe_announces_iff layout (zeroPipeTbl _) ops
      (Machine.permitted_of_forall (by simp [ops, Op.Sequential, maxPipes]) _)) ran
  have announced := announced tells 0 used
  refine ⟨tbl, outcomes, ran, ?_, ?_, ?_⟩
  · rw [honest 0x0803 0 .failed (by decide)]
    rintro (accepted | full)
    · exact bytes_subFrame_ne_nil layout 0x0803 ((acceptsFrame_iff ..).mp accepted).symm
    · exact full ⟨0, isFirst, used, 2, free⟩
  · rw [← first]
    exact announced 0 (by rw [first]; decide)
  · rw [← second]
    exact announced 1 (by rw [second]; decide)

/-- `write` fails: the call succeeds and the pipe keeps the id, of which SBN has not heard. -/
theorem failed_write_success :
    let layout := @standardPlatform_sbnLayout 32768 (by decide)
    let tbl := firstPipe (zeroPipeTbl (standardPlatform 32768)) [0x41]
    Machine.run applyOp (initPipeTbl (zeroPipeTbl (standardPlatform 32768)))
        [.createPipe true 1 [0x41]] = some (tbl, [.created .success (some 0)]) ∧
      ∃ next, subscribe tbl 0x0801 0 .failed = some (next, .success, []) ∧
        (next 0).subscribedMsgIds 0 = 0x0801 ∧ ¬ HonestSubscribe layout tbl 0x0801 0 .failed := by
  intro layout tbl
  have registry : Registry tbl := registry_firstPipe _ _
  have used : (tbl 0).inUse = inUse := rfl
  have slot : freeSlot (tbl 0) = some 0 := freeSlot_eq_some_iff.mpr ⟨rfl, by simp⟩
  have called := subscribe_indexId registry 0x0801 0 .failed
  rw [if_pos used, slot, sendSubToSbn_eq layout] at called
  refine ⟨?_, _, called, ?_, ?_⟩
  · have good : ¬ ((1 : UInt16).toNat > maxPipeDepth ∨ (1 : UInt16) = 0) := by decide
    simp only [Machine.run, applyOp, createPipe_initPipeTbl _ good, Option.map_some]
    rfl
  · rw [Function.update_self]
    rfl
  · rintro ⟨next, status, written, again, whole, -⟩
    have same := called.symm.trans again
    cases same
    exact bytes_subFrame_ne_nil layout 0x0801 (whole rfl).symm

end SbnClient
