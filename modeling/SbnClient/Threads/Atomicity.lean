import SbnClient.Foundations.Simulation
import SbnClient.Model.StandardPlatform
import SbnClient.Registry.Invariant
import SbnClient.Threads.Turns

/-!
# Every call takes effect in one step

However the threads of the client are interleaved, each call has one step in which it takes
effect: a `recv_msg` call when it enqueues its message, or with the read that ends it, and a
`RcvMsg` call when it holds the mutex for the last time.  A run of the threads is therefore a
run of the same calls made one at a time, in the order of these steps, and every table that it
comes to is one that a sequential run produces.

Two things are asked of the run.  No pipe is deleted while a `RcvMsg` call for it is under way,
and a call whose wait ended without an error finds a message in its pipe, which the code does
not check.
-/

namespace SbnClient

open ConditionVariable SegmentedInput

variable {P : Platform} {Thread : Type*} {tbl next : PipeTbl P}

/-! ## Looking for a pipe -/

/-- A `RcvMsg` call up to its wait looks for its pipe and goes on under the mutex. -/
theorem rcvBegin_eq_lookup (tbl : PipeTbl P) (bufPtr : Bool) (pipeId : UInt8) (timeOut : Int)
    (env : RcvEnv P) :
    rcvBegin tbl bufPtr pipeId timeOut env =
      (rcvLookup tbl bufPtr pipeId timeOut).map fun
        | none => .returned ⟨tbl, .badArgument, none⟩
        | some i => rcvLocked tbl i timeOut env := by
  rw [rcvBegin, rcvLookup]
  split
  · rfl
  · cases getPipeIdx tbl pipeId with
    | none => rfl
    | some pipeIdx =>
        simp only [Option.bind_some]
        split
        · rfl
        · split
          · rfl
          · rfl

/-- What a call knows of its pipe as long as the pipe is not deleted. -/
structure RcvEntered.Valid (entered : RcvEntered P) (tbl : PipeTbl P) : Prop where
  pipeId_eq : entered.pipeId = indexId entered.pipe
  timeOut_ge : -1 ≤ entered.timeOut
  used : (tbl entered.pipe).inUse = inUse

theorem valid_of_rcvLookup (registry : Registry tbl) {pipeId : UInt8} {timeOut : Int}
    {pipe : Fin maxPipes} (found : rcvLookup tbl true pipeId timeOut = some (some pipe))
    (env : RcvEnv P) : RcvEntered.Valid ⟨pipe, pipeId, timeOut, env⟩ tbl := by
  rw [rcvLookup] at found
  split at found
  next => simp at found
  next accepted =>
    obtain ⟨-, inRange⟩ := not_or.mp accepted
    obtain ⟨pipeIdx, looked, found⟩ := Option.bind_eq_some_iff.mp found
    obtain ⟨k, rfl⟩ := exists_indexId (getPipeIdx_inTable looked)
    rw [getPipeIdx_indexId registry, Option.some.injEq] at looked
    split at looked
    next used =>
      subst looked
      rw [if_neg (indexId_ne_invalidPipe k), dif_pos (by simp)] at found
      have same : k = pipe := Fin.ext (by simpa [Fin.ext_iff] using found)
      subst same
      exact ⟨rfl, Int.not_lt.mp inRange, used⟩
    next =>
      subst looked
      simp at found

/-- The pipe is found again as long as it is in use. -/
theorem RcvEntered.Valid.rcvBegin (registry : Registry tbl) {entered : RcvEntered P}
    (valid : entered.Valid tbl) (env : RcvEnv P) :
    rcvBegin tbl true entered.pipeId entered.timeOut env =
      some (rcvLocked tbl entered.pipe entered.timeOut env) := by
  rw [valid.pipeId_eq, rcvBegin_indexId registry, if_pos ⟨rfl, valid.timeOut_ge, valid.used⟩]

/-- Under the mutex a pipe with a message is read from. -/
theorem rcvLocked_of_available {k : Fin maxPipes} (timeOut : Int) {env : RcvEnv P}
    (locked : env.lockMutexStatus = 0) (available : 2 ≤ (tbl k).numberOfMessages) :
    rcvLocked tbl k timeOut env =
      .returned (rcvFinish tbl k .success env.unlockMutexStatus) := by
  rw [rcvLocked, if_neg (not_not.mpr locked), rcvAction, if_neg (Nat.not_lt.mpr available)]

/-- A call that returns without waiting is one of a sequential run. -/
theorem sequential_of_returned {k : Fin maxPipes} (bufPtr : Bool) {timeOut : Int} {env : RcvEnv P}
    {result : RcvResult P} (returned : rcvLocked tbl k timeOut env = .returned result) :
    (Op.rcvMsg bufPtr (indexId k) timeOut env).Sequential tbl := by
  refine ⟨by simp, ?_⟩
  by_cases locked : env.lockMutexStatus = 0
  · right
    by_cases available : 2 ≤ (tbl k).numberOfMessages
    · exact returnsAtOnce_of_available timeOut available
    · by_contra waits
      have patient : timeOut ≠ P.sbPoll := fun poll => waits (.inr (.inl poll))
      have waiting := rcvLocked_eq_waits_iff.mpr
        ⟨rfl, locked, rcvAction_eq_wait_iff.mpr ⟨Nat.not_le.mp available, patient, rfl⟩⟩
      rw [returned] at waiting
      cases waiting
  · exact .inl locked

/-- So is one whose arguments are accepted. -/
theorem sequential_of_accepted (registry : Registry tbl) {bufPtr : Bool} {pipeId : UInt8}
    {timeOut : Int} {env : RcvEnv P} {result : RcvResult P}
    (accepted : ¬ (¬ bufPtr ∨ timeOut < -1))
    (ran : rcvBegin tbl bufPtr pipeId timeOut env = some (.returned result)) :
    (Op.rcvMsg bufPtr pipeId timeOut env).Sequential tbl := by
  have looked := ran
  rw [rcvBegin, if_neg accepted] at looked
  obtain ⟨pipeIdx, found, -⟩ := Option.bind_eq_some_iff.mp looked
  obtain ⟨k, rfl⟩ := exists_indexId (getPipeIdx_inTable found)
  rw [rcvBegin_indexId registry, Option.some.injEq] at ran
  split at ran
  next => exact sequential_of_returned bufPtr ran
  next invalid =>
    refine ⟨by simp, .inr (.inr (.inr fun i same used => absurd ?_ invalid))⟩
    obtain rfl := indexId_injective same
    obtain ⟨nonNull, inRange⟩ := not_or.mp accepted
    exact ⟨not_not.mp nonNull, Int.not_lt.mp inRange, used⟩

/-! ## Pipes stay in use -/

/-- What a call of the application does to a pipe that it does not delete. -/
theorem applyOp_entry_cases (registry : Registry tbl) {op : Op P} {outcome : Outcome P}
    (application : op.OfApplication) (ran : applyOp tbl op = some (next, outcome))
    {k : Fin maxPipes} (used : (tbl k).inUse = inUse) (kept : op ≠ .deletePipe (indexId k)) :
    next k = tbl k ∨ ∃ j msgId, next k = storeMsgId (tbl k) j msgId := by
  cases op with
  | createPipe pipeIdPtr depth pipeName =>
      rw [applyOp, Option.some.injEq, Prod.mk.injEq] at ran
      rw [← ran.1]
      rcases createPipe_cases tbl pipeIdPtr depth pipeName with
        ⟨status, pipeId, -, refused⟩ | ⟨i, -, -, found, opened⟩
      · exact .inl (by rw [refused])
      · have other : k ≠ i := fun same => (availPipe_eq_some_iff.mp found).1 (same ▸ used)
        exact .inl (by simp [opened, other])
  | deletePipe pipeId =>
      rw [applyOp, Option.some.injEq, Prod.mk.injEq] at ran
      rw [← ran.1]
      rcases deletePipe_cases tbl pipeId with ⟨status, -, refused⟩ | ⟨i, matched, live, closed⟩
      · exact .inl (by rw [refused])
      · have other : k ≠ i := by
          rintro rfl
          exact kept (by rw [← matched, (registry.live used).pipeId_eq])
        exact .inl (by simp [closed, other])
  | subscribe msgId pipeId outcome =>
      obtain ⟨⟨changed, status, written⟩, subscribed, equal⟩ := Option.map_eq_some_iff.mp ran
      cases equal
      obtain ⟨i, rfl⟩ := exists_indexId (inTable_of_subscribe subscribed)
      rw [subscribe_indexId registry, Option.some.injEq] at subscribed
      split at subscribed
      next j slot =>
        obtain ⟨rfl, -⟩ := Prod.mk.inj subscribed
        by_cases same : k = i
        · subst same
          exact .inr ⟨j, msgId, Function.update_self ..⟩
        · exact .inl (Function.update_of_ne same ..)
      next =>
        obtain ⟨rfl, -⟩ := Prod.mk.inj subscribed
        exact .inl rfl
  | ingestAppMessage | recvMsg | rcvMsg => exact application.elim

/-- No call but `DeletePipe` ends a pipe, and that only the pipe it is called for. -/
theorem inUse_applyOp (registry : Registry tbl) {op : Op P} {outcome : Outcome P}
    (application : op.OfApplication) (ran : applyOp tbl op = some (next, outcome))
    {k : Fin maxPipes} (used : (tbl k).inUse = inUse) (kept : op ≠ .deletePipe (indexId k)) :
    (next k).inUse = inUse := by
  rcases applyOp_entry_cases registry application ran used kept with same | ⟨j, msgId, stored⟩
  · rwa [same]
  · rwa [stored]

/-- The calls of an application are calls of a sequential run. -/
theorem sequential_of_application {op : Op P} {outcome : Outcome P}
    (application : op.OfApplication) (ran : applyOp tbl op = some (next, outcome)) :
    op.Sequential tbl := by
  cases op with
  | createPipe pipeIdPtr depth pipeName => trivial
  | deletePipe pipeId => trivial
  | subscribe msgId pipeId outcome =>
      obtain ⟨result, subscribed, -⟩ := Option.map_eq_some_iff.mp ran
      exact inTable_of_subscribe subscribed
  | ingestAppMessage | recvMsg | rcvMsg => exact application.elim

/-! ## The calls that take effect in a step -/

/-- At most one call takes effect in a step. -/
theorem effects_cases (event : ConcurrentEvent P Thread) :
    event.effects = [] ∨ ∃ taken, event.effects = [taken] := by
  cases event with
  | turned status =>
      cases status with
      | none => exact .inl rfl
      | some status => exact .inr ⟨_, rfl⟩
  | called thread op outcome => exact .inr ⟨_, rfl⟩
  | resumed thread entered waitMutexStatus outcome =>
      rw [ConcurrentEvent.effects]
      split <;> exact .inr ⟨_, rfl⟩
  | signalled | recvReturned | looked | blocked | woke => exact .inl rfl

/-- A call that manages pipes takes effect in its own step. -/
theorem eq_called_of_mem_effects {event : ConcurrentEvent P Thread} {thread : Thread} {op : Op P}
    {outcome : Outcome P} (application : op.OfApplication)
    (member : .called thread op outcome ∈ event.effects) : event = .called thread op outcome := by
  cases event with
  | turned status => cases status <;> simp [ConcurrentEvent.effects] at member
  | called other op told =>
      obtain ⟨rfl, rfl, rfl⟩ := by simpa [ConcurrentEvent.effects] using member
      rfl
  | resumed other entered waitMutexStatus told =>
      rw [ConcurrentEvent.effects] at member
      split at member
      next =>
        obtain ⟨-, rfl, -⟩ := by simpa using member
        exact application.elim
      next => simp at member
  | signalled | recvReturned | looked | blocked | woke => cases member

/-- A `recv_msg` call takes effect in a turn of the receive minder. -/
theorem eq_turned_of_mem_effects {event : ConcurrentEvent P Thread} {status : Status}
    (member : .frame status ∈ event.effects) : event = .turned (some status) := by
  cases event with
  | turned settled =>
      cases settled with
      | none => cases member
      | some settled =>
          obtain rfl := by simpa [ConcurrentEvent.effects] using member
          rfl
  | resumed other entered waitMutexStatus told =>
      rw [ConcurrentEvent.effects] at member
      split at member <;> simp at member
  | called => simp [ConcurrentEvent.effects] at member
  | signalled | recvReturned | looked | blocked | woke => cases member

/-! ## The threads and the calls they have made -/

variable {threads after : Concurrent P Thread}

/-- What is asked of a step: no pipe is deleted under a `RcvMsg` call, and a call whose wait
returned zero goes on with a message in its pipe. -/
def Concurrent.Proper (threads : Concurrent P Thread) : ConcurrentEvent P Thread → Prop
  | .called _ (.deletePipe pipeId) _ =>
      ∀ thread entered, threads.Inside thread entered → entered.pipeId ≠ pipeId
  | .resumed _ entered waitMutexStatus _ =>
      waitMutexStatus = 0 → 2 ≤ (threads.tbl entered.pipe).numberOfMessages
  | _ => True

/-- The state in which the calls that have taken effect leave the table and the socket. -/
structure Linked (threads : Concurrent P Thread) (state : PipeTbl P × Socket) : Prop where
  tbl_eq : state.1 = threads.tbl
  reachable : Reachable threads.tbl
  trails : Trails threads.socket threads.point state.2
  valid : ∀ thread entered, threads.Inside thread entered → entered.Valid threads.tbl
  locked : ∀ thread entered, (threads.phase thread).key? = some entered →
    entered.env.lockMutexStatus = 0

theorem linked_start {start : PipeTbl P} (reachable : Reachable start) (socket : Socket) :
    Linked (Concurrent.start start socket : Concurrent P Thread) (start, socket) where
  tbl_eq := rfl
  reachable := reachable
  trails := .settled id
  valid thread entered inside := by
    simp [Concurrent.Inside, Concurrent.start, Phase.key?] at inside
  locked thread entered waits := by simp [Concurrent.start, Phase.key?] at waits

/-- The calls that are under way keep their pipes. -/
theorem Linked.valid_of_used {state : PipeTbl P × Socket} (linked : Linked threads state)
    (used : ∀ thread entered, threads.Inside thread entered →
      (threads.tbl entered.pipe).inUse = inUse → (next entered.pipe).inUse = inUse)
    {thread : Thread} {entered : RcvEntered P} (inside : threads.Inside thread entered) :
    entered.Valid next :=
  have valid := linked.valid thread entered inside
  ⟨valid.pipeId_eq, valid.timeOut_ge, used thread entered inside valid.used⟩

theorem Linked.valid_of_contentStep {state : PipeTbl P × Socket} (linked : Linked threads state)
    (step : ContentStep threads.tbl next) {thread : Thread} {entered : RcvEntered P}
    (inside : threads.Inside thread entered) : entered.Valid next :=
  linked.valid_of_used (fun _ entered _ used => (step.inUse_eq entered.pipe).trans used) inside

/-! ## One step -/

/-- The step is matched by the calls that take effect in it. -/
def Matched (events : List (AtomicEvent P Thread)) (state : PipeTbl P × Socket)
    (after : Concurrent P Thread) : Prop :=
  ∃ final, Machine.Run AtomicStep state events final ∧ Linked after final

theorem Linked.turned {state : PipeTbl P × Socket} (linked : Linked threads state)
    {socket : Socket} {point : RecvPoint P}
    (turns : TurnsTo threads.tbl state.2 next socket point) :
    Matched (ConcurrentEvent.turned point.status? : ConcurrentEvent P Thread).effects state
      { threads with tbl := next, socket, point } := by
  obtain ⟨tbl, behind⟩ := state
  obtain rfl : tbl = threads.tbl := linked.tbl_eq
  cases settled : point.status? with
  | none =>
      obtain ⟨rfl, trails⟩ := turns.of_unsettled settled
      exact ⟨_, .refl, rfl, linked.reachable, trails, linked.valid, linked.locked⟩
  | some status =>
      obtain ⟨locals, ran⟩ := turns.of_settled status settled
      have called : applyOp threads.tbl (.recvMsg locals behind) = some (next, .frame status) := by
        rw [applyOp, ran]
        rfl
      have content := (arrivalStep_of_recvMsg ran).contentStep
      refine ⟨(next, socket), .single (.frame ran), rfl, ?_, ?_, ?_, linked.locked⟩
      · have sequential : (Op.recvMsg locals behind).Sequential threads.tbl := trivial
        exact linked.reachable.concat sequential called
      · exact .settled (not_busy_of_settled settled)
      · exact fun _ _ inside => linked.valid_of_contentStep content inside

/-- The receive minder goes on where nothing of the call is left to be done. -/
theorem Linked.moved {state : PipeTbl P × Socket} (linked : Linked threads state)
    {point : RecvPoint P} {phase : Thread → Phase (RcvEntered P)} (before : ¬ threads.point.Busy)
    (done : ¬ point.Busy) (sameKeys : ∀ thread, (phase thread).key? = (threads.phase thread).key?) :
    Matched [] state { threads with point, phase } := by
  refine ⟨state, .refl, linked.tbl_eq, linked.reachable, ?_, ?_, ?_⟩
  · rw [linked.trails.eq_of_not_busy before]
    exact .settled done
  · rintro thread entered (entering | waits)
    · exact linked.valid thread entered (.inl entering)
    · exact linked.valid thread entered (.inr (sameKeys thread ▸ waits))
  · intro thread entered waits
    exact linked.locked thread entered (sameKeys thread ▸ waits)

theorem Linked.managed {state : PipeTbl P × Socket} (linked : Linked threads state)
    (thread : Thread) {op : Op P} {outcome : Outcome P} (application : op.OfApplication)
    (ran : applyOp threads.tbl op = some (next, outcome))
    (proper : threads.Proper (.called thread op outcome)) :
    Matched [.called thread op outcome] state { threads with tbl := next } := by
  obtain ⟨tbl, behind⟩ := state
  obtain rfl : tbl = threads.tbl := linked.tbl_eq
  have registry := linked.reachable.registry
  refine ⟨(next, behind), .single (.managed thread application ran), rfl, ?_, linked.trails,
    ?_, linked.locked⟩
  · exact linked.reachable.concat (sequential_of_application application ran) ran
  · intro other entered inside
    refine linked.valid_of_used (fun other entered inside used => ?_) inside
    refine inUse_applyOp registry application ran used ?_
    rintro rfl
    exact proper other entered inside (linked.valid other entered inside).pipeId_eq

/-- A call that has not waited, or whose wait has ended well, does under the mutex what it does
when it is made there. -/
theorem Linked.received {state : PipeTbl P × Socket} (linked : Linked threads state)
    (thread : Thread) {entered : RcvEntered P} (valid : entered.Valid threads.tbl)
    {result : RcvResult P} (locked : rcvLocked threads.tbl entered.pipe entered.timeOut
      entered.env = .returned result)
    {entering : Thread → Option (RcvEntered P)} {phase : Thread → Phase (RcvEntered P)}
    (fewer : ∀ other entered, entering other = some entered →
      threads.entering other = some entered)
    (fewerKeys : ∀ other entered, (phase other).key? = some entered →
      (threads.phase other).key? = some entered) :
    Matched [.called thread entered.op result.outcome] state
      { threads with tbl := result.tbl, entering, phase } := by
  obtain ⟨tbl, behind⟩ := state
  obtain rfl : tbl = threads.tbl := linked.tbl_eq
  have registry := linked.reachable.registry
  have began := valid.rcvBegin registry entered.env
  rw [locked] at began
  have ran : rcvMsg threads.tbl true entered.pipeId entered.timeOut entered.env = some result := by
    rw [rcvMsg, began]
    rfl
  have called : applyOp threads.tbl entered.op = some (result.tbl, result.outcome) := by
    rw [RcvEntered.op, applyOp, ran]
    rfl
  have sequential : entered.op.Sequential threads.tbl := by
    rw [RcvEntered.op, valid.pipeId_eq]
    exact sequential_of_returned true locked
  obtain ⟨again, outcome, ranAgain, content⟩ :=
    applyOp_contentStep registry sequential (by simp [RcvEntered.op, Op.ManagesPipes])
  rw [called, Option.some.injEq, Prod.mk.injEq] at ranAgain
  obtain ⟨rfl, -⟩ := ranAgain
  refine ⟨(result.tbl, behind), .single (.received thread began), rfl,
    linked.reachable.concat sequential called, linked.trails, ?_, ?_⟩
  · rintro other entered (isEntering | waits)
    · exact linked.valid_of_contentStep content (.inl (fewer other entered isEntering))
    · exact linked.valid_of_contentStep content (.inr (fewerKeys other entered waits))
  · exact fun other entered waits => linked.locked other entered (fewerKeys other entered waits)

/-- A step that only moves application threads, none of which loses its pipe. -/
theorem Linked.rearranged {state : PipeTbl P × Socket} (linked : Linked threads state)
    {entering : Thread → Option (RcvEntered P)} {phase : Thread → Phase (RcvEntered P)}
    (valid : ∀ other entered, entering other = some entered → entered.Valid threads.tbl)
    (waits : ∀ other entered, (phase other).key? = some entered →
      entered.Valid threads.tbl ∧ entered.env.lockMutexStatus = 0) :
    Linked { threads with entering, phase } state where
  tbl_eq := linked.tbl_eq
  reachable := linked.reachable
  trails := linked.trails
  valid := by
    rintro other entered (entering | waiting)
    · exact valid other entered entering
    · exact (waits other entered waiting).1
  locked other entered waiting := (waits other entered waiting).2

variable [DecidableEq Thread]

/-- The calls inside, when one thread changes where it is. -/
theorem update_cases {Place : Type*} (place : Thread → Place) (thread other : Thread)
    (changed : Place) : Function.update place thread changed other = changed ∨
      Function.update place thread changed other = place other := by
  by_cases same : other = thread
  · subst same
    exact .inl (Function.update_self ..)
  · exact .inr (Function.update_of_ne same ..)

/-- A call goes on after its wait. -/
theorem Linked.resumed {state : PipeTbl P × Socket} (linked : Linked threads state)
    {thread : Thread} {entered : RcvEntered P} {waitMutexStatus : Int}
    (woken : threads.phase thread = .woken entered waitMutexStatus)
    (finds : waitMutexStatus = 0 → 2 ≤ (threads.tbl entered.pipe).numberOfMessages) :
    let result := rcvFinish threads.tbl entered.pipe (waitResult P waitMutexStatus)
      entered.env.unlockMutexStatus
    Matched (ConcurrentEvent.resumed thread entered waitMutexStatus result.outcome).effects state
      { threads with
        tbl := result.tbl
        phase := Function.update threads.phase thread .running } := by
  intro result
  have waited : (threads.phase thread).key? = some entered := by
    rw [woken]
    rfl
  have leaves : ∀ other entered,
      (Function.update threads.phase thread .running other).key? = some entered →
        (threads.phase other).key? = some entered := by
    intro other later waits
    rcases update_cases threads.phase thread other .running with running | kept
    · simp [running, Phase.key?] at waits
    · rwa [kept] at waits
  by_cases zero : waitMutexStatus = 0
  · have locked := rcvLocked_of_available entered.timeOut (linked.locked thread entered waited)
      (finds zero)
    rw [← (waitResult_eq_success_iff P waitMutexStatus).mpr zero] at locked
    rw [ConcurrentEvent.effects, if_pos zero]
    exact linked.received thread (linked.valid thread entered (.inr waited)) locked
      (fun _ _ entering => entering) leaves
  · obtain ⟨status, failed, finished⟩ : ∃ status, status ≠ .success ∧
        result = ⟨threads.tbl, status, some .null⟩ := by
      have failed := mt (waitResult_eq_success_iff P waitMutexStatus).mp zero
      simp only [result, rcvFinish, failed, ↓reduceIte]
      split
      · exact ⟨_, by simp, rfl⟩
      · exact ⟨_, failed, rfl⟩
    rw [ConcurrentEvent.effects, if_neg zero, finished]
    refine ⟨state, .single (.gaveUp thread failed), linked.rearranged ?_ ?_⟩
    · exact fun other later entering => linked.valid other later (.inl entering)
    · exact fun other later waits => ⟨linked.valid other later (.inr (leaves other later waits)),
        linked.locked other later (leaves other later waits)⟩

/-- Every step is matched by the calls that take effect in it. -/
theorem Linked.step {state : PipeTbl P × Socket} (linked : Linked threads state)
    {event : ConcurrentEvent P Thread} (step : threads.Step event after)
    (proper : threads.Proper event) : Matched event.effects state after := by
  have registry := linked.reachable.registry
  have enters : ∀ other entered, threads.entering other = some entered →
      entered.Valid threads.tbl := fun other entered entering =>
    linked.valid other entered (.inl entering)
  have waits : ∀ other entered, (threads.phase other).key? = some entered →
      entered.Valid threads.tbl ∧ entered.env.lockMutexStatus = 0 := fun other entered waits =>
    ⟨linked.valid other entered (.inr waits), linked.locked other entered waits⟩
  cases step with
  | recvCalled locals outside =>
      refine linked.turned ?_
      rw [linked.trails.eq_of_not_busy (by simp [outside, RecvPoint.Busy])]
      exact turnsTo_enterRecv threads.tbl locals threads.socket
  | turned ran => exact linked.turned (linked.trails.turn ran)
  | signalled due signal =>
      exact linked.moved (by simp [due, RecvPoint.Busy]) id signal.key?_eq
  | recvReturned returning =>
      exact linked.moved (by simp [returning, RecvPoint.Busy]) id fun _ => rfl
  | managed thread idle application ran => exact linked.managed thread application ran proper
  | @refused thread bufPtr pipeId timeOut env idle found =>
      obtain ⟨tbl, behind⟩ := state
      obtain rfl : tbl = threads.tbl := linked.tbl_eq
      have began := rcvBegin_eq_lookup threads.tbl bufPtr pipeId timeOut env
      rw [found] at began
      exact ⟨_, .single (.received thread began), linked⟩
  | @looked thread pipeId timeOut env pipe idle found =>
      refine ⟨state, .refl, linked.rearranged (fun other entered entering => ?_) waits⟩
      rcases update_cases threads.entering thread other (some ⟨pipe, pipeId, timeOut, env⟩) with
        new | kept
      · rw [new, Option.some.injEq] at entering
        subst entering
        exact valid_of_rcvLookup registry found env
      · exact enters other entered (kept ▸ entering)
  | @returned thread entered result entering locked =>
      refine linked.received thread (enters thread entered entering) locked ?_
        fun _ _ waits => waits
      intro other later isEntering
      rcases update_cases threads.entering thread other none with none | kept
      · simp [none] at isEntering
      · rwa [kept] at isEntering
  | @blocked thread entered deadline entering locked =>
      refine ⟨state, .refl, linked.rearranged (fun other later isEntering => ?_)
        fun other later isWaiting => ?_⟩
      · rcases update_cases threads.entering thread other none with none | kept
        · simp [none] at isEntering
        · exact enters other later (kept ▸ isEntering)
      · rcases update_cases threads.phase thread other (.waiting entered) with new | kept
        · rw [new, Phase.key?, Option.some.injEq] at isWaiting
          subst isWaiting
          exact ⟨enters thread entered entering, (rcvLocked_eq_waits_iff.mp locked).2.1⟩
        · exact waits other later (kept ▸ isWaiting)
  | woke thread wake =>
      exact ⟨state, .refl, linked.rearranged enters fun other entered isWaiting =>
        waits other entered (wake.key?_eq other ▸ isWaiting)⟩
  | resumed thread woken ran =>
      subst ran
      exact linked.resumed woken proper

/-! ## Runs -/

/-- The calls that take effect in a run from linked states are a run of their own. -/
theorem Linked.run {state : PipeTbl P × Socket} (linked : Linked threads state)
    {trace : List (ConcurrentEvent P Thread)}
    (run : Machine.Run (Machine.Guarded Concurrent.Step Concurrent.Proper) threads trace after) :
    Matched (trace.flatMap ConcurrentEvent.effects) state after := by
  have matched : ∀ (threads : Concurrent P Thread) event after state, Linked threads state →
      Machine.Guarded Concurrent.Step Concurrent.Proper threads event after →
      Matched event.effects state after :=
    fun _ _ _ _ linked guarded => linked.step guarded.1 guarded.2
  exact run.simulates matched linked

/-- So are those of a run from the start. -/
theorem exists_linked {start : PipeTbl P} (reachable : Reachable start) {socket : Socket}
    {trace : List (ConcurrentEvent P Thread)}
    (run : Machine.Run (Machine.Guarded Concurrent.Step Concurrent.Proper) (.start start socket)
      trace threads) :
    ∃ state, Machine.Run AtomicStep (start, socket) (trace.flatMap ConcurrentEvent.effects) state ∧
      Linked threads state :=
  (linked_start reachable socket).run run

/-- In every run of the threads each call takes effect in one step: the calls that have been
made so far, one at a time and in the order in which they took effect, are a run that ends with
the same table, and between two `recv_msg` calls with the same socket.  The table is one of a
sequential run, and the receive minder never comes to undefined behaviour. -/
theorem calls_take_effect_atomically {start : PipeTbl P} (reachable : Reachable start)
    {socket : Socket} {trace : List (ConcurrentEvent P Thread)}
    (run : Machine.Run (Machine.Guarded Concurrent.Step Concurrent.Proper) (.start start socket)
      trace threads) :
    ∃ rest, Machine.Run AtomicStep (start, socket) (trace.flatMap ConcurrentEvent.effects)
        (threads.tbl, rest) ∧
      (threads.point = .outside → rest = threads.socket) ∧ Reachable threads.tbl ∧
      (threads.point.Busy → ∃ turn, recvTurn threads.tbl threads.socket threads.point = some turn)
    := by
  obtain ⟨⟨tbl, rest⟩, atomic, linked⟩ := exists_linked reachable run
  obtain rfl : tbl = threads.tbl := linked.tbl_eq
  refine ⟨rest, atomic, fun outside => ?_, linked.reachable, fun busy => ?_⟩
  · exact linked.trails.eq_of_not_busy (by simp [outside, RecvPoint.Busy])
  · exact exists_recvTurn busy (linked.trails.inRange busy) _ _

/-- The mutex calls of a `RcvMsg` call succeed. -/
def Op.Calm : Op P → Prop
  | .rcvMsg _ _ _ env => env.lockMutexStatus = 0 ∧ env.unlockMutexStatus = 0
  | _ => True

/-- They do in the calls that take effect in the step. -/
def ConcurrentEvent.Calm : ConcurrentEvent P Thread → Prop
  | .called _ op _ => op.Calm
  | .resumed _ entered _ _ => entered.op.Calm
  | _ => True

/-- A frame with one app message of seven bytes, in three pieces. -/
def frameInPieces : Socket :=
  [.received 0 [7, 3], .received 0 [0, 0, 2], .received 8 [1, 0, 0, 0, 0, 9], .closed]

/-- A pipe is subscribed to while the header of a frame is being read, and a thread that waits
for it gets the message of that frame. -/
theorem exists_midFrame_parts :
    ∃ (before : List (ConcurrentEvent (standardPlatform 64) Unit))
      (threads : Concurrent (standardPlatform 64) Unit) (buffer : Buffer 64)
      (after final : Concurrent (standardPlatform 64) Unit), before.length = 12 ∧
      let step := Machine.Guarded Concurrent.Step fun threads event =>
        threads.Proper event ∧ event.Calm
      Machine.Run step (.start (initPipeTbl (zeroPipeTbl _)) frameInPieces) before threads ∧
      step threads (.resumed () ⟨0, 0, -1, calmEnv _⟩ 0 (.delivered .success (some buffer))) after ∧
      Machine.Run step after [.recvReturned .success] final := by
  have run := Machine.Run.refl
    |>.snoc (show Machine.Guarded Concurrent.Step
        (fun threads event => threads.Proper event ∧ event.Calm)
        (.start (initPipeTbl (zeroPipeTbl (standardPlatform 64))) frameInPieces)
        (.called () (.createPipe true 4 [0x41]) _) _ from
        ⟨.managed () ⟨rfl, rfl⟩ trivial rfl, trivial, trivial⟩)
    |>.snoc ⟨.recvCalled (zeroLocals _) rfl, trivial, trivial⟩
    |>.snoc ⟨.turned rfl, trivial, trivial⟩
    |>.snoc (show Machine.Guarded Concurrent.Step _ _
        (.called () (.subscribe 0x0801 0 .complete) _) _ from
        ⟨.managed () ⟨rfl, rfl⟩ trivial rfl, trivial, trivial⟩)
    |>.snoc ⟨.turned rfl, trivial, trivial⟩
    |>.snoc ⟨.turned rfl, trivial, trivial⟩
    |>.snoc (show Machine.Guarded Concurrent.Step _ _ (.looked () ⟨0, 0, -1, calmEnv _⟩) _ from
        ⟨.looked () ⟨rfl, rfl⟩ rfl, trivial, trivial⟩)
    |>.snoc ⟨.turned rfl, trivial, trivial⟩
    |>.snoc ⟨.blocked () rfl rfl, trivial, trivial⟩
    |>.snoc ⟨.turned rfl, trivial, trivial⟩
    |>.snoc ⟨.turned rfl, trivial, trivial⟩
    |>.snoc ⟨.signalled rfl (.wakes () (.wake rfl)), trivial, trivial⟩
  exact ⟨_, _, _, _, _, rfl, run, ⟨.resumed () rfl rfl, fun _ => Nat.le_refl 2, rfl, rfl⟩,
    .single ⟨.recvReturned rfl, trivial, trivial⟩⟩

/-- All of it as one run. -/
theorem exists_midFrame_run :
    ∃ (trace : List (ConcurrentEvent (standardPlatform 64) Unit))
      (threads : Concurrent (standardPlatform 64) Unit), trace.length = 14 ∧
      Machine.Run (Machine.Guarded Concurrent.Step fun threads event =>
          threads.Proper event ∧ event.Calm)
        (.start (initPipeTbl (zeroPipeTbl _)) frameInPieces) trace threads := by
  obtain ⟨before, threads, buffer, after, final, length, run, step, continued⟩ :=
    exists_midFrame_parts
  exact ⟨_, final, by simp [length], (run.snoc step).trans continued⟩

theorem subscribed_in_mid_frame :
    ∃ (trace : List (ConcurrentEvent (standardPlatform 64) Unit))
      (threads : Concurrent (standardPlatform 64) Unit) (rest : Socket), trace.length = 14 ∧
      Machine.Run AtomicStep (initPipeTbl (zeroPipeTbl _), frameInPieces)
        (trace.flatMap ConcurrentEvent.effects) (threads.tbl, rest) ∧
      (threads.point = .outside → rest = threads.socket) ∧ Reachable threads.tbl ∧
      (threads.point.Busy →
        ∃ turn, recvTurn threads.tbl threads.socket threads.point = some turn) := by
  obtain ⟨trace, threads, length, run⟩ := exists_midFrame_run
  obtain ⟨rest, atomic⟩ := calls_take_effect_atomically ⟨_, [], [], trivial, rfl⟩
    (run.mono fun _ _ _ guarded => ⟨guarded.1, guarded.2.1⟩)
  exact ⟨trace, threads, rest, length, atomic⟩

end SbnClient
