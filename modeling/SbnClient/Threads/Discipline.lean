import SbnClient.Threads.Atomicity
import SbnClient.Threads.Steps

/-!
# Clients whose calls find their messages

A `RcvMsg` call whose wait has ended does not look again whether there is a message.  It finds
one all the same when each pipe has one thread that waits for it, when every signal wakes the
thread that waits for the pipe it is given for, when no wait ends by itself without an error,
and when no thread begins to wait between the time at which the receive minder has put a message
into a pipe and its signal.
-/

namespace SbnClient

open ConditionVariable

variable {P : Platform} {Thread : Type*} {tbl next : PipeTbl P}

/-- What a client, its scheduler and its condition variable have to keep to.  Nothing is said of
the state in which a call goes on after its wait. -/
def Concurrent.Disciplined (threads : Concurrent P Thread) : ConcurrentEvent P Thread → Prop
  | .called _ (.deletePipe pipeId) _ =>
      ∀ thread entered, threads.Inside thread entered → entered.pipeId ≠ pipeId
  | .called _ (.rcvMsg _ pipeId _ _) _ =>
      ∀ thread entered, (threads.phase thread).key? = some entered → entered.pipeId ≠ pipeId
  | .blocked _ entered =>
      (∀ pipe, threads.point ≠ .signalling pipe) ∧
        ∀ thread key, (threads.phase thread).key? = some key → key.pipeId ≠ entered.pipeId
  | .signalled (some thread) =>
      ∀ entered, threads.phase thread = .waiting entered → threads.point = .signalling entered.pipe
  | .woke _ waitMutexStatus => waitMutexStatus ≠ 0
  | _ => True

/-- The wait of the call has ended without an error, or the signal that is due is for it. -/
def Concurrent.Due (threads : Concurrent P Thread) (thread : Thread)
    (entered : RcvEntered P) : Prop :=
  threads.phase thread = .woken entered 0 ∨
    threads.phase thread = .waiting entered ∧ threads.point = .signalling entered.pipe

/-- A call that is due has a message, and no other thread waits for its pipe. -/
structure Tidy (threads : Concurrent P Thread) : Prop where
  stocked : ∀ thread entered, threads.Due thread entered →
    2 ≤ (threads.tbl entered.pipe).numberOfMessages
  alone : ∀ thread other entered key, (threads.phase thread).key? = some entered →
    (threads.phase other).key? = some key → entered.pipe = key.pipe → thread = other

/-! ## What a step does to a pipe that is waited for -/

theorem dispatch_ne_signalling (locals : RecvLocals P) (hdr : SbnHdr) (pipe : Fin maxPipes) :
    dispatch locals hdr ≠ .signalling pipe := by
  rw [dispatch]
  split
  · split <;> simp
  · split
    · split <;> simp
    · simp

theorem enterRecv_ne_signalling (locals : RecvLocals P) (pipe : Fin maxPipes) :
    enterRecv locals ≠ .signalling pipe := by
  rw [enterRecv]
  split <;> simp

/-- A turn leaves the table alone, or puts a message into the pipe that is signalled next. -/
theorem recvTurn_cases {socket rest : Socket} {point later : RecvPoint P} (inRange : point.InRange)
    (ran : recvTurn tbl socket point = some (next, rest, later)) :
    (next = tbl ∧ ∀ pipe, later ≠ .signalling pipe) ∨
      ∃ i payload, (tbl i).inUse = inUse ∧ (tbl i).numberOfMessages ≠ maxPipeDepth ∧
        next = Function.update tbl i (pushMessage (tbl i) payload) ∧ later = .signalling i := by
  cases point with
  | outside | signalling pipe | returning status => cases ran
  | readingHdr locals total =>
      obtain ⟨⟨turn, left⟩, turned, equal⟩ := Option.map_eq_some_iff.mp ran
      cases turn with
      | again => cases equal; exact .inl ⟨rfl, by simp⟩
      | returned status sbnHdrBuffer =>
          cases equal
          refine .inl ⟨rfl, fun pipe => ?_⟩
          split
          next => simp
          next => exact dispatch_ne_signalling locals _ pipe
  | readingMsg =>
      obtain ⟨⟨turn, left⟩, turned, equal⟩ := Option.map_eq_some_iff.mp ran
      cases turn <;> cases equal <;> exact .inl ⟨rfl, by simp⟩
  | readingApp =>
      obtain ⟨⟨turn, left⟩, turned, equal⟩ := Option.map_eq_some_iff.mp ran
      cases turn with
      | again => cases equal; exact .inl ⟨rfl, by simp⟩
      | returned status sbnHdrBuffer =>
          cases equal
          refine .inl ⟨rfl, fun pipe => ?_⟩
          split <;> simp
  | enqueueing msgSz msgBuffer =>
      obtain ⟨payload, -, enqueued⟩ := @exists_enqueueMessage P msgSz msgBuffer inRange tbl
      rw [recvTurn, enqueued, Option.map_some, Option.some.injEq, Prod.mk.injEq,
        Prod.mk.injEq] at ran
      obtain ⟨rfl, -, rfl⟩ := ran
      have step := ingestStep_deliver tbl (getMsgId P msgBuffer.bytes) payload
      generalize deliver tbl (getMsgId P msgBuffer.bytes) payload = next,
        ingestResult tbl (getMsgId P msgBuffer.bytes) = result at step ⊢
      cases step with
      | kept silent =>
          refine .inl ⟨rfl, fun pipe => ?_⟩
          cases result with
          | received i => exact absurd rfl (silent i)
          | _ => simp [IngestResult.point]
      | @pushed i stored bytes used room => exact .inr ⟨i, stored, used, room, rfl, rfl⟩

/-- A pipe that is not deleted keeps its messages. -/
theorem numberOfMessages_applyOp (registry : Registry tbl) {op : Op P} {outcome : Outcome P}
    (application : op.OfApplication) (ran : applyOp tbl op = some (next, outcome))
    {k : Fin maxPipes} (used : (tbl k).inUse = inUse) (kept : op ≠ .deletePipe (indexId k)) :
    (next k).numberOfMessages = (tbl k).numberOfMessages := by
  rcases applyOp_entry_cases registry application ran used kept with same | ⟨j, msgId, stored⟩
  · rw [same]
  · rw [stored]
    rfl

/-- The end of a call leaves the other pipes alone. -/
theorem rcvFinish_of_ne (tbl : PipeTbl P) {i k : Fin maxPipes} (other : k ≠ i) (status : Status)
    (unlockMutexStatus : Int) : (rcvFinish tbl i status unlockMutexStatus).tbl k = tbl k := by
  have moved : ∀ pipe, Function.update tbl i pipe k = tbl k :=
    fun _ => Function.update_of_ne other ..
  simp only [rcvFinish]
  split <;> split <;> simp [moved]

theorem rcvLocked_of_ne {i k : Fin maxPipes} (other : k ≠ i) {timeOut : Int} {env : RcvEnv P}
    {result : RcvResult P} (returned : rcvLocked tbl i timeOut env = .returned result) :
    result.tbl k = tbl k := by
  rcases rcvLocked_returned returned with rfl | rfl | ⟨-, rfl⟩
  · rfl
  · exact rcvFinish_of_ne tbl other ..
  · exact rcvFinish_of_ne tbl other ..

/-! ## One step -/

variable {threads after : Concurrent P Thread}

theorem tidy_start (start : PipeTbl P) (socket : Socket) :
    Tidy (.start start socket : Concurrent P Thread) where
  stocked thread entered due := by simp [Concurrent.Due, Concurrent.start] at due
  alone thread other entered key waits := by simp [Concurrent.start, Phase.key?] at waits

/-- A step after which no other call is due and no pipe that is waited for has fewer messages. -/
theorem Tidy.of_due (tidy : Tidy threads)
    (due : ∀ thread entered, after.Due thread entered → threads.Due thread entered)
    (keeps : ∀ thread entered, threads.Due thread entered → after.Due thread entered →
      (threads.tbl entered.pipe).numberOfMessages ≤ (after.tbl entered.pipe).numberOfMessages)
    (keys : ∀ thread entered, (after.phase thread).key? = some entered →
      (threads.phase thread).key? = some entered) : Tidy after where
  stocked thread entered dueAfter :=
    (tidy.stocked thread entered (due _ _ dueAfter)).trans
      (keeps thread entered (due _ _ dueAfter) dueAfter)
  alone thread other entered key waits alsoWaits :=
    tidy.alone thread other entered key (keys _ _ waits) (keys _ _ alsoWaits)

/-- When the keys and the pipes that are due stay as they are. -/
theorem Tidy.of_same_phase (tidy : Tidy threads) (same : after.phase = threads.phase)
    (point : ∀ pipe, after.point = .signalling pipe → threads.point = .signalling pipe)
    (keeps : ∀ thread entered, threads.Due thread entered →
      (threads.tbl entered.pipe).numberOfMessages ≤ (after.tbl entered.pipe).numberOfMessages) :
    Tidy after := by
  refine tidy.of_due (fun thread entered due => ?_) (fun thread entered due _ => keeps _ _ due)
    fun thread entered waits => same ▸ waits
  rw [Concurrent.Due, same] at due
  exact due.imp_right fun waits => ⟨waits.1, point _ waits.2⟩

theorem key?_of_due {thread : Thread} {entered : RcvEntered P}
    (due : threads.Due thread entered) : (threads.phase thread).key? = some entered := by
  rcases due with woken | ⟨waits, -⟩
  · rw [woken, Phase.key?]
  · rw [waits, Phase.key?]

variable {state : PipeTbl P × Socket}

/-- A turn of the receive minder. -/
theorem Tidy.turned (tidy : Tidy threads) (linked : Linked threads state)
    {socket rest : Socket} {point : RecvPoint P} (inRange : threads.point.InRange)
    (busy : threads.point.Busy)
    (ran : recvTurn threads.tbl socket threads.point = some (next, rest, point)) :
    Tidy { threads with tbl := next, socket := rest, point } := by
  have unsignalled : ∀ pipe, threads.point ≠ .signalling pipe := by
    intro pipe signalling
    rw [signalling] at busy
    exact busy
  rcases recvTurn_cases inRange ran with ⟨rfl, quiet⟩ | ⟨i, payload, used, room, rfl, rfl⟩
  · exact tidy.of_same_phase rfl (fun pipe signalling => absurd signalling (quiet pipe))
      fun _ _ _ => Nat.le_refl _
  · have live := linked.reachable.registry.live used
    have more := numberOfMessages_pushMessage payload live.numberOfMessages_le
    have atLeast := live.numberOfMessages_ge
    refine ⟨fun thread entered due => ?_, tidy.alone⟩
    show 2 ≤ (Function.update threads.tbl i _ entered.pipe).numberOfMessages
    by_cases same : entered.pipe = i
    · rw [same, Function.update_self, more]
      omega
    · rw [Function.update_of_ne same]
      rcases due with woken | ⟨waits, signalling⟩
      · exact tidy.stocked thread entered (.inl woken)
      · exact absurd (RecvPoint.signalling.inj signalling).symm same

variable [DecidableEq Thread]

/-- A wait ends. -/
theorem Tidy.woken (tidy : Tidy threads) {thread : Thread} {waitMutexStatus : Int}
    {phase : Thread → Phase (RcvEntered P)} {point : RecvPoint P}
    (wake : Wake threads.phase thread waitMutexStatus phase)
    (finds : waitMutexStatus = 0 → ∀ entered, threads.phase thread = .waiting entered →
      threads.Due thread entered)
    (unsignalled : ∀ pipe, point = .signalling pipe → threads.point = .signalling pipe) :
    Tidy { threads with phase, point } := by
  cases wake with
  | @wake entered waits =>
      refine tidy.of_due (fun other key due => ?_) (fun _ _ _ _ => Nat.le_refl _)
        fun other key isKey => ?_
      · by_cases same : other = thread
        · subst same
          simp only [Concurrent.Due, Function.update_self, Phase.woken.injEq, reduceCtorEq,
            false_and, or_false] at due
          obtain ⟨rfl, zero⟩ := due
          exact finds zero entered waits
        · simp only [Concurrent.Due, Function.update_of_ne same] at due
          exact due.imp_right fun waits => ⟨waits.1, unsignalled _ waits.2⟩
      · by_cases same : other = thread
        · subst same
          simpa [waits, Phase.key?] using isKey
        · simpa [same] using isKey

/-- A call goes on. -/
theorem Tidy.resumed (tidy : Tidy threads) {thread : Thread} {entered : RcvEntered P}
    {waitMutexStatus : Int} (woken : threads.phase thread = .woken entered waitMutexStatus)
    (status : Status) (unlockMutexStatus : Int) :
    Tidy { threads with
      tbl := (rcvFinish threads.tbl entered.pipe status unlockMutexStatus).tbl
      phase := Function.update threads.phase thread .running } := by
  have others : ∀ {other}, other ≠ thread →
      Function.update threads.phase thread .running other = threads.phase other :=
    fun other => Function.update_of_ne other ..
  refine tidy.of_due (fun other key due => ?_) (fun other key due dueAfter => ?_)
    fun other key isKey => ?_
  · by_cases same : other = thread
    · subst same
      simp [Concurrent.Due] at due
    · simpa only [Concurrent.Due, others same] using due
  · by_cases same : other = thread
    · subst same
      simp [Concurrent.Due] at dueAfter
    · have apart : key.pipe ≠ entered.pipe := fun equal =>
        same (tidy.alone other thread key entered (key?_of_due due) (by rw [woken, Phase.key?])
          equal)
      exact (congrArg PipeD.numberOfMessages (rcvFinish_of_ne threads.tbl apart ..)).ge
  · by_cases same : other = thread
    · subst same
      simp [Phase.key?] at isKey
    · simpa only [others same] using isKey

/-- A call begins to wait. -/
theorem Tidy.blocked (tidy : Tidy threads) {thread : Thread} {entered : RcvEntered P}
    (entering : Thread → Option (RcvEntered P))
    (unsignalled : ∀ pipe, threads.point ≠ .signalling pipe)
    (apart : ∀ other key, (threads.phase other).key? = some key → key.pipe ≠ entered.pipe) :
    Tidy { threads with
      entering, phase := Function.update threads.phase thread (.waiting entered) } := by
  have others : ∀ {other}, other ≠ thread →
      Function.update threads.phase thread (.waiting entered) other = threads.phase other :=
    fun other => Function.update_of_ne other ..
  have waits : Function.update threads.phase thread (.waiting entered) thread = .waiting entered :=
    Function.update_self ..
  refine ⟨fun other key due => ?_, fun left right key more isKey isMore equal => ?_⟩
  · by_cases same : other = thread
    · subst same
      rcases due with woken | ⟨-, signalling⟩
      · simp at woken
      · exact absurd signalling (unsignalled _)
    · exact tidy.stocked other key (by simpa only [Concurrent.Due, others same] using due)
  · simp only at isKey isMore
    by_cases sameLeft : left = thread <;> by_cases sameRight : right = thread
    · rw [sameLeft, sameRight]
    · rw [sameLeft, waits, Phase.key?, Option.some.injEq] at isKey
      rw [others sameRight] at isMore
      exact absurd (isKey ▸ equal.symm) (apart right more isMore)
    · rw [sameRight, waits, Phase.key?, Option.some.injEq] at isMore
      rw [others sameLeft] at isKey
      exact absurd (isMore ▸ equal) (apart left key isKey)
    · rw [others sameLeft] at isKey
      rw [others sameRight] at isMore
      exact tidy.alone left right key more isKey isMore equal

/-- A step of a disciplined client is proper. -/
theorem Tidy.proper (tidy : Tidy threads) {event : ConcurrentEvent P Thread}
    (step : threads.Step event after) (disciplined : threads.Disciplined event) :
    threads.Proper event := by
  cases step with
  | managed thread idle application ran =>
      rename_i op _ _
      cases op with
      | deletePipe => exact disciplined
      | createPipe | subscribe => trivial
      | ingestAppMessage | recvMsg | rcvMsg => exact application.elim
  | resumed thread woken ran =>
      rintro rfl
      exact tidy.stocked thread _ (.inl woken)
  | _ => trivial

theorem Tidy.step (tidy : Tidy threads) (linked : Linked threads state)
    {event : ConcurrentEvent P Thread} (step : threads.Step event after)
    (disciplined : threads.Disciplined event) : Tidy after := by
  have registry := linked.reachable.registry
  have same : ∀ thread entered, threads.Due thread entered →
      (threads.tbl entered.pipe).numberOfMessages ≤
        (threads.tbl entered.pipe).numberOfMessages := fun _ _ _ => Nat.le_refl _
  cases step with
  | recvCalled locals outside =>
      exact tidy.of_same_phase rfl
        (fun pipe signalling => absurd signalling (enterRecv_ne_signalling locals pipe)) same
  | turned ran =>
      have busy : threads.point.Busy := by
        cases point : threads.point with
        | outside | signalling | returning => rw [point] at ran; cases ran
        | _ => trivial
      exact tidy.turned linked (linked.trails.inRange busy) busy ran
  | @signalled pipe woken phase due signal =>
      cases signal with
      | wakes thread wake =>
          refine tidy.woken wake (fun _ entered waits => .inr ⟨waits, ?_⟩) (by simp)
          exact disciplined entered waits
      | lost nobody => exact tidy.of_same_phase rfl (by simp) same
  | recvReturned returning => exact tidy.of_same_phase rfl (by simp) same
  | @managed thread op next outcome idle application ran =>
      refine tidy.of_same_phase rfl (fun _ => id) fun other entered due => ?_
      have inside : threads.Inside other entered := .inr (key?_of_due due)
      have valid := linked.valid other entered inside
      refine (numberOfMessages_applyOp registry application ran valid.used ?_).ge
      rintro rfl
      exact disciplined other entered inside valid.pipeId_eq
  | refused thread idle found => exact tidy
  | looked thread idle found => exact tidy.of_same_phase rfl (fun _ => id) same
  | @returned thread entered result entering locked =>
      refine tidy.of_same_phase rfl (fun _ => id) fun other key due => ?_
      have apart : key.pipe ≠ entered.pipe := by
        intro equal
        refine disciplined other key (key?_of_due due) ?_
        rw [(linked.valid other key (.inr (key?_of_due due))).pipeId_eq,
          (linked.valid thread entered (.inl entering)).pipeId_eq, equal]
      exact (congrArg PipeD.numberOfMessages (rcvLocked_of_ne apart locked)).ge
  | @blocked thread entered deadline entering locked =>
      refine tidy.blocked _ disciplined.1 fun other key isKey equal => ?_
      refine disciplined.2 other key isKey ?_
      rw [(linked.valid other key (.inr isKey)).pipeId_eq,
        (linked.valid thread entered (.inl entering)).pipeId_eq, equal]
  | woke thread wake =>
      exact tidy.woken wake (fun zero => absurd zero disciplined) fun _ => id
  | resumed thread woken ran =>
      subst ran
      exact tidy.resumed woken _ _

/-! ## Runs -/

/-- The invariant of a disciplined client, with what makes it a proper one. -/
theorem tidy_run {start : PipeTbl P} (reachable : Reachable start) {socket : Socket}
    {trace : List (ConcurrentEvent P Thread)}
    (run : Machine.Run (Machine.Guarded Concurrent.Step Concurrent.Disciplined)
      (.start start socket) trace threads) :
    Machine.Run (Machine.Guarded Concurrent.Step Concurrent.Proper) (.start start socket) trace
      threads ∧ Tidy threads := by
  have preserves : ∀ trace (threads : Concurrent P Thread) event after,
      (Machine.Run (Machine.Guarded Concurrent.Step Concurrent.Proper) (.start start socket) trace
        threads ∧ Tidy threads) →
      Machine.Guarded Concurrent.Step Concurrent.Disciplined threads event after →
      Machine.Run (Machine.Guarded Concurrent.Step Concurrent.Proper) (.start start socket)
        (trace ++ [event]) after ∧ Tidy after := by
    rintro trace threads event after ⟨proper, tidy⟩ ⟨step, disciplined⟩
    obtain ⟨state, -, linked⟩ := exists_linked reachable proper
    exact ⟨proper.snoc ⟨step, tidy.proper step disciplined⟩, tidy.step linked step disciplined⟩
  exact @Machine.Run.invariant _ _ _ _ (fun trace threads =>
    Machine.Run (Machine.Guarded Concurrent.Step Concurrent.Proper) (.start start socket) trace
      threads ∧ Tidy threads) ⟨.refl, tidy_start start socket⟩ preserves _ _ run

/-- A thread that begins to wait while a signal is due may get that signal, without a message. -/
theorem exists_late_signal {thread : Thread} {entered : RcvEntered P} {pipe : Fin maxPipes}
    (step : threads.Step (.blocked thread entered) after)
    (due : threads.point = .signalling pipe) :
    ∃ later, after.Step (.signalled (some thread)) later ∧
      later.phase thread = .woken entered 0 ∧
      (later.tbl entered.pipe).numberOfMessages < 2 := by
  cases step with
  | blocked _ entering locked =>
      obtain ⟨-, -, waits⟩ := rcvLocked_eq_waits_iff.mp locked
      exact ⟨_, .signalled due (.wakes thread (.wake (Function.update_self ..))),
        Function.update_self .., (rcvAction_eq_wait_iff.mp waits).1⟩

/-- In every run of a disciplined client, each call whose wait has ended without an error finds a
message in its pipe when it goes on, whatever the other threads have done in between.  So the run
is one of those that the other modules speak of.  But as soon as a thread begins to wait while a
signal is due, it may get that signal and go on without a message. -/
theorem disciplined_calls_find_messages {start : PipeTbl P} (reachable : Reachable start)
    {socket : Socket} {trace : List (ConcurrentEvent P Thread)}
    (run : Machine.Run (Machine.Guarded Concurrent.Step Concurrent.Disciplined)
      (.start start socket) trace threads) :
    (∀ thread entered, threads.phase thread = .woken entered 0 →
        2 ≤ (threads.tbl entered.pipe).numberOfMessages) ∧
      Machine.Run (Machine.Guarded Concurrent.Step Concurrent.Proper) (.start start socket) trace
        threads ∧
      ∀ thread entered after pipe, threads.Step (.blocked thread entered) after →
        threads.point = .signalling pipe →
        ∃ later, after.Step (.signalled (some thread)) later ∧
          later.phase thread = .woken entered 0 ∧
          (later.tbl entered.pipe).numberOfMessages < 2 := by
  obtain ⟨proper, tidy⟩ := tidy_run reachable run
  exact ⟨fun thread entered woken => tidy.stocked thread entered (.inl woken), proper,
    fun _ _ _ _ => exists_late_signal⟩

/-- A thread waits while a message for its pipe arrives, and is woken. -/
theorem exists_woken_run :
    ∃ (trace : List (ConcurrentEvent (standardPlatform 64) Unit))
      (threads : Concurrent (standardPlatform 64) Unit),
      Machine.Run (Machine.Guarded Concurrent.Step Concurrent.Disciplined)
        (.start (initPipeTbl (zeroPipeTbl _)) frameInPieces) trace threads ∧
      threads.phase () = .woken ⟨0, 0, -1, calmEnv _⟩ 0 := by
  have run := Machine.Run.refl
    |>.snoc (show Machine.Guarded Concurrent.Step Concurrent.Disciplined
        (.start (initPipeTbl (zeroPipeTbl (standardPlatform 64))) frameInPieces)
        (.called () (.createPipe true 4 [0x41]) _) _ from
        ⟨.managed () ⟨rfl, rfl⟩ trivial rfl, trivial⟩)
    |>.snoc (show Machine.Guarded Concurrent.Step _ _
        (.called () (.subscribe 0x0801 0 .complete) _) _ from
        ⟨.managed () ⟨rfl, rfl⟩ trivial rfl, trivial⟩)
    |>.snoc ⟨.recvCalled (zeroLocals _) rfl, trivial⟩
    |>.snoc ⟨.turned rfl, trivial⟩
    |>.snoc ⟨.turned rfl, trivial⟩
    |>.snoc ⟨.turned rfl, trivial⟩
    |>.snoc (show Machine.Guarded Concurrent.Step _ _ (.looked () ⟨0, 0, -1, calmEnv _⟩) _ from
        ⟨.looked () ⟨rfl, rfl⟩ rfl, trivial⟩)
    |>.snoc (show Machine.Guarded Concurrent.Step _ _ (.blocked () ⟨0, 0, -1, calmEnv _⟩) _ from
        ⟨.blocked () rfl rfl, fun _ => nofun, fun _ _ => nofun⟩)
    |>.snoc ⟨.turned rfl, trivial⟩
    |>.snoc ⟨.turned rfl, trivial⟩
    |>.snoc ⟨.turned rfl, trivial⟩
    |>.snoc ⟨.signalled rfl (.wakes () (.wake rfl)), by rintro entered ⟨⟩; rfl⟩
  exact ⟨_, _, run, rfl⟩

/-- The only thread takes the message of the only pipe before the signal, and waits again. -/
theorem exists_late_run :
    ∃ (trace : List (ConcurrentEvent (standardPlatform 64) Unit))
      (threads after : Concurrent (standardPlatform 64) Unit),
      Machine.Run (Machine.Guarded Concurrent.Step Concurrent.Disciplined)
        (.start (initPipeTbl (zeroPipeTbl _)) frameInPieces) trace threads ∧
      (∀ k ≠ 0, (threads.tbl k).inUse ≠ inUse) ∧ threads.point = .signalling 0 ∧
      threads.Step (.blocked () ⟨0, 0, -1, calmEnv _⟩) after := by
  have run := Machine.Run.refl
    |>.snoc (show Machine.Guarded Concurrent.Step Concurrent.Disciplined
        (.start (initPipeTbl (zeroPipeTbl (standardPlatform 64))) frameInPieces)
        (.called () (.createPipe true 4 [0x41]) _) _ from
        ⟨.managed () ⟨rfl, rfl⟩ trivial rfl, trivial⟩)
    |>.snoc (show Machine.Guarded Concurrent.Step _ _
        (.called () (.subscribe 0x0801 0 .complete) _) _ from
        ⟨.managed () ⟨rfl, rfl⟩ trivial rfl, trivial⟩)
    |>.snoc ⟨.recvCalled (zeroLocals _) rfl, trivial⟩
    |>.snoc ⟨.turned rfl, trivial⟩
    |>.snoc ⟨.turned rfl, trivial⟩
    |>.snoc ⟨.turned rfl, trivial⟩
    |>.snoc ⟨.turned rfl, trivial⟩
    |>.snoc ⟨.turned rfl, trivial⟩
    |>.snoc ⟨.turned rfl, trivial⟩
    |>.snoc (show Machine.Guarded Concurrent.Step _ _ (.looked () ⟨0, 0, -1, calmEnv _⟩) _ from
        ⟨.looked () ⟨rfl, rfl⟩ rfl, trivial⟩)
    |>.snoc ⟨.returned () rfl rfl, fun _ _ => nofun⟩
    |>.snoc (show Machine.Guarded Concurrent.Step _ _ (.looked () ⟨0, 0, -1, calmEnv _⟩) _ from
        ⟨.looked () ⟨rfl, rfl⟩ rfl, trivial⟩)
  exact ⟨_, _, _, run, by decide, rfl, .blocked () rfl rfl⟩

/-- The woken thread finds its message; the one that waits again is woken by the signal for the
message that it has taken. -/
theorem signals_in_time_and_late :
    (∃ threads : Concurrent (standardPlatform 64) Unit,
      threads.phase () = .woken ⟨0, 0, -1, calmEnv _⟩ 0 ∧ 2 ≤ (threads.tbl 0).numberOfMessages) ∧
    ∃ threads after later : Concurrent (standardPlatform 64) Unit,
      (∀ k ≠ 0, (threads.tbl k).inUse ≠ inUse) ∧
      threads.Step (.blocked () ⟨0, 0, -1, calmEnv _⟩) after ∧
      after.Step (.signalled (some ())) later ∧
      later.phase () = .woken ⟨0, 0, -1, calmEnv _⟩ 0 ∧
      (later.tbl 0).numberOfMessages < 2 := by
  have reachable : Reachable (initPipeTbl (zeroPipeTbl (standardPlatform 64))) :=
    ⟨_, [], [], trivial, rfl⟩
  obtain ⟨trace, threads, run, woken⟩ := exists_woken_run
  refine ⟨⟨threads, woken, (disciplined_calls_find_messages reachable run).1 _ _ woken⟩, ?_⟩
  obtain ⟨trace, threads, after, run, only, due, waits⟩ := exists_late_run
  obtain ⟨-, -, late⟩ := disciplined_calls_find_messages reachable run
  obtain ⟨later, signalled, woken, few⟩ := late _ _ _ _ waits due
  exact ⟨threads, after, later, only, waits, signalled, woken, few⟩

end SbnClient
