import SbnClient.Model.StandardPlatform
import SbnClient.Threads.Steps

/-!
# What the threads are handed

The events of a run tell what every pipe should hold: `ingest_app_message` appends a
payload, a call that returns a message removes one.  As long as a call whose wait ended
without an error finds a message in its pipe, the table carries those queues and every
call is handed the oldest payload of its pipe.  `__wrap_CFE_SB_RcvMsg` does not look
whether there is one, so a single signal for another pipe is enough to break it.
-/

namespace SbnClient

open ConditionVariable SegmentedInput

variable {P : Platform} {Thread : Type*}

/-! ## The queues of a trace -/

/-- The counters of all pipes in use are in range. -/
def CountersInRange (tbl : PipeTbl P) : Prop :=
  ∀ i, (tbl i).inUse = inUse →
    1 ≤ (tbl i).numberOfMessages ∧ (tbl i).numberOfMessages ≤ maxPipeDepth

/-- A received payload joins the queue of the pipe that got it. -/
def IngestResult.enqueue (payload : List UInt8) (queues : Queues) : IngestResult → Queues
  | .received i => Function.update queues i (queues i ++ [payload])
  | _ => queues

/-- A message that is handed out leaves the queue of its pipe. -/
def Answer.dequeue (queues : Queues) (answer : Answer P) : Queues :=
  match answer.message with
  | some (i, _) => Function.update queues i (queues i).tail
  | none => queues

/-- The answer shows the oldest payload of the pipe. -/
def Answer.ShowsOldest (queues : Queues) (i : Fin maxPipes) (answer : Answer P) : Prop :=
  ∃ buffer payload rest, answer.message = some (i, buffer) ∧ queues i = payload :: rest ∧
    Shows buffer payload

namespace Event

/-- The queues after an event. -/
def apply (queues : Queues) : Event P Thread → Queues
  | .ingested payload result => result.enqueue payload queues
  | .returned _ answer => answer.dequeue queues
  | .resumed _ _ answer => answer.dequeue queues
  | _ => queues

/-- A call that succeeds is handed the oldest payload, after a wait that of the pipe it
waited for. -/
def DeliversOldest (queues : Queues) : Event P Thread → Prop
  | .returned _ answer => answer.status = .success → ∃ i, answer.ShowsOldest queues i
  | .resumed _ i answer => answer.status = .success → answer.ShowsOldest queues i
  | _ => True

end Event

/-- The queues after a trace. -/
def queuesAfter (queues : Queues) (trace : List (Event P Thread)) : Queues :=
  trace.foldl Event.apply queues

/-- Every call of the trace that succeeds is handed the oldest payload there is. -/
def DeliversInOrder : Queues → List (Event P Thread) → Prop
  | _, [] => True
  | queues, event :: trace =>
      event.DeliversOldest queues ∧ DeliversInOrder (event.apply queues) trace

theorem queuesAfter_snoc (queues : Queues) (trace : List (Event P Thread))
    (event : Event P Thread) :
    queuesAfter queues (trace ++ [event]) = event.apply (queuesAfter queues trace) :=
  List.foldl_concat ..

theorem DeliversInOrder.snoc {queues : Queues} {trace : List (Event P Thread)}
    {event : Event P Thread} (inOrder : DeliversInOrder queues trace)
    (oldest : event.DeliversOldest (queuesAfter queues trace)) :
    DeliversInOrder queues (trace ++ [event]) := by
  induction trace generalizing queues with
  | nil => exact ⟨oldest, trivial⟩
  | cons first trace ih => exact ⟨inOrder.1, ih inOrder.2 oldest⟩

/-! ## One step -/

section Table

variable {tbl next : PipeTbl P} {queues : Queues}

theorem Registry.countersInRange (registry : Registry tbl) : CountersInRange tbl := by
  intro i used
  have live := registry.live used
  exact ⟨live.numberOfMessages_ge, live.numberOfMessages_le⟩

theorem Carries.ingest (carries : Carries tbl queues) {payload : List UInt8}
    {result : IngestResult} (step : IngestStep tbl payload next result) :
    Carries next (result.enqueue payload queues) := by
  cases step with
  | kept silent =>
      cases result with
      | received i => exact absurd rfl (silent i)
      | readFailed | pipeOverflow | noSubscription | noPipesInUse => exact carries
  | pushed stored bytes used room =>
      subst bytes
      exact carries.update (holds_pushMessage (carries _ used) room stored)

/-- A pipe with a message hands out the oldest of its queue. -/
theorem Carries.take (carries : Carries tbl queues) {i : Fin maxPipes}
    (used : (tbl i).inUse = inUse) (available : 2 ≤ (tbl i).numberOfMessages) :
    (taken tbl i).ShowsOldest queues i ∧
      Carries (Function.update tbl i (advance (tbl i))) ((taken tbl i).dequeue queues) := by
  have holds := carries i used
  have size := holds.count_eq
  cases queue : queues i with
  | nil =>
      rw [queue, List.length_nil] at size
      omega
  | cons payload rest =>
      unfold PipeD.Carries at holds
      rw [queue] at holds
      obtain ⟨shown, remaining⟩ := holds_advance holds
      refine ⟨⟨_, payload, rest, rfl, queue, shown⟩, ?_⟩
      simp only [Answer.dequeue, taken, queue, List.tail_cons]
      exact carries.update remaining

end Table

variable {threads next : Threads P Thread} {queues : Queues}
variable {event : Event P Thread}

/-- The table is as the sequential calls leave it and carries the queues, and pipes that
are waited for exist. -/
structure Sound (queues : Queues) (threads : Threads P Thread) : Prop where
  registry : Registry threads.tbl
  carries : Carries threads.tbl queues
  used : ∀ thread i, (threads.phase thread).key? = some i → (threads.tbl i).inUse = inUse

/-- A call whose wait returned zero goes on with a message in its pipe. -/
def FindsMessage (threads : Threads P Thread) : Event P Thread → Prop
  | .resumed thread i _ =>
      threads.phase thread = .woken i 0 → 2 ≤ (threads.tbl i).numberOfMessages
  | _ => True

theorem Sound.of_contentStep {after : Queues} (sound : Sound queues threads)
    (step : ContentStep threads.tbl next.tbl) (carries : Carries next.tbl after)
    (used : ∀ thread i, (next.phase thread).key? = some i → (threads.tbl i).inUse = inUse) :
    Sound after next where
  registry := sound.registry.contentStep step
  carries := carries
  used thread i waits := (step.inUse_eq i).trans (used thread i waits)

theorem sound_start {tbl : PipeTbl P} (registry : Registry tbl) :
    Sound (fun i => pending (tbl i)) (Threads.start tbl : Threads P Thread) where
  registry := registry
  carries := registry.carries_pending
  used thread i waits := by simp [Threads.start, Phase.key?] at waits

/-- A call that does not wait. -/
theorem Sound.receive (sound : Sound queues threads) {tbl : PipeTbl P} {answer : Answer P}
    (step : RcvStep threads.tbl tbl answer) :
    Sound (answer.dequeue queues) { threads with tbl } ∧
      (answer.status = .success → ∃ i, answer.ShowsOldest queues i) := by
  have content := step.contentStep
  cases step with
  | kept failed =>
      exact ⟨sound.of_contentStep content sound.carries sound.used,
        fun success => absurd success failed⟩
  | took used available =>
      obtain ⟨oldest, carries⟩ := sound.carries.take used available
      exact ⟨sound.of_contentStep content carries sound.used, fun _ => ⟨_, oldest⟩⟩

variable [DecidableEq Thread]

/-- One thread may change its key to a pipe in use, or give it up. -/
theorem Sound.used_update (sound : Sound queues threads) (thread : Thread)
    {phase : Phase (Fin maxPipes)} (changed : ∀ i, phase.key? = some i →
      (threads.tbl i).inUse = inUse) (other : Thread) (i : Fin maxPipes)
    (waits : (Function.update threads.phase thread phase other).key? = some i) :
    (threads.tbl i).inUse = inUse := by
  by_cases same : other = thread
  · subst same
    rw [Function.update_self] at waits
    exact changed i waits
  · rw [Function.update_of_ne same] at waits
    exact sound.used other i waits

/-- A call goes on after its wait. -/
theorem Sound.resume (sound : Sound queues threads) {thread : Thread} {i : Fin maxPipes}
    {waitMutexStatus : Int} (woken : threads.phase thread = .woken i waitMutexStatus)
    (finds : waitMutexStatus = 0 → 2 ≤ (threads.tbl i).numberOfMessages) :
    let result := rcvFinish threads.tbl i (waitResult P waitMutexStatus) 0
    Sound (result.answer.dequeue queues) { threads with
        tbl := result.tbl
        phase := Function.update threads.phase thread .running } ∧
      (result.answer.status = .success → result.answer.ShowsOldest queues i) := by
  intro result
  have keyless : ∀ k, (Phase.running : Phase (Fin maxPipes)).key? = some k →
      (threads.tbl k).inUse = inUse := by simp [Phase.key?]
  have leaves := sound.used_update thread keyless
  rcases rcvFinish_waitResult_cases threads.tbl i waitMutexStatus with
    ⟨zero, moved, answer⟩ | ⟨failed, same, refused, empty⟩
  · have available := finds zero
    have used := sound.used thread i (by rw [woken]; rfl)
    obtain ⟨oldest, carries⟩ := sound.carries.take used available
    have content : ContentStep threads.tbl (Function.update threads.tbl i
      (advance (threads.tbl i))) := .taken i used available
    simp only [result, moved, answer]
    exact ⟨sound.of_contentStep content carries leaves, fun _ => oldest⟩
  · simp only [result, same, Answer.dequeue, empty]
    exact ⟨⟨sound.registry, sound.carries, leaves⟩, fun succeeded => absurd succeeded refused⟩

/-- A step of the threads keeps the table sound and delivers in order, if a call that
goes on after its wait finds a message. -/
theorem Sound.step (sound : Sound queues threads) (step : threads.Step event next)
    (finds : FindsMessage threads event) :
    Sound (event.apply queues) next ∧ event.DeliversOldest queues := by
  cases step with
  | ingested reading ran =>
      have ingested := ingestStep_ingestAppMessage ran
      exact ⟨sound.of_contentStep ingested.contentStep (sound.carries.ingest ingested)
        sound.used, trivial⟩
  | signalled due signal =>
      refine ⟨⟨sound.registry, sound.carries, fun thread i waits => ?_⟩, trivial⟩
      rw [signal.key?_eq] at waits
      exact sound.used thread i waits
  | woke thread wake =>
      refine ⟨⟨sound.registry, sound.carries, fun thread i waits => ?_⟩, trivial⟩
      rw [wake.key?_eq] at waits
      exact sound.used thread i waits
  | blocked thread running began =>
      refine ⟨⟨sound.registry, sound.carries, sound.used_update _ fun i waits => ?_⟩, trivial⟩
      cases waits
      exact (rcvBegin_waits began).1
  | returned thread running unlocked began =>
      exact sound.receive (rcvStep_rcvBegin unlocked began)
  | resumed thread woken ran =>
      subst ran
      refine sound.resume woken fun zero => finds ?_
      rw [woken, zero]

/-- A call that goes on without a message leaves the counter of its pipe at zero. -/
theorem Sound.findsMessage (sound : Sound queues threads) (step : threads.Step event next)
    (counters : CountersInRange next.tbl) : FindsMessage threads event := by
  cases step with
  | ingested | signalled | woke | blocked | returned => trivial
  | @resumed thread i waitMutexStatus result woken ran =>
      subst ran
      intro zero
      have used := sound.used thread i (by rw [woken]; rfl)
      have live := sound.registry.live used
      have atLeast := live.numberOfMessages_ge
      have fewer := numberOfMessages_advance atLeast live.numberOfMessages_le
      rw [woken, Phase.woken.injEq] at zero
      rcases rcvFinish_waitResult_cases threads.tbl i waitMutexStatus with
        ⟨-, moved, -⟩ | ⟨failed, -⟩
      · rw [moved] at counters
        have remaining := (counters i (by simpa using used)).1
        simp only [Function.update_self, fewer] at remaining
        omega
      · exact absurd zero.2 failed

/-! ## Runs -/

/-- In every run in which a call that goes on after its wait finds a message, the counters
stay in range and every successful call is handed the oldest message of its pipe that
`ingest_app_message` has put there and no call has been handed before.  The next step
goes wrong just when it is such a call that finds none. -/
theorem threads_deliver_in_order {start : PipeTbl P} (reachable : Reachable start)
    {trace : List (Event P Thread)}
    (run : Machine.Run (Machine.Guarded Threads.Step FindsMessage) (.start start) trace threads) :
    CountersInRange threads.tbl ∧ DeliversInOrder (fun i => pending (start i)) trace ∧
      ∀ event next, threads.Step event next →
        (FindsMessage threads event ↔ CountersInRange next.tbl ∧
          event.DeliversOldest (queuesAfter (fun i => pending (start i)) trace)) := by
  have invariant : Sound (queuesAfter (fun i => pending (start i)) trace) threads ∧
      DeliversInOrder (fun i => pending (start i)) trace := by
    refine @Machine.Run.invariant _ _ _ _ (fun trace threads =>
      Sound (queuesAfter (fun i => pending (start i)) trace) threads ∧
        DeliversInOrder (fun i => pending (start i)) trace) ?_ ?_ _ _ run
    · exact ⟨sound_start reachable.registry, trivial⟩
    · rintro trace threads event next ⟨sound, inOrder⟩ ⟨step, finds⟩
      obtain ⟨kept, oldest⟩ := sound.step step finds
      rw [queuesAfter_snoc]
      exact ⟨kept, inOrder.snoc oldest⟩
  obtain ⟨sound, inOrder⟩ := invariant
  refine ⟨sound.registry.countersInRange, inOrder, fun event next step => ⟨fun finds => ?_, ?_⟩⟩
  · obtain ⟨kept, oldest⟩ := sound.step step finds
    exact ⟨kept.registry.countersInRange, oldest⟩
  · rintro ⟨counters, -⟩
    exact sound.findsMessage step counters

/-! ## A run that goes wrong, and one that does not -/

/-- Two empty pipes, subscribed to `0x0801` and `0x0802`. -/
def openTwoPipes (P : Platform) : List (Op P) :=
  [.createPipe true 4 [0x41], .createPipe true 4 [0x42], .subscribe 0x0801 0 .complete,
    .subscribe 0x0802 1 .complete]

/-- The table after these calls. -/
def twoPipes : PipeTbl (standardPlatform 32768) :=
  ((Machine.run applyOp (initPipeTbl (zeroPipeTbl _)) (openTwoPipes _)).map Prod.fst).getD
    (zeroPipeTbl _)

theorem reachable_twoPipes : Reachable twoPipes := by
  refine ⟨zeroPipeTbl _, openTwoPipes _, _, Machine.permitted_of_forall ?_ _, rfl⟩
  simp [openTwoPipes, Op.Sequential, maxPipes]

/-- A thread waits for the first pipe while a message for the second arrives.  The signal
wakes it, and it is handed a slot of the first pipe that no message was put into. -/
theorem phantom_delivery :
    ∃ (trace : List (Event (standardPlatform 32768) Unit)) (threads : Threads _ Unit),
      Reachable twoPipes ∧ Machine.Run Threads.Step (.start twoPipes) trace threads ∧
      ¬ CountersInRange threads.tbl ∧
      ¬ DeliversInOrder (fun i => pending (twoPipes i)) trace := by
  have blocked : rcvBegin twoPipes true 0 (-1) (calmEnv _) = some (.waits 0 none) := rfl
  have run := Machine.Run.refl
    |>.snoc (show Threads.Step (.start twoPipes) _ _ from .blocked () rfl blocked)
    |>.snoc (.ingested rfl (show ingestAppMessage twoPipes (Buffer.filled _ 0) (whole [8, 2]) 2 =
        some (_, [], .received 1) from rfl))
    |>.snoc (.signalled rfl (.wakes () (.wake rfl)))
    |>.snoc (.resumed () rfl rfl)
  refine ⟨_, _, reachable_twoPipes, run, ?_, ?_⟩
  · intro counters
    have atLeast := (counters 0 rfl).1
    exact absurd (show 1 ≤ 0 from atLeast) (by decide)
  · rintro ⟨-, -, -, oldest, -⟩
    obtain ⟨_, payload, rest, -, queue, -⟩ := oldest rfl
    exact nomatch (show ([] : List (List UInt8)) = payload :: rest from queue)

/-- The same with a message for the pipe that the thread waits for. -/
theorem woken_call_delivers :
    ∃ (trace : List (Event (standardPlatform 32768) Unit))
      (threads : Threads (standardPlatform 32768) Unit),
      Machine.Run Threads.Step (.start twoPipes) trace threads ∧ trace.length = 4 ∧
      CountersInRange threads.tbl ∧
      DeliversInOrder (fun i => pending (twoPipes i)) trace ∧
      ∀ event next, threads.Step event next →
        (FindsMessage threads event ↔ CountersInRange next.tbl ∧
          event.DeliversOldest (queuesAfter (fun i => pending (twoPipes i)) trace)) := by
  have blocked : rcvBegin twoPipes true 0 (-1) (calmEnv _) = some (.waits 0 none) := rfl
  have run := Machine.Run.refl
    |>.snoc (show Machine.Guarded Threads.Step FindsMessage (.start twoPipes) _ _ from
        ⟨.blocked () rfl blocked, trivial⟩)
    |>.snoc ⟨.ingested rfl (show ingestAppMessage twoPipes (Buffer.filled _ 0) (whole [8, 1]) 2 =
        some (_, [], .received 0) from rfl), trivial⟩
    |>.snoc ⟨.signalled rfl (.wakes () (.wake rfl)), trivial⟩
    |>.snoc ⟨.resumed () rfl rfl, fun _ => Nat.le_refl 2⟩
  exact ⟨_, _, run.mono fun _ _ _ step => step.1, rfl,
    threads_deliver_in_order reachable_twoPipes run⟩

end SbnClient
