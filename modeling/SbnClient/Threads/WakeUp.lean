import SbnClient.Threads.Delivery

/-!
# Which waits a signal ends

`ingest_app_message` signals once for every message it puts into a pipe, on a condition
variable that all pipes share.  A wake-up is lost when that signal goes to a thread that
waits for another pipe, or to one of several that wait for the same.  The conditions of
this file are exact: a step that breaks one of them loses a wake-up at once.
-/

namespace SbnClient

open ConditionVariable SegmentedInput

variable {P : Platform} {Thread : Type*}

/-- A thread that still waits finds its pipe empty, or the signal for the message that was
put there is still to be sent. -/
def NoLostWakeUp (threads : Threads P Thread) : Prop :=
  ∀ thread i, threads.phase thread = .waiting i →
    (threads.tbl i).numberOfMessages = 1 ∨ threads.receiver = .signalling i

/-- The condition on a step.  A signal for a message that is still there wakes the only
thread that waits for its pipe, if any does; a call blocks on a pipe whose counter shows
no message; a call that goes on without a message leaves no other waiting for its pipe. -/
def WakesReceiver (threads : Threads P Thread) : Event P Thread → Prop
  | .signalled woken => ∀ i, threads.receiver = .signalling i →
      (threads.tbl i).numberOfMessages ≠ 1 →
      ∀ thread, threads.phase thread = .waiting i → woken = some thread
  | .blocked _ i => (threads.tbl i).numberOfMessages = 1 ∨ threads.receiver = .signalling i
  | .resumed thread i _ => threads.phase thread = .woken i 0 →
      (threads.tbl i).numberOfMessages = 1 → threads.receiver ≠ .signalling i →
      ∀ other, threads.phase other ≠ .waiting i
  | _ => True

section Receiving

variable {threads : Threads P Thread} {next : PipeTbl P}

/-- Putting a message into a pipe leaves its signal to be sent. -/
theorem NoLostWakeUp.ingest (noneLost : NoLostWakeUp threads)
    (reading : threads.receiver = .reading)
    {payload : List UInt8} {result : IngestResult}
    (step : IngestStep threads.tbl payload next result) :
    NoLostWakeUp { threads with tbl := next, receiver := result.receiver } := by
  intro thread k waits
  have empty : (threads.tbl k).numberOfMessages = 1 := by
    rcases noneLost thread k waits with empty | due
    · exact empty
    · rw [reading] at due
      cases due
  cases step with
  | kept silent => exact .inl empty
  | @pushed i stored bytes used room =>
      by_cases same : k = i
      · subst same
        exact .inr rfl
      · simp [same, empty]

/-- A call that does not wait takes no message from under a waiting thread. -/
theorem NoLostWakeUp.receive (noneLost : NoLostWakeUp threads) {answer : Answer P}
    (step : RcvStep threads.tbl next answer) : NoLostWakeUp { threads with tbl := next } := by
  intro thread k waits
  cases step with
  | kept failed => exact noneLost thread k waits
  | @took i used available =>
      rcases noneLost thread k waits with empty | due
      · have other : k ≠ i := by
          rintro rfl
          omega
        simp [other, empty]
      · exact .inr due

end Receiving

variable [DecidableEq Thread] {threads next : Threads P Thread} {event : Event P Thread}

/-- A call goes on after its wait. -/
theorem NoLostWakeUp.resume (noneLost : NoLostWakeUp threads) {thread : Thread} {i : Fin maxPipes}
    {waitMutexStatus : Int} (woken : threads.phase thread = .woken i waitMutexStatus) :
    let result := rcvFinish threads.tbl i (waitResult P waitMutexStatus) 0
    WakesReceiver threads (.resumed thread i result.answer) ↔
      NoLostWakeUp { threads with
        tbl := result.tbl
        phase := Function.update threads.phase thread .running } := by
  intro result
  rcases rcvFinish_waitResult_cases threads.tbl i waitMutexStatus with
    ⟨rfl, moved, -⟩ | ⟨failed, same, -⟩
  · rw [moved]
    constructor
    · intro alone other k waits
      -- taking a message can only hurt the others that wait for the same pipe
      have before := waiting_of_update_running waits
      by_cases same : k = i
      · subst same
        by_contra lost
        obtain ⟨-, sent⟩ := not_or.mp lost
        rcases noneLost other k before with empty | due
        · exact alone woken empty sent other before
        · exact sent due
      · simpa [same] using noneLost other k before
    · intro kept _ empty sent other waits
      have distinct : other ≠ thread := by
        rintro rfl
        rw [woken] at waits
        cases waits
      rcases kept other i (by simpa [distinct] using waits) with remaining | due
      · simp [advance, uint32, empty] at remaining
      · exact sent due
  · rw [same]
    constructor
    · exact fun _ other k waits => noneLost other k (waiting_of_update_running waits)
    · intro _ zero
      rw [woken, Phase.woken.injEq] at zero
      exact absurd zero.2 failed

/-- The signal is sent. -/
theorem NoLostWakeUp.signal (noneLost : NoLostWakeUp threads)
    {woken : Option Thread} {phase : Thread → Phase (Fin maxPipes)}
    (signal : Signal threads.phase woken phase) :
    WakesReceiver threads (.signalled woken) ↔
      NoLostWakeUp { threads with receiver := .reading, phase } := by
  constructor
  · intro reaches thread k waits
    obtain ⟨before, asleep⟩ := (signal.waiting_iff thread k).mp waits
    rcases noneLost thread k before with empty | sending
    · exact .inl empty
    · -- the pipe that the signal is for
      by_contra lost
      exact asleep (reaches k sending (not_or.mp lost).1 thread before)
  · intro kept k sending full thread waits
    by_contra asleep
    rcases kept thread k ((signal.waiting_iff thread k).mpr ⟨waits, asleep⟩) with empty | sent
    · exact full empty
    · cases sent

/-- A thread begins to wait. -/
theorem NoLostWakeUp.block (noneLost : NoLostWakeUp threads) (thread : Thread) (i : Fin maxPipes) :
    WakesReceiver threads (.blocked thread i) ↔
      NoLostWakeUp { threads with phase := Function.update threads.phase thread (.waiting i) } := by
  constructor
  · intro empty other k waits
    by_cases same : other = thread
    · subst same
      simp only [Function.update_self, Phase.waiting.injEq] at waits
      subst waits
      exact empty
    · exact noneLost other k (by simpa [same] using waits)
  · intro kept
    exact kept thread i (Function.update_self ..)

/-- A step loses a wake-up just when it breaks its condition. -/
theorem NoLostWakeUp.step_iff (noneLost : NoLostWakeUp threads) (step : threads.Step event next) :
    WakesReceiver threads event ↔ NoLostWakeUp next := by
  cases step with
  | ingested reading ran =>
      exact iff_of_true trivial (noneLost.ingest reading (ingestStep_ingestAppMessage ran))
  | signalled due signal => exact noneLost.signal signal
  | woke thread wake =>
      refine iff_of_true trivial fun other k waits => ?_
      exact noneLost other k ((wake.waiting_iff other k).mp waits).1
  | blocked thread running began => exact noneLost.block thread _
  | returned thread running unlocked began =>
      exact iff_of_true trivial (noneLost.receive (rcvStep_rcvBegin unlocked began))
  | resumed thread woken ran =>
      subst ran
      exact noneLost.resume woken

/-! ## Runs -/

/-- In every run whose steps meet their condition no wake-up is lost, and the next step
loses one just when it does not meet it. -/
theorem threads_wake_receivers {start : PipeTbl P} {trace : List (Event P Thread)}
    (run : Machine.Run (Machine.Guarded Threads.Step WakesReceiver) (.start start) trace threads) :
    NoLostWakeUp threads ∧
      ∀ event next, threads.Step event next →
        (WakesReceiver threads event ↔ NoLostWakeUp next) := by
  have kept : NoLostWakeUp threads := by
    refine @Machine.Run.invariant _ _ _ _ (fun _ threads => NoLostWakeUp threads) ?_ ?_ _ _ run
    · intro thread i waits
      cases waits
    · rintro _ threads event next noneLost ⟨step, reaches⟩
      exact (noneLost.step_iff step).mp reaches
  exact ⟨kept, fun _ _ step => kept.step_iff step⟩

/-- Two threads wait for one pipe each.  The signal for a message in the second pipe goes
to the thread that waits for the first. -/
theorem lost_wakeUp :
    ∃ (trace : List (Event (standardPlatform 32768) Bool)) (threads : Threads _ Bool),
      Reachable twoPipes ∧ Machine.Run Threads.Step (.start twoPipes) trace threads ∧
      threads.receiver = .reading ∧ ¬ NoLostWakeUp threads := by
  have first : rcvBegin twoPipes true 0 (-1) (calmEnv _) = some (.waits 0 none) := rfl
  have second : rcvBegin twoPipes true 1 (-1) (calmEnv _) = some (.waits 1 none) := rfl
  have run := Machine.Run.refl
    |>.snoc (show Threads.Step (.start twoPipes) _ _ from .blocked false rfl first)
    |>.snoc (.blocked true rfl second)
    |>.snoc (.ingested rfl (show ingestAppMessage twoPipes (Buffer.filled _ 0) (whole [8, 2]) 2 =
        some (_, [], .received 1) from rfl))
    |>.snoc (.signalled rfl (.wakes false (.wake rfl)))
  refine ⟨_, _, reachable_twoPipes, run, rfl, ?_⟩
  intro kept
  rcases kept true 1 rfl with empty | due
  · exact absurd (show 2 = 1 from empty) (by decide)
  · cases due

/-- The signal goes to the thread that waits for the second pipe. -/
theorem signal_wakes_receiver :
    ∃ (trace : List (Event (standardPlatform 32768) Bool))
      (threads : Threads (standardPlatform 32768) Bool),
      Machine.Run Threads.Step (.start twoPipes) trace threads ∧
      threads.phase true = .woken 1 0 ∧ NoLostWakeUp threads ∧
      ∀ event next, threads.Step event next →
        (WakesReceiver threads event ↔ NoLostWakeUp next) := by
  have first : rcvBegin twoPipes true 0 (-1) (calmEnv _) = some (.waits 0 none) := rfl
  have second : rcvBegin twoPipes true 1 (-1) (calmEnv _) = some (.waits 1 none) := rfl
  have run := Machine.Run.refl
    |>.snoc (show Machine.Guarded Threads.Step WakesReceiver (.start twoPipes) _ _ from
        ⟨.blocked false rfl first, .inl rfl⟩)
    |>.snoc ⟨.blocked true rfl second, .inl rfl⟩
    |>.snoc ⟨.ingested rfl (show ingestAppMessage twoPipes (Buffer.filled _ 0) (whole [8, 2]) 2 =
        some (_, [], .received 1) from rfl), trivial⟩
    |>.snoc ⟨.signalled rfl (.wakes true (.wake rfl)), by
        rintro i ⟨⟩ - (_ | _) waits
        · exact absurd (show Phase.waiting (0 : Fin maxPipes) = .waiting 1 from waits) (by decide)
        · rfl⟩
  exact ⟨_, _, run.mono fun _ _ _ step => step.1, rfl, threads_wake_receivers run⟩

end SbnClient
