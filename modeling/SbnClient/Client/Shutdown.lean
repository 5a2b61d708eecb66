import SbnClient.Client.Liveness
import SbnClient.Foundations.Budget
import SbnClient.Model.Heartbeats

/-!
# A shutdown is final

A receive minder that has seen five failures in a row stops the heartbeats and all receive
minders, those that are running and those that are started later.  What is under way ends:
every receive minder returns from the `recv_msg` call that it is in, if any, and looks at
nothing else that the server sends, and a heartbeat minder that has looked at its flag before
still sends one heartbeat.
-/

namespace SbnClient

variable {P : Platform} {process after : Process P} {beating next : Beating P}
  {event : BeatingEvent P}

/-- Both continue flags are clear. -/
def Process.Stopped (process : Process P) : Prop :=
  process.client.flags = ⟨false, false⟩

/-- Steps that a receive minder still takes before it returns, when the flags are clear. -/
def MinderPhase.owed : MinderPhase → Nat
  | .receiving _ => 2
  | .checking _ => 1
  | .returned => 0

/-- Steps that a heartbeat minder still takes. -/
def HeartPhase.owed : HeartPhase → Nat
  | .sending => 2
  | .checking => 1
  | .returned => 0

/-- Steps that all minders together still take. -/
def Beating.owed (beating : Beating P) : Nat :=
  (beating.hearts.map HeartPhase.owed).sum +
    (beating.process.client.receiveMinders.map MinderPhase.owed).sum

/-- The minder is in a `recv_msg` call. -/
def MinderPhase.receives : MinderPhase → Bool
  | .receiving _ => true
  | _ => false

/-- The minder is between its test and its heartbeat. -/
def HeartPhase.sends : HeartPhase → Bool
  | .sending => true
  | _ => false

/-- The receive minder with this number is in a `recv_msg` call. -/
def Beating.receivesIn (beating : Beating P) (minder : Nat) : Bool :=
  beating.process.client.receiveMinders[minder]?.any MinderPhase.receives

/-- The heartbeat minder with this number is about to send. -/
def Beating.sendsFrom (beating : Beating P) (heart : Nat) : Bool :=
  beating.hearts[heart]?.any HeartPhase.sends

/-- The receive minder's `recv_msg` call returns. -/
def BeatingEvent.receivesIn (minder : Nat) : BeatingEvent P → Bool
  | .took (.received other _) => other = minder
  | _ => false

/-- The heartbeat minder sends its heartbeat. -/
def BeatingEvent.sendsFrom (heart : Nat) : BeatingEvent P → Bool
  | .sent other _ => other = heart
  | _ => false

/-- A minder takes a step. -/
def BeatingEvent.isMinders : BeatingEvent P → Bool
  | .took (.checked _) | .took (.received ..) => true
  | .took _ => false
  | .tested _ | .sent .. | .returned _ => true

/-- A minder is started. -/
def BeatingEvent.starts : BeatingEvent P → Bool
  | .took (.heartCreated status) | .took (.receiveCreated status) => status = 0
  | _ => false

/-! ## The process behind -/

/-- A heartbeat minder that has not returned. -/
def HeartPhase.runs : HeartPhase → Nat
  | .checking | .sending => 1
  | .returned => 0

/-- The process counts the heartbeat minders. -/
def Beating.Counted (beating : Beating P) : Prop :=
  beating.process.client.heartMinders = (beating.hearts.map HeartPhase.runs).sum

/-- A step of the process, but for that of a heartbeat minder, starts the minders that the
process counts. -/
theorem heartMinders_step {event : ProcessEvent P} (ofOthers : event.OfOthers)
    (step : process.Step event after) : after.client.heartMinders =
      process.client.heartMinders + (event.newHearts.map HeartPhase.runs).sum := by
  cases step with
  | heartCreated status =>
      rw [Client.createHeartMinder, ProcessEvent.newHearts]
      split <;> rfl
  | receiveCreated status =>
      rw [Client.createReceiveMinder]
      split <;> rfl
  | beat | heartReturned => exact ofOthers.elim
  | connected | initReturned | called | checked | received => rfl

/-- Seen as a process, each step is a step of it or none. -/
theorem Beating.Counted.step (counted : beating.Counted) (step : beating.Step event next) :
    Machine.Run Process.Step beating.process event.observed next.process ∧ next.Counted := by
  cases step with
  | took step ofOthers =>
      refine ⟨.single step, ?_⟩
      rw [Beating.Counted, heartMinders_step ofOthers step, counted, List.map_append,
        List.sum_append]
  | @tested heart checking continues =>
      have replaced := Machine.sum_map_set HeartPhase.runs checking .sending
      have one := Machine.sum_map_set HeartPhase.runs checking .returned
      simp only [Beating.Counted, HeartPhase.runs] at counted replaced one ⊢
      exact ⟨.single (.beat (by omega) continues), by omega⟩
  | @sent heart sending =>
      have replaced := Machine.sum_map_set HeartPhase.runs sending .checking
      simp only [Beating.Counted, HeartPhase.runs] at counted replaced ⊢
      exact ⟨.refl, by omega⟩
  | @returned heart checking stops =>
      have replaced := Machine.sum_map_set HeartPhase.runs checking .returned
      simp only [Beating.Counted, HeartPhase.runs] at counted replaced ⊢
      exact ⟨.single (.heartReturned (by omega) stops), by omega⟩

/-- A run in which the heartbeat minders test and send is one of the process. -/
theorem run_process (tbl : PipeTbl P) {trace : List (BeatingEvent P)}
    (run : Machine.Run Beating.Step (.start tbl) trace beating) :
    Machine.Run Process.Step (.start tbl) (trace.flatMap BeatingEvent.observed)
      beating.process := by
  have matched : ∀ (beating : Beating P) event next process,
      beating.Counted ∧ beating.process = process → beating.Step event next →
      ∃ after, Machine.Run Process.Step process event.observed after ∧
        next.Counted ∧ next.process = after := by
    rintro beating event next _ ⟨counted, rfl⟩ step
    obtain ⟨ran, countedNext⟩ := counted.step step
    exact ⟨_, ran, countedNext, rfl⟩
  obtain ⟨after, ran, -, rfl⟩ := run.simulates matched ⟨rfl, rfl⟩
  exact ran

/-! ## One step -/

/-- Nothing sets the flags again. -/
theorem Process.Stopped.step (stopped : process.Stopped) {event : ProcessEvent P}
    (step : process.Step event after) : after.Stopped := by
  cases step with
  | connected | initReturned | called | checked | beat | heartReturned => exact stopped
  | heartCreated => simpa [Process.Stopped] using stopped
  | receiveCreated => simpa [Process.Stopped] using stopped
  | received receiving ran =>
      rw [Process.Stopped, checkErrorCount]
      split
      · rfl
      · exact stopped

theorem Beating.Step.stopped (step : beating.Step event next)
    (stopped : beating.process.Stopped) : next.process.Stopped := by
  cases step with
  | took step ofOthers => exact stopped.step step
  | tested | sent | returned => exact stopped

/-- No heartbeat minder gets past its test. -/
theorem Beating.Step.ne_tested (step : beating.Step event next)
    (stopped : beating.process.Stopped) (heart : Nat) : event ≠ .tested heart := by
  rintro rfl
  cases step with
  | tested checking continues =>
      rw [stopped] at continues
      cases continues

/-- A minder that is started is before its test. -/
theorem sends_newHearts (event : ProcessEvent P) :
    ∀ phase ∈ event.newHearts, phase.sends = false := by
  cases event with
  | heartCreated status =>
      rw [ProcessEvent.newHearts]
      split
      · exact List.forall_mem_singleton.mpr rfl
      · exact List.forall_mem_nil _
  | _ => exact List.forall_mem_nil _

/-- The heartbeats of a minder that cannot get past its test any more. -/
theorem Beating.Step.sendsFrom (step : beating.Step event next)
    (stopped : beating.process.Stopped) (heart : Nat) :
    (next.sendsFrom heart).toNat + (event.sendsFrom heart).toNat ≤
      (beating.sendsFrom heart).toNat := by
  cases step with
  | took step ofOthers =>
      rw [Beating.sendsFrom, Machine.any_getElem?_append (sends_newHearts _)]
      exact Nat.le_refl _
  | tested checking continues =>
      rw [stopped] at continues
      cases continues
  | @sent other sending =>
      rw [Beating.sendsFrom, Machine.any_getElem?_set _ sending, BeatingEvent.sendsFrom]
      by_cases same : other = heart
      · subst same
        simp [Beating.sendsFrom, sending, HeartPhase.sends]
      · simp [same, Beating.sendsFrom]
  | @returned other checking stops =>
      rw [Beating.sendsFrom, Machine.any_getElem?_set _ checking]
      split
      · exact Nat.zero_le _
      · exact Nat.le_refl _

/-- No receive minder enters `recv_msg` any more. -/
theorem Beating.Step.receivesIn (step : beating.Step event next)
    (stopped : beating.process.Stopped) (minder : Nat) :
    (next.receivesIn minder).toNat + (event.receivesIn minder).toNat ≤
      (beating.receivesIn minder).toNat := by
  have receiveCheck : beating.process.client.flags.receiveCheck = false := by rw [stopped]
  cases step with
  | tested | sent | returned => exact Nat.le_refl _
  | took step ofOthers =>
      cases step with
      | connected | initReturned | called => exact Nat.le_refl _
      | beat | heartReturned => exact ofOthers.elim
      | heartCreated status =>
          rw [Beating.receivesIn, receiveMinders_createHeartMinder]
          exact Nat.le_refl _
      | receiveCreated status =>
          obtain ⟨started, minders, zero⟩ :=
            receiveMinders_createReceiveMinder beating.process.client status
          rw [Beating.receivesIn, minders, Machine.any_getElem?_append]
          · exact Nat.le_refl _
          · intro phase isStarted
            rw [zero phase isStarted]
            rfl
      | @checked moved count checking =>
          rw [Beating.receivesIn, Machine.any_getElem?_set _ checking, receiveCheck]
          split
          · exact Nat.zero_le _
          · exact Nat.le_refl _
      | @received moved count locals socket received receiving ran =>
          rw [Beating.receivesIn, Machine.any_getElem?_set _ receiving, BeatingEvent.receivesIn]
          by_cases same : moved = minder
          · subst same
            simp [Beating.receivesIn, receiving, MinderPhase.receives]
          · simp [same, Beating.receivesIn]

/-- Once the flags are clear, the steps that minders take use up what they owe. -/
theorem Beating.Step.owed (step : beating.Step event next)
    (stopped : beating.process.Stopped) :
    next.owed + event.isMinders.toNat ≤ beating.owed + 1 * event.starts.toNat := by
  have receiveCheck : beating.process.client.flags.receiveCheck = false := by rw [stopped]
  cases step with
  | tested checking continues =>
      rw [stopped] at continues
      cases continues
  | @sent heart sending =>
      have replaced := Machine.sum_map_set HeartPhase.owed sending .checking
      simp only [Beating.owed, BeatingEvent.isMinders, BeatingEvent.starts, HeartPhase.owed,
        Bool.toNat_true, Bool.toNat_false] at replaced ⊢
      omega
  | @returned heart checking stops =>
      have replaced := Machine.sum_map_set HeartPhase.owed checking .returned
      simp only [Beating.owed, BeatingEvent.isMinders, BeatingEvent.starts, HeartPhase.owed,
        Bool.toNat_true, Bool.toNat_false] at replaced ⊢
      omega
  | took step ofOthers =>
      cases step with
      | connected | initReturned | called =>
          simp [Beating.owed, ProcessEvent.newHearts, BeatingEvent.isMinders, Client.connect]
      | beat | heartReturned => exact ofOthers.elim
      | heartCreated status =>
          by_cases created : status = 0
          · simp [created, Beating.owed, ProcessEvent.newHearts, BeatingEvent.isMinders,
              BeatingEvent.starts, HeartPhase.owed]
            omega
          · simp [created, Beating.owed, ProcessEvent.newHearts, BeatingEvent.isMinders]
      | receiveCreated status =>
          by_cases created : status = 0
          · simp [created, Beating.owed, ProcessEvent.newHearts, BeatingEvent.isMinders,
              BeatingEvent.starts, MinderPhase.owed, Client.createReceiveMinder]
            omega
          · simp [created, Beating.owed, ProcessEvent.newHearts, BeatingEvent.isMinders,
              Client.createReceiveMinder]
      | @checked minder count checking =>
          have replaced := Machine.sum_map_set MinderPhase.owed checking .returned
          simp only [Beating.owed, ProcessEvent.newHearts, List.append_nil, receiveCheck,
            Bool.false_eq_true, ↓reduceIte, BeatingEvent.isMinders, BeatingEvent.starts,
            MinderPhase.owed, Bool.toNat_true, Bool.toNat_false] at replaced ⊢
          omega
      | @received minder count locals socket received receiving ran =>
          have replaced := Machine.sum_map_set MinderPhase.owed receiving
            (.checking (countError count received.status))
          simp only [Beating.owed, ProcessEvent.newHearts, List.append_nil,
            BeatingEvent.isMinders, BeatingEvent.starts, MinderPhase.owed, Bool.toNat_true,
            Bool.toNat_false] at replaced ⊢
          omega

/-! ## Runs -/

/-- Once a receive minder has given up, the flags stay clear for ever, whatever the application
does and however often it initialises the client again.  No heartbeat minder gets past its test
any more, and each that has passed it before sends at most one heartbeat.  A receive minder that
is inside `recv_msg` comes back from it at most once and no other one enters it, and all minders
together take no more steps than it needs for each of them to return. -/
theorem shutdown_is_final (tbl : PipeTbl P) {trace later : List (BeatingEvent P)}
    {final : Beating P} (run : Machine.Run Beating.Step (.start tbl) trace beating)
    (gaveUp : GaveUp (trace.flatMap BeatingEvent.observed))
    (continued : Machine.Run Beating.Step beating later final) :
    final.process.Stopped ∧ (∀ heart, .tested heart ∉ later) ∧
      (∀ heart, later.countP (BeatingEvent.sendsFrom heart) ≤ (beating.sendsFrom heart).toNat) ∧
      (∀ minder, later.countP (BeatingEvent.receivesIn minder) ≤
        (beating.receivesIn minder).toNat) ∧
      later.countP BeatingEvent.isMinders ≤
        beating.owed + later.countP BeatingEvent.starts := by
  have stopped : beating.process.Stopped :=
    (accountable_run tbl (run_process tbl run)).cleared gaveUp
  have stable : ∀ (beating : Beating P) (event : BeatingEvent P) next,
      beating.process.Stopped → beating.Step event next → next.process.Stopped :=
    fun _ _ _ stopped step => step.stopped stopped
  obtain ⟨under, stays⟩ := continued.stable stable stopped
  refine ⟨stays, fun heart tests => ?_, fun heart => ?_, fun minder => ?_, ?_⟩
  · exact under.each (fun _ _ _ guarded => guarded.1.ne_tested guarded.2 heart) _ tests rfl
  · have pays : ∀ (beating : Beating P) (event : BeatingEvent P) next,
        beating.process.Stopped → beating.Step event next →
        (next.sendsFrom heart).toNat + (event.sendsFrom heart).toNat ≤
          (beating.sendsFrom heart).toNat :=
      fun _ _ _ stopped step => step.sendsFrom stopped heart
    exact continued.countP_le stable pays stopped
  · have pays : ∀ (beating : Beating P) (event : BeatingEvent P) next,
        beating.process.Stopped → beating.Step event next →
        (next.receivesIn minder).toNat + (event.receivesIn minder).toNat ≤
          (beating.receivesIn minder).toNat :=
      fun _ _ _ stopped step => step.receivesIn stopped minder
    exact continued.countP_le stable pays stopped
  · have pays : ∀ (beating : Beating P) (event : BeatingEvent P) next,
        Machine.Guarded Beating.Step (fun beating _ => beating.process.Stopped)
          beating event next →
        next.owed + event.isMinders.toNat ≤ beating.owed + 1 * event.starts.toNat :=
      fun _ _ _ guarded => guarded.1.owed guarded.2
    have spent := under.budget pays
    omega

/-- The server closes the connection while a heartbeat minder is past its test, and the
application initialises the client again. -/
theorem reinitialised_client_stopped :
    ∃ (beating final : Beating (standardPlatform 64)) (later : List (BeatingEvent _)),
      .sent 0 3 ∈ later ∧ .took (.initReturned .success) ∈ later ∧
      Machine.Run Beating.Step beating later final ∧
      final.process.Stopped ∧ (∀ heart, .tested heart ∉ later) ∧
      (∀ heart, later.countP (BeatingEvent.sendsFrom heart) ≤ (beating.sendsFrom heart).toNat) ∧
      (∀ minder, later.countP (BeatingEvent.receivesIn minder) ≤
        (beating.receivesIn minder).toNat) ∧
      later.countP BeatingEvent.isMinders ≤
        beating.owed + later.countP BeatingEvent.starts := by
  have run := Machine.Run.refl
    |>.snoc (show Beating.Step (.start (zeroPipeTbl (standardPlatform 64)))
        (.took (.connected ⟨3, 1, 0⟩)) _ from .took (.connected _ rfl) trivial)
    |>.snoc (.took (.heartCreated 0 rfl) trivial)
    |>.snoc (.took (.receiveCreated 0 rfl) trivial)
    |>.snoc (.took (.initReturned .success rfl) trivial)
    |>.snoc (@Beating.Step.tested _ _ 0 rfl rfl)
    |>.snoc (.took (@Process.Step.checked _ _ 0 0 rfl) trivial)
    |>.snoc (.took (@Process.Step.received _ _ 0 0 (zeroLocals _) [] _ rfl rfl) trivial)
    |>.snoc (.took (@Process.Step.checked _ _ 0 1 rfl) trivial)
    |>.snoc (.took (@Process.Step.received _ _ 0 1 (zeroLocals _) [] _ rfl rfl) trivial)
    |>.snoc (.took (@Process.Step.checked _ _ 0 2 rfl) trivial)
    |>.snoc (.took (@Process.Step.received _ _ 0 2 (zeroLocals _) [] _ rfl rfl) trivial)
    |>.snoc (.took (@Process.Step.checked _ _ 0 3 rfl) trivial)
    |>.snoc (.took (@Process.Step.received _ _ 0 3 (zeroLocals _) [] _ rfl rfl) trivial)
    |>.snoc (.took (@Process.Step.checked _ _ 0 4 rfl) trivial)
    |>.snoc (.took (@Process.Step.received _ _ 0 4 (zeroLocals _) [] _ rfl rfl) trivial)
  obtain ⟨beating, final, trace, later, run, gaveUp, continued, sends, succeeds⟩ :
      ∃ (beating final : Beating (standardPlatform 64)) (trace later : List (BeatingEvent _)),
        Machine.Run Beating.Step (.start (zeroPipeTbl (standardPlatform 64))) trace beating ∧
        GaveUp (trace.flatMap BeatingEvent.observed) ∧
        Machine.Run Beating.Step beating later final ∧
        .sent 0 3 ∈ later ∧ .took (.initReturned .success) ∈ later :=
    ⟨_, _, _, _, run, ⟨0, 15, [], _, rfl, rfl, by decide⟩,
      Machine.Run.refl
        |>.snoc (@Beating.Step.sent _ _ 0 rfl)
        |>.snoc (.took (.connected ⟨4, 1, 0⟩ rfl) trivial)
        |>.snoc (.took (.heartCreated 0 rfl) trivial)
        |>.snoc (.took (.receiveCreated 0 rfl) trivial)
        |>.snoc (.took (.initReturned .success rfl) trivial)
        |>.snoc (@Beating.Step.returned _ _ 1 rfl rfl),
      List.mem_of_getElem? (i := 0) rfl, List.mem_of_getElem? (i := 4) rfl⟩
  exact ⟨beating, final, later, sends, succeeds, continued,
    shutdown_is_final _ run gaveUp continued⟩

end SbnClient
