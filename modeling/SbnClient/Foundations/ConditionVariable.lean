import Mathlib.Logic.Function.Basic

/-!
# Threads that wait on one condition variable

A waiting thread has a key, what it waits for, which the condition variable does not
know.  A signal ends the wait of one thread, whichever, and a wait may also end by
itself: after a timeout, by an error or for no reason.  A thread whose wait has ended
still has to get the mutex before it goes on.
-/

namespace ConditionVariable

variable {Thread Key : Type*}

/-- Where a thread is between its critical sections; `status` is what its wait returns. -/
inductive Phase (Key : Type*) where
  | running
  | waiting (key : Key)
  | woken (key : Key) (status : Int)
  deriving DecidableEq, Repr

/-- What the thread waits or waited for. -/
def Phase.key? : Phase Key → Option Key
  | .running => none
  | .waiting key => some key
  | .woken key _ => some key

variable [DecidableEq Thread] {phase next : Thread → Phase Key}

/-- The wait of one thread ends. -/
inductive Wake (phase : Thread → Phase Key) (thread : Thread) (status : Int) :
    (Thread → Phase Key) → Prop where
  | wake {key : Key} (waits : phase thread = .waiting key) :
      Wake phase thread status (Function.update phase thread (.woken key status))

/-- A signal: it wakes one waiting thread, and is lost when there is none. -/
inductive Signal (phase : Thread → Phase Key) : Option Thread → (Thread → Phase Key) → Prop where
  | wakes (thread : Thread) {next : Thread → Phase Key} (wake : Wake phase thread 0 next) :
      Signal phase (some thread) next
  | lost (nobody : ∀ thread key, phase thread ≠ .waiting key) : Signal phase none phase

/-- A woken thread still goes by its key. -/
theorem Wake.key?_eq {woken : Thread} {status : Int} (wake : Wake phase woken status next)
    (thread : Thread) : (next thread).key? = (phase thread).key? := by
  cases wake with
  | wake waits =>
      by_cases same : thread = woken
      · subst same
        simp [waits, Phase.key?]
      · simp [same]

/-- All but the woken thread go on waiting, and no others. -/
theorem Wake.waiting_iff {woken : Thread} {status : Int} (wake : Wake phase woken status next)
    (thread : Thread) (key : Key) :
    next thread = .waiting key ↔ phase thread = .waiting key ∧ thread ≠ woken := by
  cases wake with
  | wake waits =>
      by_cases same : thread = woken
      · simp [same]
      · simp [same]

/-- When one thread goes on running, whoever waits has waited before. -/
theorem waiting_of_update_running {thread other : Thread} {key : Key}
    (waits : Function.update phase thread .running other = .waiting key) :
    phase other = .waiting key := by
  by_cases same : other = thread
  · simp [same] at waits
  · simpa [same] using waits

theorem Signal.key?_eq {woken : Option Thread} (signal : Signal phase woken next)
    (thread : Thread) : (next thread).key? = (phase thread).key? := by
  cases signal with
  | wakes other wake => exact wake.key?_eq thread
  | lost nobody => rfl

theorem Signal.waiting_iff {woken : Option Thread} (signal : Signal phase woken next)
    (thread : Thread) (key : Key) :
    next thread = .waiting key ↔ phase thread = .waiting key ∧ woken ≠ some thread := by
  cases signal with
  | wakes other wake =>
      rw [wake.waiting_iff]
      refine and_congr_right fun _ => ?_
      simp [eq_comm]
  | lost nobody => simp [nobody]

end ConditionVariable
