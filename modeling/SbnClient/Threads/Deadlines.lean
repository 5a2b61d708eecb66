import SbnClient.Registry.FirstPipe
import SbnClient.Threads.Steps

/-!
# When a timed receive may time out

`__wrap_CFE_SB_RcvMsg` adds its timeout to the time of `CLOCK_MONOTONIC` at its entry, and
hands the sum to `pthread_cond_timedwait`.  `received_condition` has the default attributes,
so the deadline is compared with `CLOCK_REALTIME`.  The two clocks advance together at a
fixed offset; a moment is the number of nanoseconds that `CLOCK_MONOTONIC` shows.
-/

namespace SbnClient

variable {P : Platform} {tbl : PipeTbl P} {bufPtr : Bool} {pipeId : UInt8} {timeOut offset : Int}
  {enterTime : Timespec} {env : RcvEnv P}

namespace Timespec

/-- The time in nanoseconds. -/
def nanoseconds (time : Timespec) : Int :=
  time.sec * 10 ^ 9 + time.nsec

/-- The nanoseconds are less than a second. -/
structure Normalised (time : Timespec) : Prop where
  nsec_ge : 0 ≤ time.nsec
  nsec_lt : time.nsec < 10 ^ 9

end Timespec

/-- The moment at which a call entered at `enterTime` has waited for its timeout. -/
def expiry (enterTime : Timespec) (timeOut : Int) : Int :=
  enterTime.nanoseconds + timeOut * 10 ^ 6

/-- The wait of the call reports `ETIMEDOUT` only for a deadline that `CLOCK_REALTIME`, which is
`offset` ahead of `CLOCK_MONOTONIC`, has reached at `now`. -/
def ReportsTimeouts (tbl : PipeTbl P) (bufPtr : Bool) (pipeId : UInt8) (timeOut : Int)
    (env : RcvEnv P) (offset now : Int) : Prop :=
  ∀ pipe deadline, rcvBegin tbl bufPtr pipeId timeOut env = some (.waits pipe deadline) →
    env.waitMutexStatus = P.etimedout →
      ∃ time, deadline = some time ∧ time.nanoseconds ≤ now + offset

/-- The deadline is well formed and not before the expiry of the timeout on the clock that it
is compared with, and no call returns `CFE_SB_TIME_OUT` before that. -/
structure NeverEarly (P : Platform) (enterTime : Timespec) (timeOut offset : Int) : Prop where
  normalised : (futureTimeout enterTime timeOut).Normalised
  notBefore : expiry enterTime timeOut + offset ≤ (futureTimeout enterTime timeOut).nanoseconds
  waited : ∀ (tbl : PipeTbl P) bufPtr pipeId env result now, env.enterTime = enterTime →
    ReportsTimeouts tbl bufPtr pipeId timeOut env offset now →
    rcvMsg tbl bufPtr pipeId timeOut env = some result → result.status = .timeOut →
      expiry enterTime timeOut ≤ now

/-! ## The deadline -/

/-- What the deadline gains where a second that is carried over is truncated towards zero from
below: a second before the zero of the clock. -/
def truncationGain (enterTime : Timespec) (timeOut : Int) : Int :=
  if 10 ^ 9 ≤ enterTime.nsec + timeOut * 10 ^ 6 ∧ expiry enterTime timeOut < 0 ∧
      ¬ (10 ^ 9 : Int) ∣ expiry enterTime timeOut then
    10 ^ 9
  else
    0

theorem normalised_futureTimeout (entered : enterTime.Normalised) (positive : 1 ≤ timeOut) :
    (futureTimeout enterTime timeOut).Normalised := by
  have nonneg : 0 ≤ enterTime.nsec + timeOut * 10 ^ 6 := by
    have := entered.nsec_ge
    omega
  rw [futureTimeout]
  split
  next => exact ⟨Int.tmod_nonneg _ nonneg, Int.tmod_lt_of_pos _ (by decide)⟩
  next within => exact ⟨nonneg, Int.not_le.mp within⟩

/-- Truncation towards zero is floor division, but for a negative number that is not a
multiple. -/
theorem tdiv_mul_add_emod (target : Int) :
    target.tdiv (10 ^ 9) * 10 ^ 9 + target % 10 ^ 9 =
      target + if target < 0 ∧ ¬ (10 ^ 9 : Int) ∣ target then 10 ^ 9 else 0 := by
  have floor := Int.ediv_mul_add_emod target (10 ^ 9)
  rw [Int.tdiv_eq_ediv]
  by_cases upwards : target < 0 ∧ ¬ (10 ^ 9 : Int) ∣ target
  · have truncates : ¬ (0 ≤ target ∨ (10 ^ 9 : Int) ∣ target) := by
      rw [not_or, Int.not_le]
      exact upwards
    rw [if_pos upwards, if_neg truncates, Int.sign_eq_one_of_pos (by decide)]
    omega
  · have exact : 0 ≤ target ∨ (10 ^ 9 : Int) ∣ target := by
      rw [← Int.not_lt]
      exact (not_and_or.mp upwards).imp_right not_not.mp
    rw [if_neg upwards, if_pos exact]
    omega

theorem nanoseconds_futureTimeout (enterTime : Timespec) (timeOut : Int) :
    (futureTimeout enterTime timeOut).nanoseconds =
      expiry enterTime timeOut + truncationGain enterTime timeOut := by
  have target : expiry enterTime timeOut =
      enterTime.sec * 10 ^ 9 + (enterTime.nsec + timeOut * 10 ^ 6) := by
    rw [expiry, Timespec.nanoseconds, Int.add_assoc]
  rw [futureTimeout, truncationGain]
  by_cases carries : 10 ^ 9 ≤ enterTime.nsec + timeOut * 10 ^ 6
  · have remainder : (enterTime.nsec + timeOut * 10 ^ 6).tmod (10 ^ 9) =
        expiry enterTime timeOut % 10 ^ 9 := by
      rw [Int.tmod_eq_emod_of_nonneg (by omega), target, Int.mul_add_emod_self_right]
    simp only [Timespec.nanoseconds, remainder, ← target, carries, true_and]
    exact tdiv_mul_add_emod _
  · simp only [carries, false_and, ↓reduceIte, Timespec.nanoseconds, target]
    omega

/-! ## The call -/

/-- Before its wait a call does not time out. -/
theorem rcvBegin_returned_ne_timeOut {result : RcvResult P}
    (began : rcvBegin tbl bufPtr pipeId timeOut env = some (.returned result)) :
    result.status ≠ .timeOut := by
  intro timedOut
  rcases rcvBegin_cases began with refused | ⟨k, -, locked⟩
  · cases refused
    cases timedOut
  · rcases rcvLocked_returned locked with rfl | rfl | ⟨-, rfl⟩
    · cases timedOut
    · rw [status_rcvFinish] at timedOut
      split at timedOut <;> cases timedOut
    · rw [status_rcvFinish] at timedOut
      split at timedOut <;> cases timedOut

/-- A call that times out has waited, with the deadline of its timeout. -/
theorem rcvMsg_timeOut {result : RcvResult P}
    (ran : rcvMsg tbl bufPtr pipeId timeOut env = some result)
    (timedOut : result.status = .timeOut) :
    ∃ pipe deadline, rcvBegin tbl bufPtr pipeId timeOut env = some (.waits pipe deadline) ∧
      env.waitMutexStatus = P.etimedout ∧
        ∀ time, deadline = some time → time = futureTimeout env.enterTime timeOut := by
  obtain ⟨begun, began, finished⟩ := Option.map_eq_some_iff.mp ran
  cases begun with
  | returned returned =>
      obtain rfl : returned = result := finished
      exact absurd timedOut (rcvBegin_returned_ne_timeOut began)
  | waits pipe deadline =>
      subst finished
      rw [status_rcvFinish] at timedOut
      split at timedOut
      next =>
        refine ⟨pipe, deadline, began, (waitResult_eq_timeOut_iff P _).mp timedOut, ?_⟩
        rintro time rfl
        rcases rcvBegin_cases began with refused | ⟨k, -, locked⟩
        · cases refused
        · have passed := (rcvAction_eq_wait_iff.mp (rcvLocked_eq_waits_iff.mp locked).2.2).2.2
          split at passed
          next => cases passed
          next => exact Option.some.inj passed
      next => cases timedOut

/-- A timed receive never times out early exactly when `CLOCK_REALTIME` is not ahead of
`CLOCK_MONOTONIC` by more than the deadline has gained. -/
theorem neverEarly_iff (P : Platform) (entered : enterTime.Normalised) (positive : 1 ≤ timeOut) :
    NeverEarly P enterTime timeOut offset ↔ offset ≤ truncationGain enterTime timeOut := by
  have deadline := nanoseconds_futureTimeout enterTime timeOut
  constructor
  · intro never
    have notBefore := never.notBefore
    omega
  · intro within
    refine ⟨normalised_futureTimeout entered positive, by omega, ?_⟩
    intro tbl bufPtr pipeId env result now atEntry reports ran timedOut
    obtain ⟨pipe, passed, waits, reported, isDeadline⟩ := rcvMsg_timeOut ran timedOut
    obtain ⟨time, rfl, reached⟩ := reports pipe passed waits reported
    rw [isDeadline time rfl, atEntry, deadline] at reached
    omega

/-- Clocks that show the same. -/
theorem same_clocks_neverEarly :
    NeverEarly (standardPlatform 32768) ⟨100, 999999999⟩ 1 0 ↔
      0 ≤ truncationGain ⟨100, 999999999⟩ 1 :=
  neverEarly_iff _ ⟨by decide, by decide⟩ (by decide)

/-- A `RcvMsg` call with a timeout of one second, entered 100 seconds after the system was
started and more than fifty years after 1970, whose wait reports `ETIMEDOUT`. -/
def timedEnv (P : Platform) : RcvEnv P :=
  ⟨⟨100, 0⟩, 0, P.etimedout, id, 0⟩

/-- The deadline has passed when the call is entered, and it times out at once. -/
theorem timed_receive_early :
    let tbl := subscribedPipe (zeroPipeTbl (standardPlatform 32768)) [0x41] 0x0801
    let offset : Int := 1700000000 * 10 ^ 9
    let now : Int := (timedEnv (standardPlatform 32768)).enterTime.nanoseconds
    Reachable tbl ∧ futureTimeout ⟨100, 0⟩ 1000 = ⟨101, 0⟩ ∧
      ReportsTimeouts tbl true 0 1000 (timedEnv _) offset now ∧
      (∃ result, rcvMsg tbl true 0 1000 (timedEnv _) = some result ∧ result.status = .timeOut) ∧
      now < expiry ⟨100, 0⟩ 1000 ∧ ¬ NeverEarly (standardPlatform 32768) ⟨100, 0⟩ 1000 offset := by
  intro tbl offset now
  have reachable : Reachable tbl := reachable_subscribedPipe _ _ _
  have used : (tbl 0).inUse = inUse := inUse_subscribedPipe _ _ _
  have empty : (tbl 0).numberOfMessages < 2 := by
    rw [numberOfMessages_subscribedPipe]
    decide
  have waiting : rcvLocked tbl 0 1000 (timedEnv _) = .waits 0 (some ⟨101, 0⟩) :=
    rcvLocked_eq_waits_iff.mpr ⟨rfl, rfl, rcvAction_eq_wait_iff.mpr ⟨empty, by decide, rfl⟩⟩
  have began := rcvBegin_indexId reachable.registry true 0 1000 (timedEnv _)
  rw [if_pos ⟨rfl, by decide, used⟩, waiting] at began
  refine ⟨reachable, rfl, ?_, ⟨_, by rw [rcvMsg, show (0 : UInt8) = indexId 0 from rfl, began]; rfl,
    ?_⟩, by decide, fun never => absurd never.notBefore (by decide)⟩
  · intro pipe deadline beganAgain reported
    cases began.symm.trans beganAgain
    exact ⟨_, rfl, by decide⟩
  · have unlocked : (timedEnv (standardPlatform 32768)).unlockMutexStatus = 0 := rfl
    rw [status_rcvFinish, if_pos unlocked]
    exact (waitResult_eq_timeOut_iff _ _).mpr rfl

end SbnClient
