import SbnClient.Foundations.Budget
import SbnClient.Threads.Atomicity

/-!
# How long a `recv_msg` call can be

A peer may send its bytes one at a time, and other threads may run between two of them.  Every
turn of the read loops that is not the last one still takes a byte off the socket, and no more
bytes than the sixteen bits of a size field tell are taken, so that the turns of a `recv_msg`
call are bounded.  As long as it has some left, it can take the next one.
-/

namespace SbnClient

variable {P : Platform} {Thread : Type*}

/-- A bound on the turns of one `recv_msg` call, the one that enters it included. -/
def maxTurns (P : Platform) : Nat :=
  P.packedHdrSz + 65539

/-- A bound on the turns until the receive minder is back outside `recv_msg`; from the outside it
has a whole call before it. -/
def RecvPoint.turnsLeft : RecvPoint P → Nat
  | .outside => maxTurns P
  | .readingHdr _ total => P.packedHdrSz - total + 65538
  | .readingMsg msgSz _ total => msgSz.toNat - total + 1
  | .readingApp msgSz _ total => msgSz.toNat - total + 2
  | .enqueueing .. => 1
  | .signalling _ | .returning _ => 0

/-- The receive minder goes on in `recv_msg`. -/
def ConcurrentEvent.isTurn : ConcurrentEvent P Thread → Bool
  | .turned _ => true
  | _ => false

/-- A `recv_msg` call returns. -/
def ConcurrentEvent.isReturn : ConcurrentEvent P Thread → Bool
  | .recvReturned _ => true
  | _ => false

theorem turnsLeft_enterRecv (locals : RecvLocals P) :
    (enterRecv locals).turnsLeft + 1 ≤ maxTurns P := by
  rw [enterRecv, maxTurns]
  split <;> rw [RecvPoint.turnsLeft] <;> omega

/-- The `switch` has at most a payload of sixteen bits before it. -/
theorem turnsLeft_dispatch (locals : RecvLocals P) (hdr : SbnHdr) :
    (dispatch locals hdr).turnsLeft ≤ 65537 := by
  have small := hdr.msgSz.toNat_lt
  rw [dispatch]
  split
  next =>
    split
    · exact Nat.zero_le _
    · rw [RecvPoint.turnsLeft]
      omega
  next =>
    split
    next =>
      split
      · exact Nat.zero_le _
      · rw [RecvPoint.turnsLeft]
        omega
    next => exact Nat.zero_le _

/-- Every turn is one of those that were left. -/
theorem turnsLeft_recvTurn {tbl next : PipeTbl P} {socket rest : Socket} {point after : RecvPoint P}
    (ran : recvTurn tbl socket point = some (next, rest, after)) :
    after.turnsLeft + 1 ≤ point.turnsLeft := by
  cases point with
  | outside | signalling | returning => cases ran
  | readingHdr locals total =>
      obtain ⟨⟨turn, left⟩, turned, equal⟩ := Option.map_eq_some_iff.mp ran
      cases turn with
      | again buffer more =>
          cases equal
          have progress := readTurn_again turned
          rw [RecvPoint.turnsLeft, RecvPoint.turnsLeft]
          omega
      | returned status buffer =>
          cases equal
          have dispatched := turnsLeft_dispatch locals (unpackSbnHdr P buffer)
          rw [RecvPoint.turnsLeft]
          split
          · exact Nat.le_add_left ..
          · omega
  | readingMsg msgSz msg total =>
      obtain ⟨⟨turn, left⟩, turned, equal⟩ := Option.map_eq_some_iff.mp ran
      cases turn with
      | again buffer more =>
          cases equal
          have progress := readTurn_again turned
          rw [RecvPoint.turnsLeft, RecvPoint.turnsLeft]
          omega
      | returned status buffer =>
          cases equal
          exact Nat.le_add_left 1 _
  | readingApp msgSz msgBuffer total =>
      obtain ⟨⟨turn, left⟩, turned, equal⟩ := Option.map_eq_some_iff.mp ran
      cases turn with
      | again buffer more =>
          cases equal
          have progress := readTurn_again turned
          rw [RecvPoint.turnsLeft, RecvPoint.turnsLeft]
          omega
      | returned status buffer =>
          cases equal
          rw [RecvPoint.turnsLeft]
          split
          · exact Nat.le_add_left 1 _
          · exact Nat.le_add_left 2 _
  | enqueueing msgSz msgBuffer =>
      obtain ⟨⟨enqueued, result⟩, -, equal⟩ := Option.map_eq_some_iff.mp ran
      cases equal
      cases result <;> exact Nat.le_refl 1

/-- What a step of any thread takes of the turns, and what it adds. -/
theorem Concurrent.Step.turnsLeft [DecidableEq Thread] {threads after : Concurrent P Thread}
    {event : ConcurrentEvent P Thread} (step : threads.Step event after) :
    after.point.turnsLeft + event.isTurn.toNat ≤
      threads.point.turnsLeft + maxTurns P * event.isReturn.toNat := by
  cases step with
  | recvCalled locals outside =>
      rw [outside]
      exact turnsLeft_enterRecv locals
  | turned ran => exact turnsLeft_recvTurn ran
  | signalled due signal => exact Nat.zero_le _
  | recvReturned returning =>
      rw [returning]
      simp [RecvPoint.turnsLeft, ConcurrentEvent.isTurn, ConcurrentEvent.isReturn]
  | managed | refused | looked | returned | blocked | woke | resumed => exact Nat.le_refl _

/-- In every interleaving of all threads and for every way in which the peer sends its bytes,
the receive minder takes at most `maxTurns` turns for each `recv_msg` call that has returned,
and for the one that it is in.  Wherever it has come in that one, its next turn is defined. -/
theorem recv_msg_turns_bounded [DecidableEq Thread] (start : PipeTbl P) (socket : Socket)
    {trace : List (ConcurrentEvent P Thread)} {threads : Concurrent P Thread}
    (run : Machine.Run Concurrent.Step (.start start socket) trace threads) :
    threads.point.turnsLeft + trace.countP ConcurrentEvent.isTurn ≤
        maxTurns P * (trace.countP ConcurrentEvent.isReturn + 1) ∧
      (threads.point.Busy → ∃ status after, threads.Step (.turned status) after) := by
  have pays : ∀ (threads : Concurrent P Thread) event after, threads.Step event after →
      after.point.turnsLeft + event.isTurn.toNat ≤
        threads.point.turnsLeft + maxTurns P * event.isReturn.toNat :=
    fun _ _ _ step => step.turnsLeft
  have stays : ∀ (threads : Concurrent P Thread) event after,
      (threads.point = .outside ∨ threads.point.InRange) → threads.Step event after →
      after.point = .outside ∨ after.point.InRange :=
    fun _ _ _ inRange step => step.inRange inRange
  refine ⟨?_, fun busy => ?_⟩
  · rw [Nat.mul_succ, Nat.add_comm (maxTurns P * _)]
    exact run.budget pays
  · exact Concurrent.exists_turned (run.stable stays (.inl rfl)).2 busy

/-- The receive minder has two bytes of a header and waits for the others. -/
theorem midHeader_turns_bounded :
    ∃ (trace : List (ConcurrentEvent (standardPlatform 64) Unit))
      (threads : Concurrent (standardPlatform 64) Unit), trace.length = 2 ∧
      threads.point.Busy ∧
      threads.point.turnsLeft + trace.countP ConcurrentEvent.isTurn ≤
        maxTurns (standardPlatform 64) * (trace.countP ConcurrentEvent.isReturn + 1) ∧
      ∃ status after, threads.Step (.turned status) after := by
  have run := Machine.Run.refl
    |>.snoc (show @Concurrent.Step _ Unit _
        (.start (initPipeTbl (zeroPipeTbl (standardPlatform 64))) frameInPieces) (.turned none) _
        from .recvCalled (zeroLocals _) rfl)
    |>.snoc (.turned rfl)
  obtain ⟨bounded, goesOn⟩ := recv_msg_turns_bounded _ _ run
  refine ⟨_, _, rfl, ?_, bounded, goesOn ?_⟩
  · trivial
  · trivial

end SbnClient
