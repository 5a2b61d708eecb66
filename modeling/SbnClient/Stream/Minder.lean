import SbnClient.Foundations.FailureRuns
import SbnClient.Model.Minders
import SbnClient.Model.StandardPlatform
import SbnClient.Registry.Steps
import SbnClient.Stream.Receiver

/-!
# The receive minder gives up

On a stream that ends, every `recv_msg` call takes at least a header's worth of bytes until
no whole header is left.  From then on every call fails, and the fifth failure in a row ends
the minder.
-/

namespace SbnClient

open FailureRuns SegmentedInput

variable {P : Platform}

/-! ## Progress of one call -/

/-- No whole header can be read any more. -/
def Stuck (P : Platform) (stream : List UInt8) : Prop :=
  P.maxMessageSize < P.packedHdrSz ∨ stream.length < P.packedHdrSz

instance (stream : List UInt8) : Decidable (Stuck P stream) :=
  inferInstanceAs (Decidable (_ ∨ _))

/-- `ingest_app_message` takes from the socket what its read takes. -/
theorem ingestAppMessage_rest {tbl next : PipeTbl P} {msgBuffer filled : Buffer P.maxMessageSize}
    {socket left rest : Socket} {msgSz : UInt16} {result : IngestResult} {status : Status}
    (ingested : ingestAppMessage tbl msgBuffer socket msgSz = some (next, left, result))
    (ran : readBytes P socket msgBuffer msgSz.toNat = some (status, filled, rest)) :
    left = rest := by
  simp only [ingestAppMessage, ran, Option.bind_some] at ingested
  split at ingested
  · cases ingested
    rfl
  · obtain ⟨outcome, enqueued, equal⟩ := Option.map_eq_some_iff.mp ingested
    cases equal
    rfl

/-- What follows the header in a call leaves no more than it found. -/
theorem recvPayload_endsInClose (tbl : PipeTbl P) (locals : RecvLocals P) (hdr : SbnHdr)
    {socket : Socket} (ends : EndsInClose socket) :
    ∃ received, recvPayload tbl locals hdr socket = some received ∧
      EndsInClose received.socket ∧
      (available received.socket).length ≤ (available socket).length := by
  have shrinks := length_unreadAfter_le P hdr.msgSz.toNat (available socket)
  rw [recvPayload]
  split
  · obtain ⟨⟨status, filled, rest⟩, ran, reads⟩ :=
      exists_readsExactly (fun accepted => accepted) (toNat_le_intMax hdr.msgSz) ends locals.msg
    rw [← reads.unread_eq] at shrinks
    rw [ran]
    exact ⟨_, rfl, reads.endsInClose, shrinks⟩
  · split
    · obtain ⟨⟨status, filled, rest⟩, ran, reads⟩ := exists_readsExactly
        (fun accepted => accepted) (toNat_le_intMax hdr.msgSz) ends locals.msgBuffer
      obtain ⟨⟨next, left, result⟩, ingested, -⟩ :=
        arrivalStep_ingestAppMessage tbl locals.msgBuffer socket hdr.msgSz
      obtain rfl := ingestAppMessage_rest ingested ran
      rw [← reads.unread_eq] at shrinks
      rw [ingested]
      exact ⟨_, rfl, reads.endsInClose, shrinks⟩
    · exact ⟨_, rfl, ends, Nat.le_refl _⟩

/-- The read of the header succeeds just when a whole header is left. -/
theorem readStatus_packedHdrSz_iff (stream : List UInt8) :
    readStatus P P.packedHdrSz stream = .success ↔ ¬ Stuck P stream := by
  rw [readStatus, Stuck]
  split
  next tooLarge => simp [tooLarge]
  next accepted =>
    split
    next complete => simp [accepted, complete]
    next short => simpa [accepted] using short

/-- With no whole header left the call fails, and so will the next one. -/
theorem recvMsg_stuck (tbl : PipeTbl P) (locals : RecvLocals P) {socket : Socket}
    (ends : EndsInClose socket) (stuck : Stuck P (available socket)) :
    ∃ received, recvMsg tbl locals socket = some received ∧ received.status ≠ .success ∧
      EndsInClose received.socket ∧ Stuck P (available received.socket) := by
  obtain ⟨⟨status, filled, rest⟩, ran, reads⟩ := exists_readsExactly (P := P)
    (fun _ => Nat.le_refl P.packedHdrSz) (packedHdrSz_le_intMax P) ends locals.sbnHdrBuffer
  have failed : status ≠ .success := fun success =>
    (readStatus_packedHdrSz_iff _).mp (reads.status_eq.symm.trans success) stuck
  have shrinks := length_unreadAfter_le P P.packedHdrSz (available socket)
  rw [← reads.unread_eq] at shrinks
  exact ⟨⟨status, tbl, rest⟩, by simp [recvMsg, ran, failed], failed, reads.endsInClose,
    stuck.imp_right shrinks.trans_lt⟩

/-- Otherwise the call takes at least a header. -/
theorem recvMsg_progress (tbl : PipeTbl P) (locals : RecvLocals P) {socket : Socket}
    (ends : EndsInClose socket) (unstuck : ¬ Stuck P (available socket)) :
    ∃ received, recvMsg tbl locals socket = some received ∧ EndsInClose received.socket ∧
      (available received.socket).length + P.packedHdrSz ≤ (available socket).length := by
  obtain ⟨⟨status, filled, rest⟩, ran, reads⟩ := exists_readsExactly (P := P)
    (fun _ => Nat.le_refl P.packedHdrSz) (packedHdrSz_le_intMax P) ends locals.sbnHdrBuffer
  have success : status = .success :=
    reads.status_eq.trans ((readStatus_packedHdrSz_iff _).mpr unstuck)
  obtain ⟨accepted, complete⟩ := not_or.mp unstuck
  have unread := congrArg List.length reads.unread_eq
  rw [unreadAfter, if_neg accepted, List.length_drop] at unread
  obtain ⟨received, dispatched, receivedEnds, shrinks⟩ :=
    recvPayload_endsInClose tbl locals (unpackSbnHdr P filled) reads.endsInClose
  refine ⟨received, by simp [recvMsg, ran, success, dispatched], receivedEnds, ?_⟩
  simp only at shrinks unread
  omega

/-- The call fails on a stream that stays stuck, or takes a header off the stream. -/
theorem recvMsg_moves (tbl : PipeTbl P) (locals : RecvLocals P) {socket : Socket}
    (ends : EndsInClose socket) :
    ∃ received, recvMsg tbl locals socket = some received ∧ EndsInClose received.socket ∧
      (received.status ≠ .success ∧ Stuck P (available socket) ∧
          Stuck P (available received.socket) ∨
        ¬ Stuck P (available socket) ∧
          (available received.socket).length + P.packedHdrSz ≤ (available socket).length) := by
  by_cases stuck : Stuck P (available socket)
  · obtain ⟨received, ran, failed, left, stuckNext⟩ := recvMsg_stuck tbl locals ends stuck
    exact ⟨received, ran, left, .inl ⟨failed, stuck, stuckNext⟩⟩
  · obtain ⟨received, ran, left, progress⟩ := recvMsg_progress tbl locals ends stuck
    exact ⟨received, ran, left, .inr ⟨stuck, progress⟩⟩

/-! ## The loop -/

/-- A status that the minder counts as an error. -/
def isError (status : Status) : Bool :=
  status ≠ .success

/-- The counter is the number of failures that the calls so far end in. -/
theorem countError_eq (statuses : List Status) (status : Status) :
    countError (trailing isError statuses) status = trailing isError (statuses ++ [status]) := by
  rw [countError, trailing_concat]
  simp [isError]

/-- The minder between two turns, after calls that returned these statuses: five of them in a
row have not failed yet. -/
structure Minding (statuses : List Status) (minder : ReceiveMinder P) : Prop where
  flags_eq : minder.flags = initialFlags
  count_eq : minder.consecErrorCount = trailing isError statuses
  below : Below isError 5 statuses
  endsInClose : EndsInClose minder.socket

theorem Minding.count_lt {statuses : List Status} {minder : ReceiveMinder P}
    (minding : Minding statuses minder) : minder.consecErrorCount < 5 := by
  have notYet := minding.below statuses.length (Nat.le_refl _)
  rw [List.take_length, endsIn_iff, ← minding.count_eq] at notYet
  exact Nat.not_le.mp notYet

/-- How many turns the minder has left at most. -/
def turnsLeft (minder : ReceiveMinder P) : Nat :=
  if Stuck P (available minder.socket) then 5 - minder.consecErrorCount
  else (available minder.socket).length / P.packedHdrSz + 5

theorem turnsLeft_pos {statuses : List Status} {minder : ReceiveMinder P}
    (minding : Minding statuses minder) : 0 < turnsLeft minder := by
  rw [turnsLeft]
  split
  · exact Nat.sub_pos_of_lt minding.count_lt
  · exact Nat.succ_pos _

/-- A turn that took a header. -/
theorem turnsLeft_lt_of_progress (positive : 0 < P.packedHdrSz) {minder next : ReceiveMinder P}
    (unstuck : ¬ Stuck P (available minder.socket))
    (progress : (available next.socket).length + P.packedHdrSz ≤
      (available minder.socket).length) : turnsLeft next < turnsLeft minder := by
  have headers : (available next.socket).length / P.packedHdrSz + 1 ≤
      (available minder.socket).length / P.packedHdrSz := by
    rw [← Nat.add_div_right _ positive]
    exact Nat.div_le_div_right progress
  rw [turnsLeft, turnsLeft, if_neg unstuck]
  split
  · have one := (Nat.le_add_left 1 _).trans headers
    exact (Nat.sub_le _ _).trans_lt (by omega)
  · omega

theorem countError_le (consecErrorCount : Nat) (status : Status) :
    countError consecErrorCount status ≤ consecErrorCount + 1 := by
  rw [countError]
  split <;> omega

/-- One turn ends the minder, or leaves it fewer turns. -/
theorem Minding.turn (positive : 0 < P.packedHdrSz) {statuses : List Status}
    {minder : ReceiveMinder P} (minding : Minding statuses minder) (locals : RecvLocals P) :
    ∃ next status, receiveTurn minder locals = some (next, status) ∧
      (EndsFirst isError 5 (statuses ++ [status]) ∧ next.flags = ⟨false, false⟩ ∨
        Minding (statuses ++ [status]) next ∧ turnsLeft next < turnsLeft minder) := by
  have notYet := minding.count_lt
  obtain ⟨received, ran, ends, moved⟩ := recvMsg_moves minder.tbl locals minding.endsInClose
  have counted : countError minder.consecErrorCount received.status =
      trailing isError (statuses ++ [received.status]) := by
    rw [minding.count_eq, countError_eq]
  refine ⟨_, received.status, by rw [receiveTurn, ran]; rfl, ?_⟩
  obtain ⟨reaches, continues⟩ := minding.below.concat received.status
  rw [endsIn_iff, ← counted] at reaches continues
  by_cases five : 5 = countError minder.consecErrorCount received.status
  · exact .inl ⟨reaches five.le, by rw [checkErrorCount, if_pos five]⟩
  · have few : ¬ 5 ≤ countError minder.consecErrorCount received.status := by
      have counts := countError_le minder.consecErrorCount received.status
      omega
    refine .inr ⟨⟨?_, counted, continues few, ends⟩, ?_⟩
    · rw [checkErrorCount, if_neg five]
      exact minding.flags_eq
    · rcases moved with ⟨failed, stuck, stuckNext⟩ | ⟨unstuck, progress⟩
      · have fails : countError minder.consecErrorCount received.status =
            minder.consecErrorCount + 1 := if_pos failed
        rw [turnsLeft, turnsLeft, if_pos stuck, if_pos stuckNext]
        simp only [fails]
        omega
      · exact turnsLeft_lt_of_progress positive unstuck progress

theorem receiveLoop_stopped (locals : Nat → RecvLocals P) (fuel : Nat) {minder : ReceiveMinder P}
    (stopped : minder.flags.receiveCheck = false) :
    receiveLoop locals fuel minder = some (minder, []) := by
  cases fuel <;> simp [receiveLoop, stopped]

theorem receiveLoop_succ {locals : Nat → RecvLocals P} {fuel : Nat}
    {minder next final : ReceiveMinder P} {status : Status} {more : List Status}
    (continues : minder.flags.receiveCheck = true)
    (turned : receiveTurn minder (locals 0) = some (next, status))
    (ran : receiveLoop (fun turn => locals (turn + 1)) fuel next = some (final, more)) :
    receiveLoop locals (fuel + 1) minder = some (final, status :: more) := by
  rw [receiveLoop, if_neg (by simp [continues])]
  simp [turned, ran]

/-- The loop ends with the call that completes five failures in a row. -/
theorem Minding.loop (positive : 0 < P.packedHdrSz) (bound : Nat) {statuses : List Status}
    {minder : ReceiveMinder P} (minding : Minding statuses minder)
    (enough : turnsLeft minder ≤ bound) (locals : Nat → RecvLocals P) :
    ∃ final more, more.length ≤ turnsLeft minder ∧
      (∀ fuel, more.length ≤ fuel → receiveLoop locals fuel minder = some (final, more)) ∧
      EndsFirst isError 5 (statuses ++ more) ∧ final.flags = ⟨false, false⟩ := by
  induction bound generalizing statuses minder locals with
  | zero => exact absurd (turnsLeft_pos minding) (by omega)
  | succ bound ih =>
      have continues : minder.flags.receiveCheck = true := by
        rw [minding.flags_eq]
        rfl
      obtain ⟨next, status, turned, ended | ⟨mindingNext, fewer⟩⟩ :=
        minding.turn positive (locals 0)
      · refine ⟨next, [status], turnsLeft_pos minding, fun fuel one => ?_, ended.1, ended.2⟩
        obtain ⟨fuel, rfl⟩ := Nat.exists_eq_add_of_le' one
        refine receiveLoop_succ continues turned (receiveLoop_stopped _ _ ?_)
        rw [ended.2]
      · obtain ⟨final, more, length, ran, ends, flags⟩ :=
          ih mindingNext (by omega) (fun turn => locals (turn + 1))
        refine ⟨final, status :: more, ?_, fun fuel inFuel => ?_, by simpa using ends, flags⟩
        · rw [List.length_cons]
          omega
        · rw [List.length_cons] at inFuel
          obtain ⟨fuel, rfl⟩ := Nat.exists_eq_add_of_le' (Nat.one_le_of_lt inFuel)
          exact receiveLoop_succ continues turned (ran fuel (by omega))

/-- The turns of the loop are successive `recv_msg` calls, and the table and the socket are
what these leave. -/
theorem exists_calls_of_receiveLoop {fuel : Nat} {locals : Nat → RecvLocals P}
    {minder final : ReceiveMinder P} {statuses : List Status}
    (ran : receiveLoop locals fuel minder = some (final, statuses)) :
    ∃ calls, calls.map Received.status = statuses ∧
      Machine.run recvStep (minder.tbl, minder.socket) ((List.range calls.length).map locals) =
        some ((final.tbl, final.socket), calls) := by
  induction fuel generalizing locals minder statuses with
  | zero =>
      rw [receiveLoop] at ran
      split at ran
      next =>
        cases ran
        exact ⟨[], rfl, rfl⟩
      next => cases ran
  | succ fuel ih =>
      rw [receiveLoop] at ran
      split at ran
      next =>
        cases ran
        exact ⟨[], rfl, rfl⟩
      next =>
        obtain ⟨⟨next, status⟩, turned, looped⟩ := Option.bind_eq_some_iff.mp ran
        obtain ⟨⟨last, later⟩, ranLater, equal⟩ := Option.map_eq_some_iff.mp looped
        cases equal
        obtain ⟨received, called, equal⟩ := Option.map_eq_some_iff.mp turned
        cases equal
        obtain ⟨calls, statuses_eq, ranCalls⟩ := ih ranLater
        refine ⟨received :: calls, by rw [List.map_cons, statuses_eq], ?_⟩
        rw [List.length_cons, List.range_succ_eq_map, List.map_cons, List.map_map,
          run_recvStep_cons called]
        exact congrArg (Option.map _) ranCalls

/-- On a stream of any `n` bytes that ends in a close, `SBN_Client_ReceiveMinder` returns after
at most `n / 7 + 5` calls of `recv_msg`, with the first one that completes five failures in a
row.  It leaves the table and the socket as these calls do, and both flags false. -/
theorem receiveMinder_returns (hdrSz : P.packedHdrSz = 7) (tbl : PipeTbl P) {socket : Socket}
    (ends : EndsInClose socket) (locals : Nat → RecvLocals P) :
    ∃ final calls, calls.length ≤ (available socket).length / 7 + 5 ∧
      Machine.run recvStep (tbl, socket) ((List.range calls.length).map locals) =
        some ((final.tbl, final.socket), calls) ∧
      (∀ fuel, calls.length ≤ fuel → receiveMinder locals fuel initialFlags tbl socket =
        some (final, calls.map Received.status)) ∧
      EndsFirst isError 5 (calls.map Received.status) ∧ final.flags = ⟨false, false⟩ := by
  have minding : Minding [] (⟨initialFlags, 0, tbl, socket⟩ : ReceiveMinder P) :=
    ⟨rfl, by simp, below_nil (by decide), ends⟩
  obtain ⟨final, statuses, length, ran, first, flags⟩ :=
    minding.loop (by omega) _ (Nat.le_refl _) locals
  obtain ⟨calls, rfl, ranCalls⟩ := exists_calls_of_receiveLoop (ran _ (Nat.le_refl _))
  rw [List.length_map] at length ran
  refine ⟨final, calls, length.trans ?_, ranCalls, ran, first, flags⟩
  simp only [turnsLeft, hdrSz]
  split <;> omega

/-- A stream of ten bytes: an unknown type, and the close in the middle of the next header. -/
theorem minder_returns_after_six :
    let socket : Socket := [.received 0 [3, 9, 0], .received 0 [0, 0, 2, 1, 2, 3], .closed]
    let tbl := initPipeTbl (zeroPipeTbl (standardPlatform 32768))
    let locals : Nat → RecvLocals (standardPlatform 32768) := fun _ => zeroLocals _
    ∃ final calls, calls.length ≤ (available socket).length / 7 + 5 ∧
      Machine.run recvStep (tbl, socket) ((List.range calls.length).map locals) =
        some ((final.tbl, final.socket), calls) ∧
      (∀ fuel, calls.length ≤ fuel → receiveMinder locals fuel initialFlags tbl socket =
        some (final, calls.map Received.status)) ∧
      EndsFirst isError 5 (calls.map Received.status) ∧ final.flags = ⟨false, false⟩ := by
  intro socket tbl locals
  refine receiveMinder_returns rfl tbl ?_ locals
  exact ⟨trivial, rfl⟩

end SbnClient
