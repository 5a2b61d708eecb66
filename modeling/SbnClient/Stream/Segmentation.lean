import Mathlib.Data.List.Forall2
import SbnClient.Registry.Steps
import SbnClient.Stream.Receiver

/-!
# Segmentation does not matter

A stream socket may cut its bytes anywhere: inside a header, between a header and its
payload, or across frames.  Every read of the client is one exact read of the bytes that
arrive before the close, so that two ways of cutting the same bytes, well formed or not,
cannot be told apart by any number of `recv_msg` calls.
-/

namespace SbnClient

open SegmentedInput

variable {P : Platform} {left right : Socket}

/-- The two calls return the same, leave the same table and the same bytes to be read. -/
structure Received.Agree (left right : Received P) : Prop where
  status_eq : left.status = right.status
  tbl_eq : left.tbl = right.tbl
  sockets : SameElements left.socket right.socket

/-! ## One call -/

theorem readBytes_agree {size msgSz : Nat} (fits : msgSz ≤ P.maxMessageSize → msgSz ≤ size)
    (small : msgSz ≤ intMax) (same : SameElements left right) (buffer : Buffer size) :
    ∃ status filledLeft restLeft filledRight restRight,
      readBytes P left buffer msgSz = some (status, filledLeft, restLeft) ∧
        readBytes P right buffer msgSz = some (status, filledRight, restRight) ∧
        SameElements restLeft restRight ∧ (status = .success → filledLeft = filledRight) := by
  obtain ⟨⟨status, filledLeft, restLeft⟩, ranLeft, readsLeft⟩ :=
    exists_readsExactly fits small same.left_ends buffer
  obtain ⟨⟨statusRight, filledRight, restRight⟩, ranRight, readsRight⟩ :=
    exists_readsExactly fits small same.right_ends buffer
  obtain ⟨rfl, rests, filled⟩ := readsLeft.agree readsRight same.available_eq
  exact ⟨status, filledLeft, restLeft, filledRight, restRight, ranLeft, ranRight, rests, filled⟩

theorem ingestAppMessage_agree (same : SameElements left right) (tbl : PipeTbl P)
    (msgBuffer : Buffer P.maxMessageSize) (msgSz : UInt16) :
    ∃ next result restLeft restRight,
      ingestAppMessage tbl msgBuffer left msgSz = some (next, restLeft, result) ∧
        ingestAppMessage tbl msgBuffer right msgSz = some (next, restRight, result) ∧
        SameElements restLeft restRight := by
  obtain ⟨status, filledLeft, restLeft, filledRight, restRight, ranLeft, ranRight, rests, filled⟩ :=
    readBytes_agree (fun accepted => accepted) (toNat_le_intMax msgSz) same msgBuffer
  by_cases success : status = .success
  · obtain ⟨⟨next, rest, result⟩, ingested, -⟩ :=
      arrivalStep_ingestAppMessage tbl msgBuffer left msgSz
    simp only [ingestAppMessage, ranLeft, success, Option.bind_some, ne_eq, not_true_eq_false,
      ↓reduceIte] at ingested
    obtain ⟨⟨tblNext, outcome⟩, enqueued, equal⟩ := Option.map_eq_some_iff.mp ingested
    refine ⟨tblNext, outcome, restLeft, restRight, ?_, ?_, rests⟩
    · simp [ingestAppMessage, ranLeft, success, enqueued]
    · simp [ingestAppMessage, ranRight, success, ← filled success, enqueued]
  · refine ⟨tbl, .readFailed status, restLeft, restRight, ?_, ?_, rests⟩
    · simp [ingestAppMessage, ranLeft, success]
    · simp [ingestAppMessage, ranRight, success]

theorem recvPayload_agree (same : SameElements left right) (tbl : PipeTbl P)
    (locals : RecvLocals P) (hdr : SbnHdr) :
    ∃ receivedLeft receivedRight, recvPayload tbl locals hdr left = some receivedLeft ∧
      recvPayload tbl locals hdr right = some receivedRight ∧
      receivedLeft.Agree receivedRight := by
  simp only [recvPayload]
  by_cases isDropped : hdr.msgType ∈ dropped P
  · obtain ⟨status, filledLeft, restLeft, filledRight, restRight, ranLeft, ranRight, rests, -⟩ :=
      readBytes_agree (fun accepted => accepted) (toNat_le_intMax hdr.msgSz) same locals.msg
    rw [if_pos isDropped, if_pos isDropped, ranLeft, ranRight]
    exact ⟨_, _, rfl, rfl, rfl, rfl, rests⟩
  · rw [if_neg isDropped, if_neg isDropped]
    by_cases isApp : hdr.msgType = P.sbnAppMsg
    · obtain ⟨next, result, restLeft, restRight, ranLeft, ranRight, rests⟩ :=
        ingestAppMessage_agree same tbl locals.msgBuffer hdr.msgSz
      rw [if_pos isApp, if_pos isApp, ranLeft, ranRight]
      exact ⟨_, _, rfl, rfl, rfl, rfl, rests⟩
    · rw [if_neg isApp, if_neg isApp]
      exact ⟨_, _, rfl, rfl, rfl, rfl, same⟩

/-- One `recv_msg` call cannot tell how its input is cut. -/
theorem recvMsg_agree (same : SameElements left right) (tbl : PipeTbl P) (locals : RecvLocals P) :
    ∃ receivedLeft receivedRight, recvMsg tbl locals left = some receivedLeft ∧
      recvMsg tbl locals right = some receivedRight ∧ receivedLeft.Agree receivedRight := by
  obtain ⟨status, filledLeft, restLeft, filledRight, restRight, ranLeft, ranRight, rests, filled⟩ :=
    readBytes_agree (P := P) (fun _ => Nat.le_refl P.packedHdrSz) (packedHdrSz_le_intMax P) same
      locals.sbnHdrBuffer
  simp only [recvMsg, ranLeft, ranRight, Option.bind_some]
  by_cases failed : status ≠ .success
  · rw [if_pos failed, if_pos failed]
    exact ⟨_, _, rfl, rfl, rfl, rfl, rests⟩
  · rw [if_neg failed, if_neg failed, filled (not_not.mp failed)]
    exact recvPayload_agree rests tbl locals _

/-! ## Any number of calls -/

/-- The state between two calls, however the rest of the stream is cut. -/
def SameStream (left right : PipeTbl P × Socket) : Prop :=
  left.1 = right.1 ∧ SameElements left.2 right.2

theorem recvStep_agree {left right : PipeTbl P × Socket} (same : SameStream left right)
    (locals : RecvLocals P) :
    ∃ nextLeft callLeft nextRight callRight, recvStep left locals = some (nextLeft, callLeft) ∧
      recvStep right locals = some (nextRight, callRight) ∧ SameStream nextLeft nextRight ∧
      callLeft.Agree callRight := by
  obtain ⟨tbl, left⟩ := left
  obtain ⟨tblRight, right⟩ := right
  obtain ⟨rfl, sockets⟩ := same
  obtain ⟨receivedLeft, receivedRight, ranLeft, ranRight, agree⟩ :=
    recvMsg_agree sockets tbl locals
  refine ⟨_, receivedLeft, _, receivedRight, by rw [recvStep, ranLeft]; rfl,
    by rw [recvStep, ranRight]; rfl, ⟨agree.tbl_eq, agree.sockets⟩, agree⟩

/-- Any two ways of cutting the same bytes before the close give the same statuses, the same
unread bytes and the same table after each of any number of `recv_msg` calls, and the same
final table. -/
theorem segmentation_independent (same : SameElements left right) (tbl : PipeTbl P)
    (locals : List (RecvLocals P)) :
    ∃ finalLeft callsLeft finalRight callsRight,
      Machine.run recvStep (tbl, left) locals = some (finalLeft, callsLeft) ∧
        Machine.run recvStep (tbl, right) locals = some (finalRight, callsRight) ∧
        List.Forall₂ (fun callLeft callRight => callLeft.status = callRight.status ∧
            available callLeft.socket = available callRight.socket ∧
            callLeft.tbl = callRight.tbl) callsLeft callsRight ∧
        finalLeft.1 = finalRight.1 := by
  have start : SameStream (tbl, left) (tbl, right) := ⟨rfl, same⟩
  obtain ⟨finalLeft, callsLeft, finalRight, callsRight, ranLeft, ranRight, finals, agreement⟩ :=
    Machine.run_related (fun _ _ locals same => recvStep_agree same locals) locals start
  refine ⟨finalLeft, callsLeft, finalRight, callsRight, ranLeft, ranRight, ?_, finals.1⟩
  exact agreement.imp fun _ _ agree => ⟨agree.status_eq, agree.sockets.available_eq, agree.tbl_eq⟩

/-- An unknown type and a frame that the close cuts short, in one piece and in three. -/
theorem garbage_in_pieces :
    let tbl := initPipeTbl (zeroPipeTbl (standardPlatform 32768))
    ∃ finalLeft callsLeft finalRight callsRight,
      Machine.run recvStep (tbl, whole [0, 1, 9, 0, 0, 0, 2, 0, 9, 0xA0, 0, 0])
          [zeroLocals _, zeroLocals _] = some (finalLeft, callsLeft) ∧
        Machine.run recvStep (tbl, [.received 0 [1, 9, 0, 0], .received 0 [2, 0, 9, 0xA0],
          .received 0 [0], .closed]) [zeroLocals _, zeroLocals _] =
            some (finalRight, callsRight) ∧
        List.Forall₂ (fun callLeft callRight => callLeft.status = callRight.status ∧
            available callLeft.socket = available callRight.socket ∧
            callLeft.tbl = callRight.tbl) callsLeft callsRight ∧
        finalLeft.1 = finalRight.1 := by
  intro tbl
  refine segmentation_independent ⟨endsInClose_whole _, ?_, ?_⟩ _ _
  · exact ⟨trivial, rfl⟩
  · rfl

end SbnClient
