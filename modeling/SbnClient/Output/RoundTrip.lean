import SbnClient.Input.Publishing
import SbnClient.Mailboxes.Pending
import SbnClient.Model.StandardPlatform
import SbnClient.Output.Packing
import SbnClient.Stream.Step

/-!
# From `SendMsg` to `RcvMsg`

The size that `__wrap_CFE_SB_SendMsg` writes into the header is the one that it copies,
that `recv_msg` reads back and that `ingest_app_message` stores.  So the message that a
client sends is the message that a receiver is handed, after those that were there before.
-/

namespace SbnClient

open SegmentedInput Wire

variable {P : Platform} {tbl : PipeTbl P} {i : Fin maxPipes}

/-- A frame for a subscribed pipe with room becomes its newest message. -/
theorem carries_deliver {msgId : MsgId P} (payload : Payload P) {queue : List (List UInt8)}
    (target : FirstSubscriber tbl msgId i) (carries : (tbl i).Carries queue)
    (room : queue.length < mailboxCapacity) :
    (deliver tbl msgId payload i).inUse = inUse ∧
      (deliver tbl msgId payload i).Carries (queue ++ [payload.bytes]) := by
  have size := carries.count_eq
  have capacity : mailboxCapacity + 1 = maxPipeDepth := rfl
  have notFull : (tbl i).numberOfMessages < maxPipeDepth := by
    omega
  have routed := route_eq_some_iff_first.mpr target
  rw [deliver_first routed notFull]
  exact ⟨target.subscriber.1, holds_pushMessage carries notFull.ne payload⟩

/-- One `recv_msg` call on an app frame, and then as many `RcvMsg` calls as its pipe holds
messages: they hand over the older ones first and the payload of the frame last. -/
theorem recvMsg_then_drain (layout : SbnLayout P) (format : DefaultFormat P) {frame : Frame}
    (isApp : frame.msgType = P.sbnAppMsg) (fits : frame.Fits P)
    (long : 2 ≤ frame.payload.length) (registry : Registry tbl)
    (target : FirstSubscriber tbl (frame.asPayload fits).msgId i)
    (room : (pending (tbl i)).length < mailboxCapacity) (locals : RecvLocals P)
    {socket : Socket} (arrives : available socket = frame.bytes) {polls : List (Poll P)}
    (oneEach : polls.length = (pending (tbl i)).length + 1) (ready : ∀ poll ∈ polls, poll.Ready) :
    ∃ final outcomes,
      Machine.run applyOp tbl (.recvMsg locals socket :: polls.map (Poll.op i)) =
        some (final, .frame .success :: outcomes) ∧
      List.Forall₂ Delivers outcomes (pending (tbl i) ++ [frame.payload]) := by
  obtain ⟨left, received, -⟩ :=
    recvMsg_app layout tbl locals (arrives.trans (List.append_nil _).symm) isApp fits
  rw [getMsgId_filledWith format locals.msgBuffer long] at received
  have live := registry.live target.subscriber.1
  obtain ⟨used, carries⟩ :=
    carries_deliver (frame.asPayload fits) target live.carries_pending room
  have kept := registry.contentStep
    (arrivalStep_deliver tbl (frame.asPayload fits).msgId (frame.asPayload fits)).contentStep
  obtain ⟨final, outcomes, ran, delivered⟩ :=
    kept.drain used carries (by simpa using oneEach) ready
  refine ⟨final, outcomes, ?_, delivered⟩
  simp [Machine.run, applyOp, received, ran]

/-- A message that is sent with a complete `write` is received unchanged: whatever the table,
its ring positions and the cutting of the frame, the pipe hands over its older messages
first and then the first `total` bytes of this one. -/
theorem sendMsg_round_trip (layout : SbnLayout P) (format : DefaultFormat P)
    (limit : P.maxMessageSize ≤ 65535) (cpuId : Int32) (malloc : (size : Nat) → Buffer size)
    {memory : List UInt8} {total : Nat}
    (lengthField : total = ofBigEndian ((memory.drop 4).take 2) + 7)
    (fits : total + 7 ≤ P.maxMessageSize) (whole : total ≤ memory.length) :
    ∃ frame : Frame, sendMsg P cpuId malloc memory .complete = some (.success, frame.bytes) ∧
      frame.message = ⟨P.sbnAppMsg, cpuId.toUInt32, memory.take total⟩ ∧
      ∀ (tbl : PipeTbl P) (i : Fin maxPipes), Reachable tbl →
        FirstSubscriber tbl (getMsgId P memory) i →
        (pending (tbl i)).length < mailboxCapacity →
        ∀ (locals : RecvLocals P) (socket : Socket), available socket = frame.bytes →
        ∀ polls : List (Poll P), polls.length = (pending (tbl i)).length + 1 →
        (∀ poll ∈ polls, poll.Ready) →
        ∃ final outcomes,
          Machine.run applyOp tbl (.recvMsg locals socket :: polls.map (Poll.op i)) =
            some (final, .frame .success :: outcomes) ∧
          List.Forall₂ Delivers outcomes (pending (tbl i) ++ [memory.take total]) := by
  have length : (getTotalMsgLength P memory).toNat = total := by
    rw [toNat_getTotalMsgLength format (by omega), ← lengthField]
    exact Nat.mod_eq_of_lt (by omega)
  have hdrSize := layout.packedHdrSz_eq
  have sent := sendMsg_complete layout cpuId malloc (by omega) (length.trans_le whole)
  have payload : (appFrame P cpuId memory).payload = memory.take total := by
    rw [← length]
    rfl
  have size : (appFrame P cpuId memory).payload.length = total := by
    rw [payload, List.length_take_of_le whole]
  have frameFits : (appFrame P cpuId memory).Fits P := by
    rw [Frame.Fits, size]
    omega
  have msgId : ((appFrame P cpuId memory).asPayload frameFits).msgId = getMsgId P memory := by
    rw [getMsgId_of_defaultFormat format (by omega), Payload.msgId]
    change BitVec.ofNat _ (ofBigEndian ((appFrame P cpuId memory).payload.take 2)) = _
    rw [payload, List.take_take, Nat.min_eq_left (by omega)]
  refine ⟨appFrame P cpuId memory, sent, by rw [← payload]; rfl, ?_⟩
  intro tbl i reachable target room locals socket arrives polls oneEach ready
  rw [← msgId] at target
  rw [← payload]
  exact recvMsg_then_drain layout format rfl frameFits (by omega) reachable.registry target room
    locals arrives oneEach ready

/-- A message of eight bytes, for a pipe that holds an older one. -/
theorem eight_bytes_round_trip :
    ∃ (tbl : PipeTbl (standardPlatform 32768)) (frame : Frame), Reachable tbl ∧
      (pending (tbl 0)).length = 1 ∧
      sendMsg (standardPlatform 32768) 2 (Buffer.filled · 0xEE) [8, 1, 0, 0, 0, 1, 7, 9] .complete =
        some (.success, frame.bytes) ∧
      frame.message = ⟨3, 2, [8, 1, 0, 0, 0, 1, 7, 9]⟩ ∧
      ∃ final outcomes,
        Machine.run applyOp tbl [.recvMsg (zeroLocals _) (whole frame.bytes),
          .rcvMsg true 0 0 (calmEnv _), .rcvMsg true 0 (-1) (calmEnv _)] =
            some (final, .frame .success :: outcomes) ∧
        List.Forall₂ Delivers outcomes (pending (tbl 0) ++ [[8, 1, 0, 0, 0, 1, 7, 9]]) := by
  have ran : ∃ tbl outcomes,
      Machine.run applyOp (initPipeTbl (zeroPipeTbl (standardPlatform 32768)))
        [.createPipe true 4 [0x41], .subscribe 0x0801 0 .complete,
          .ingestAppMessage (Buffer.filled _ 0) (whole [8, 1, 5]) 3] = some (tbl, outcomes) ∧
      Subscriber tbl 0x0801 0 ∧ (pending (tbl 0)).length = 1 :=
    ⟨_, _, rfl, ⟨rfl, 0, rfl⟩, rfl⟩
  obtain ⟨tbl, outcomes, ran, subscriber, older⟩ := ran
  have reachable : Reachable tbl := by
    refine ⟨_, _, outcomes, Machine.permitted_of_forall ?_ _, ran⟩
    simp [Op.Sequential, maxPipes]
  have target : FirstSubscriber tbl
      (getMsgId (standardPlatform 32768) [8, 1, 0, 0, 0, 1, 7, 9]) 0 :=
    ⟨subscriber, fun k before => absurd before (Nat.not_lt_zero _)⟩
  obtain ⟨frame, sent, told, receives⟩ := sendMsg_round_trip
    (standardPlatform_sbnLayout (by decide)) (standardPlatform_defaultFormat 32768)
    (Nat.le_of_ble_eq_true rfl) 2 (Buffer.filled · 0xEE)
    (show 8 = ofBigEndian (([8, 1, 0, 0, 0, 1, 7, 9].drop 4).take 2) + 7 by decide)
    (Nat.le_of_ble_eq_true rfl) (by decide)
  refine ⟨tbl, frame, reachable, older, sent, told, ?_⟩
  refine receives tbl 0 reachable target (by simp [older, mailboxCapacity]) (zeroLocals _)
    (whole frame.bytes) (available_whole _) [⟨0, calmEnv _⟩, ⟨-1, calmEnv _⟩] (by simp [older]) ?_
  intro poll member
  rcases List.mem_cons.mp member with rfl | member
  · exact ⟨by decide, rfl, rfl⟩
  · obtain rfl := List.mem_singleton.mp member
    exact ⟨by decide, rfl, rfl⟩

end SbnClient
