import SbnClient.Foundations.Machine
import SbnClient.Model.StandardPlatform
import SbnClient.Registry.FirstPipe
import SbnClient.Stream.Step

/-!
# The receiver on a stream of frames

Successive `recv_msg` calls on one socket.  On frames of a recognised type within the
size limit the receiver decodes the stream frame by frame.  An unrecognised type or an
oversized payload leaves the payload unread, and then the next call takes payload bytes
for a header.
-/

namespace SbnClient

open SegmentedInput

variable {P : Platform}

/-- One `recv_msg` call, as a step of the table and the socket. -/
def recvStep (state : PipeTbl P × Socket) (locals : RecvLocals P) :
    Option ((PipeTbl P × Socket) × Received P) :=
  (recvMsg state.1 locals state.2).map fun received =>
    ((received.tbl, received.socket), received)

theorem run_recvStep_cons {state : PipeTbl P × Socket} {locals : RecvLocals P}
    {more : List (RecvLocals P)} {received : Received P}
    (ran : recvMsg state.1 locals state.2 = some received) :
    Machine.run recvStep state (locals :: more) =
      (Machine.run recvStep (received.tbl, received.socket) more).map fun rest =>
        (rest.1, received :: rest.2) := by
  simp [Machine.run, recvStep, ran]

/-! ## Well-formed streams -/

/-- The routing rule for a frame: only app messages change the table. -/
def deliverFrame (tbl : PipeTbl P) (frame : Frame) : PipeTbl P :=
  if app : frame.msgType = P.sbnAppMsg ∧ frame.Fits P then
    deliver tbl (frame.asPayload app.2).msgId (frame.asPayload app.2)
  else
    tbl

/-- A frame that a peer may send: a known type, a payload within the limit, and a message
id in every app message. -/
structure Frame.Valid (P : Platform) (frame : Frame) : Prop where
  recognised : frame.Recognised P
  fits : frame.Fits P
  hasMsgId : frame.msgType = P.sbnAppMsg → 2 ≤ frame.payload.length

/-- One call decodes one valid frame. -/
theorem recvMsg_valid (layout : SbnLayout P) (format : DefaultFormat P) (tbl : PipeTbl P)
    (locals : RecvLocals P) {socket : Socket} {frame : Frame} {rest : List UInt8}
    (stream : available socket = frame.bytes ++ rest) (valid : frame.Valid P) :
    ∃ left, recvMsg tbl locals socket = some ⟨.success, deliverFrame tbl frame, left⟩ ∧
      available left = rest := by
  rcases valid.recognised with isDropped | isApp
  · have notApp : ¬ (frame.msgType = P.sbnAppMsg ∧ frame.Fits P) := by
      rintro ⟨isApp, -⟩
      exact appMsg_not_dropped P (isApp ▸ isDropped)
    rw [deliverFrame, dif_neg notApp]
    exact recvMsg_dropped layout tbl locals stream isDropped valid.fits
  · rw [deliverFrame, dif_pos ⟨isApp, valid.fits⟩,
      ← getMsgId_filledWith format locals.msgBuffer (valid.hasMsgId isApp)]
    exact recvMsg_app layout tbl locals stream isApp valid.fits

/-- Call `k` of the receiver has decoded the first `k + 1` frames and nothing more. -/
structure DecodesFrame (tbl : PipeTbl P) (frames : List Frame) (rest : List UInt8) (k : Nat)
    (call : Received P) : Prop where
  status : call.status = .success
  unread : available call.socket = streamOf (frames.drop (k + 1)) ++ rest
  routed : call.tbl = (frames.take (k + 1)).foldl deliverFrame tbl

/-- The receiver decodes a whole stream of valid frames, however it is cut. -/
theorem recvMsgs_decode (layout : SbnLayout P) (format : DefaultFormat P) (frames : List Frame)
    (valid : ∀ frame ∈ frames, frame.Valid P) (locals : List (RecvLocals P))
    (oneEach : locals.length = frames.length) (tbl : PipeTbl P) (socket : Socket)
    (rest : List UInt8) (stream : available socket = streamOf frames ++ rest) :
    ∃ left calls, Machine.run recvStep (tbl, socket) locals =
        some ((frames.foldl deliverFrame tbl, left), calls) ∧
      available left = rest ∧ calls.length = frames.length ∧
      ∀ k call, calls[k]? = some call → DecodesFrame tbl frames rest k call := by
  induction frames generalizing locals tbl socket with
  | nil =>
      obtain rfl := List.length_eq_zero_iff.mp oneEach
      exact ⟨socket, [], rfl, by simpa [streamOf] using stream, rfl, by simp⟩
  | cons frame frames ih =>
      obtain ⟨first, locals, rfl⟩ := List.exists_cons_of_length_eq_add_one oneEach
      rw [streamOf_cons, List.append_assoc] at stream
      obtain ⟨next, ran, unread⟩ :=
        recvMsg_valid layout format tbl first stream (valid frame (by simp))
      obtain ⟨left, calls, ranRest, leftEq, length, decodes⟩ :=
        ih (fun other member => valid other (by simp [member])) locals (by simpa using oneEach)
          (deliverFrame tbl frame) next unread
      refine ⟨left, ⟨.success, deliverFrame tbl frame, next⟩ :: calls, ?_, leftEq,
        by simp [length], ?_⟩
      · rw [run_recvStep_cons ran, ranRest]
        rfl
      · intro k call isCall
        cases k with
        | zero =>
            simp only [List.getElem?_cons_zero, Option.some.injEq] at isCall
            subst isCall
            exact ⟨rfl, by simpa using unread, by simp⟩
        | succ k =>
            rw [List.getElem?_cons_succ] at isCall
            have later := decodes k call isCall
            exact ⟨later.status, by simpa using later.unread, by simpa using later.routed⟩

/-- A heartbeat and an app message for a subscribed pipe, cut inside the header of the
second. -/
theorem heartbeat_and_message_decode :
    let frames : List Frame := [⟨sbnHeartbeatMsg, 2, [], by decide⟩, ⟨3, 2, [8, 1, 9], by decide⟩]
    let socket : Socket := [.received 0 [0, 0xA0, 0], .received 0 [0, 2, 0, 3, 3, 0],
      .received 0 [0, 2, 8], .received 1 [9], .closed]
    let tbl := subscribedPipe (zeroPipeTbl (standardPlatform 32768)) [0x41] 0x0801
    (frames.foldl deliverFrame tbl 0).numberOfMessages = 2 ∧
      ((frames.foldl deliverFrame tbl 0).messages 0).read 3 = [8, 1, 9] ∧
      ∃ left calls, Machine.run recvStep (tbl, socket) [zeroLocals _, zeroLocals _] =
          some ((frames.foldl deliverFrame tbl, left), calls) ∧
        available left = [] ∧ calls.length = frames.length ∧
        ∀ k call, calls[k]? = some call → DecodesFrame tbl frames [] k call := by
  intro frames socket tbl
  refine ⟨rfl, by decide +kernel, ?_⟩
  refine recvMsgs_decode (standardPlatform_sbnLayout (by decide))
    (standardPlatform_defaultFormat 32768) frames ?_ [zeroLocals _, zeroLocals _] rfl tbl socket []
    (by decide)
  intro frame member
  rcases List.mem_cons.mp member with rfl | member
  · exact ⟨.inl (by decide), Nat.zero_le _, by decide⟩
  · obtain rfl := List.mem_singleton.mp member
    exact ⟨.inr (by decide), Nat.le_of_ble_eq_true rfl, by decide⟩

/-! ## Staying in step -/

/-- The calls, one for each frame, leave the socket at the frame boundaries. -/
def InStep (tbl : PipeTbl P) (socket : Socket) (locals : List (RecvLocals P))
    (frames : List Frame) : Prop :=
  ∃ final calls, Machine.run recvStep (tbl, socket) locals = some (final, calls) ∧
    ∀ k < frames.length, ∃ call, calls[k]? = some call ∧
      available call.socket = streamOf (frames.drop (k + 1))

/-- A call takes the whole frame just when it has nothing to leave or drains the payload. -/
theorem recvMsg_in_step_iff (layout : SbnLayout P) (tbl : PipeTbl P) (locals : RecvLocals P)
    {socket : Socket} {frame : Frame} {rest : List UInt8}
    (stream : available socket = frame.bytes ++ rest) :
    ∃ received, recvMsg tbl locals socket = some received ∧
      (available received.socket = rest ↔
        frame.payload = [] ∨ (frame.Recognised P ∧ frame.Fits P)) := by
  by_cases drained : frame.Recognised P ∧ frame.Fits P
  · obtain ⟨recognised, fits⟩ := drained
    rcases recognised with isDropped | isApp
    · obtain ⟨left, ran, unread⟩ := recvMsg_dropped layout tbl locals stream isDropped fits
      exact ⟨_, ran, iff_of_true unread (.inr ⟨.inl isDropped, fits⟩)⟩
    · obtain ⟨left, ran, unread⟩ := recvMsg_app layout tbl locals stream isApp fits
      exact ⟨_, ran, iff_of_true unread (.inr ⟨.inr isApp, fits⟩)⟩
  · obtain ⟨status, left, ran, unread⟩ := recvMsg_undrained layout tbl locals stream drained
    refine ⟨_, ran, ?_⟩
    simp [unread, drained]

theorem inStep_cons_iff (tbl : PipeTbl P) (socket : Socket) (first : RecvLocals P)
    (locals : List (RecvLocals P)) (frame : Frame) (frames : List Frame) {received : Received P}
    (ran : recvMsg tbl first socket = some received) :
    InStep tbl socket (first :: locals) (frame :: frames) ↔
      available received.socket = streamOf frames ∧
        InStep received.tbl received.socket locals frames := by
  constructor
  · rintro ⟨final, calls, ranAll, boundaries⟩
    rw [run_recvStep_cons ran, Option.map_eq_some_iff] at ranAll
    obtain ⟨⟨left, more⟩, ranRest, equal⟩ := ranAll
    cases equal
    obtain ⟨call, isFirst, boundary⟩ := boundaries 0 (by simp)
    simp only [List.getElem?_cons_zero, Option.some.injEq] at isFirst
    refine ⟨by simpa [← isFirst] using boundary, left, more, ranRest, fun k inside => ?_⟩
    simpa using boundaries (k + 1) (by simpa using inside)
  · rintro ⟨boundary, left, more, ranRest, boundaries⟩
    refine ⟨left, received :: more, ?_, fun k inside => ?_⟩
    · rw [run_recvStep_cons ran, ranRest]
      rfl
    · cases k with
      | zero => exact ⟨received, rfl, by simpa using boundary⟩
      | succ k => simpa using boundaries k (by simpa using inside)

/-- The receiver stays in step with a stream exactly when every frame has an empty payload,
or a recognised type and a payload within the limit. -/
theorem inStep_iff (layout : SbnLayout P) (frames : List Frame) (locals : List (RecvLocals P))
    (oneEach : locals.length = frames.length) (tbl : PipeTbl P) (socket : Socket)
    (stream : available socket = streamOf frames) :
    InStep tbl socket locals frames ↔
      ∀ frame ∈ frames, frame.payload = [] ∨ (frame.Recognised P ∧ frame.Fits P) := by
  induction frames generalizing locals tbl socket with
  | nil =>
      obtain rfl := List.length_eq_zero_iff.mp oneEach
      exact iff_of_true ⟨_, [], rfl, by simp⟩ (by simp)
  | cons frame frames ih =>
      obtain ⟨first, locals, rfl⟩ := List.exists_cons_of_length_eq_add_one oneEach
      rw [streamOf_cons] at stream
      obtain ⟨received, ran, boundary_iff⟩ := recvMsg_in_step_iff layout tbl first stream
      rw [inStep_cons_iff tbl socket first locals frame frames ran, List.forall_mem_cons,
        boundary_iff]
      refine and_congr_right fun inStep => ?_
      exact ih locals (by simpa using oneEach) received.tbl received.socket
        (boundary_iff.mpr inStep)

/-- A frame of type 9, which is none of the known ones, with one payload byte, and a
heartbeat after it. -/
theorem unknown_type_not_inStep :
    ¬ InStep (initPipeTbl (zeroPipeTbl (standardPlatform 32768)))
      (whole (streamOf [⟨9, 2, [0], by decide⟩, ⟨sbnHeartbeatMsg, 2, [], by decide⟩]))
      [zeroLocals _, zeroLocals _]
      [⟨9, 2, [0], by decide⟩, ⟨sbnHeartbeatMsg, 2, [], by decide⟩] := by
  intro inStep
  obtain ⟨received, ran, boundary_iff⟩ := recvMsg_in_step_iff
    (standardPlatform_sbnLayout (by decide)) (initPipeTbl (zeroPipeTbl (standardPlatform 32768)))
    (zeroLocals _) ((available_whole _).trans (streamOf_cons _ _))
  rw [inStep_cons_iff _ _ _ _ _ _ ran, boundary_iff] at inStep
  rcases inStep.1 with empty | ⟨recognised, -⟩
  · exact absurd empty (by decide)
  · exact absurd recognised (by decide)

/-- Two heartbeats, the second with a payload. -/
theorem heartbeats_inStep :
    let frames : List Frame :=
      [⟨sbnHeartbeatMsg, 2, [], by decide⟩, ⟨sbnHeartbeatMsg, 2, [1, 2, 3], by decide⟩]
    InStep (initPipeTbl (zeroPipeTbl (standardPlatform 32768))) (whole (streamOf frames))
        [zeroLocals _, zeroLocals _] frames ↔
      ∀ frame ∈ frames, frame.payload = [] ∨
        (frame.Recognised (standardPlatform 32768) ∧ frame.Fits (standardPlatform 32768)) :=
  inStep_iff (standardPlatform_sbnLayout (by decide)) _ _ rfl _ _ (available_whole _)

end SbnClient
