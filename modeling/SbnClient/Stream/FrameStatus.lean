import SbnClient.Model.Minders
import SbnClient.Model.StandardPlatform
import SbnClient.Registry.Steps
import SbnClient.Stream.Step

/-!
# What the status of `recv_msg` tells

For a control frame `recv_msg` returns what reading the payload returned.  For an app frame
`ingest_app_message` reads the payload, and its failure is only logged: `recv_msg` reports
success, and the receive minder takes the connection for a healthy one.
-/

namespace SbnClient

open SegmentedInput

variable {P : Platform}

/-! ## Whole frames -/

/-- The type is one that `recv_msg` knows. -/
def SbnHdr.Recognised (P : Platform) (hdr : SbnHdr) : Prop :=
  hdr.msgType ∈ dropped P ∨ hdr.msgType = P.sbnAppMsg

/-- The payload that the header announces is within the limit and arrives completely. -/
structure PayloadArrives (P : Platform) (hdr : SbnHdr) (stream : List UInt8) : Prop where
  accepted : hdr.msgSz.toNat ≤ P.maxMessageSize
  complete : hdr.msgSz.toNat ≤ stream.length

/-- What arrives begins with a whole frame of a recognised type. -/
structure CompleteFrame (P : Platform) (stream : List UInt8) : Prop where
  header : 7 ≤ stream.length
  recognised : (SbnHdr.ofBytes stream).Recognised P
  payload : PayloadArrives P (SbnHdr.ofBytes stream) (stream.drop 7)

/-- What arrives begins with the header of an app frame whose payload cannot be read. -/
structure LosesAppMessage (P : Platform) (stream : List UInt8) : Prop where
  header : 7 ≤ stream.length
  isApp : (SbnHdr.ofBytes stream).msgType = P.sbnAppMsg
  payload : ¬ PayloadArrives P (SbnHdr.ofBytes stream) (stream.drop 7)

/-- The call reports success exactly for a whole frame, and otherwise the turn of the receive
minder that makes it counts a failure. -/
def TellsTruth (tbl : PipeTbl P) (locals : RecvLocals P) (socket : Socket) : Prop :=
  ∃ received, recvMsg tbl locals socket = some received ∧
    (received.status = .success ↔ CompleteFrame P (available socket)) ∧
    (¬ CompleteFrame P (available socket) → ∀ flags consecErrorCount, ∃ next,
      receiveTurn ⟨flags, consecErrorCount, tbl, socket⟩ locals = some (next, received.status) ∧
        next.consecErrorCount = consecErrorCount + 1)

/-! ## The status of one call -/

/-- A read succeeds when the size is accepted and as many bytes arrive. -/
theorem exists_readBytes_success_iff {size msgSz : Nat} (fits : msgSz ≤ P.maxMessageSize →
      msgSz ≤ size) (small : msgSz ≤ intMax) (socket : Socket) (buffer : Buffer size) :
    ∃ result, readBytes P socket buffer msgSz = some result ∧
      (result.1 = .success ↔ msgSz ≤ P.maxMessageSize ∧ msgSz ≤ (available socket).length) := by
  by_cases accepted : msgSz ≤ P.maxMessageSize
  · obtain ⟨result, ran, reads⟩ := readBytes_spec accepted (fits accepted) small socket buffer
    exact ⟨result, ran, reads.success_iff.trans (by simp [accepted])⟩
  · exact ⟨_, readBytes_tooLarge (Nat.not_le.mp accepted) socket buffer, by simp [accepted]⟩

/-- The `switch` fails with the payload of a control frame, and never with that of an app
frame. -/
theorem recvPayload_success_iff (tbl : PipeTbl P) (locals : RecvLocals P) (hdr : SbnHdr)
    (socket : Socket) :
    ∃ received, recvPayload tbl locals hdr socket = some received ∧
      (received.status = .success ↔ hdr.msgType = P.sbnAppMsg ∨
        hdr.msgType ∈ dropped P ∧ PayloadArrives P hdr (available socket)) := by
  rw [recvPayload]
  split
  next isDropped =>
    have notApp : hdr.msgType ≠ P.sbnAppMsg := fun isApp =>
      appMsg_not_dropped P (isApp ▸ isDropped)
    obtain ⟨⟨status, filled, rest⟩, ran, success_iff⟩ := exists_readBytes_success_iff
      (fun accepted => accepted) (toNat_le_intMax hdr.msgSz) socket locals.msg
    rw [ran]
    refine ⟨_, rfl, ?_⟩
    simp only [notApp, isDropped, true_and, false_or]
    exact success_iff.trans ⟨fun arrives => ⟨arrives.1, arrives.2⟩,
      fun arrives => ⟨arrives.accepted, arrives.complete⟩⟩
  next notDropped =>
    split
    next isApp =>
      obtain ⟨result, ran, -⟩ :=
        arrivalStep_ingestAppMessage tbl locals.msgBuffer socket hdr.msgSz
      rw [ran]
      exact ⟨_, rfl, iff_of_true rfl (.inl isApp)⟩
    next notApp => exact ⟨_, rfl, by simp [notApp, notDropped]⟩

/-- A call succeeds with a whole frame, and also with an app frame that it loses. -/
theorem recvMsg_success_iff (layout : SbnLayout P) (tbl : PipeTbl P) (locals : RecvLocals P)
    (socket : Socket) :
    ∃ received, recvMsg tbl locals socket = some received ∧
      (received.status = .success ↔
        CompleteFrame P (available socket) ∨ LosesAppMessage P (available socket)) := by
  by_cases header : 7 ≤ (available socket).length
  · obtain ⟨afterHeader, consumed, ran⟩ := recvMsg_of_header layout tbl locals header
    obtain ⟨received, dispatched, success_iff⟩ :=
      recvPayload_success_iff tbl locals (SbnHdr.ofBytes (available socket)) afterHeader
    rw [consumed] at success_iff
    refine ⟨received, ran.trans dispatched, success_iff.trans ⟨?_, ?_⟩⟩
    · rintro (isApp | ⟨isDropped, payload⟩)
      · by_cases payload : PayloadArrives P (SbnHdr.ofBytes (available socket))
            ((available socket).drop 7)
        · exact .inl ⟨header, .inr isApp, payload⟩
        · exact .inr ⟨header, isApp, payload⟩
      · exact .inl ⟨header, .inl isDropped, payload⟩
    · rintro (whole | loses)
      · exact whole.recognised.elim (fun isDropped => .inr ⟨isDropped, whole.payload⟩) .inl
      · exact .inl loses.isApp
  · obtain ⟨⟨status, filled, rest⟩, ran, success_iff⟩ := exists_readBytes_success_iff (P := P)
      (fun _ => Nat.le_refl P.packedHdrSz) (packedHdrSz_le_intMax P) socket locals.sbnHdrBuffer
    have failed : status ≠ .success := by
      intro success
      have arrives := (success_iff.mp success).2
      rw [layout.packedHdrSz_eq] at arrives
      exact header arrives
    refine ⟨⟨status, tbl, rest⟩, by simp [recvMsg, ran, failed], iff_of_false failed ?_⟩
    rintro (whole | loses)
    · exact header whole.header
    · exact header loses.header

/-- The minder counts a call that did not succeed. -/
theorem receiveTurn_of_ne_success {tbl : PipeTbl P} {locals : RecvLocals P} {socket : Socket}
    {received : Received P} (ran : recvMsg tbl locals socket = some received)
    (failed : received.status ≠ .success) (flags : ContinueFlags) (consecErrorCount : Nat) :
    ∃ next, receiveTurn ⟨flags, consecErrorCount, tbl, socket⟩ locals =
        some (next, received.status) ∧ next.consecErrorCount = consecErrorCount + 1 := by
  refine ⟨_, by rw [receiveTurn, ran]; rfl, ?_⟩
  simp [countError, failed]

/-- The status of `recv_msg` tells the truth about what arrived, for every table, exactly when
no app frame loses its payload. -/
theorem tellsTruth_iff (layout : SbnLayout P) (tbl : PipeTbl P) (locals : RecvLocals P)
    (socket : Socket) :
    TellsTruth tbl locals socket ↔ ¬ LosesAppMessage P (available socket) := by
  obtain ⟨received, ran, success_iff⟩ := recvMsg_success_iff layout tbl locals socket
  constructor
  · rintro ⟨again, ranAgain, whole_iff, -⟩ loses
    rw [ran, Option.some.injEq] at ranAgain
    subst ranAgain
    exact loses.payload (whole_iff.mp (success_iff.mpr (.inr loses))).payload
  · intro kept
    have whole_iff : received.status = .success ↔ CompleteFrame P (available socket) := by
      rw [success_iff, or_iff_left kept]
    exact ⟨received, ran, whole_iff, fun incomplete =>
      receiveTurn_of_ne_success ran fun success => incomplete (whole_iff.mp success)⟩

/-- A heartbeat whose payload is cut off. -/
theorem cut_heartbeat_tellsTruth :
    let socket := whole [0, 8, 0xA0, 0, 0, 0, 2, 1]
    TellsTruth (zeroPipeTbl (standardPlatform 32768)) (zeroLocals _) socket ↔
      ¬ LosesAppMessage (standardPlatform 32768) (available socket) :=
  tellsTruth_iff (standardPlatform_sbnLayout (by decide)) _ _ _

/-- The peer announces an app message of eight bytes and closes the connection: the call
succeeds, and the minder forgets the four failures before it. -/
theorem cut_app_message_success :
    let tbl := initPipeTbl (zeroPipeTbl (standardPlatform 32768))
    let socket : Socket := whole [0, 8, 3, 0, 0, 0, 2]
    ∃ received next, recvMsg tbl (zeroLocals _) socket = some received ∧
      received.status = .success ∧ ¬ CompleteFrame (standardPlatform 32768) (available socket) ∧
      receiveTurn ⟨initialFlags, 4, tbl, socket⟩ (zeroLocals _) = some (next, .success) ∧
      next.consecErrorCount = 0 ∧ ¬ TellsTruth tbl (zeroLocals _) socket := by
  intro tbl socket
  have missing : ¬ PayloadArrives (standardPlatform 32768) (SbnHdr.ofBytes (available socket))
      ((available socket).drop 7) := fun payload => absurd payload.complete (by decide)
  have cut : ¬ CompleteFrame (standardPlatform 32768) (available socket) :=
    fun whole => missing whole.payload
  obtain ⟨received, ran, success_iff⟩ := recvMsg_success_iff
    (standardPlatform_sbnLayout (by decide)) tbl (zeroLocals _) socket
  have success : received.status = .success :=
    success_iff.mpr (.inr ⟨by decide, rfl, missing⟩)
  refine ⟨received, _, ran, success, cut, by rw [receiveTurn, ran, ← success]; rfl, ?_, ?_⟩
  · simp [countError, success]
  · rintro ⟨again, ranAgain, whole_iff, -⟩
    rw [ran, Option.some.injEq] at ranAgain
    subst ranAgain
    exact cut (whole_iff.mp success)

end SbnClient
