import SbnClient.Stream.Frame

/-!
# One `recv_msg` call on a frame

What `recv_msg` does with the frame at the front of the input, for any type byte and any
size, whatever follows it and however the input is cut.
-/

namespace SbnClient

open SegmentedInput

variable {P : Platform}

/-- The types that `recv_msg` knows. -/
def Frame.Recognised (P : Platform) (frame : Frame) : Prop :=
  frame.msgType ∈ dropped P ∨ frame.msgType = P.sbnAppMsg

instance (frame : Frame) : Decidable (frame.Recognised P) :=
  inferInstanceAs (Decidable (_ ∨ _))

/-- The payload is not above `CFE_SBN_CLIENT_MAX_MESSAGE_SIZE`. -/
def Frame.Fits (P : Platform) (frame : Frame) : Prop :=
  frame.payload.length ≤ P.maxMessageSize

instance (frame : Frame) : Decidable (frame.Fits P) :=
  inferInstanceAs (Decidable (_ ≤ _))

/-- The payload of a frame that fits. -/
def Frame.asPayload {frame : Frame} (fits : frame.Fits P) : Payload P :=
  ⟨frame.payload, fits⟩

theorem appMsg_not_dropped (P : Platform) : P.sbnAppMsg ∉ dropped P := by
  have distinct := P.messageTypes_nodup
  simp only [dropped, List.nodup_cons, List.mem_cons, List.not_mem_nil, not_or] at distinct ⊢
  simp [distinct, eq_comm]

/-- Reading a whole header leaves the rest to the `switch`. -/
theorem recvMsg_of_header (layout : SbnLayout P) (tbl : PipeTbl P) (locals : RecvLocals P)
    {socket : Socket} (complete : 7 ≤ (available socket).length) :
    ∃ afterHeader, available afterHeader = (available socket).drop 7 ∧
      recvMsg tbl locals socket =
        recvPayload tbl locals (SbnHdr.ofBytes (available socket)) afterHeader := by
  rw [← layout.packedHdrSz_eq] at complete
  obtain ⟨⟨status, filled, afterHeader⟩, ran, reads⟩ :=
    readBytes_spec layout.packedHdrSz_le (Nat.le_refl _) (packedHdrSz_le_intMax P) socket
      locals.sbnHdrBuffer
  obtain rfl : status = .success := reads.success_iff.mpr complete
  have consumed : available afterHeader = (available socket).drop P.packedHdrSz :=
    reads.consumed complete
  have arrived : filled.bytes = (available socket).take 7 := by
    rw [reads.bytes_eq complete, List.drop_of_length_le locals.sbnHdrBuffer.length_bytes.le,
      List.append_nil, layout.packedHdrSz_eq]
  rw [layout.packedHdrSz_eq] at consumed
  refine ⟨afterHeader, consumed, ?_⟩
  simp only [recvMsg, ran, Option.bind_some, ne_eq, not_true_eq_false, ↓reduceIte,
    layout.unpackSbnHdr_eq, arrived, SbnHdr.ofBytes_take]

/-- Reading the header of a frame leaves its payload to the `switch`. -/
theorem recvMsg_header (layout : SbnLayout P) (tbl : PipeTbl P) (locals : RecvLocals P)
    {socket : Socket} {frame : Frame} {rest : List UInt8}
    (stream : available socket = frame.bytes ++ rest) :
    ∃ afterHeader, available afterHeader = frame.payload ++ rest ∧
      recvMsg tbl locals socket =
        recvPayload tbl locals ⟨frame.msgSz, frame.msgType, frame.cpuId⟩ afterHeader := by
  rw [Frame.bytes, List.append_assoc] at stream
  have complete : 7 ≤ (available socket).length := by
    rw [stream, List.length_append, Frame.length_header]
    exact Nat.le_add_right 7 _
  obtain ⟨afterHeader, consumed, ran⟩ := recvMsg_of_header layout tbl locals complete
  rw [stream, List.drop_left' frame.length_header] at consumed
  rw [stream, SbnHdr.ofBytes_header] at ran
  exact ⟨afterHeader, consumed, ran⟩

/-- A frame whose payload is read and dropped. -/
theorem recvMsg_dropped (layout : SbnLayout P) (tbl : PipeTbl P) (locals : RecvLocals P)
    {socket : Socket} {frame : Frame} {rest : List UInt8}
    (stream : available socket = frame.bytes ++ rest) (isDropped : frame.msgType ∈ dropped P)
    (fits : frame.Fits P) :
    ∃ left, recvMsg tbl locals socket = some ⟨.success, tbl, left⟩ ∧ available left = rest := by
  obtain ⟨afterHeader, payload, ran⟩ := recvMsg_header layout tbl locals stream
  obtain ⟨⟨status, filled, left⟩, drained, reads⟩ := readBytes_spec fits fits
    (frame.toNat_msgSz ▸ toNat_le_intMax frame.msgSz) afterHeader locals.msg
  have complete : frame.payload.length ≤ (available afterHeader).length := by
    rw [payload, List.length_append]
    omega
  obtain rfl : status = .success := reads.success_iff.mpr complete
  refine ⟨left, ?_, ?_⟩
  · rw [ran, recvPayload, if_pos isDropped, Frame.toNat_msgSz, drained, Option.map_some]
  · rw [reads.consumed complete, payload, List.drop_left]

/-- The payload of a frame is ingested, whatever follows it. -/
theorem ingestAppMessage_of_frame (tbl : PipeTbl P) (msgBuffer : Buffer P.maxMessageSize)
    {frame : Frame} (fits : frame.Fits P) {socket : Socket} {rest : List UInt8}
    (arrives : available socket = frame.payload ++ rest) :
    ∃ left, ingestAppMessage tbl msgBuffer socket frame.msgSz =
        some (deliver tbl (getMsgId P (filledWith msgBuffer (frame.asPayload fits)))
            (frame.asPayload fits),
          left, ingestResult tbl (getMsgId P (filledWith msgBuffer (frame.asPayload fits)))) ∧
      available left = rest := by
  have accepted : frame.msgSz.toNat ≤ P.maxMessageSize := by
    rw [Frame.toNat_msgSz]
    exact fits
  have complete : frame.msgSz.toNat ≤ (available socket).length := by
    rw [arrives, List.length_append, Frame.toNat_msgSz]
    omega
  have whole : incoming socket frame.msgSz.toNat accepted = frame.asPayload fits := by
    simp [incoming, Frame.asPayload, arrives]
  obtain ⟨left, ingested, consumed⟩ :=
    ingestAppMessage_of_complete tbl msgBuffer accepted complete
  rw [whole] at ingested
  rw [arrives, Frame.toNat_msgSz, List.drop_left] at consumed
  exact ⟨left, ingested, consumed⟩

/-- An app message is routed. -/
theorem recvMsg_app (layout : SbnLayout P) (tbl : PipeTbl P) (locals : RecvLocals P)
    {socket : Socket} {frame : Frame} {rest : List UInt8}
    (stream : available socket = frame.bytes ++ rest) (isApp : frame.msgType = P.sbnAppMsg)
    (fits : frame.Fits P) :
    ∃ left, recvMsg tbl locals socket = some ⟨.success, deliver tbl
        (getMsgId P (filledWith locals.msgBuffer (frame.asPayload fits)))
        (frame.asPayload fits), left⟩ ∧
      available left = rest := by
  obtain ⟨afterHeader, payload, ran⟩ := recvMsg_header layout tbl locals stream
  obtain ⟨left, ingested, consumed⟩ :=
    ingestAppMessage_of_frame tbl locals.msgBuffer fits payload
  refine ⟨left, ?_, consumed⟩
  rw [ran, recvPayload, if_neg (isApp ▸ appMsg_not_dropped P), if_pos isApp, ingested]
  rfl

/-- A frame that is not recognised, or too large, loses its header only. -/
theorem recvMsg_undrained (layout : SbnLayout P) (tbl : PipeTbl P) (locals : RecvLocals P)
    {socket : Socket} {frame : Frame} {rest : List UInt8}
    (stream : available socket = frame.bytes ++ rest)
    (undrained : ¬ (frame.Recognised P ∧ frame.Fits P)) :
    ∃ status left, recvMsg tbl locals socket = some ⟨status, tbl, left⟩ ∧
      available left = frame.payload ++ rest := by
  obtain ⟨afterHeader, payload, ran⟩ := recvMsg_header layout tbl locals stream
  by_cases recognised : frame.Recognised P
  · have tooLarge : P.maxMessageSize < frame.msgSz.toNat := by
      rw [Frame.toNat_msgSz]
      exact Nat.not_le.mp fun fits => undrained ⟨recognised, fits⟩
    rw [ran, recvPayload]
    by_cases isDropped : frame.msgType ∈ dropped P
    · rw [if_pos isDropped, readBytes_tooLarge tooLarge]
      exact ⟨_, _, rfl, payload⟩
    · rw [if_neg isDropped, if_pos (recognised.resolve_left isDropped), ingestAppMessage,
        readBytes_tooLarge tooLarge]
      exact ⟨_, _, rfl, payload⟩
  · obtain ⟨notDropped, notApp⟩ := not_or.mp recognised
    refine ⟨.evsError, afterHeader, ?_, payload⟩
    rw [ran, recvPayload, if_neg notDropped, if_neg notApp]

end SbnClient
