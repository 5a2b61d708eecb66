import SbnClient.Model.Wrappers
import SbnClient.Stream.Frame

/-!
# What the encoders write

`send_heartbeat`, `__wrap_CFE_SB_SendMsg` and `SendSubToSbn` size their buffers by hand.
Each of them puts one whole frame on the socket when `write` accepts all of it.
-/

namespace SbnClient

open Wire

variable {P : Platform} {size : Nat}

/-! ## Packing -/

/-- A packing step with room for its bytes, after what has been packed before. -/
theorem packed_append {before after : Cursor size} {bytes done : List UInt8}
    (appends : before.bufUsed + bytes.length ≤ size → after.packed = before.packed ++ bytes)
    (packed : before.packed = done) (room : done.length + bytes.length ≤ size) :
    after.packed = done ++ bytes := by
  subst packed
  exact appends (by simpa using room)

/-- The header that all three encoders pack first. -/
def packHdr (P : Platform) (buffer : Buffer size) (msgSz : UInt16) (msgType : UInt8)
    (cpuId : UInt32) : Cursor size :=
  P.packUInt32 (P.packUInt8 (P.packUInt16 (P.packInit buffer false) msgSz) msgType) cpuId

theorem packed_packHdr (layout : SbnLayout P) (buffer : Buffer size) (frame : Frame)
    (room : 7 ≤ size) :
    (packHdr P buffer frame.msgSz frame.msgType frame.cpuId).packed = frame.header := by
  have start := layout.packInit buffer false
  have sizePacked := packed_append (layout.packUInt16 frame.msgSz _) start (by simp; omega)
  have typePacked := packed_append (layout.packUInt8 frame.msgType _) sizePacked (by simp; omega)
  have packed := packed_append (layout.packUInt32 frame.cpuId _) typePacked (by simp; omega)
  rw [packHdr, Frame.header, ← List.append_assoc]
  exact packed

/-- A buffer that is packed to its end. -/
theorem bytes_eq_packed {cursor : Cursor size} (full : cursor.bufUsed = size) :
    cursor.buf.bytes = cursor.packed := by
  rw [Cursor.packed, full, Buffer.read_size]

theorem bufUsed_of_packed {cursor : Cursor size} {frame : Frame}
    (packed : cursor.packed = frame.header) : cursor.bufUsed = 7 := by
  rw [← cursor.length_packed, packed, frame.length_header]

/-- A payload that is copied behind the header fills the buffer with the frame. -/
theorem store?_after_header {cursor : Cursor size} {frame : Frame} {offset : Nat}
    (packed : cursor.packed = frame.header) (headerSize : offset = 7)
    (full : size = frame.payload.length + offset) :
    ∃ filled, cursor.buf.store? offset frame.payload = some filled ∧
      filled.bytes = frame.bytes := by
  have used : offset = cursor.bufUsed := headerSize.trans (bufUsed_of_packed packed).symm
  have exactly : size = offset + frame.payload.length := full.trans (Nat.add_comm _ _)
  refine ⟨_, Buffer.store?_eq_some_iff.mpr ⟨exactly.ge, rfl⟩, ?_⟩
  subst exactly
  rw [← Buffer.read_size, Buffer.read_store, Frame.bytes, ← packed, Cursor.packed,
    ← used]

/-- A `write` that accepts its whole buffer reports its size. -/
theorem writeMessage_complete (frame : Frame) :
    writeMessage .complete frame.bytes = (frame.bytes.length, frame.bytes) := by
  have small := frame.length_bytes_lt
  have noWrap : ((frame.bytes.length : Int) % 2 ^ 64).toNat = frame.bytes.length := by
    omega
  simp only [writeMessage, write, noWrap]

/-- As a `size_t` the result of `write` is the size of a frame only if all of it is written. -/
theorem writeMessage_eq_length_iff (outcome : WriteOutcome) (frame : Frame) :
    (writeMessage outcome frame.bytes).1 = frame.bytes.length ↔
      (write outcome frame.bytes).2 = frame.bytes := by
  have small := frame.length_bytes_lt
  cases outcome with
  | failed =>
      have nonempty : [] ≠ frame.bytes := by
        intro empty
        have lengths := congrArg List.length empty
        rw [frame.length_bytes, List.length_nil] at lengths
        omega
      refine iff_of_false ?_ nonempty
      simp only [writeMessage, write]
      omega
  | short count =>
      by_cases enough : frame.bytes.length ≤ count
      · refine iff_of_true ?_ (List.take_of_length_le enough)
        simp only [writeMessage, write]
        omega
      · refine iff_of_false ?_ fun whole => ?_
        · simp only [writeMessage, write]
          omega
        · have lengths := congrArg List.length whole
          rw [write, List.length_take] at lengths
          omega
  | complete => simp only [writeMessage_complete, write]

/-! ## The encoders -/

/-- The frame of an empty `SBN_HEARTBEAT_MSG`. -/
def heartbeatFrame : Frame :=
  ⟨sbnHeartbeatMsg, 2, [], by decide⟩

theorem sendHeartbeat_eq (layout : SbnLayout P) (outcome : WriteOutcome) :
    sendHeartbeat P outcome = write outcome heartbeatFrame.bytes := by
  have enough : 7 ≤ P.packedHdrSz := layout.packedHdrSz_eq.ge
  have packed := packed_packHdr layout (Buffer.filled P.packedHdrSz 0) heartbeatFrame enough
  have used : (packHeartbeat P).bufUsed = P.packedHdrSz :=
    (bufUsed_of_packed packed).trans layout.packedHdrSz_eq.symm
  have whole : (packHeartbeat P).buf.bytes = heartbeatFrame.header :=
    (bytes_eq_packed used).trans packed
  rw [sendHeartbeat, whole, Frame.bytes, show heartbeatFrame.payload = [] from rfl,
    List.append_nil]

theorem sendHeartbeat_complete (layout : SbnLayout P) :
    sendHeartbeat P .complete = (7, heartbeatFrame.bytes) := by
  rw [sendHeartbeat_eq layout, write, heartbeatFrame.length_bytes]
  rfl

/-- The frame of an `SBN_APP_MSG` with the first `size` bytes of the message, where `size`
is the length that its CCSDS header tells. -/
def appFrame (P : Platform) (cpuId : Int32) (memory : List UInt8) : Frame where
  msgType := P.sbnAppMsg
  cpuId := cpuId.toUInt32
  payload := memory.take (getTotalMsgLength P memory).toNat
  length_lt := by
    have := (getTotalMsgLength P memory).toNat_lt
    rw [List.length_take]
    omega

/-- `CFE_SBN_Client_GetTotalMsgLength` keeps the low sixteen bits of the length that the
CCSDS header tells. -/
theorem toNat_getTotalMsgLength (format : DefaultFormat P) {memory : List UInt8}
    (header : 6 ≤ memory.length) : (getTotalMsgLength P memory).toNat =
      (ofBigEndian ((memory.drop 4).take 2) + 7) % 2 ^ 16 := by
  rw [getTotalMsgLength, format.ccsdsRdLen_eq memory header]
  exact UInt16.toNat_ofNat'

/-- The payload of an `SBN_SUB_MSG`: who subscribes, one subscription, its id and its
quality of service. -/
def subPayload (P : Platform) (msgId : MsgId P) (qos : Qos) : List UInt8 :=
  P.sbnIdent ++ bigEndian 2 1 ++ bigEndian 2 msgId.toNat ++ qos.bytes

/-- The literal in `SendSubToSbn` is the size of what it packs after the header. -/
theorem length_subPayload (layout : SbnLayout P) (msgId : MsgId P) (qos : Qos) :
    (subPayload P msgId qos).length = 54 := by
  simp [subPayload, layout.length_sbnIdent, Qos.bytes]

/-- The frame of a subscription. -/
def subFrame (layout : SbnLayout P) (msgId : MsgId P) : Frame :=
  ⟨P.sbnSubMsg, 2, subPayload P msgId ⟨0, 0⟩, by
    rw [length_subPayload layout]
    decide⟩

theorem sendMsg_tooBig {cpuId : Int32} {malloc : (size : Nat) → Buffer size}
    {memory : List UInt8} {outcome : WriteOutcome}
    (tooBig : P.maxMessageSize < (getTotalMsgLength P memory).toNat + P.packedHdrSz) :
    sendMsg P cpuId malloc memory outcome = some (.msgTooBig, []) := by
  rw [sendMsg, prepareMsg, totalSize, if_pos tooBig]
  rfl

/-- A message that is not too big is packed into one frame, for one `write`. -/
theorem sendMsg_eq (layout : SbnLayout P) (cpuId : Int32)
    (malloc : (size : Nat) → Buffer size) {memory : List UInt8} (outcome : WriteOutcome)
    (fits : (getTotalMsgLength P memory).toNat + P.packedHdrSz ≤ P.maxMessageSize)
    (whole : (getTotalMsgLength P memory).toNat ≤ memory.length) :
    sendMsg P cpuId malloc memory outcome =
      let sent := writeMessage outcome (appFrame P cpuId memory).bytes
      some (if sent.1 ≠ (appFrame P cpuId memory).bytes.length then .bufAlocErr else .success,
        sent.2) := by
  have payload : memory.take (getTotalMsgLength P memory).toNat =
      (appFrame P cpuId memory).payload := rfl
  have sizeField : getTotalMsgLength P memory = (appFrame P cpuId memory).msgSz := by
    rw [← UInt16.toNat_inj, Frame.toNat_msgSz, ← payload, List.length_take_of_le whole]
  have packed : ∀ {size : Nat} (buffer : Buffer size), 7 ≤ size →
      (packAppHdr P cpuId buffer (getTotalMsgLength P memory)).packed =
        (appFrame P cpuId memory).header := by
    intro size buffer room
    rw [sizeField]
    exact packed_packHdr layout buffer (appFrame P cpuId memory) room
  have full : (getTotalMsgLength P memory).toNat + P.packedHdrSz =
      (appFrame P cpuId memory).payload.length + P.packedHdrSz := by
    rw [sizeField, Frame.toNat_msgSz]
  have room : 7 ≤ (getTotalMsgLength P memory).toNat + P.packedHdrSz := by
    have := layout.packedHdrSz_eq
    omega
  obtain ⟨filled, stored, contents⟩ :=
    store?_after_header (packed (malloc _) room) layout.packedHdrSz_eq full
  have size : (getTotalMsgLength P memory).toNat + P.packedHdrSz =
      (appFrame P cpuId memory).bytes.length := by
    rw [← contents, filled.length_bytes]
  have prepared : prepareMsg P cpuId malloc memory =
      some (.writes (appFrame P cpuId memory).bytes) := by
    simp only [prepareMsg, totalSize, if_neg (Nat.not_lt.mpr fits), if_neg (Nat.not_lt.mpr whole),
      payload, stored, Option.map_some, contents]
  simp only [sendMsg, prepared, Option.map_some, Prepared.andThen, finishMsg, totalSize, size]

theorem sendMsg_complete (layout : SbnLayout P) (cpuId : Int32)
    (malloc : (size : Nat) → Buffer size) {memory : List UInt8}
    (fits : (getTotalMsgLength P memory).toNat + P.packedHdrSz ≤ P.maxMessageSize)
    (whole : (getTotalMsgLength P memory).toNat ≤ memory.length) :
    sendMsg P cpuId malloc memory .complete = some (.success, (appFrame P cpuId memory).bytes) := by
  simp only [sendMsg_eq layout cpuId malloc .complete fits whole,
    writeMessage_complete, ne_eq, not_true_eq_false,
    ↓reduceIte]

/-- `SendSubToSbn` with no special quality of service. -/
theorem sendSubToSbn_eq (layout : SbnLayout P) (msgId : MsgId P) (outcome : WriteOutcome) :
    sendSubToSbn P P.sbnSubMsg msgId ⟨0, 0⟩ outcome =
      (write outcome (subFrame layout msgId).bytes).2 := by
  have room := layout.packedSubSz_ge
  have sizeField : (54 : UInt16) = (subFrame layout msgId).msgSz := by
    rw [← UInt16.toNat_inj, Frame.toNat_msgSz]
    exact (length_subPayload layout msgId ⟨0, 0⟩).symm
  have header : (packHdr P (Buffer.filled P.packedSubSz 0) 54 P.sbnSubMsg 2).packed =
      (subFrame layout msgId).header := by
    rw [sizeField]
    exact packed_packHdr layout _ (subFrame layout msgId) (by omega)
  have ident := packed_append (layout.packData P.sbnIdent _) header
    (by rw [Frame.length_header, layout.length_sbnIdent]; omega)
  have count := packed_append (layout.packUInt16 1 _) ident
    (by simp [layout.length_sbnIdent]; omega)
  have subscribed := packed_append (layout.packMsgID msgId _) count
    (by simp [layout.length_sbnIdent]; omega)
  have packed := packed_append (layout.packData (Qos.bytes ⟨0, 0⟩) _) subscribed
    (by simp [layout.length_sbnIdent, Qos.bytes]; omega)
  have whole : (packSub P P.sbnSubMsg msgId ⟨0, 0⟩).packed = (subFrame layout msgId).bytes := by
    rw [Frame.bytes, show (subFrame layout msgId).payload = subPayload P msgId ⟨0, 0⟩ from rfl,
      subPayload, ← List.append_assoc, ← List.append_assoc, ← List.append_assoc]
    exact packed
  rw [sendSubToSbn, finishSub, writeMessage, whole]

end SbnClient
