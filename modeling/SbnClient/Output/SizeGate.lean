import SbnClient.Model.StandardPlatform
import SbnClient.Output.Packing

/-!
# The size gate of `SendMsg`

A CCSDS length field of sixteen bits tells lengths from 7 to 65542, and
`CFE_SBN_Client_GetTotalMsgLength` returns a `uint16`.  The lengths that do not fit wrap
around to 0 to 6 before `__wrap_CFE_SB_SendMsg` compares them with its limit, so such a
message is not refused but cut to almost nothing.
-/

namespace SbnClient

open Wire

variable {P : Platform}

/-- The length of a message: its CCSDS length field plus seven. -/
def totalLength (memory : List UInt8) : Nat :=
  ofBigEndian ((memory.drop 4).take 2) + 7

/-- A message that does not fit with its header is refused, any other is handed to `write`
as one frame with all its bytes, and success means that the whole frame was written. -/
structure ExactGate (P : Platform) (cpuId : Int32) (malloc : (size : Nat) → Buffer size)
    (memory : List UInt8) : Prop where
  refused : P.maxMessageSize < totalLength memory + P.packedHdrSz →
    ∀ outcome, sendMsg P cpuId malloc memory outcome = some (.msgTooBig, [])
  sent : totalLength memory + P.packedHdrSz ≤ P.maxMessageSize → ∃ frame : Frame,
    frame.message = ⟨P.sbnAppMsg, cpuId.toUInt32, memory.take (totalLength memory)⟩ ∧
      frame.msgSz.toNat = totalLength memory ∧ frame.bytes.length = totalLength memory + 7 ∧
      ∀ outcome, ∃ status,
        sendMsg P cpuId malloc memory outcome = some (status, (write outcome frame.bytes).2) ∧
          (status = .success ↔ (write outcome frame.bytes).2 = frame.bytes)
  honest : ∀ outcome written,
    sendMsg P cpuId malloc memory outcome = some (.success, written) →
      ∃ frame : Frame, written = frame.bytes ∧ frame.payload = memory.take (totalLength memory)

theorem totalLength_lt (memory : List UInt8) : totalLength memory < 65543 := by
  have field := ofBigEndian_lt ((memory.drop 4).take 2)
  have width : ((memory.drop 4).take 2).length ≤ 2 := List.length_take_le _ _
  have bound : 256 ^ ((memory.drop 4).take 2).length ≤ 256 ^ 2 :=
    Nat.pow_le_pow_right (by decide) width
  rw [totalLength]
  omega

/-- `__wrap_CFE_SB_SendMsg` reports success exactly when `write` has accepted the frame. -/
theorem sendMsg_status (layout : SbnLayout P) (cpuId : Int32)
    (malloc : (size : Nat) → Buffer size) {memory : List UInt8} (outcome : WriteOutcome)
    (fits : (getTotalMsgLength P memory).toNat + P.packedHdrSz ≤ P.maxMessageSize)
    (whole : (getTotalMsgLength P memory).toNat ≤ memory.length) :
    ∃ status, sendMsg P cpuId malloc memory outcome =
        some (status, (write outcome (appFrame P cpuId memory).bytes).2) ∧
      (status = .success ↔
        (write outcome (appFrame P cpuId memory).bytes).2 = (appFrame P cpuId memory).bytes) := by
  refine ⟨_, sendMsg_eq layout cpuId malloc outcome fits whole, ?_⟩
  rw [← writeMessage_eq_length_iff]
  split
  next other => exact iff_of_false (by simp) other
  next same => exact iff_of_true rfl (not_not.mp same)

section

variable {cpuId : Int32} {malloc : (size : Nat) → Buffer size} {memory : List UInt8}

/-- Lengths of sixteen bits are compared with the limit as they are. -/
theorem exactGate_of_lt (layout : SbnLayout P) (format : DefaultFormat P)
    (whole : totalLength memory ≤ memory.length) (small : totalLength memory < 2 ^ 16) :
    ExactGate P cpuId malloc memory := by
  have header : 6 ≤ memory.length := by
    rw [totalLength] at whole
    omega
  have length : (getTotalMsgLength P memory).toNat = totalLength memory :=
    (toNat_getTotalMsgLength format header).trans (Nat.mod_eq_of_lt small)
  have payload : (appFrame P cpuId memory).payload = memory.take (totalLength memory) := by
    rw [← length]
    rfl
  have size : (appFrame P cpuId memory).payload.length = totalLength memory := by
    rw [payload, List.length_take_of_le whole]
  have status : totalLength memory + P.packedHdrSz ≤ P.maxMessageSize → ∀ outcome, ∃ status,
      sendMsg P cpuId malloc memory outcome =
          some (status, (write outcome (appFrame P cpuId memory).bytes).2) ∧
        (status = .success ↔ (write outcome (appFrame P cpuId memory).bytes).2 =
          (appFrame P cpuId memory).bytes) := by
    intro fits outcome
    rw [← length] at fits whole
    exact sendMsg_status layout cpuId malloc outcome fits whole
  have refused : P.maxMessageSize < totalLength memory + P.packedHdrSz →
      ∀ outcome, sendMsg P cpuId malloc memory outcome = some (.msgTooBig, []) := by
    intro tooBig outcome
    rw [← length] at tooBig
    exact sendMsg_tooBig tooBig
  refine ⟨refused, fun fits => ⟨appFrame P cpuId memory, ?_, ?_, ?_, status fits⟩, ?_⟩
  · rw [← payload]
    rfl
  · rw [Frame.toNat_msgSz, size]
  · rw [Frame.length_bytes, size, Nat.add_comm]
  · intro outcome written succeeded
    by_cases fits : totalLength memory + P.packedHdrSz ≤ P.maxMessageSize
    · obtain ⟨_, ran, success_iff⟩ := status fits outcome
      rw [ran, Option.some.injEq, Prod.mk.injEq] at succeeded
      exact ⟨_, succeeded.2.symm.trans (success_iff.mp succeeded.1), payload⟩
    · rw [refused (Nat.not_le.mp fits)] at succeeded
      simp at succeeded

/-- A longer message passes the gate with what is left of its length. -/
theorem sendMsg_wrapped (layout : SbnLayout P) (format : DefaultFormat P)
    (whole : totalLength memory ≤ memory.length) (large : 2 ^ 16 ≤ totalLength memory) :
    (getTotalMsgLength P memory).toNat = totalLength memory - 2 ^ 16 ∧
      (totalLength memory + 7 ≤ P.maxMessageSize + 2 ^ 16 →
        sendMsg P cpuId malloc memory .complete =
          some (.success, (appFrame P cpuId memory).bytes)) := by
  have bounded := totalLength_lt memory
  have length : (getTotalMsgLength P memory).toNat = totalLength memory - 2 ^ 16 := by
    rw [toNat_getTotalMsgLength format (by omega)]
    change totalLength memory % 2 ^ 16 = _
    omega
  refine ⟨length, fun passes => sendMsg_complete layout cpuId malloc ?_ ?_⟩
  · have := layout.packedHdrSz_eq
    omega
  · omega

/-- The gate is exact for the lengths that a `uint16` holds.  For the others it is exact only
if even the wrapped length does not fit. -/
theorem exactGate_iff (layout : SbnLayout P) (format : DefaultFormat P)
    (limit : P.maxMessageSize ≤ 65535) (cpuId : Int32) (malloc : (size : Nat) → Buffer size)
    {memory : List UInt8} (whole : totalLength memory ≤ memory.length) :
    ExactGate P cpuId malloc memory ↔
      totalLength memory ≤ 65535 ∨ P.maxMessageSize + 65536 < totalLength memory + 7 := by
  have hdrSize := layout.packedHdrSz_eq
  by_cases small : totalLength memory < 2 ^ 16
  · exact iff_of_true (exactGate_of_lt layout format whole small) (.inl (by omega))
  · obtain ⟨length, passes⟩ :=
      @sendMsg_wrapped _ cpuId malloc _ layout format whole (Nat.not_lt.mp small)
    constructor
    · intro gate
      by_contra condition
      have refused := gate.refused (by omega) .complete
      rw [passes (by omega)] at refused
      simp at refused
    · intro condition
      have tooBig : P.maxMessageSize < (getTotalMsgLength P memory).toNat + P.packedHdrSz := by
        omega
      refine ⟨fun _ outcome => sendMsg_tooBig tooBig, fun fits => ?_, fun outcome written ran => ?_⟩
      · omega
      · rw [sendMsg_tooBig tooBig] at ran
        simp at ran

end

/-- A message of 65536 bytes. -/
def messageOf65536 : List UInt8 :=
  [8, 1, 0xC0, 0, 0xFF, 0xF9] ++ List.replicate 65530 0

theorem length_messageOf65536 : messageOf65536.length = 65536 := by
  rw [messageOf65536, List.length_append, List.length_replicate]
  rfl

/-- Seven bytes of it are written, a frame with no payload, and the call reports success. -/
theorem messageOf65536_truncated :
    totalLength messageOf65536 = 65536 ∧
      sendMsg (standardPlatform 32768) 2 (Buffer.filled · 0xEE) messageOf65536 .complete =
        some (.success, [0, 0, 3, 0, 0, 0, 2]) ∧
      ¬ ExactGate (standardPlatform 32768) 2 (Buffer.filled · 0xEE) messageOf65536 := by
  have length : totalLength messageOf65536 = 65536 := rfl
  obtain ⟨-, passes⟩ := @sendMsg_wrapped _ 2 (Buffer.filled · 0xEE) messageOf65536
    (standardPlatform_sbnLayout (by decide)) (standardPlatform_defaultFormat 32768)
    (length.trans length_messageOf65536.symm).le length.ge
  have sent := passes (by rw [length]; exact Nat.le_of_ble_eq_true rfl)
  have header : (appFrame (standardPlatform 32768) 2 messageOf65536).bytes =
      [0, 0, 3, 0, 0, 0, 2] := by
    decide
  refine ⟨length, header ▸ sent, fun gate => ?_⟩
  have refused := gate.refused (by rw [length]; exact Nat.le_of_ble_eq_true rfl) .complete
  rw [sent] at refused
  simp at refused

/-- A message of eight bytes. -/
theorem short_message_exactGate :
    ExactGate (standardPlatform 32768) 2 (Buffer.filled · 0xEE) [8, 1, 0xC0, 0, 0, 1, 7, 7] ↔
      totalLength [8, 1, 0xC0, 0, 0, 1, 7, 7] ≤ 65535 ∨
        (standardPlatform 32768).maxMessageSize + 65536 <
          totalLength [8, 1, 0xC0, 0, 0, 1, 7, 7] + 7 :=
  exactGate_iff (standardPlatform_sbnLayout (by decide)) (standardPlatform_defaultFormat 32768)
    (Nat.le_of_ble_eq_true rfl) 2 (Buffer.filled · 0xEE) (by decide)

end SbnClient
