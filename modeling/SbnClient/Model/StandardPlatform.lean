import SbnClient.Model.Receive

/-!
# A platform with the standard headers

The numbers of the SBN and cFE headers that the client is built against, with a
packing library that satisfies `SbnLayout` and the default CCSDS header.  It shows
that the assumptions of the results are met together.
-/

namespace SbnClient

open Wire

namespace Cursor

variable {size : Nat}

/-- Append bytes; a buffer without room for them is left as it is. -/
def put (cursor : Cursor size) (bytes : List UInt8) : Cursor size :=
  if room : cursor.bufUsed + bytes.length ≤ size then
    ⟨cursor.buf.store cursor.bufUsed bytes room, cursor.bufUsed + bytes.length, room⟩
  else
    cursor

theorem appends_put (bytes : List UInt8) : Appends (Cursor.put · bytes) bytes := by
  intro size cursor room
  simp only [put, room, ↓reduceDIte, packed]
  exact cursor.buf.read_store cursor.bufUsed bytes room

/-- Take a big-endian integer; with too few bytes left it reads as zero. -/
def take (cursor : Cursor size) (width : Nat) : Cursor size × Nat :=
  if room : cursor.bufUsed + width ≤ size then
    (⟨cursor.buf, cursor.bufUsed + width, room⟩, ofBigEndian (cursor.unread.take width))
  else
    (cursor, 0)

theorem take_of_le {cursor : Cursor size} {width : Nat}
    (available : width ≤ cursor.unread.length) :
    (cursor.take width).2 = ofBigEndian (cursor.unread.take width) ∧
      (cursor.take width).1.unread = cursor.unread.drop width := by
  have room : cursor.bufUsed + width ≤ size := by
    rw [unread, List.length_drop, cursor.buf.length_bytes] at available
    have := cursor.bufUsed_le
    omega
  simp [take, room, unread, List.drop_drop]

end Cursor

/-- The standard headers, for a given `CFE_SB_MAX_SB_MSG_SIZE`. -/
def standardPlatform (maxMessageSize : Nat) : Platform where
  maxMessageSize := maxMessageSize
  packedHdrSz := 7
  packedHdrSz_lt := by decide
  packedSubSz := 853
  osMaxApiName := 20
  sbnIdent := List.replicate 48 0x30
  sbnNoMsg := 0
  sbnSubMsg := 1
  sbnUnsubMsg := 2
  sbnAppMsg := 3
  sbnProtoMsg := 4
  messageTypes_nodup := by decide
  sbPoll := 0
  sbPendForever := -1
  sbPoll_ge := by decide
  sbPendForever_ge := by decide
  sbPoll_ne_sbPendForever := by decide
  etimedout := 110
  etimedout_ne_zero := by decide
  msgIdBits := 16
  messageFormat := .ccsdsVer1 fun memory => ofBigEndian (memory.take 2)
  ccsdsRdLen memory := ofBigEndian ((memory.drop 4).take 2) + 7
  packInit buf clear := ⟨if clear then Buffer.filled _ 0 else buf, 0, Nat.zero_le _⟩
  packUInt8 cursor value := cursor.put (bigEndian 1 value.toNat)
  packUInt16 cursor value := cursor.put (bigEndian 2 value.toNat)
  packUInt32 cursor value := cursor.put (bigEndian 4 value.toNat)
  packData cursor data := cursor.put data
  packMsgID cursor msgId := cursor.put (bigEndian 2 msgId.toNat)
  unpackInit buf := ⟨buf, 0, Nat.zero_le _⟩
  unpackUInt8 cursor := ((cursor.take 1).1, UInt8.ofNat (cursor.take 1).2)
  unpackUInt16 cursor := ((cursor.take 2).1, UInt16.ofNat (cursor.take 2).2)
  unpackUInt32 cursor := ((cursor.take 4).1, UInt32.ofNat (cursor.take 4).2)

theorem standardPlatform_sbnLayout {maxMessageSize : Nat} (enough : 7 ≤ maxMessageSize) :
    SbnLayout (standardPlatform maxMessageSize) where
  packedHdrSz_eq := rfl
  packedHdrSz_le := enough
  length_sbnIdent := List.length_replicate
  packedSubSz_ge := Nat.le_of_ble_eq_true rfl
  msgIdBits_le := Nat.le_refl 16
  packInit := by simp [standardPlatform, Cursor.packed, Buffer.read]
  packUInt8 value := Cursor.appends_put _
  packUInt16 value := Cursor.appends_put _
  packUInt32 value := Cursor.appends_put _
  packData data := Cursor.appends_put _
  packMsgID msgId := Cursor.appends_put _
  unpackInit buf := by simp [standardPlatform, Cursor.unread]
  unpackUInt8 cursor available := by
    obtain ⟨value, rest⟩ := Cursor.take_of_le available
    exact ⟨congrArg UInt8.ofNat value, rest⟩
  unpackUInt16 cursor available := by
    obtain ⟨value, rest⟩ := Cursor.take_of_le available
    exact ⟨congrArg UInt16.ofNat value, rest⟩
  unpackUInt32 cursor available := by
    obtain ⟨value, rest⟩ := Cursor.take_of_le available
    exact ⟨congrArg UInt32.ofNat value, rest⟩

theorem standardPlatform_defaultFormat (maxMessageSize : Nat) :
    DefaultFormat (standardPlatform maxMessageSize) where
  messageFormat_eq := ⟨_, rfl, fun _ _ => rfl⟩
  ccsdsRdLen_eq _ _ := rfl

/-! ## Environments -/

/-- `PipeTbl` in static storage before anything has run. -/
def zeroPipeTbl (P : Platform) : PipeTbl P := fun _ =>
  { inUse := 0
    pipeId := 0
    pipeName := Buffer.filled _ 0
    sysQueueId := 0
    sendErrors := 0
    numberOfMessages := 0
    readMessage := 0
    messages := fun _ => Buffer.filled _ 0
    subscribedMsgIds := fun _ => 0 }

/-- Local buffers that happen to be zero. -/
def zeroLocals (P : Platform) : RecvLocals P :=
  ⟨Buffer.filled _ 0, Buffer.filled _ 0, Buffer.filled _ 0⟩

/-- A `RcvMsg` call whose mutex calls succeed. -/
def calmEnv (P : Platform) : RcvEnv P :=
  ⟨⟨0, 0⟩, 0, 0, id, 0⟩

end SbnClient
