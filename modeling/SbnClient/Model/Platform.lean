import SbnClient.Foundations.Memory
import SbnClient.Foundations.Wire

/-!
# What the client takes from cFE, OSAL and SBN

The headers of those projects are not part of the client.  Their constants, the
CCSDS macros and the packing library are the fields of `Platform`; the model uses
nothing else about them.  What a result relies on beyond that is a named hypothesis
on the platform: `SbnLayout` for the SBN headers and `DefaultFormat` for the CCSDS
header of message format version 1.
-/

namespace SbnClient

open Wire

/-- `Pack_t` and `Unpack_t`: a buffer and how much of it has been used. -/
structure Cursor (size : Nat) where
  buf : Buffer size
  bufUsed : Nat
  bufUsed_le : bufUsed ≤ size

namespace Cursor

variable {size : Nat}

/-- What has been packed so far. -/
def packed (cursor : Cursor size) : List UInt8 :=
  cursor.buf.read cursor.bufUsed

/-- What is left to unpack. -/
def unread (cursor : Cursor size) : List UInt8 :=
  cursor.buf.bytes.drop cursor.bufUsed

@[simp] theorem length_packed (cursor : Cursor size) :
    cursor.packed.length = cursor.bufUsed := by
  simp [packed, cursor.bufUsed_le]

end Cursor

/-- The macros that read a message id, for either CCSDS message format. -/
inductive MessageFormat where
  | ccsdsVer1 (rdSid : List UInt8 → Nat)
  | ccsdsVer2 (rdApid rdType rdSubsystemId : List UInt8 → Nat) (cmd cmdMessageType : Nat)

/-- `SBN_HEARTBEAT_MSG`, the one message type that the client itself defines. -/
def sbnHeartbeatMsg : UInt8 := 0xA0

/-- The external definitions the client is compiled against. -/
structure Platform where
  /-- `CFE_SB_MAX_SB_MSG_SIZE`, the client's `CFE_SBN_CLIENT_MAX_MESSAGE_SIZE`. -/
  maxMessageSize : Nat
  /-- `SBN_PACKED_HDR_SZ`, which fits an `int`. -/
  packedHdrSz : Nat
  packedHdrSz_lt : packedHdrSz < 2 ^ 31
  /-- `SBN_PACKED_SUB_SZ` -/
  packedSubSz : Nat
  /-- `OS_MAX_API_NAME` -/
  osMaxApiName : Nat
  /-- The `SBN_IDENT_LEN` bytes of `SBN_IDENT`. -/
  sbnIdent : List UInt8
  sbnNoMsg : UInt8
  sbnSubMsg : UInt8
  sbnUnsubMsg : UInt8
  sbnProtoMsg : UInt8
  sbnAppMsg : UInt8
  /-- The cases of one C `switch` are pairwise different. -/
  messageTypes_nodup :
    [sbnNoMsg, sbnSubMsg, sbnUnsubMsg, sbnProtoMsg, sbnHeartbeatMsg, sbnAppMsg].Nodup
  /-- `CFE_SB_POLL` -/
  sbPoll : Int
  /-- `CFE_SB_PEND_FOREVER` -/
  sbPendForever : Int
  sbPoll_ge : -1 ≤ sbPoll
  sbPendForever_ge : -1 ≤ sbPendForever
  sbPoll_ne_sbPendForever : sbPoll ≠ sbPendForever
  /-- `ETIMEDOUT` -/
  etimedout : Int
  etimedout_ne_zero : etimedout ≠ 0
  /-- Width of `CFE_SB_MsgId_t`. -/
  msgIdBits : Nat
  messageFormat : MessageFormat
  /-- `CCSDS_RD_LEN` of the header that the memory starts with. -/
  ccsdsRdLen : List UInt8 → Nat
  packInit {size : Nat} (buf : Buffer size) (clear : Bool) : Cursor size
  packUInt8 {size : Nat} : Cursor size → UInt8 → Cursor size
  packUInt16 {size : Nat} : Cursor size → UInt16 → Cursor size
  packUInt32 {size : Nat} : Cursor size → UInt32 → Cursor size
  packData {size : Nat} : Cursor size → List UInt8 → Cursor size
  packMsgID {size : Nat} : Cursor size → BitVec msgIdBits → Cursor size
  unpackInit {size : Nat} (buf : Buffer size) : Cursor size
  unpackUInt8 {size : Nat} : Cursor size → Cursor size × UInt8
  unpackUInt16 {size : Nat} : Cursor size → Cursor size × UInt16
  unpackUInt32 {size : Nat} : Cursor size → Cursor size × UInt32

/-- `CFE_SB_MsgId_t` -/
abbrev MsgId (P : Platform) := BitVec P.msgIdBits

/-- `CFE_SBN_CLIENT_INVALID_MSG_ID` -/
def invalidMsgId {P : Platform} : MsgId P := 0

/-! ## Assumptions on the platform -/

/-- Packing through `pack` appends `bytes` whenever the buffer has room for them. -/
def Appends (pack : ∀ {size : Nat}, Cursor size → Cursor size) (bytes : List UInt8) : Prop :=
  ∀ {size : Nat} (cursor : Cursor size), cursor.bufUsed + bytes.length ≤ size →
    (pack cursor).packed = cursor.packed ++ bytes

/-- The SBN headers: seven header bytes, packed and unpacked in network byte order. -/
structure SbnLayout (P : Platform) : Prop where
  packedHdrSz_eq : P.packedHdrSz = 7
  packedHdrSz_le : P.packedHdrSz ≤ P.maxMessageSize
  length_sbnIdent : P.sbnIdent.length = 48
  packedSubSz_ge : 61 ≤ P.packedSubSz
  msgIdBits_le : P.msgIdBits ≤ 16
  packInit {size : Nat} (buf : Buffer size) (clear : Bool) :
    (P.packInit buf clear).packed = []
  packUInt8 (value : UInt8) : Appends (P.packUInt8 · value) (bigEndian 1 value.toNat)
  packUInt16 (value : UInt16) : Appends (P.packUInt16 · value) (bigEndian 2 value.toNat)
  packUInt32 (value : UInt32) : Appends (P.packUInt32 · value) (bigEndian 4 value.toNat)
  packData (data : List UInt8) : Appends (P.packData · data) data
  packMsgID (msgId : MsgId P) : Appends (P.packMsgID · msgId) (bigEndian 2 msgId.toNat)
  unpackInit {size : Nat} (buf : Buffer size) : (P.unpackInit buf).unread = buf.bytes
  unpackUInt8 {size : Nat} (cursor : Cursor size) (available : 1 ≤ cursor.unread.length) :
    (P.unpackUInt8 cursor).2 = UInt8.ofNat (ofBigEndian (cursor.unread.take 1)) ∧
      (P.unpackUInt8 cursor).1.unread = cursor.unread.drop 1
  unpackUInt16 {size : Nat} (cursor : Cursor size) (available : 2 ≤ cursor.unread.length) :
    (P.unpackUInt16 cursor).2 = UInt16.ofNat (ofBigEndian (cursor.unread.take 2)) ∧
      (P.unpackUInt16 cursor).1.unread = cursor.unread.drop 2
  unpackUInt32 {size : Nat} (cursor : Cursor size) (available : 4 ≤ cursor.unread.length) :
    (P.unpackUInt32 cursor).2 = UInt32.ofNat (ofBigEndian (cursor.unread.take 4)) ∧
      (P.unpackUInt32 cursor).1.unread = cursor.unread.drop 4

/-- The default CCSDS primary header: stream id, sequence and length, each two bytes
in network byte order, the length field holding the total length minus seven. -/
structure DefaultFormat (P : Platform) : Prop where
  messageFormat_eq : ∃ rdSid, P.messageFormat = .ccsdsVer1 rdSid ∧
    ∀ bytes, 2 ≤ bytes.length → rdSid bytes = ofBigEndian (bytes.take 2)
  ccsdsRdLen_eq : ∀ bytes, 6 ≤ bytes.length →
    P.ccsdsRdLen bytes = ofBigEndian ((bytes.drop 4).take 2) + 7

end SbnClient
