import SbnClient.Input.Routing

/-!
# SBN frames

A frame is a seven-byte header, size of the payload first, and the payload.  On the wire
it is a length-prefixed packet, and the `Unpack` calls of `recv_msg` read its header back.
-/

namespace SbnClient

open Wire

/-- An SBN message; the size field has sixteen bits. -/
structure Frame where
  msgType : UInt8
  cpuId : UInt32
  payload : List UInt8
  length_lt : payload.length < 2 ^ 16

namespace Frame

/-- `SBN_MsgSz` -/
def msgSz (frame : Frame) : UInt16 :=
  UInt16.ofNat frame.payload.length

@[simp] theorem toNat_msgSz (frame : Frame) : frame.msgSz.toNat = frame.payload.length :=
  UInt16.toNat_ofNat_of_lt' frame.length_lt

/-- The header on the wire. -/
def header (frame : Frame) : List UInt8 :=
  bigEndian 2 frame.msgSz.toNat ++
    (bigEndian 1 frame.msgType.toNat ++ bigEndian 4 frame.cpuId.toNat)

/-- The whole frame on the wire. -/
def bytes (frame : Frame) : List UInt8 :=
  frame.header ++ frame.payload

@[simp] theorem length_header (frame : Frame) : frame.header.length = 7 := by
  simp [header]

@[simp] theorem length_bytes (frame : Frame) : frame.bytes.length = 7 + frame.payload.length := by
  simp [bytes]

/-- A frame is small enough for every count of its bytes. -/
theorem length_bytes_lt (frame : Frame) : frame.bytes.length < 2 ^ 17 := by
  have := frame.length_lt
  rw [length_bytes]
  omega

end Frame

/-! ## Streams of frames -/

/-- The bytes of the frames on the wire. -/
def streamOf (frames : List Frame) : List UInt8 :=
  frames.flatMap Frame.bytes

theorem streamOf_cons (frame : Frame) (frames : List Frame) :
    streamOf (frame :: frames) = frame.bytes ++ streamOf frames :=
  List.flatMap_cons

/-- The framing that `recv_msg` relies on: a seven-byte header that begins with the size of
the payload. -/
def sbnFraming : Framing UInt8 where
  headerSize := 7
  headerSize_pos := by decide
  bodySize header := ofBigEndian (header.take 2)

/-- What one frame of a stream tells. -/
structure SbnMessage where
  msgType : UInt8
  cpuId : UInt32
  payload : List UInt8
  deriving DecidableEq, Repr

/-- The type is the third byte of the header and the CpuID the last four. -/
def SbnMessage.ofPacket (packet : Packet sbnFraming) : SbnMessage where
  msgType := UInt8.ofNat (ofBigEndian ((packet.header.drop 2).take 1))
  cpuId := UInt32.ofNat (ofBigEndian (packet.header.drop 3))
  payload := packet.body

/-- The messages of a stream that ends with a frame. -/
def decodeStream (stream : List UInt8) : Option (List SbnMessage) :=
  (sbnFraming.parse stream).map (List.map SbnMessage.ofPacket)

namespace Frame

/-- What the frame tells. -/
def message (frame : Frame) : SbnMessage :=
  ⟨frame.msgType, frame.cpuId, frame.payload⟩

/-- The frame as a packet. -/
def packet (frame : Frame) : Packet sbnFraming where
  header := frame.header
  body := frame.payload
  length_header := frame.length_header
  length_body := by
    have size : frame.header.take 2 = bigEndian 2 frame.msgSz.toNat :=
      List.take_left' (length_bigEndian ..)
    have field : ofBigEndian (bigEndian 2 frame.payload.length) = frame.payload.length :=
      ofBigEndian_bigEndian_of_lt frame.length_lt
    simp only [sbnFraming, size, toNat_msgSz, field]

theorem ofPacket_packet (frame : Frame) : SbnMessage.ofPacket frame.packet = frame.message := by
  have afterSize : frame.header.drop 2 =
      bigEndian 1 frame.msgType.toNat ++ bigEndian 4 frame.cpuId.toNat :=
    List.drop_left' (length_bigEndian ..)
  have afterType : frame.header.drop 3 = bigEndian 4 frame.cpuId.toNat := by
    rw [show 3 = 2 + 1 from rfl, ← List.drop_drop, afterSize, List.drop_left' (length_bigEndian ..)]
  simp only [SbnMessage.ofPacket, packet, afterSize, afterType, message,
    List.take_left' (length_bigEndian 1 frame.msgType.toNat), ofNat_ofBigEndian_uint8,
    ofNat_ofBigEndian_uint32]

end Frame

/-- A stream of frames is uniquely decodable. -/
theorem decodeStream_streamOf (frames : List Frame) :
    decodeStream (streamOf frames) = some (frames.map Frame.message) := by
  have packets : streamOf frames = (frames.map Frame.packet).flatMap Packet.bytes := by
    rw [List.flatMap_map]
    rfl
  rw [decodeStream, packets, Framing.parse_flatMap_bytes, Option.map_some, List.map_map]
  exact congrArg some (List.map_congr_left fun frame _ => frame.ofPacket_packet)

/-! ## Unpacking -/

/-- The header at the front of a stream, in network byte order. -/
def SbnHdr.ofBytes (stream : List UInt8) : SbnHdr where
  msgSz := UInt16.ofNat (ofBigEndian (stream.take 2))
  msgType := UInt8.ofNat (ofBigEndian ((stream.drop 2).take 1))
  cpuId := UInt32.ofNat (ofBigEndian ((stream.drop 3).take 4))

/-- Seven bytes of the stream are the header. -/
theorem SbnHdr.ofBytes_take (stream : List UInt8) :
    SbnHdr.ofBytes (stream.take 7) = SbnHdr.ofBytes stream := by
  simp [SbnHdr.ofBytes, List.take_take, List.drop_take]

/-- The header of a frame tells its size, type and CpuID. -/
theorem SbnHdr.ofBytes_header (frame : Frame) (rest : List UInt8) :
    SbnHdr.ofBytes (frame.header ++ rest) = ⟨frame.msgSz, frame.msgType, frame.cpuId⟩ := by
  have size : (frame.header ++ rest).take 2 = bigEndian 2 frame.msgSz.toNat := by
    rw [Frame.header, List.append_assoc, List.take_left' (length_bigEndian ..)]
  have afterSize : (frame.header ++ rest).drop 2 =
      bigEndian 1 frame.msgType.toNat ++ (bigEndian 4 frame.cpuId.toNat ++ rest) := by
    rw [Frame.header, List.append_assoc, List.drop_left' (length_bigEndian ..), List.append_assoc]
  have afterType : (frame.header ++ rest).drop 3 = bigEndian 4 frame.cpuId.toNat ++ rest := by
    rw [show 3 = 2 + 1 from rfl, ← List.drop_drop, afterSize, List.drop_left' (length_bigEndian ..)]
  simp only [SbnHdr.ofBytes, size, afterSize, afterType, List.take_left' (length_bigEndian ..),
    ofNat_ofBigEndian_uint8, ofNat_ofBigEndian_uint16, ofNat_ofBigEndian_uint32]

/-- The three `Unpack` calls of `recv_msg` read the header. -/
theorem SbnLayout.unpackSbnHdr_eq {P : Platform} (layout : SbnLayout P)
    (sbnHdrBuffer : Buffer P.packedHdrSz) :
    unpackSbnHdr P sbnHdrBuffer = SbnHdr.ofBytes sbnHdrBuffer.bytes := by
  have length := sbnHdrBuffer.length_bytes.trans layout.packedHdrSz_eq
  have start := layout.unpackInit sbnHdrBuffer
  obtain ⟨msgSz, afterSize⟩ :=
    layout.unpackUInt16 (P.unpackInit sbnHdrBuffer) (by simp [start, length])
  rw [start] at msgSz afterSize
  obtain ⟨msgType, afterType⟩ :=
    layout.unpackUInt8 (P.unpackUInt16 (P.unpackInit sbnHdrBuffer)).1
      (by simp [afterSize, length])
  rw [afterSize] at msgType afterType
  rw [List.drop_drop] at afterType
  obtain ⟨cpuId, -⟩ :=
    layout.unpackUInt32 (P.unpackUInt8 (P.unpackUInt16 (P.unpackInit sbnHdrBuffer)).1).1
      (by simp [afterType, length])
  rw [afterType] at cpuId
  simp only [unpackSbnHdr, SbnHdr.ofBytes, msgSz, msgType, cpuId]

end SbnClient
