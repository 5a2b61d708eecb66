import Mathlib.Data.List.Basic
import Mathlib.Data.List.Induction
import Mathlib.Data.Nat.ModEq

/-!
# Big-endian integers and length-prefixed packets

A stream of packets whose fixed-size header announces the size of the body needs no
delimiters: a reader that takes a header, and then the announced number of bytes,
recovers the packets from their concatenation.
-/

namespace Wire

/-! ## Big-endian integers -/

/-- The low `width` bytes of `value`, most significant first. -/
def bigEndian : Nat → Nat → List UInt8
  | 0, _ => []
  | width + 1, value => bigEndian width (value / 256) ++ [UInt8.ofNat value]

/-- The number a big-endian byte string denotes. -/
def ofBigEndian (bytes : List UInt8) : Nat :=
  bytes.foldl (fun value byte => value * 256 + byte.toNat) 0

@[simp] theorem length_bigEndian (width value : Nat) :
    (bigEndian width value).length = width := by
  induction width generalizing value with
  | zero => rfl
  | succ width ih => simp [bigEndian, ih]

theorem ofBigEndian_concat (bytes : List UInt8) (byte : UInt8) :
    ofBigEndian (bytes ++ [byte]) = ofBigEndian bytes * 256 + byte.toNat := by
  simp [ofBigEndian]

theorem ofBigEndian_lt (bytes : List UInt8) : ofBigEndian bytes < 256 ^ bytes.length := by
  induction bytes using List.reverseRecOn with
  | nil => exact Nat.one_pos
  | append_singleton bytes byte ih =>
      have byteLt := byte.toNat_lt
      rw [ofBigEndian_concat, List.length_append, List.length_singleton, Nat.pow_succ]
      omega

/-- Decoding returns the value, reduced to the width it was given. -/
theorem ofBigEndian_bigEndian (width value : Nat) :
    ofBigEndian (bigEndian width value) = value % 256 ^ width := by
  induction width generalizing value with
  | zero => simp [bigEndian, ofBigEndian, Nat.mod_one]
  | succ width ih =>
      have lowByte : (UInt8.ofNat value).toNat = value % 256 := by simp
      rw [bigEndian, ofBigEndian_concat, ih, lowByte, Nat.pow_succ, Nat.mul_comm (256 ^ width) 256,
        Nat.mod_mul]
      omega

theorem ofBigEndian_bigEndian_of_lt {width value : Nat} (fits : value < 256 ^ width) :
    ofBigEndian (bigEndian width value) = value := by
  rw [ofBigEndian_bigEndian, Nat.mod_eq_of_lt fits]

/-! An unsigned integer of the width that it is sent with comes back. -/

@[simp] theorem ofNat_ofBigEndian_uint8 (value : UInt8) :
    UInt8.ofNat (ofBigEndian (bigEndian 1 value.toNat)) = value := by
  rw [ofBigEndian_bigEndian_of_lt value.toNat_lt, UInt8.ofNat_toNat]

@[simp] theorem ofNat_ofBigEndian_uint16 (value : UInt16) :
    UInt16.ofNat (ofBigEndian (bigEndian 2 value.toNat)) = value := by
  rw [ofBigEndian_bigEndian_of_lt value.toNat_lt, UInt16.ofNat_toNat]

@[simp] theorem ofNat_ofBigEndian_uint32 (value : UInt32) :
    UInt32.ofNat (ofBigEndian (bigEndian 4 value.toNat)) = value := by
  rw [ofBigEndian_bigEndian_of_lt value.toNat_lt, UInt32.ofNat_toNat]

/-! ## Length-prefixed packets -/

/-- A fixed-size header and the size of the body that it announces. -/
structure Framing (α : Type*) where
  headerSize : Nat
  headerSize_pos : 0 < headerSize
  bodySize : List α → Nat

/-- A header together with a body of the size that it announces. -/
structure Packet {α : Type*} (framing : Framing α) where
  header : List α
  body : List α
  length_header : header.length = framing.headerSize
  length_body : body.length = framing.bodySize header

namespace Packet

variable {α : Type*} {framing : Framing α}

@[ext] theorem ext {left right : Packet framing} (header : left.header = right.header)
    (body : left.body = right.body) : left = right := by
  cases left
  cases right
  cases header
  cases body
  rfl

/-- What the packet contributes to the stream. -/
def bytes (packet : Packet framing) : List α :=
  packet.header ++ packet.body

theorem length_bytes_pos (packet : Packet framing) : 0 < packet.bytes.length := by
  have := framing.headerSize_pos
  rw [bytes, List.length_append, packet.length_header]
  omega

end Packet

namespace Framing

variable {α : Type*} (framing : Framing α)

/-- Take one packet from the front of a stream. -/
def next? (stream : List α) : Option (Packet framing × List α) :=
  if headerFits : framing.headerSize ≤ stream.length then
    let header := stream.take framing.headerSize
    let rest := stream.drop framing.headerSize
    if bodyFits : framing.bodySize header ≤ rest.length then
      some (⟨header, rest.take (framing.bodySize header), List.length_take_of_le headerFits,
        List.length_take_of_le bodyFits⟩, rest.drop (framing.bodySize header))
    else
      none
  else
    none

/-- Split a stream into at most `fuel` packets with nothing left over. -/
def split : Nat → List α → Option (List (Packet framing))
  | _, [] => some []
  | 0, _ :: _ => none
  | fuel + 1, first :: rest =>
      match framing.next? (first :: rest) with
      | none => none
      | some (packet, stream) => (split fuel stream).map (packet :: ·)

/-- Split a whole stream into packets; every packet takes at least one element. -/
def parse (stream : List α) : Option (List (Packet framing)) :=
  framing.split stream.length stream

/-- The packet at the front of a stream is the one taken, whatever follows it. -/
theorem next?_append (packet : Packet framing) (rest : List α) :
    framing.next? (packet.bytes ++ rest) = some (packet, rest) := by
  have headerTake : (packet.bytes ++ rest).take framing.headerSize = packet.header := by
    simp [Packet.bytes, ← packet.length_header]
  have headerDrop : (packet.bytes ++ rest).drop framing.headerSize = packet.body ++ rest := by
    simp [Packet.bytes, ← packet.length_header]
  have headerFits : framing.headerSize ≤ (packet.bytes ++ rest).length := by
    simp [Packet.bytes, packet.length_header]
  simp only [next?, headerFits, ↓reduceDIte, headerTake, headerDrop, ← packet.length_body]
  simp

theorem split_flatMap_bytes (packets : List (Packet framing)) {fuel : Nat}
    (enough : packets.length ≤ fuel) :
    framing.split fuel (packets.flatMap Packet.bytes) = some packets := by
  induction packets generalizing fuel with
  | nil => cases fuel <;> rfl
  | cons packet packets ih =>
      cases fuel with
      | zero => simp at enough
      | succ fuel =>
          have tail := ih (Nat.le_of_succ_le_succ enough)
          have taken := framing.next?_append packet (packets.flatMap Packet.bytes)
          rw [List.flatMap_cons]
          cases stream : packet.bytes ++ packets.flatMap Packet.bytes with
          | nil =>
              have := packet.length_bytes_pos
              have := congrArg List.length stream
              simp only [List.length_append, List.length_nil] at this
              omega
          | cons first rest =>
              rw [stream] at taken
              simp only [split, taken, tail, Option.map_some]

theorem length_le_length_flatMap_bytes (packets : List (Packet framing)) :
    packets.length ≤ (packets.flatMap Packet.bytes).length := by
  induction packets with
  | nil => simp
  | cons packet packets ih =>
      have := packet.length_bytes_pos
      simp only [List.flatMap_cons, List.length_append, List.length_cons]
      omega

/-- A stream of packets is uniquely decodable. -/
theorem parse_flatMap_bytes (packets : List (Packet framing)) :
    framing.parse (packets.flatMap Packet.bytes) = some packets :=
  framing.split_flatMap_bytes packets (framing.length_le_length_flatMap_bytes packets)

end Framing

end Wire
