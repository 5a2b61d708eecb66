import Mathlib.Data.List.Basic

/-!
# Fixed-size byte buffers

A C array of bytes keeps its size, and a copy into it either fits or is undefined
behaviour.  `Buffer size` carries the size as part of the value; `store` takes the
proof that the copy fits, and `store?` is the same copy for a caller that has none.
-/

/-- A byte array of exactly `size` bytes. -/
structure Buffer (size : Nat) where
  bytes : List UInt8
  length_bytes : bytes.length = size
  deriving DecidableEq

namespace Buffer

variable {size : Nat}

@[ext] theorem ext {left right : Buffer size} (equal : left.bytes = right.bytes) :
    left = right := by
  cases left
  cases right
  cases equal
  rfl

/-- A buffer with the same byte everywhere. -/
def filled (size : Nat) (byte : UInt8) : Buffer size :=
  ⟨List.replicate size byte, List.length_replicate⟩

/-- Copy `data` to `offset`, leaving every other byte as it was. -/
def store (buffer : Buffer size) (offset : Nat) (data : List UInt8)
    (fits : offset + data.length ≤ size) : Buffer size where
  bytes := buffer.bytes.take offset ++ (data ++ buffer.bytes.drop (offset + data.length))
  length_bytes := by
    simp only [List.length_append, List.length_take, List.length_drop, buffer.length_bytes]
    omega

/-- Copy `data` to `offset`; `none` if it would write past the end. -/
def store? (buffer : Buffer size) (offset : Nat) (data : List UInt8) : Option (Buffer size) :=
  if fits : offset + data.length ≤ size then some (buffer.store offset data fits) else none

theorem store?_eq_some {buffer : Buffer size} {offset : Nat} {data : List UInt8}
    (fits : offset + data.length ≤ size) :
    buffer.store? offset data = some (buffer.store offset data fits) :=
  dif_pos fits

/-- The first `count` bytes, as a reader of the buffer sees them. -/
def read (buffer : Buffer size) (count : Nat) : List UInt8 :=
  buffer.bytes.take count

@[simp] theorem length_read (buffer : Buffer size) (count : Nat) :
    (buffer.read count).length = min count size := by
  simp [read, buffer.length_bytes]

@[simp] theorem read_size (buffer : Buffer size) : buffer.read size = buffer.bytes :=
  List.take_of_length_le (Nat.le_of_eq buffer.length_bytes)

/-- Reading up to the end of a copy. -/
theorem read_store (buffer : Buffer size) (offset : Nat) (data : List UInt8)
    (fits : offset + data.length ≤ size) :
    (buffer.store offset data fits).read (offset + data.length) = buffer.read offset ++ data := by
  have offsetLength : (buffer.bytes.take offset).length = offset := by
    rw [List.length_take, buffer.length_bytes]
    omega
  have dataEnd : (buffer.bytes.take offset ++ data).length = offset + data.length := by
    rw [List.length_append, offsetLength]
  simp only [read, store, ← List.append_assoc, ← dataEnd, List.take_left]

/-- A copy to the front is read back. -/
@[simp] theorem read_store_zero (buffer : Buffer size) (data : List UInt8)
    (fits : 0 + data.length ≤ size) :
    (buffer.store 0 data fits).read data.length = data := by
  simp [read, store]

theorem bytes_store_zero (buffer : Buffer size) (data : List UInt8)
    (fits : 0 + data.length ≤ size) :
    (buffer.store 0 data fits).bytes = data ++ buffer.bytes.drop data.length := by
  simp [store]

@[simp] theorem store_nil (buffer : Buffer size) (offset : Nat)
    (fits : offset + ([] : List UInt8).length ≤ size) : buffer.store offset [] fits = buffer := by
  ext1
  simp [store]

/-- Two adjacent copies are one copy of the concatenation. -/
theorem store_store (buffer : Buffer size) (offset : Nat) (left right : List UInt8)
    (leftFits : offset + left.length ≤ size)
    (rightFits : offset + left.length + right.length ≤ size)
    (fits : offset + (left ++ right).length ≤ size) :
    (buffer.store offset left leftFits).store (offset + left.length) right rightFits =
      buffer.store offset (left ++ right) fits := by
  ext1
  have offsetLength : (buffer.bytes.take offset).length = offset := by
    rw [List.length_take, buffer.length_bytes]
    omega
  have leftEnd : (buffer.bytes.take offset ++ left).length = offset + left.length := by
    rw [List.length_append, offsetLength]
  simp only [store, ← List.append_assoc]
  rw [← leftEnd, List.take_left, List.drop_append, leftEnd, List.drop_of_length_le (by omega),
    List.drop_drop, List.nil_append, List.length_append]
  congr 2
  omega

theorem store?_eq_some_iff {buffer copied : Buffer size} {offset : Nat} {data : List UInt8} :
    buffer.store? offset data = some copied ↔
      ∃ fits : offset + data.length ≤ size, buffer.store offset data fits = copied := by
  rw [store?]
  split
  next fits => simp [fits]
  next tooLong => simp [tooLong]

/-- Checked copies compose like unchecked ones. -/
theorem store?_append {buffer middle copied : Buffer size} {offset : Nat}
    {left right : List UInt8} (first : buffer.store? offset left = some middle)
    (second : middle.store? (offset + left.length) right = some copied) :
    buffer.store? offset (left ++ right) = some copied := by
  obtain ⟨leftFits, rfl⟩ := store?_eq_some_iff.mp first
  obtain ⟨rightFits, rfl⟩ := store?_eq_some_iff.mp second
  have fits : offset + (left ++ right).length ≤ size := by
    rw [List.length_append]
    omega
  exact store?_eq_some_iff.mpr ⟨fits, (store_store ..).symm⟩

end Buffer
