import Mathlib.Logic.Function.Basic
import Mathlib.Data.Fin.Basic
import Mathlib.Data.Nat.ModEq

/-!
# Bounded FIFO queues in a ring that retains the last item taken

A reader that is handed a pointer into the ring must keep the slot it points at
until it asks for the next item.  Such a ring counts the retained slot as occupied:
an empty queue has count one, the cursor stands on the retained slot, and item `k`
of the queue is `k + 1` places after the cursor.  A ring of `depth` slots therefore
holds at most `depth - 1` items.

Slots need not equal the items they carry: `shows slot item` says what a reader of
the slot sees.
-/

namespace RetainedRing

variable {depth : Nat} {Slot Item : Type*}

/-- Physical position `offset` places after `cursor`. -/
def position (depth cursor offset : Nat) : Nat :=
  (cursor + offset) % depth

theorem position_lt (positive : 0 < depth) (cursor offset : Nat) :
    position depth cursor offset < depth :=
  Nat.mod_lt _ positive

/-- Less than one revolution never returns to the same slot. -/
theorem position_inj {cursor left right : Nat} (leftLt : left < depth)
    (rightLt : right < depth)
    (same : position depth cursor left = position depth cursor right) : left = right := by
  have congruent : cursor + left ≡ cursor + right [MOD depth] := same
  have offsets := Nat.ModEq.add_left_cancel' cursor congruent
  rwa [Nat.ModEq, Nat.mod_eq_of_lt leftLt, Nat.mod_eq_of_lt rightLt] at offsets

/-- Moving the cursor first, or the offset: the same slot. -/
theorem position_position (cursor left right : Nat) :
    position depth (position depth cursor left) right = position depth cursor (left + right) := by
  simp [position, Nat.add_assoc]

/-- Taking an item moves the cursor and leaves the slot for the next item where it was. -/
theorem position_pop {cursor count : Nat} (positive : 1 ≤ count) :
    position depth (position depth cursor 1) (count - 1) = position depth cursor count := by
  rw [position_position, Nat.add_sub_of_le positive]

@[simp] theorem position_zero {cursor : Nat} (cursorLt : cursor < depth) :
    position depth cursor 0 = cursor :=
  Nat.mod_eq_of_lt cursorLt

/-! ## Occupied slots -/

/-- The slot `offset` places after `cursor` is one of the `count` occupied ones; the retained
slot has offset zero. -/
structure Occupied (cursor count : Nat) (slot : Fin depth) (offset : Nat) : Prop where
  slot_eq : slot.val = position depth cursor offset
  offset_lt : offset < count
  count_le : count ≤ depth

namespace Occupied

variable {cursor count offset : Nat} {slot : Fin depth}

/-- The slot that receives the next item is not an occupied one. -/
theorem ne_entry (occupied : Occupied cursor count slot offset) (room : count < depth) :
    slot.val ≠ position depth cursor count := by
  intro same
  have offsetEq := position_inj (occupied.offset_lt.trans room) room
    (occupied.slot_eq.symm.trans same)
  exact occupied.offset_lt.ne offsetEq

theorem push (occupied : Occupied cursor count slot offset) (room : count < depth) :
    Occupied cursor (count + 1) slot offset where
  slot_eq := occupied.slot_eq
  offset_lt := occupied.offset_lt.trans (Nat.lt_succ_self _)
  count_le := room

/-- Advancing the cursor brings it one place nearer to the slot. -/
theorem pop (occupied : Occupied cursor count slot (offset + 1)) :
    Occupied (position depth cursor 1) (count - 1) slot offset where
  slot_eq := by rw [position_position, Nat.add_comm, occupied.slot_eq]
  offset_lt := by
    have := occupied.offset_lt
    omega
  count_le := (Nat.sub_le _ _).trans occupied.count_le

end Occupied

/-! ## Queues -/

/-- The ring at `cursor` with `count` occupied slots, one of them the retained one,
carries the items of `queue`, oldest first. -/
structure Holds (shows : Slot → Item → Prop) (slots : Fin depth → Slot)
    (cursor count : Nat) (queue : List Item) : Prop where
  count_eq : count = queue.length + 1
  count_le : count ≤ depth
  cursor_lt : cursor < depth
  shown : ∀ (k : Nat) (inQueue : k < queue.length) (slot : Fin depth),
    slot.val = position depth cursor (k + 1) → shows (slots slot) queue[k]

namespace Holds

variable {shows : Slot → Item → Prop} {slots : Fin depth → Slot}
variable {cursor count : Nat} {queue : List Item}

/-- Whatever its slots carry, a ring with only the retained slot is empty. -/
theorem empty (cursorLt : cursor < depth) : Holds shows slots cursor 1 [] where
  count_eq := rfl
  count_le := by omega
  cursor_lt := cursorLt
  shown := by simp

/-- Writing the slot after the last occupied one appends an item. -/
theorem push (holds : Holds shows slots cursor count queue)
    (room : count < depth) {entry : Fin depth}
    (entryEq : entry.val = position depth cursor count)
    {slot : Slot} {item : Item} (carried : shows slot item) :
    Holds shows (Function.update slots entry slot) cursor (count + 1) (queue ++ [item]) where
  count_eq := by simp [holds.count_eq]
  count_le := room
  cursor_lt := holds.cursor_lt
  shown := by
    intro k inQueue other otherEq
    have countEq := holds.count_eq
    by_cases old : k < queue.length
    · have distinct : other ≠ entry := by
        intro equal
        rw [equal, entryEq] at otherEq
        have := position_inj room (by omega) otherEq
        omega
      rw [Function.update_of_ne distinct, List.getElem_append_left old]
      exact holds.shown k old other otherEq
    · have last : k = queue.length := by
        simp only [List.length_append, List.length_singleton] at inQueue
        omega
      subst last
      have same : other = entry := by
        apply Fin.ext
        rw [otherEq, entryEq, countEq]
      simpa [same] using carried

/-- Advancing the cursor takes the oldest item, which the new retained slot shows. -/
theorem pop {item : Item} (holds : Holds shows slots cursor count (item :: queue))
    {next : Fin depth} (nextEq : next.val = position depth cursor 1) :
    shows (slots next) item ∧ Holds shows slots next.val (count - 1) queue where
  left := holds.shown 0 (by simp) next nextEq
  right :=
    { count_eq := by simp [holds.count_eq]
      count_le := by have := holds.count_le; omega
      cursor_lt := next.isLt
      shown := by
        intro k inQueue slot slotEq
        rw [nextEq, position_position, Nat.add_comm 1] at slotEq
        exact holds.shown (k + 1) (by simpa using inQueue) slot slotEq }

/-- The retained slot costs one place of the ring. -/
theorem length_lt (holds : Holds shows slots cursor count queue) :
    queue.length < depth := by
  have := holds.count_eq
  have := holds.count_le
  omega

end Holds

end RetainedRing
