import Mathlib.Data.List.Basic

/-!
# Input that arrives in segments

A stream socket delivers a sequence of elements cut at arbitrary places, and may
also report a failure or the end of the stream.  A `read` with room for `count`
elements hands over at most the current segment and keeps what it had no room for.
Cutting the input at exactly the sizes of a given sequence of reads shows that every
way of answering reads with between one and `count` elements is such a segmentation.

What matters about an input is what a reader can still take from it before the first
failure, `available`, and not how that is cut.
-/

namespace SegmentedInput

/-- What the other side, or the network, does next. -/
inductive Arrival (α : Type*) where
  | received (first : α) (rest : List α)
  | closed
  | failed
  deriving DecidableEq, Repr

/-- What one `read` reports. -/
inductive ReadResult (α : Type*) where
  | received (chunk : List α)
  | closed
  | failed

variable {α : Type*}

/-- A `read` with room for `count` elements.  Input that is used up reads as closed. -/
def read : List (Arrival α) → Nat → ReadResult α × List (Arrival α)
  | [], _ => (.closed, [])
  | .closed :: input, _ => (.closed, input)
  | .failed :: input, _ => (.failed, input)
  | .received first rest :: input, count =>
      match (first :: rest).drop count with
      | [] => (.received (first :: rest), input)
      | next :: kept => (.received ((first :: rest).take count), .received next kept :: input)

/-- The elements that arrive before anything else happens. -/
def available : List (Arrival α) → List α
  | .received first rest :: input => first :: rest ++ available input
  | _ => []

/-- A whole list as one segment. -/
def whole : List α → List (Arrival α)
  | [] => []
  | first :: rest => [.received first rest]

@[simp] theorem available_whole (elements : List α) : available (whole elements) = elements := by
  cases elements with
  | nil => rfl
  | cons first rest => simp [whole, available]

/-- A chunk is never empty, never larger than the room offered, and is the front of what
was available. -/
theorem read_received {input rest : List (Arrival α)} {count : Nat} {chunk : List α}
    (room : 0 < count) (result : read input count = (.received chunk, rest)) :
    chunk ≠ [] ∧ chunk.length ≤ count ∧ chunk ++ available rest = available input := by
  match input with
  | [] => simp [read] at result
  | .closed :: input => simp [read] at result
  | .failed :: input => simp [read] at result
  | .received first more :: input =>
      simp only [read] at result
      split at result
      next fitting =>
        simp only [Prod.mk.injEq, ReadResult.received.injEq] at result
        rw [← result.1, ← result.2]
        exact ⟨by simp, List.drop_eq_nil_iff.mp fitting, rfl⟩
      next next kept cut =>
        simp only [Prod.mk.injEq, ReadResult.received.injEq] at result
        rw [← result.1, ← result.2]
        refine ⟨?_, List.length_take_le _ _, ?_⟩
        · simp only [ne_eq, List.take_eq_nil_iff, reduceCtorEq, or_false]
          omega
        · have joined := List.take_append_drop count (first :: more)
          rw [cut] at joined
          simp only [available, ← List.append_assoc, joined]

/-- There is a chunk exactly when something is available. -/
theorem exists_received_iff (input : List (Arrival α)) (count : Nat) :
    (∃ chunk rest, read input count = (.received chunk, rest)) ↔ available input ≠ [] := by
  match input with
  | [] => simp [read, available]
  | .closed :: input => simp [read, available]
  | .failed :: input => simp [read, available]
  | .received first more :: input =>
      simp only [read, available, List.cons_append, ne_eq, reduceCtorEq, not_false_eq_true,
        iff_true]
      split
      · exact ⟨_, _, rfl⟩
      · exact ⟨_, _, rfl⟩

/-! ## Inputs that end in a close -/

/-- No read fails, and nothing arrives once the input has been closed. -/
def EndsInClose : List (Arrival α) → Prop
  | [] => True
  | .received _ _ :: input => EndsInClose input
  | .closed :: input => EndsInClose input ∧ available input = []
  | .failed :: _ => False

/-- Two ways of cutting the same elements, each followed by the close. -/
structure SameElements (left right : List (Arrival α)) : Prop where
  left_ends : EndsInClose left
  right_ends : EndsInClose right
  available_eq : available left = available right

theorem endsInClose_whole (elements : List α) : EndsInClose (whole elements) := by
  cases elements with
  | nil => trivial
  | cons first rest => trivial

/-- A read that delivers nothing finds the input used up. -/
theorem available_eq_nil {input : List (Arrival α)} (count : Nat)
    (missing : ∀ chunk rest, read input count ≠ (.received chunk, rest)) :
    available input = [] := by
  by_contra remaining
  obtain ⟨chunk, rest, answer⟩ := (exists_received_iff input count).mpr remaining
  exact missing chunk rest answer

/-- A read that finds the input closed has left nothing behind. -/
theorem EndsInClose.read_closed {input rest : List (Arrival α)} (ends : EndsInClose input)
    {count : Nat} (result : read input count = (.closed, rest)) :
    EndsInClose rest ∧ available rest = [] := by
  match input with
  | [] =>
      cases result
      exact ⟨trivial, rfl⟩
  | .closed :: input =>
      cases result
      exact ends
  | .failed :: input => exact ends.elim
  | .received first more :: input =>
      simp only [read] at result
      split at result <;> cases result

theorem EndsInClose.read_ne_failed {input : List (Arrival α)} (ends : EndsInClose input)
    (count : Nat) (rest : List (Arrival α)) : read input count ≠ (.failed, rest) := by
  match input with
  | [] => simp [read]
  | .closed :: input => simp [read]
  | .failed :: input => exact ends.elim
  | .received first more :: input =>
      simp only [read]
      split <;> simp

theorem EndsInClose.read_received {input rest : List (Arrival α)} (ends : EndsInClose input)
    {count : Nat} {chunk : List α} (result : read input count = (.received chunk, rest)) :
    EndsInClose rest := by
  match input with
  | [] => simp [read] at result
  | .closed :: input => simp [read] at result
  | .failed :: input => exact ends.elim
  | .received first more :: input =>
      simp only [read] at result
      split at result
      · cases result
        exact ends
      · cases result
        exact ends

end SegmentedInput
