import Mathlib.Data.List.DropRight
import Mathlib.Data.List.Induction

/-!
# Runs of failures

A counter that every failure increments and every success resets holds the length of the run
of failures at the end of a trace.  A process that gives up when the counter reaches a limit
gives up at the end of the first such run of that length.
-/

namespace FailureRuns

variable {α : Type*} {failed : α → Bool} {trace : List α}

/-- Length of the run of failures at the end of the trace. -/
def trailing (failed : α → Bool) (trace : List α) : Nat :=
  (trace.rtakeWhile failed).length

/-- The last `count` events of the trace are failures. -/
def EndsIn (failed : α → Bool) (count : Nat) (trace : List α) : Prop :=
  ∃ before failures, trace = before ++ failures ∧ failures.length = count ∧
    ∀ event ∈ failures, failed event = true

/-- The trace ends when, for the first time, its last `count` events are failures. -/
structure EndsFirst (failed : α → Bool) (count : Nat) (trace : List α) : Prop where
  endsIn : EndsIn failed count trace
  first : ∀ k < trace.length, ¬ EndsIn failed count (trace.take k)

@[simp] theorem trailing_nil : trailing failed [] = 0 := by
  simp [trailing]

theorem trailing_concat (trace : List α) (event : α) :
    trailing failed (trace ++ [event]) =
      if failed event then trailing failed trace + 1 else 0 := by
  rw [trailing, List.rtakeWhile_concat]
  split <;> simp [trailing]

/-! ## The end of a trace -/

theorem endsIn_zero (trace : List α) : EndsIn failed 0 trace :=
  ⟨trace, [], by simp, rfl, by simp⟩

theorem not_endsIn_nil (count : Nat) : ¬ EndsIn failed (count + 1) [] := by
  rintro ⟨before, failures, split, length, -⟩
  rw [eq_comm, List.append_eq_nil_iff] at split
  simp [split.2] at length

theorem endsIn_concat_iff {count : Nat} (trace : List α) (event : α) :
    EndsIn failed (count + 1) (trace ++ [event]) ↔
      failed event = true ∧ EndsIn failed count trace := by
  constructor
  · rintro ⟨before, failures, split, length, allFail⟩
    rcases List.eq_nil_or_concat failures with rfl | ⟨earlier, last, rfl⟩
    · simp at length
    · rw [List.concat_eq_append] at split length allFail
      rw [← List.append_assoc] at split
      obtain ⟨traces, same⟩ := List.append_inj' split rfl
      simp only [List.cons.injEq, and_true] at same
      subst same
      refine ⟨allFail event (by simp), before, earlier, traces, by simpa using length, ?_⟩
      exact fun other member => allFail other (by simp [member])
  · rintro ⟨fails, before, failures, rfl, length, allFail⟩
    refine ⟨before, failures ++ [event], by simp, by simp [length], fun other member => ?_⟩
    rcases List.mem_append.mp member with earlier | last
    · exact allFail other earlier
    · rw [List.mem_singleton.mp last]
      exact fails

/-- The counter tells how many failures the trace ends in. -/
theorem endsIn_iff {count : Nat} : EndsIn failed count trace ↔ count ≤ trailing failed trace := by
  induction trace using List.reverseRecOn generalizing count with
  | nil =>
      cases count with
      | zero => exact iff_of_true (endsIn_zero []) (Nat.zero_le _)
      | succ count => exact iff_of_false (not_endsIn_nil count) (by simp)
  | append_singleton trace event ih =>
      cases count with
      | zero => exact iff_of_true (endsIn_zero _) (Nat.zero_le _)
      | succ count =>
          rw [endsIn_concat_iff, ih, trailing_concat]
          split
          next fails => simp [fails]
          next succeeds => simp [succeeds]

/-! ## The first run of a given length -/

/-- No prefix of the trace ends in `count` failures. -/
def Below (failed : α → Bool) (count : Nat) (trace : List α) : Prop :=
  ∀ k ≤ trace.length, ¬ EndsIn failed count (trace.take k)

theorem below_nil {count : Nat} (positive : 0 < count) : Below failed count ([] : List α) := by
  intro k _ ends
  rw [List.take_nil, endsIn_iff, trailing_nil] at ends
  omega

/-- A trace that has not got that far gets there with the next event, or not yet. -/
theorem Below.concat {count : Nat} (below : Below failed count trace) (event : α) :
    (EndsIn failed count (trace ++ [event]) → EndsFirst failed count (trace ++ [event])) ∧
      (¬ EndsIn failed count (trace ++ [event]) → Below failed count (trace ++ [event])) := by
  constructor
  · refine fun ends => ⟨ends, fun k earlier => ?_⟩
    rw [List.length_append, List.length_singleton] at earlier
    rw [List.take_append_of_le_length (Nat.lt_succ_iff.mp earlier)]
    exact below k (Nat.lt_succ_iff.mp earlier)
  · intro notYet k within
    by_cases earlier : k ≤ trace.length
    · rw [List.take_append_of_le_length earlier]
      exact below k earlier
    · rw [List.take_of_length_le (by simp; omega)]
      exact notYet

end FailureRuns
