import Mathlib.Data.List.Basic

/-!
# Since

The past-time operator of temporal logic on a finite trace: some event has begun a period
that no later event has ended.
-/

variable {α : Type*}

/-- Some event of the trace begins a period, and no event after it ends it. -/
def Since (begins ends : α → Prop) (trace : List α) : Prop :=
  ∃ before event after, trace = before ++ event :: after ∧ begins event ∧
    ∀ later ∈ after, ¬ ends later

namespace Since

variable {begins ends : α → Prop}

theorem not_nil : ¬ Since begins ends [] := by
  rintro ⟨before, event, after, split, -⟩
  simp at split

/-- A new event begins a period, or continues one by not ending it. -/
theorem concat_iff (trace : List α) (event : α) :
    Since begins ends (trace ++ [event]) ↔
      begins event ∨ (Since begins ends trace ∧ ¬ ends event) := by
  constructor
  · rintro ⟨before, first, after, split, begun, lasts⟩
    rcases List.eq_nil_or_concat after with rfl | ⟨earlier, last, rfl⟩
    · have same := (List.append_inj' split rfl).2
      simp only [List.cons.injEq, and_true] at same
      exact .inl (same ▸ begun)
    · rw [List.concat_eq_append, ← List.cons_append, ← List.append_assoc] at split
      obtain ⟨traces, same⟩ := List.append_inj' split rfl
      simp only [List.cons.injEq, and_true] at same
      subst same
      refine .inr ⟨⟨before, first, earlier, traces, begun, fun later member => ?_⟩, ?_⟩
      · exact lasts later (by simp [member])
      · exact lasts event (by simp)
  · rintro (begun | ⟨⟨before, first, after, rfl, begun, lasts⟩, continued⟩)
    · exact ⟨trace, event, [], rfl, begun, by simp⟩
    · refine ⟨before, first, after ++ [event], by simp, begun, fun later member => ?_⟩
      rcases List.mem_append.mp member with earlier | last
      · exact lasts later earlier
      · rw [List.mem_singleton.mp last]
        exact continued

end Since
