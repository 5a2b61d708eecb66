import Mathlib.Data.List.Basic

/-!
# Units written to a stream that may accept less than a unit

A writer hands one unit after the other to a stream, which accepts some front of each.
A unit that is accepted in part is torn.  The stream stays readable as long as nothing is
written after a torn unit: it is then a sequence of whole units with at most one torn unit
at its end.
-/

/-- A unit handed to the stream and what the stream has accepted of it. -/
structure Transfer (α : Type*) where
  handed : List α
  written : List α

namespace Transfer

variable {α : Type*}

/-- Some of the unit has been written, and not all of it. -/
def Torn (transfer : Transfer α) : Prop :=
  transfer.written ≠ [] ∧ transfer.written ≠ transfer.handed

/-- Once a unit is torn, no later one writes anything. -/
def NothingAfterTorn (transfers : List (Transfer α)) : Prop :=
  transfers.Pairwise fun earlier later => earlier.Torn → later.written = []

theorem NothingAfterTorn.take {transfers : List (Transfer α)}
    (quiet : NothingAfterTorn transfers) (count : Nat) :
    NothingAfterTorn (transfers.take count) :=
  quiet.sublist (List.take_sublist _ _)

/-- Whole units in the order in which they were handed over, then at most one torn unit. -/
theorem NothingAfterTorn.exists_whole_units {transfers : List (Transfer α)}
    (quiet : NothingAfterTorn transfers) :
    ∃ (units : List (List α)) (tail : List α),
      transfers.flatMap written = units.flatten ++ tail ∧
      units.Sublist ((transfers.filter fun transfer => transfer.written ≠ []).map handed) ∧
      (tail = [] ∨ ∃ transfer ∈ transfers, transfer.Torn ∧ transfer.written = tail) := by
  induction transfers with
  | nil => exact ⟨[], [], rfl, .slnil, .inl rfl⟩
  | cons first later ih =>
      obtain ⟨afterFirst, quietLater⟩ := List.pairwise_cons.mp quiet
      obtain ⟨units, tail, stream, inOrder, ending⟩ := ih quietLater
      have endingLater : tail = [] ∨
          ∃ transfer ∈ first :: later, transfer.Torn ∧ transfer.written = tail :=
        ending.imp_right fun ⟨transfer, member, torn⟩ => ⟨transfer, .tail _ member, torn⟩
      by_cases silent : first.written = []
      · refine ⟨units, tail, ?_, ?_, endingLater⟩
        · rw [List.flatMap_cons, silent, stream, List.nil_append]
        · simpa [silent] using inOrder
      · by_cases whole : first.written = first.handed
        · refine ⟨first.handed :: units, tail, ?_, ?_, endingLater⟩
          · rw [List.flatMap_cons, whole, stream, List.flatten_cons, List.append_assoc]
          · simpa [silent] using inOrder
        · have torn : first.Torn := ⟨silent, whole⟩
          have rest : later.flatMap written = [] :=
            List.flatMap_eq_nil_iff.mpr fun transfer member => afterFirst transfer member torn
          refine ⟨[], first.written, ?_, List.nil_sublist _, .inr ⟨first, .head _, torn, rfl⟩⟩
          rw [List.flatMap_cons, rest, List.append_nil, List.flatten_nil, List.nil_append]

end Transfer
