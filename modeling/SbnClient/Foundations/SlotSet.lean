import Mathlib.Data.Set.Card
import Mathlib.Data.Set.Function
import Mathlib.SetTheory.Cardinal.Finite

/-!
# Sets in slots

A small set can be kept in an array of slots, one value standing for a free slot.  The
array represents the set once each item occupies one slot, and then it can hold as many
items as it has slots.
-/

namespace SlotSet

variable {size : Nat} {Item : Type*} {free item : Item} {slots : Fin size → Item} {j : Fin size}

/-- The slots in use. -/
def used (free : Item) (slots : Fin size → Item) : Set (Fin size) :=
  {j | slots j ≠ free}

@[simp] theorem mem_used : j ∈ used free slots ↔ slots j ≠ free := Iff.rfl

/-- The set that the slots hold. -/
def items (free : Item) (slots : Fin size → Item) : Set Item :=
  slots '' used free slots

/-- No item occupies two slots. -/
def Distinct (free : Item) (slots : Fin size → Item) : Prop :=
  Set.InjOn slots (used free slots)

theorem mem_items_iff (occupies : item ≠ free) :
    item ∈ items free slots ↔ ∃ j, slots j = item := by
  constructor
  · rintro ⟨j, -, stored⟩
    exact ⟨j, stored⟩
  · rintro ⟨j, rfl⟩
    exact ⟨j, occupies, rfl⟩

theorem distinct_of_free (allFree : ∀ j, slots j = free) : Distinct free slots :=
  fun j inUse => absurd (allFree j) inUse

/-- An item that is not in the set may be stored in any slot. -/
theorem Distinct.store (distinct : Distinct free slots) (missing : ∀ k, slots k ≠ item)
    (j : Fin size) : Distinct free (Function.update slots j item) := by
  intro a usedA b usedB same
  rw [mem_used] at usedA usedB
  by_cases atA : a = j
  · by_cases atB : b = j
    · rw [atA, atB]
    · rw [atA, Function.update_self, Function.update_of_ne atB] at same
      exact absurd same.symm (missing b)
  · by_cases atB : b = j
    · rw [atB, Function.update_self, Function.update_of_ne atA] at same
      exact absurd same (missing a)
    · rw [Function.update_of_ne atA] at usedA same
      rw [Function.update_of_ne atB] at usedB same
      exact distinct usedA usedB same

/-- Without a free slot, the set has as many items as there are slots. -/
theorem Distinct.ncard_items (distinct : Distinct free slots) (full : ∀ j, slots j ≠ free) :
    (items free slots).ncard = size := by
  have allUsed : used free slots = Set.univ := Set.eq_univ_of_forall full
  rw [items, Set.InjOn.ncard_image distinct, allUsed, Set.ncard_univ, Nat.card_fin]

end SlotSet
