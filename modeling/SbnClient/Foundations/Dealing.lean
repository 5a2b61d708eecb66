import Mathlib.Algebra.BigOperators.Fin
import Mathlib.Algebra.Order.BigOperators.Group.Finset
import Mathlib.Data.Multiset.AddSub

/-!
# Dealing out a stream

The elements of one stream arrive in order and each is dealt to at most one of finitely many
hands.  What a hand has got is then in the order of the stream, and no element is in two hands
or twice in one.
-/

namespace Dealing

variable {ι α : Type*} [Fintype ι]

/-- Each hand holds elements that have arrived, in the order in which they did, and all hands
together hold none more often than it has arrived. -/
structure Dealt (arrived : List α) (hands : ι → List α) : Prop where
  inOrder : ∀ i, (hands i).Sublist arrived
  once : ∑ i, (hands i : Multiset α) ≤ arrived

namespace Dealt

variable {arrived : List α} {hands : ι → List α}

theorem empty : Dealt [] fun _ : ι => ([] : List α) where
  inOrder _ := .refl _
  once := by simp

/-- An element arrives and is dealt to nobody. -/
theorem skip (dealt : Dealt arrived hands) (element : α) : Dealt (arrived ++ [element]) hands where
  inOrder i := (dealt.inOrder i).trans (List.sublist_append_left ..)
  once := by
    rw [← Multiset.coe_add]
    exact dealt.once.trans (Multiset.le_add_right _ _)

/-- An element arrives and is dealt to one hand. -/
theorem deal [DecidableEq ι] (dealt : Dealt arrived hands) {element : α} {i : ι}
    {more : ι → List α} (gets : more i = hands i ++ [element])
    (others : ∀ j, j ≠ i → more j = hands j) : Dealt (arrived ++ [element]) more where
  inOrder j := by
    rcases eq_or_ne j i with rfl | other
    · rw [gets]
      exact (dealt.inOrder j).append (.refl _)
    · rw [others j other]
      exact (dealt.inOrder j).trans (List.sublist_append_left ..)
  once := by
    have added : ∀ j, (more j : Multiset α) = hands j + if j = i then {element} else 0 := by
      intro j
      rcases eq_or_ne j i with rfl | other
      · simp [gets, ← Multiset.coe_add]
      · simp [others j other, other]
    simp only [added, Finset.sum_add_distrib, Finset.sum_ite_eq', Finset.mem_univ, ↓reduceIte]
    rw [← Multiset.coe_add]
    exact add_le_add dealt.once (Multiset.coe_singleton element).ge

/-- Hands may lose elements. -/
theorem lose (dealt : Dealt arrived hands) {fewer : ι → List α}
    (loses : ∀ i, (fewer i).Sublist (hands i)) : Dealt arrived fewer where
  inOrder i := (loses i).trans (dealt.inOrder i)
  once := (Finset.sum_le_sum fun i _ => Multiset.coe_le.mpr (loses i).subperm).trans dealt.once

/-- What has arrived may be the beginning of a longer stream. -/
theorem extend (dealt : Dealt arrived hands) {longer : List α} (isPrefix : arrived <+: longer) :
    Dealt longer hands where
  inOrder i := (dealt.inOrder i).trans isPrefix.sublist
  once := dealt.once.trans (Multiset.coe_le.mpr isPrefix.sublist.subperm)

end Dealt

end Dealing
