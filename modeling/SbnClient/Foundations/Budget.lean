import Mathlib.Algebra.GroupWithZero.Nat
import SbnClient.Foundations.Simulation

/-!
# Budgets

Some steps of a system cost one unit of what it has, others add to it.  A run then has no more
steps of the first kind than its start and the steps of the second kind pay for.
-/

namespace Machine

variable {State Label : Type*}

/-- The steps of a run that costs are limited by. -/
theorem Run.budget {step : State → Label → State → Prop} {measure : State → Nat}
    {costs gains : Label → Bool} {amount : Nat}
    (pays : ∀ state label next, step state label next →
      measure next + (costs label).toNat ≤ measure state + amount * (gains label).toNat)
    {start state : State} {trace : List Label} (run : Run step start trace state) :
    measure state + trace.countP costs ≤ measure start + amount * trace.countP gains := by
  induction run with
  | refl => simp
  | @snoc trace state next label _ stepped ih =>
      have paid := pays state label next stepped
      have counted : ∀ counts : Label → Bool, (trace ++ [label]).countP counts =
          trace.countP counts + (counts label).toNat := by
        intro counts
        rw [List.countP_append, List.countP_singleton]
        cases counts label <;> rfl
      rw [counted, counted, Nat.mul_add]
      omega

/-- The steps after a stable condition has been met are taken under it. -/
theorem Run.stable {step : State → Label → State → Prop} {invariant : State → Prop}
    (preserves : ∀ state label next, invariant state → step state label next → invariant next)
    {start state : State} {trace : List Label} (run : Run step start trace state)
    (initially : invariant start) :
    Run (Guarded step fun state _ => invariant state) start trace state ∧ invariant state := by
  induction run with
  | refl => exact ⟨.refl, initially⟩
  | snoc _ stepped ih => exact ⟨ih.1.snoc ⟨stepped, ih.2⟩, preserves _ _ _ ih.2 stepped⟩

/-- Steps that only cost, in a run that meets a stable condition. -/
theorem Run.countP_le {step : State → Label → State → Prop} {invariant : State → Prop}
    {measure : State → Nat} {costs : Label → Bool}
    (preserves : ∀ state label next, invariant state → step state label next → invariant next)
    (pays : ∀ state label next, invariant state → step state label next →
      measure next + (costs label).toNat ≤ measure state)
    {start state : State} {trace : List Label} (run : Run step start trace state)
    (initially : invariant start) : trace.countP costs ≤ measure start := by
  have under := (run.stable preserves initially).1
  have spent : measure state + trace.countP costs ≤
      measure start + 0 * trace.countP (fun _ => false) :=
    under.budget fun state label next guarded => by
      simpa using pays state label next guarded.2 guarded.1
  omega

/-- The sum over a list in which one element is replaced. -/
theorem sum_map_set {α : Type*} (weight : α → Nat) {elements : List α} {index : Nat} {old : α}
    (found : elements[index]? = some old) (new : α) :
    ((elements.set index new).map weight).sum + weight old =
      (elements.map weight).sum + weight new := by
  induction elements generalizing index with
  | nil => cases found
  | cons first rest ih =>
      cases index with
      | zero =>
          cases found
          simp only [List.set_cons_zero, List.map_cons, List.sum_cons]
          omega
      | succ index =>
          have later := ih found
          simp only [List.set_cons_succ, List.map_cons, List.sum_cons]
          omega

/-- What is known of the element at an index, when one element is replaced. -/
theorem any_getElem?_set {α : Type*} (holds : α → Bool) {elements : List α} {index : Nat}
    {old : α} (found : elements[index]? = some old) (new : α) (other : Nat) :
    (elements.set index new)[other]?.any holds =
      if index = other then holds new else elements[other]?.any holds := by
  split
  next same =>
    subst same
    rw [List.getElem?_set_self (List.getElem?_eq_some_iff.mp found).1]
    rfl
  next different => rw [List.getElem?_set_ne different]

/-- New elements do not matter if it does not hold of them. -/
theorem any_getElem?_append {α : Type*} {holds : α → Bool} {added : List α}
    (unheld : ∀ element ∈ added, holds element = false) (elements : List α) (index : Nat) :
    (elements ++ added)[index]?.any holds = elements[index]?.any holds := by
  by_cases before : index < elements.length
  · rw [List.getElem?_append_left before]
  · rw [List.getElem?_append_right (Nat.not_lt.mp before),
      List.getElem?_eq_none (Nat.not_lt.mp before)]
    cases isAdded : added[index - elements.length]? with
    | none => rfl
    | some element => exact unheld element (List.mem_of_getElem? isAdded)

end Machine
