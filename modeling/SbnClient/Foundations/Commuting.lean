import Mathlib.Logic.Function.Basic
import SbnClient.Foundations.Machine

/-!
# Calls that commute

Two inputs of a machine commute in a state when both orders of them end in the same state and
tell each caller the same.  The state of the machines here is a table.  Inputs that act on
one entry each commute when the entries are different ones, or when what they do to the one
entry commutes.
-/

namespace Machine

section Commute

variable {State Input Output : Type*} {step : State → Input → Option (State × Output)}
  {state : State} {left right : Input}

/-- Both orders are defined, end in the same state and give each input the same output. -/
def Commute (step : State → Input → Option (State × Output)) (state : State)
    (left right : Input) : Prop :=
  ∃ final outputLeft outputRight,
    run step state [left, right] = some (final, [outputLeft, outputRight]) ∧
      run step state [right, left] = some (final, [outputRight, outputLeft])

theorem Commute.symm (commute : Commute step state left right) :
    Commute step state right left := by
  obtain ⟨final, outputLeft, outputRight, forth, back⟩ := commute
  exact ⟨final, outputRight, outputLeft, back, forth⟩

/-- The two steps of each order. -/
theorem Commute.of_steps {afterLeft afterRight final : State} {outputLeft outputRight : Output}
    (first : step state left = some (afterLeft, outputLeft))
    (second : step afterLeft right = some (final, outputRight))
    (first' : step state right = some (afterRight, outputRight))
    (second' : step afterRight left = some (final, outputLeft)) :
    Commute step state left right :=
  ⟨final, outputLeft, outputRight, by simp [run, first, second], by simp [run, first', second']⟩

/-- An input that changes nothing, and is told the same after the other one. -/
theorem Commute.of_idle {after : State} {outputLeft outputRight : Output}
    (idle : step state left = some (state, outputLeft))
    (moves : step state right = some (after, outputRight))
    (stillIdle : step after left = some (after, outputLeft)) : Commute step state left right :=
  .of_steps idle moves moves stillIdle

end Commute

section Tables

variable {ι Entry Input Output : Type*} [DecidableEq ι]
  {step : (ι → Entry) → Input → Option ((ι → Entry) × Output)} {tbl : ι → Entry}
  {left right : Input} {i j : ι} {actLeft actRight : Entry → Entry × Output}

/-- In this table the input acts on one entry, as `act` says of that entry alone. -/
def ActsOn (step : (ι → Entry) → Input → Option ((ι → Entry) × Output)) (tbl : ι → Entry)
    (input : Input) (i : ι) (act : Entry → Entry × Output) : Prop :=
  step tbl input = some (Function.update tbl i (act (tbl i)).1, (act (tbl i)).2)

/-- Inputs that act on different entries, also after each other. -/
theorem Commute.of_ne (different : i ≠ j) (acts : ActsOn step tbl left i actLeft)
    (acts' : ActsOn step tbl right j actRight)
    (after : ActsOn step (Function.update tbl i (actLeft (tbl i)).1) right j actRight)
    (after' : ActsOn step (Function.update tbl j (actRight (tbl j)).1) left i actLeft) :
    Commute step tbl left right := by
  rw [ActsOn, Function.update_of_ne different.symm] at after
  rw [ActsOn, Function.update_of_ne different, Function.update_comm different.symm] at after'
  exact .of_steps acts after acts' after'

/-- Inputs that act on the same entry, also after each other, commute when their actions do. -/
theorem commute_iff_of_entry (acts : ActsOn step tbl left i actLeft)
    (acts' : ActsOn step tbl right i actRight)
    (after : ActsOn step (Function.update tbl i (actLeft (tbl i)).1) right i actRight)
    (after' : ActsOn step (Function.update tbl i (actRight (tbl i)).1) left i actLeft) :
    Commute step tbl left right ↔
      (actRight (actLeft (tbl i)).1).1 = (actLeft (actRight (tbl i)).1).1 ∧
        (actLeft (actRight (tbl i)).1).2 = (actLeft (tbl i)).2 ∧
        (actRight (actLeft (tbl i)).1).2 = (actRight (tbl i)).2 := by
  rw [ActsOn] at acts acts'
  rw [ActsOn, Function.update_self, Function.update_idem] at after after'
  constructor
  · rintro ⟨final, outputLeft, outputRight, forth, back⟩
    simp only [run, acts, after, Option.map_some, Option.some.injEq, Prod.mk.injEq,
      List.cons.injEq, and_true] at forth
    simp only [run, acts', after', Option.map_some, Option.some.injEq, Prod.mk.injEq,
      List.cons.injEq, and_true] at back
    obtain ⟨rfl, rfl, rfl⟩ := forth
    obtain ⟨tables, sameRight, sameLeft⟩ := back
    have entries := congrFun tables i
    rw [Function.update_self, Function.update_self] at entries
    exact ⟨entries.symm, sameLeft, sameRight.symm⟩
  · rintro ⟨entry, outputLeft, outputRight⟩
    rw [entry, outputRight] at after
    rw [outputLeft] at after'
    exact .of_steps acts after acts' after'

end Tables

end Machine
