import Mathlib.Data.List.Forall2
import SbnClient.Foundations.Machine

/-!
# Forward simulations of labelled transition relations

A step of the lower system is matched by steps of the upper one.  `observe` tells which
labels these have: none for a silent step, one for the step that takes effect.  A run of the
lower system then has a run of the upper one, on what is observed of its trace.
-/

namespace Machine

variable {State Label Upper Observation : Type*}

/-- One step is a run. -/
theorem Run.single {step : State → Label → State → Prop} {state next : State} {label : Label}
    (stepped : step state label next) : Run step state [label] next :=
  Run.refl.snoc stepped

/-- A run without labels goes nowhere. -/
theorem Run.eq_of_nil {step : State → Label → State → Prop} {state next : State}
    (run : Run step state [] next) : next = state := by
  generalize empty : ([] : List Label) = trace at run
  cases run with
  | refl => rfl
  | snoc => simp at empty

/-- A run with one label is one step. -/
theorem Run.step_of_single {step : State → Label → State → Prop} {state next : State}
    {label : Label} (run : Run step state [label] next) : step state label next := by
  rw [← List.nil_append [label]] at run
  obtain ⟨middle, nothing, stepped⟩ := run.last
  rwa [nothing.eq_of_nil] at stepped

/-- The simulation rule: if every step is matched by a run on what is observed of it, then so is
every run. -/
theorem Run.simulates {step : State → Label → State → Prop}
    {upperStep : Upper → Observation → Upper → Prop} {observe : Label → List Observation}
    {related : State → Upper → Prop}
    (matched : ∀ state label next upper, related state upper → step state label next →
      ∃ upperNext, Run upperStep upper (observe label) upperNext ∧ related next upperNext)
    {start state : State} {trace : List Label} (run : Run step start trace state) {upper : Upper}
    (initially : related start upper) :
    ∃ upperNext, Run upperStep upper (trace.flatMap observe) upperNext ∧
      related state upperNext := by
  induction run with
  | refl => exact ⟨upper, .refl, initially⟩
  | @snoc trace state next label run stepped ih =>
      obtain ⟨middle, before, relatedMiddle⟩ := ih
      obtain ⟨final, after, relatedFinal⟩ := matched state label next middle relatedMiddle stepped
      refine ⟨final, ?_, relatedFinal⟩
      rw [List.flatMap_append, List.flatMap_singleton]
      exact before.trans after

/-- The rule for systems in step with each other, whose labels agree. -/
theorem Run.simulates_each {step : State → Label → State → Prop}
    {upperStep : Upper → Observation → Upper → Prop} {agrees : Label → Observation → Prop}
    {related : State → Upper → Prop}
    (matched : ∀ state label next upper, related state upper → step state label next →
      ∃ observation upperNext, upperStep upper observation upperNext ∧
        agrees label observation ∧ related next upperNext)
    {start state : State} {trace : List Label} (run : Run step start trace state) {upper : Upper}
    (initially : related start upper) :
    ∃ observations upperNext, Run upperStep upper observations upperNext ∧
      List.Forall₂ agrees trace observations ∧ related state upperNext := by
  induction run with
  | refl => exact ⟨[], upper, .refl, .nil, initially⟩
  | @snoc trace state next label run stepped ih =>
      obtain ⟨observations, middle, before, agreed, relatedMiddle⟩ := ih
      obtain ⟨observation, final, taken, agrees, relatedFinal⟩ :=
        matched state label next middle relatedMiddle stepped
      refine ⟨observations ++ [observation], final, before.snoc taken, ?_, relatedFinal⟩
      exact List.rel_append agreed (.cons agrees .nil)

/-- A run all of whose labels meet a condition. -/
theorem Run.guarded {step : State → Label → State → Prop} {permits : Label → Prop}
    {start state : State} {trace : List Label} (run : Run step start trace state)
    (all : ∀ label ∈ trace, permits label) :
    Run (Guarded step fun _ label => permits label) start trace state := by
  induction run with
  | refl => exact .refl
  | snoc _ stepped ih =>
      refine (ih fun label member => all label ?_).snoc ⟨stepped, all _ ?_⟩
      · exact List.mem_append_left _ member
      · exact List.mem_append_right _ (List.mem_singleton_self _)

/-- What every step says of its label holds of the whole trace. -/
theorem Run.each {step : State → Label → State → Prop} {permits : Label → Prop}
    (permitted : ∀ state label next, step state label next → permits label)
    {start state : State} {trace : List Label} (run : Run step start trace state) :
    ∀ label ∈ trace, permits label := by
  induction run with
  | refl => exact List.forall_mem_nil _
  | snoc _ stepped ih =>
      rw [List.forall_mem_append, List.forall_mem_singleton]
      exact ⟨ih, permitted _ _ _ stepped⟩

end Machine
