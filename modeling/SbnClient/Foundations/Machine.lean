import Mathlib.Data.List.Basic

/-!
# Runs of partial machines and of labelled transition relations

A sequential program is a partial step function: `none` is undefined behaviour.
An input may also be outside the contract of its caller, which is a separate
predicate on the state it meets.  One rule covers refinement and invariants: a
relation to a total specification that every permitted step keeps is kept by
every permitted run, and no such run reaches undefined behaviour.

A concurrent program is a labelled transition relation, whose runs are the finite
traces of labels.
-/

namespace Machine

section Partial

variable {State Input Output Spec SpecOutput : Type*}

/-- Run a partial step function over a list of inputs, collecting its outputs. -/
def run (step : State → Input → Option (State × Output)) :
    State → List Input → Option (State × List Output)
  | state, [] => some (state, [])
  | state, input :: inputs =>
      match step state input with
      | none => none
      | some (next, output) =>
          (run step next inputs).map fun rest => (rest.1, output :: rest.2)

/-- A run with one more step. -/
theorem run_concat {step : State → Input → Option (State × Output)} {inputs : List Input}
    {input : Input} {outputs : List Output} {output : Output} {state middle final : State}
    (ran : run step state inputs = some (middle, outputs))
    (stepped : step middle input = some (final, output)) :
    run step state (inputs ++ [input]) = some (final, outputs ++ [output]) := by
  induction inputs generalizing state outputs with
  | nil =>
      cases ran
      simp [run, stepped]
  | cons first inputs ih =>
      rw [run] at ran
      split at ran
      next => cases ran
      next next output taken =>
        obtain ⟨⟨last, rest⟩, later, equal⟩ := Option.map_eq_some_iff.mp ran
        cases equal
        simp [run, taken, ih later]

/-- Every input of the list is permitted in the state in which it is met. -/
def Permitted (step : State → Input → Option (State × Output))
    (permits : State → Input → Prop) : State → List Input → Prop
  | _, [] => True
  | state, input :: inputs =>
      permits state input ∧ ∀ next output, step state input = some (next, output) →
        Permitted step permits next inputs

/-- Inputs that are permitted in every state. -/
theorem permitted_of_forall {step : State → Input → Option (State × Output)}
    {permits : State → Input → Prop} {inputs : List Input}
    (always : ∀ input ∈ inputs, ∀ state, permits state input) (state : State) :
    Permitted step permits state inputs := by
  induction inputs generalizing state with
  | nil => trivial
  | cons input inputs ih =>
      exact ⟨always input (by simp) state, fun next _ _ =>
        ih (fun later member => always later (by simp [member])) next⟩

/-- A permitted run with one more permitted step. -/
theorem Permitted.concat {step : State → Input → Option (State × Output)}
    {permits : State → Input → Prop} {inputs : List Input} {input : Input} {state middle : State}
    {outputs : List Output} (permitted : Permitted step permits state inputs)
    (ran : run step state inputs = some (middle, outputs)) (permit : permits middle input) :
    Permitted step permits state (inputs ++ [input]) := by
  induction inputs generalizing state outputs with
  | nil =>
      cases ran
      exact ⟨permit, fun _ _ _ => trivial⟩
  | cons first inputs ih =>
      refine ⟨permitted.1, fun next output taken => ?_⟩
      rw [run, taken] at ran
      obtain ⟨⟨last, rest⟩, later, equal⟩ := Option.map_eq_some_iff.mp ran
      cases equal
      exact ih (permitted.2 next output taken) later

/-- A run that meets two conditions. -/
theorem Permitted.and {step : State → Input → Option (State × Output)}
    {left right : State → Input → Prop} {inputs : List Input} {state : State}
    (first : Permitted step left state inputs) (second : Permitted step right state inputs) :
    Permitted step (fun state input => left state input ∧ right state input) state inputs := by
  induction inputs generalizing state with
  | nil => trivial
  | cons input inputs ih =>
      exact ⟨⟨first.1, second.1⟩, fun next output stepped =>
        ih (first.2 next output stepped) (second.2 next output stepped)⟩

/-- Two conditions on the inputs permit the same runs, if they agree on the states that have
`invariant` and a step under them keeps it. -/
theorem permitted_iff {step : State → Input → Option (State × Output)}
    {permits left right : State → Input → Prop} {invariant : State → Prop}
    (agree : ∀ state input, invariant state → permits state input →
      (left state input ↔ right state input))
    (preserves : ∀ state input next output, invariant state → permits state input →
      right state input → step state input = some (next, output) → invariant next)
    (inputs : List Input) {state : State} (start : invariant state)
    (permitted : Permitted step permits state inputs) :
    Permitted step left state inputs ↔ Permitted step right state inputs := by
  induction inputs generalizing state with
  | nil => exact Iff.rfl
  | cons input inputs ih =>
      have agreed := agree state input start permitted.1
      have later : right state input → ∀ next output, step state input = some (next, output) →
          (Permitted step left next inputs ↔ Permitted step right next inputs) :=
        fun met next output stepped =>
          ih (preserves state input next output start permitted.1 met stepped)
            (permitted.2 next output stepped)
      constructor
      · rintro ⟨met, rest⟩
        exact ⟨agreed.mp met, fun next output stepped =>
          (later (agreed.mp met) next output stepped).mp (rest next output stepped)⟩
      · rintro ⟨met, rest⟩
        exact ⟨agreed.mpr met, fun next output stepped =>
          (later met next output stepped).mpr (rest next output stepped)⟩

/-- Every input of a defined run has what a defined step needs of its input. -/
theorem forall_of_run {step : State → Input → Option (State × Output)} {required : Input → Prop}
    (needs : ∀ state input next output, step state input = some (next, output) → required input)
    {inputs : List Input} {state : State} {result : State × List Output}
    (ran : run step state inputs = some result) : ∀ input ∈ inputs, required input := by
  induction inputs generalizing state result with
  | nil => simp
  | cons first inputs ih =>
      rw [run] at ran
      split at ran
      next => cases ran
      next next output taken =>
        obtain ⟨rest, later, -⟩ := Option.map_eq_some_iff.mp ran
        exact List.forall_mem_cons.mpr ⟨needs _ _ _ _ taken, ih later⟩

/-- The front of a permitted run. -/
theorem Permitted.of_append {step : State → Input → Option (State × Output)}
    {permits : State → Input → Prop} {before after : List Input} {state : State}
    (permitted : Permitted step permits state (before ++ after)) :
    Permitted step permits state before := by
  induction before generalizing state with
  | nil => trivial
  | cons input before ih =>
      exact ⟨permitted.1, fun next output stepped => ih (permitted.2 next output stepped)⟩

/-- Every call of a run was made, and permitted, in a state that the calls before it reach. -/
theorem exists_step_of_mem {step : State → Input → Option (State × Output)}
    {permits : State → Input → Prop} {inputs : List Input} {state final : State}
    {outputs : List Output} (permitted : Permitted step permits state inputs)
    (ran : run step state inputs = some (final, outputs)) {input : Input} {output : Output}
    (member : (input, output) ∈ inputs.zip outputs) :
    ∃ before after middle earlier next, inputs = before ++ input :: after ∧
      run step state before = some (middle, earlier) ∧ permits middle input ∧
      step middle input = some (next, output) := by
  induction inputs generalizing state outputs with
  | nil => simp at member
  | cons first inputs ih =>
      rw [run] at ran
      split at ran
      next => cases ran
      next next told taken =>
        obtain ⟨⟨last, rest⟩, later, equal⟩ := Option.map_eq_some_iff.mp ran
        cases equal
        rw [List.zip_cons_cons, List.mem_cons] at member
        rcases member with same | member
        · cases same
          exact ⟨[], inputs, state, [], next, rfl, rfl, permitted.1, taken⟩
        · obtain ⟨before, after, middle, earlier, reached, split, ranBefore, permit, stepped⟩ :=
            ih (permitted.2 next told taken) later member
          refine ⟨first :: before, after, middle, told :: earlier, reached, by simp [split], ?_,
            permit, stepped⟩
          simp [run, taken, ranBefore]

/-- Run a total specification over a list of inputs, collecting its outputs. -/
def specRun (specStep : Spec → Input → Spec × SpecOutput) :
    Spec → List Input → Spec × List SpecOutput
  | spec, [] => (spec, [])
  | spec, input :: inputs =>
      let rest := specRun specStep (specStep spec input).1 inputs
      (rest.1, (specStep spec input).2 :: rest.2)

/-- The simulation rule.  If every permitted step is defined, keeps `related` and
agrees with the specification on its output, then so does every permitted run. -/
theorem run_simulates {step : State → Input → Option (State × Output)}
    {permits : State → Input → Prop} {specStep : Spec → Input → Spec × SpecOutput}
    {related : State → Spec → Prop} {agrees : Output → SpecOutput → Prop}
    (simulates : ∀ state spec input, related state spec → permits state input →
      ∃ next output, step state input = some (next, output) ∧
        related next (specStep spec input).1 ∧ agrees output (specStep spec input).2)
    (inputs : List Input) {state : State} {spec : Spec} (start : related state spec)
    (permitted : Permitted step permits state inputs) :
    ∃ final outputs, run step state inputs = some (final, outputs) ∧
      related final (specRun specStep spec inputs).1 ∧
      List.Forall₂ agrees outputs (specRun specStep spec inputs).2 := by
  induction inputs generalizing state spec with
  | nil => exact ⟨state, [], rfl, start, .nil⟩
  | cons input inputs ih =>
      obtain ⟨next, output, stepped, nextRelated, agreed⟩ :=
        simulates state spec input start permitted.1
      obtain ⟨final, outputs, ran, finalRelated, agreement⟩ :=
        ih nextRelated (permitted.2 next output stepped)
      refine ⟨final, output :: outputs, ?_, finalRelated, .cons agreed agreement⟩
      simp [run, stepped, ran]

/-- The postcondition rule: if every permitted step keeps `invariant` and meets `post`, then
so does every call of a permitted run. -/
theorem run_postcondition {step : State → Input → Option (State × Output)}
    {permits : State → Input → Prop} {invariant : State → Prop} {post : Input → Output → Prop}
    (preserves : ∀ state input, invariant state → permits state input →
      ∃ next output, step state input = some (next, output) ∧ invariant next ∧ post input output)
    (inputs : List Input) {state : State} (start : invariant state)
    (permitted : Permitted step permits state inputs) :
    ∃ final outputs, run step state inputs = some (final, outputs) ∧ invariant final ∧
      List.Forall₂ post inputs outputs := by
  induction inputs generalizing state with
  | nil => exact ⟨state, [], rfl, start, .nil⟩
  | cons input inputs ih =>
      obtain ⟨next, output, stepped, kept, meets⟩ := preserves state input start permitted.1
      obtain ⟨final, outputs, ran, finalKept, all⟩ := ih kept (permitted.2 next output stepped)
      exact ⟨final, output :: outputs, by simp [run, stepped, ran], finalKept, .cons meets all⟩

/-- The invariant rule: a run whose steps are permitted, defined and keep
`invariant` is itself defined and ends in a state with the invariant. -/
theorem run_invariant {step : State → Input → Option (State × Output)}
    {permits : State → Input → Prop} {invariant : State → Prop}
    (preserves : ∀ state input, invariant state → permits state input →
      ∃ next output, step state input = some (next, output) ∧ invariant next)
    (inputs : List Input) {state : State} (start : invariant state)
    (permitted : Permitted step permits state inputs) :
    ∃ final outputs, run step state inputs = some (final, outputs) ∧ invariant final := by
  obtain ⟨final, outputs, ran, kept, -⟩ := @run_postcondition _ _ _ _ _ _ (fun _ _ => True)
    (fun state input holds permit =>
      have ⟨next, output, stepped, kept⟩ := preserves state input holds permit
      ⟨next, output, stepped, kept, trivial⟩) inputs state start permitted
  exact ⟨final, outputs, ran, kept⟩

/-- The invariant rule with history: `invariant` relates the state to the calls made so
far, each with its output. -/
theorem run_history {step : State → Input → Option (State × Output)}
    {permits : State → Input → Prop} {invariant : List (Input × Output) → State → Prop}
    (preserves : ∀ history state input, invariant history state → permits state input →
      ∃ next output, step state input = some (next, output) ∧
        invariant (history ++ [(input, output)]) next)
    (inputs : List Input) {history : List (Input × Output)} {state : State}
    (start : invariant history state) (permitted : Permitted step permits state inputs) :
    ∃ final outputs, run step state inputs = some (final, outputs) ∧
      invariant (history ++ inputs.zip outputs) final := by
  induction inputs generalizing history state with
  | nil => exact ⟨state, [], rfl, by simpa using start⟩
  | cons input inputs ih =>
      obtain ⟨next, output, stepped, kept⟩ := preserves history state input start permitted.1
      obtain ⟨final, outputs, ran, finalKept⟩ := ih kept (permitted.2 next output stepped)
      refine ⟨final, output :: outputs, by simp [run, stepped, ran], ?_⟩
      simpa using finalKept

/-- A run has one outcome, so that what some outcome meets, this one does. -/
theorem holds_of_run {step : State → Input → Option (State × Output)}
    {post : State → List Output → Prop} {state final : State} {inputs : List Input}
    {outputs : List Output}
    (found : ∃ final outputs, run step state inputs = some (final, outputs) ∧ post final outputs)
    (ran : run step state inputs = some (final, outputs)) : post final outputs := by
  obtain ⟨other, others, ranAgain, holds⟩ := found
  rw [ran, Option.some.injEq, Prod.mk.injEq] at ranAgain
  obtain ⟨rfl, rfl⟩ := ranAgain
  exact holds

/-- The two-run rule.  If steps on the same input from related states are defined, agree on
their outputs and end in related states, then so do runs on the same inputs. -/
theorem run_related {step : State → Input → Option (State × Output)}
    {related : State → State → Prop} {agrees : Output → Output → Prop}
    (lockstep : ∀ left right input, related left right →
      ∃ nextLeft outputLeft nextRight outputRight, step left input = some (nextLeft, outputLeft) ∧
        step right input = some (nextRight, outputRight) ∧ related nextLeft nextRight ∧
        agrees outputLeft outputRight)
    (inputs : List Input) {left right : State} (start : related left right) :
    ∃ finalLeft outputsLeft finalRight outputsRight,
      run step left inputs = some (finalLeft, outputsLeft) ∧
        run step right inputs = some (finalRight, outputsRight) ∧
        related finalLeft finalRight ∧ List.Forall₂ agrees outputsLeft outputsRight := by
  induction inputs generalizing left right with
  | nil => exact ⟨left, [], right, [], rfl, rfl, start, .nil⟩
  | cons input inputs ih =>
      obtain ⟨nextLeft, outputLeft, nextRight, outputRight, steppedLeft, steppedRight, nexts,
        agreed⟩ := lockstep left right input start
      obtain ⟨finalLeft, outputsLeft, finalRight, outputsRight, ranLeft, ranRight, finals,
        agreement⟩ := ih nexts
      refine ⟨finalLeft, outputLeft :: outputsLeft, finalRight, outputRight :: outputsRight,
        ?_, ?_, finals, .cons agreed agreement⟩
      · simp [run, steppedLeft, ranLeft]
      · simp [run, steppedRight, ranRight]

end Partial

section Labelled

variable {State Label : Type*}

/-- A finite run of a labelled transition relation, with its trace of labels. -/
inductive Run (step : State → Label → State → Prop) (start : State) :
    List Label → State → Prop where
  | refl : Run step start [] start
  | snoc {trace : List Label} {state next : State} {label : Label} :
      Run step start trace state → step state label next →
      Run step start (trace ++ [label]) next

/-- One run after another. -/
theorem Run.trans {step : State → Label → State → Prop} {start middle final : State}
    {before after : List Label} (first : Run step start before middle)
    (second : Run step middle after final) : Run step start (before ++ after) final := by
  induction second with
  | refl => rwa [List.append_nil]
  | snoc _ stepped ih =>
      rw [← List.append_assoc]
      exact ih.snoc stepped

/-- The last step of a run. -/
theorem Run.last {step : State → Label → State → Prop} {start final : State}
    {trace : List Label} {label : Label} (run : Run step start (trace ++ [label]) final) :
    ∃ state, Run step start trace state ∧ step state label final := by
  generalize extended : trace ++ [label] = labels at run
  cases run with
  | refl => simp at extended
  | snoc before stepped =>
      obtain ⟨rfl, same⟩ := List.append_inj' extended rfl
      cases same
      exact ⟨_, before, stepped⟩

/-- The invariant rule for labelled runs; the invariant may mention the trace. -/
theorem Run.invariant {step : State → Label → State → Prop} {start : State}
    {invariant : List Label → State → Prop} (initial : invariant [] start)
    (preserves : ∀ trace state label next, invariant trace state →
      step state label next → invariant (trace ++ [label]) next)
    {trace : List Label} {state : State} (run : Run step start trace state) :
    invariant trace state := by
  induction run with
  | refl => exact initial
  | snoc _ stepped ih => exact preserves _ _ _ _ ih stepped

/-- The steps that are taken under a condition on the state before them. -/
def Guarded (step : State → Label → State → Prop) (guard : State → Label → Prop)
    (state : State) (label : Label) (next : State) : Prop :=
  step state label next ∧ guard state label

/-- Runs of a relation are runs of any weaker one. -/
theorem Run.mono {step weaker : State → Label → State → Prop} {start : State}
    (weakens : ∀ state label next, step state label next → weaker state label next)
    {trace : List Label} {state : State} (run : Run step start trace state) :
    Run weaker start trace state := by
  induction run with
  | refl => exact .refl
  | snoc _ stepped ih => exact ih.snoc (weakens _ _ _ stepped)

end Labelled

end Machine
