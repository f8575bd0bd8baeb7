import Mathlib.Logic.Basic

/-!
# Machines with labelled steps

A machine takes a step for a label if the label is enabled.  The module has
the rules for runs over a list of labels: invariants, and properties that
are lost exactly at the steps of one kind.
-/

namespace Transitions

variable {State Label : Type}

/-- The state after the labels in order, if each of them is enabled. -/
def run (step : State → Label → Option State) :
    State → List Label → Option State
  | state, [] => some state
  | state, label :: rest => (step state label).bind (run step · rest)

/-- A step of the run is of the kind `kind`, which may look at the state
before the step. -/
def Occurs
    (step : State → Label → Option State) (kind : State → Label → Prop) :
    State → List Label → Prop
  | _, [] => False
  | state, label :: rest =>
      kind state label ∨
        ∃ next, step state label = some next ∧ Occurs step kind next rest

variable {step : State → Label → Option State}
  {state next last : State} {label : Label} {labels rest : List Label}

@[simp]
theorem run_nil : run step state [] = some state :=
  rfl

theorem run_cons (taken : step state label = some next) :
    run step state (label :: rest) = run step next rest := by
  rw [run, taken, Option.bind_some]

theorem run_cons_eq_some :
    run step state (label :: rest) = some last ↔
      ∃ next, step state label = some next ∧
        run step next rest = some last := by
  rw [run, Option.bind_eq_some_iff]

/-- What every step of the run preserves holds at its end. -/
theorem run_invariant
    {invariant : State → Prop}
    (preserved : ∀ label ∈ labels, ∀ before after, invariant before →
      step before label = some after → invariant after)
    (initially : invariant state)
    (ran : run step state labels = some last) :
    invariant last := by
  induction labels generalizing state with
  | nil =>
      cases ran
      exact initially
  | cons label rest inductionHypothesis =>
      rcases run_cons_eq_some.mp ran with ⟨next, taken, remaining⟩
      have afterFirst : invariant next :=
        preserved label (by simp) state next initially taken
      exact inductionHypothesis
        (fun later member => preserved later (by simp [member]))
        afterFirst remaining

/-- A property that a step loses exactly if it is of a certain kind, and
that is never regained, holds at the end of a run exactly if it held at its
start and no step was of that kind. -/
theorem run_iff_not_occurs
    (invariant : State → Prop) {property : State → Prop}
    {kind : State → Label → Prop}
    (preserved : ∀ before label after, invariant before →
      step before label = some after → invariant after)
    (lost : ∀ before label after, invariant before →
      step before label = some after →
        (property after ↔ property before ∧ ¬ kind before label))
    (initially : invariant state)
    (ran : run step state labels = some last) :
    property last ↔ property state ∧ ¬ Occurs step kind state labels := by
  induction labels generalizing state with
  | nil =>
      cases ran
      simp [Occurs]
  | cons label rest inductionHypothesis =>
      rcases run_cons_eq_some.mp ran with ⟨next, taken, remaining⟩
      have afterFirst := preserved state label next initially taken
      have tail := inductionHypothesis afterFirst remaining
      have first := lost state label next initially taken
      have unfolded :
          Occurs step kind state (label :: rest) ↔
            kind state label ∨ Occurs step kind next rest := by
        simp [Occurs, taken]
      rw [tail, first, unfolded, not_or, and_assoc]

end Transitions
