/-!
# Runs of a labelled transition system

What holds at the start and is kept by every step holds in every state a run reaches.  A run can be
restricted to steps that meet a condition on the state before the step and on its label.
-/

namespace Library

universe u v

/-- A labelled transition system. -/
structure Machine (σ : Type u) (ℓ : Type v) where
  /-- Where a run can start. -/
  initial : σ → Prop
  /-- What one labelled step can do. -/
  step : σ → ℓ → σ → Prop

namespace Machine

variable {σ : Type u} {ℓ : Type v} {machine : Machine σ ℓ} {good weaker : σ → ℓ → Prop}

/-- A run whose steps all meet `good`, with its labels in order and the state it reaches. -/
inductive Run (machine : Machine σ ℓ) (good : σ → ℓ → Prop) : List ℓ → σ → Prop
  | start {state : σ} : machine.initial state → Run machine good [] state
  | step {labels : List ℓ} {state next : σ} {label : ℓ} : Run machine good labels state →
      good state label → machine.step state label next → Run machine good (labels ++ [label]) next

/-- Extend a run by a step with a given label. -/
theorem Run.extend {labels : List ℓ} {state next : σ} (run : Run machine good labels state)
    (label : ℓ) (meets : good state label) (steps : machine.step state label next) :
    Run machine good (labels ++ [label]) next :=
  .step run meets steps

/-- A run has started somewhere. -/
theorem Run.exists_initial {labels : List ℓ} {state : σ} (run : Run machine good labels state) :
    ∃ first, machine.initial first := by
  induction run with
  | start starts => exact ⟨_, starts⟩
  | step _ _ _ induction => exact induction

/-- An invariant that the good steps keep holds wherever a run of good steps leads. -/
theorem Run.invariant {invariant : σ → Prop} {labels : List ℓ} {state : σ}
    (run : Run machine good labels state)
    (initial : ∀ state, machine.initial state → invariant state)
    (preserved : ∀ state label next, invariant state → good state label →
      machine.step state label next → invariant next) : invariant state := by
  induction run with
  | start starts => exact initial _ starts
  | step _ meets steps induction => exact preserved _ _ _ induction meets steps

end Machine
end Library
