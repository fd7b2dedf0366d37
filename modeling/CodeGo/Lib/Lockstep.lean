import Mathlib.Data.List.Forall2

set_option autoImplicit false

/- Two machines that take the same inputs, each step with an answer, kept together by a relation of their states. -/

namespace Lockstep

variable {σ τ α ρ : Type}

def answers (step : σ → α → ρ × σ) : σ → List α → List ρ
  | _, [] => []
  | state, action :: rest => (step state action).1 :: answers step (step state action).2 rest

section

variable {first : σ → α → ρ × σ} {second : τ → α → ρ × τ} {related : σ → τ → Prop} {same : ρ → ρ → Prop}

theorem answers_related
    (steps : ∀ state other action, related state other →
      same (first state action).1 (second other action).1 ∧ related (first state action).2 (second other action).2)
    {state : σ} {other : τ} (begins : related state other) (actions : List α) :
    List.Forall₂ same (answers first state actions) (answers second other actions) := by
  induction actions generalizing state other with
  | nil => exact .nil
  | cons action rest ih =>
      obtain ⟨answer, next⟩ := steps state other action begins
      exact .cons answer (ih next)

end

end Lockstep
