import CodeGo.Lib.Transaction

set_option autoImplicit false

/- What holds of every step of a run, with the state each step is taken in. -/

namespace Relational

variable {σ α : Type} (step : σ → α → σ)

def Every (good : σ → α → Prop) : σ → List α → Prop
  | _, [] => True
  | state, action :: rest => good state action ∧ Every good (step state action) rest

instance Every.decidable {good : σ → α → Prop} [∀ state action, Decidable (good state action)] :
    ∀ (state : σ) (actions : List α), Decidable (Every step good state actions)
  | _, [] => inferInstanceAs (Decidable True)
  | state, action :: rest =>
      have : Decidable (Every step good (step state action) rest) := Every.decidable (step state action) rest
      inferInstanceAs (Decidable (good state action ∧ Every step good (step state action) rest))

variable {step}

theorem Every.append {good : σ → α → Prop} {state : σ} {early late : List α} :
    Every step good state (early ++ late) ↔ Every step good state early ∧ Every step good (run step state early) late := by
  induction early generalizing state with
  | nil => exact ⟨fun later => ⟨trivial, later⟩, fun both => both.2⟩
  | cons action rest ih =>
      rw [List.cons_append, run_cons]
      constructor
      · rintro ⟨first, others⟩
        obtain ⟨early, late⟩ := ih.mp others
        exact ⟨⟨first, early⟩, late⟩
      · rintro ⟨⟨first, early⟩, late⟩
        exact ⟨first, ih.mpr ⟨early, late⟩⟩

-- An invariant that the good steps keep holds at the end and gives what it implies of every step.
theorem Every.keeps {good law : σ → α → Prop} {kept : σ → Prop} (start : σ) (begins : kept start)
    (keeps : ∀ state action, kept state → good state action → kept (step state action) ∧ law state action) (actions : List α)
    (every : Every step good start actions) : kept (run step start actions) ∧ Every step law start actions := by
  induction actions generalizing start with
  | nil => exact ⟨begins, trivial⟩
  | cons action rest ih =>
      obtain ⟨first, others⟩ := every
      obtain ⟨still, holds⟩ := keeps start action begins first
      obtain ⟨final, after⟩ := ih (step start action) still others
      exact ⟨final, holds, after⟩

-- Two laws that agree wherever an invariant holds, the first of which keeps it, hold of the same runs.
theorem Every.iff_of_kept {law good : σ → α → Prop} {kept : σ → Prop} {start : σ} (begins : kept start)
    (agree : ∀ state action, kept state → (law state action ↔ good state action))
    (keeps : ∀ state action, kept state → good state action → kept (step state action)) (actions : List α) :
    Every step law start actions ↔ Every step good start actions := by
  induction actions generalizing start with
  | nil => exact Iff.rfl
  | cons action rest ih =>
      constructor
      · rintro ⟨first, others⟩
        have holds := (agree start action begins).mp first
        exact ⟨holds, (ih (keeps start action begins holds)).mp others⟩
      · rintro ⟨first, others⟩
        exact ⟨(agree start action begins).mpr first, (ih (keeps start action begins first)).mpr others⟩

theorem every_of_all {law : σ → α → Prop} (all : ∀ state action, law state action) (state : σ) (actions : List α) :
    Every step law state actions := by
  induction actions generalizing state with
  | nil => trivial
  | cons action rest ih => exact ⟨all state action, ih (step state action)⟩

end Relational
