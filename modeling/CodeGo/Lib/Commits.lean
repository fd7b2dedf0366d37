import CodeGo.Lib.Transaction

set_option autoImplicit false

/- What a committed unit of work does to its store, as a relation between the store before and the store after. -/

namespace Relational.Tx

variable {σ ε δ α β : Type}

def Commits (effect : σ → σ → Prop) (work : Tx σ ε α) : Prop :=
  ∀ state result after, work state = (.ok result, after) → effect state after

structure Composable (effect : σ → σ → Prop) : Prop where
  refl : ∀ state, effect state state
  trans : ∀ first second third, effect first second → effect second third → effect first third

variable {effect : σ → σ → Prop}

theorem ReadOnly.commits {work : Tx σ ε α} (reads : ReadOnly work) (composes : Composable effect) : Commits effect work := by
  intro state result after ran
  rw [reads.same ran]
  exact composes.refl after

theorem commits_pure (composes : Composable effect) (value : α) : Commits effect (Pure.pure value : Tx σ ε α) :=
  (read_only_pure value).commits composes

theorem commits_view (composes : Composable effect) (select : σ → α) : Commits effect (view select : Tx σ ε α) :=
  (read_only_view select).commits composes

theorem commits_reject (composes : Composable effect) (condition : Prop) [Decidable condition] (problem : ε) :
    Commits effect (reject condition problem : Tx σ ε Unit) :=
  (read_only_reject condition problem).commits composes

theorem commits_bind {first : Tx σ ε α} {next : α → Tx σ ε β} (composes : Composable effect) (early : Commits effect first)
    (late : ∀ value, Commits effect (next value)) : Commits effect (first >>= next) := by
  intro state result after ran
  rw [ran_bind] at ran
  obtain ⟨value, middle, before, continued⟩ := ran
  exact composes.trans state middle after (early state value middle before) (late value middle result after continued)

end Relational.Tx
