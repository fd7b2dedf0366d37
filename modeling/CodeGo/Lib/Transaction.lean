import Mathlib.Logic.Basic

set_option autoImplicit false

namespace Relational

-- A unit of work over a store. It answers with a value or an error and leaves a
-- store behind either way; only `atomic` takes back the writes made before an error.
def Tx (σ ε α : Type) : Type := σ → Except ε α × σ

namespace Tx

variable {σ τ ε δ α β : Type}

protected def pure (value : α) : Tx σ ε α := fun state => (.ok value, state)

protected def bind (first : Tx σ ε α) (next : α → Tx σ ε β) : Tx σ ε β := fun state =>
  match first state with
  | (.ok value, after) => next value after
  | (.error problem, after) => (.error problem, after)

instance : Monad (Tx σ ε) where
  pure := Tx.pure
  bind := Tx.bind

def fail (problem : ε) : Tx σ ε α := fun state => (.error problem, state)

def view (select : σ → α) : Tx σ ε α := fun state => (.ok (select state), state)

def edit (change : σ → σ) : Tx σ ε Unit := fun state => (.ok (), change state)

def reject (condition : Prop) [Decidable condition] (problem : ε) : Tx σ ε Unit := fun state =>
  if condition then (.error problem, state) else (.ok (), state)

-- A pure check inside a unit of work.
def lift (outcome : Except ε α) : Tx σ ε α := fun state => (outcome, state)

-- The store of a failed unit of work is the store it started from.
def atomic (work : Tx σ ε α) : Tx σ ε α := fun state =>
  match work state with
  | (.ok value, after) => (.ok value, after)
  | (.error problem, _) => (.error problem, state)

-- The error as a value, for callers that compensate instead of returning at once.
def attempt (work : Tx σ ε α) : Tx σ ε (Except ε α) := fun state =>
  (.ok (work state).1, (work state).2)

-- A unit of work over one component of a larger store.
def zoom (get : τ → σ) (set : τ → σ → τ) (work : Tx σ ε α) : Tx τ ε α := fun state =>
  ((work (get state)).1, set state (work (get state)).2)

-- A unit of work whose errors are reported in a larger vocabulary.
def withError (lift : ε → δ) (work : Tx σ ε α) : Tx σ δ α := fun state =>
  ((work state).1.mapError lift, (work state).2)

@[simp] theorem ran_pure (value : α) (state : σ) (result : α) (after : σ) :
    (Pure.pure value : Tx σ ε α) state = (.ok result, after) ↔ value = result ∧ state = after := by
  simp [Pure.pure, Tx.pure]

@[simp] theorem ran_bind (first : Tx σ ε α) (next : α → Tx σ ε β) (state : σ) (result : β) (after : σ) :
    (first >>= next) state = (.ok result, after) ↔
      ∃ value middle, first state = (.ok value, middle) ∧ next value middle = (.ok result, after) := by
  cases ran : first state with
  | mk outcome middle =>
      cases outcome with
      | error problem => simp [Bind.bind, Tx.bind, ran]
      | ok value =>
          simp only [Bind.bind, Tx.bind, ran]
          constructor
          · intro continued
            exact ⟨value, middle, rfl, continued⟩
          · rintro ⟨_, _, same, continued⟩
            cases same
            exact continued

theorem bind_ran {first : Tx σ ε α} {state middle : σ} {value : α} (ran : first state = (.ok value, middle)) (next : α → Tx σ ε β) :
    (first >>= next) state = next value middle := by
  simp [Bind.bind, Tx.bind, ran]

-- A unit of work that answers with a value has run, whatever the value.
theorem ran_of_accepted (work : Tx σ ε α) (state : σ) (accepted : (work state).1.isOk = true) :
    ∃ value, work state = (.ok value, (work state).2) := by
  cases outcome : work state with
  | mk result after =>
      rw [outcome] at accepted
      cases result with
      | ok value => exact ⟨value, rfl⟩
      | error _ => simp [Except.isOk, Except.toBool] at accepted

theorem bind_failed {first : Tx σ ε α} {state after : σ} {problem : ε} (failed : first state = (.error problem, after)) (next : α → Tx σ ε β) :
    (first >>= next) state = (.error problem, after) := by
  simp [Bind.bind, Tx.bind, failed]

theorem bind_congr {first other : Tx σ ε α} {state start : σ} (same : first state = other start) (next : α → Tx σ ε β) :
    (first >>= next) state = (other >>= next) start := by
  simp only [Bind.bind, Tx.bind, same]

theorem bind_view (select : σ → α) (next : α → Tx σ ε β) (state : σ) : (view select >>= next) state = next (select state) state := rfl

theorem bind_pure (value : α) (next : α → Tx σ ε β) (state : σ) : ((Pure.pure value : Tx σ ε α) >>= next) state = next value state := rfl

theorem bind_assoc {γ : Type} (first : Tx σ ε α) (second : α → Tx σ ε β) (third : β → Tx σ ε γ) :
    (first >>= second) >>= third = first >>= fun value => second value >>= third := by
  funext state
  cases ran : first state with
  | mk outcome middle => cases outcome <;> simp [Bind.bind, Tx.bind, ran]

theorem bind_pure_right (work : Tx σ ε α) : work >>= (fun value => Pure.pure value) = work := by
  funext state
  cases ran : work state with
  | mk outcome after => cases outcome <;> simp [Bind.bind, Tx.bind, Pure.pure, Tx.pure, ran]

theorem bind_accepted {condition : Prop} [Decidable condition] (accepted : ¬ condition) (problem : ε) (next : Unit → Tx σ ε α) (state : σ) :
    (reject condition problem >>= next) state = next () state := by
  simp [Bind.bind, Tx.bind, reject, accepted]

theorem bind_rejected {condition : Prop} [Decidable condition] (rejected : condition) (problem : ε) (next : Unit → Tx σ ε α) (state : σ) :
    (reject condition problem >>= next) state = (.error problem, state) := by
  simp [Bind.bind, Tx.bind, reject, rejected]

@[simp] theorem ran_fail (problem : ε) (state : σ) (result : α) (after : σ) :
    (fail problem : Tx σ ε α) state = (.ok result, after) ↔ False := by
  simp [fail]

@[simp] theorem ran_view (select : σ → α) (state : σ) (result : α) (after : σ) :
    (view select : Tx σ ε α) state = (.ok result, after) ↔ select state = result ∧ state = after := by
  simp [view]

@[simp] theorem ran_edit (change : σ → σ) (state : σ) (result : Unit) (after : σ) :
    (edit change : Tx σ ε Unit) state = (.ok result, after) ↔ change state = after := by
  simp [edit]

@[simp] theorem ran_reject (condition : Prop) [Decidable condition] (problem : ε) (state : σ) (result : Unit) (after : σ) :
    (reject condition problem : Tx σ ε Unit) state = (.ok result, after) ↔ ¬ condition ∧ state = after := by
  by_cases holds : condition <;> simp [reject, holds]

@[simp] theorem ran_lift (outcome : Except ε α) (state : σ) (result : α) (after : σ) :
    (lift outcome : Tx σ ε α) state = (.ok result, after) ↔ outcome = .ok result ∧ state = after := by
  simp [lift]

theorem ran_atomic (work : Tx σ ε α) (state : σ) (result : α) (after : σ) :
    atomic work state = (.ok result, after) ↔ work state = (.ok result, after) := by
  cases ran : work state with
  | mk outcome middle => cases outcome <;> simp [atomic, ran]

theorem ran_zoom (get : τ → σ) (set : τ → σ → τ) (work : Tx σ ε α) (state : τ) (result : α) (after : τ) :
    zoom get set work state = (.ok result, after) ↔
      ∃ inner, work (get state) = (.ok result, inner) ∧ set state inner = after := by
  cases ran : work (get state) with
  | mk outcome inner =>
      simp only [zoom, ran, Prod.mk.injEq]
      constructor
      · rintro ⟨same, written⟩
        exact ⟨inner, ⟨same, rfl⟩, written⟩
      · rintro ⟨_, ⟨same, rfl⟩, written⟩
        exact ⟨same, written⟩

@[simp] theorem mapped_ok (lift : ε → δ) (value : α) : (Except.ok value : Except ε α).mapError lift = .ok value := rfl

@[simp] theorem mapped_error (lift : ε → δ) (problem : ε) : (Except.error problem : Except ε α).mapError lift = .error (lift problem) := rfl

theorem ran_with_error (lift : ε → δ) (work : Tx σ ε α) (state : σ) (result : α) (after : σ) :
    withError lift work state = (.ok result, after) ↔ work state = (.ok result, after) := by
  cases ran : work state with
  | mk outcome middle => cases outcome <;> simp [withError, ran]

@[simp] theorem atomic_outcome (work : Tx σ ε α) (state : σ) : (atomic work state).1 = (work state).1 := by
  cases ran : work state with
  | mk outcome middle => cases outcome <;> simp [atomic, ran]

-- The store a caller observes: the new one after a commit, the old one after a rollback.
theorem atomic_store (work : Tx σ ε α) (state : σ) :
    (∃ result, work state = (.ok result, (atomic work state).2)) ∨
      ((∃ problem, (work state).1 = .error problem) ∧ (atomic work state).2 = state) := by
  cases ran : work state with
  | mk outcome middle => cases outcome <;> simp [atomic, ran]

theorem failed_bind (first : Tx σ ε α) (next : α → Tx σ ε β) (state after : σ) (problem : ε) :
    (first >>= next) state = (.error problem, after) ↔ first state = (.error problem, after) ∨
      ∃ value middle, first state = (.ok value, middle) ∧ next value middle = (.error problem, after) := by
  cases ran : first state with
  | mk outcome middle =>
      cases outcome with
      | error other => simp [Bind.bind, Tx.bind, ran]
      | ok value =>
          simp only [Bind.bind, Tx.bind, ran, Prod.mk.injEq, reduceCtorEq, false_and, false_or, Except.ok.injEq]
          constructor
          · intro failed
            exact ⟨value, middle, ⟨rfl, rfl⟩, failed⟩
          · rintro ⟨_, _, ⟨rfl, rfl⟩, failed⟩
            exact failed

theorem failed_zoom (get : τ → σ) (set : τ → σ → τ) (work : Tx σ ε α) (state after : τ) (problem : ε)
    (failed : zoom get set work state = (.error problem, after)) : ∃ inner, work (get state) = (.error problem, inner) := by
  simp only [zoom, Prod.mk.injEq] at failed
  exact ⟨(work (get state)).2, Prod.ext failed.1 rfl⟩

theorem failed_reject (condition : Prop) [Decidable condition] (other problem : ε) (state after : σ) :
    (reject condition other : Tx σ ε Unit) state = (.error problem, after) ↔ condition ∧ other = problem ∧ state = after := by
  by_cases holds : condition <;> simp [reject, holds]

-- A unit of work that never answers with the given error.
def Avoids (problem : ε) (work : Tx σ ε α) : Prop := ∀ state after, work state ≠ (.error problem, after)

section Avoiding

variable {problem : ε}

theorem avoids_pure (value : α) : Avoids problem (Pure.pure value : Tx σ ε α) := by
  simp [Avoids, Pure.pure, Tx.pure]

theorem avoids_bind {first : Tx σ ε α} {next : α → Tx σ ε β} (early : Avoids problem first) (late : ∀ value, Avoids problem (next value)) :
    Avoids problem (first >>= next) := by
  intro state after failed
  rw [failed_bind] at failed
  rcases failed with failed | ⟨value, middle, _, failed⟩
  · exact early state after failed
  · exact late value middle after failed

theorem avoids_view (select : σ → α) : Avoids problem (view select : Tx σ ε α) := by
  simp [Avoids, view]

theorem avoids_edit (change : σ → σ) : Avoids problem (edit change : Tx σ ε Unit) := by
  simp [Avoids, edit]

theorem avoids_fail {other : ε} (different : other ≠ problem) : Avoids problem (fail other : Tx σ ε α) := by
  simp [Avoids, fail, different]

theorem avoids_reject (condition : Prop) [Decidable condition] {other : ε} (different : other ≠ problem) :
    Avoids problem (reject condition other : Tx σ ε Unit) := by
  intro state after
  by_cases holds : condition <;> simp [reject, holds, different]

theorem avoids_attempt (work : Tx σ ε α) : Avoids problem (attempt work) := by
  simp [Avoids, attempt]

theorem avoids_zoom {get : τ → σ} {set : τ → σ → τ} {work : Tx σ ε α} (inner : Avoids problem work) : Avoids problem (zoom get set work) := by
  intro state after failed
  simp only [zoom, Prod.mk.injEq] at failed
  exact inner (get state) (work (get state)).2 (Prod.ext failed.1 rfl)

end Avoiding

-- A unit of work that leaves the store as it found it.
def ReadOnly (work : Tx σ ε α) : Prop := ∀ state, (work state).2 = state

section Reading

theorem read_only_pure (value : α) : ReadOnly (Pure.pure value : Tx σ ε α) := fun _ => rfl

theorem read_only_view (select : σ → α) : ReadOnly (view select : Tx σ ε α) := fun _ => rfl

theorem read_only_fail (problem : ε) : ReadOnly (fail problem : Tx σ ε α) := fun _ => rfl

theorem read_only_reject (condition : Prop) [Decidable condition] (problem : ε) : ReadOnly (reject condition problem : Tx σ ε Unit) := by
  intro state
  by_cases holds : condition <;> simp [reject, holds]

theorem read_only_bind {first : Tx σ ε α} {next : α → Tx σ ε β} (early : ReadOnly first) (late : ∀ value, ReadOnly (next value)) :
    ReadOnly (first >>= next) := by
  intro state
  have same := early state
  cases ran : first state with
  | mk outcome middle =>
      rw [ran] at same
      subst same
      cases outcome with
      | error problem => simp [Bind.bind, Tx.bind, ran]
      | ok value => simpa [Bind.bind, Tx.bind, ran] using late value middle

theorem ReadOnly.same {work : Tx σ ε α} (reads : ReadOnly work) {state after : σ} {result : α} (ran : work state = (.ok result, after)) :
    state = after := by
  have same := reads state
  rw [ran] at same
  exact same.symm

end Reading

-- A property of the store that holds after the work when it held before, error or not.
def Keeps (kept : σ → Prop) (work : Tx σ ε α) : Prop := ∀ state, kept state → kept (work state).2

section Keeping

variable {kept : σ → Prop}

theorem ReadOnly.keeps {work : Tx σ ε α} (reads : ReadOnly work) : Keeps kept work := by
  intro state holds
  rwa [reads state]

-- The rule of composition: what the first part leaves must do where it stops and where it goes on.
theorem bind_leads {left : σ → Prop} {first : Tx σ ε α} {next : α → Tx σ ε β} (early : Keeps kept first)
    (stopped : ∀ state, kept state → left state) (late : ∀ value state, kept state → left (next value state).2) (state : σ)
    (holds : kept state) : left ((first >>= next) state).2 := by
  have reached := early state holds
  cases ran : first state with
  | mk outcome next =>
      rw [ran] at reached
      cases outcome with
      | error problem => simpa [Bind.bind, Tx.bind, ran] using stopped next reached
      | ok value => simpa [Bind.bind, Tx.bind, ran] using late value next reached

theorem keeps_bind {first : Tx σ ε α} {next : α → Tx σ ε β} (early : Keeps kept first) (late : ∀ value, Keeps kept (next value)) :
    Keeps kept (first >>= next) :=
  bind_leads early (fun _ holds => holds) late

theorem keeps_attempt {work : Tx σ ε α} (inner : Keeps kept work) : Keeps kept (attempt work) := inner

theorem keeps_zoom {get : τ → σ} {set : τ → σ → τ} {work : Tx σ ε α} {outer : τ → Prop}
    (keeps : ∀ state inner, outer state → outer (set state inner)) : Keeps outer (zoom get set work) :=
  fun state holds => keeps state _ holds

end Keeping

end Tx

-- Runs of a machine whose steps are total: what one step keeps, every run keeps.
section Runs

variable {σ α : Type}

def run (step : σ → α → σ) (start : σ) (actions : List α) : σ := actions.foldl step start

@[simp] theorem run_nil (step : σ → α → σ) (start : σ) : run step start [] = start := rfl

@[simp] theorem run_cons (step : σ → α → σ) (start : σ) (action : α) (rest : List α) :
    run step start (action :: rest) = run step (step start action) rest := rfl

theorem run_append (step : σ → α → σ) (start : σ) (early late : List α) :
    run step start (early ++ late) = run step (run step start early) late := by
  simp [run]

theorem run_keeps (step : σ → α → σ) (kept : σ → Prop) (allowed : α → Prop)
    (keeps : ∀ state action, allowed action → kept state → kept (step state action))
    (start : σ) (begins : kept start) (actions : List α) (within : ∀ action ∈ actions, allowed action) :
    kept (run step start actions) := by
  induction actions generalizing start with
  | nil => exact begins
  | cons action rest ih =>
      have first : allowed action := within action (by simp)
      exact ih (step start action) (keeps start action first begins) (fun later member => within later (by simp [member]))

theorem run_fixed (step : σ → α → σ) (state : σ) (fixed : ∀ action, step state action = state) (actions : List α) :
    run step state actions = state := by
  induction actions with
  | nil => rfl
  | cons action rest ih => rw [run_cons, fixed, ih]

theorem run_replicate_fixed (step : σ → α → σ) (state : σ) (action : α) (fixed : step state action = state) (times : Nat) :
    run step state (List.replicate times action) = state := by
  induction times with
  | zero => rfl
  | succ times ih => rw [List.replicate_succ, run_cons, fixed, ih]

end Runs

end Relational
