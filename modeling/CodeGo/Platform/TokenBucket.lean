import CodeGo.Lib.Budget
import CodeGo.Lib.Transaction
import Mathlib.Algebra.Order.Floor.Ring
import Mathlib.Algebra.Order.Ring.Rat
import Mathlib.Data.Rat.Floor

set_option autoImplicit false

namespace CodeGo.Platform.RateLimit

open Relational Budget

-- The hash under a key with the moment its TTL runs out.
structure Bucket where
  tokens : ℚ
  lastTime : ℚ
  expires : ℚ
deriving DecidableEq, Repr

def hmget (stored : Option Bucket) (current : ℚ) : Option Bucket := stored.filter fun bucket => decide (current ≤ bucket.expires)

def ttl (rate capacity : ℚ) : ℤ := ⌈capacity / rate * 2⌉

def refilled (bucket : Option Bucket) (current rate capacity : ℚ) : ℚ :=
  let tokens := (bucket.map (·.tokens)).getD capacity
  let lastTime := (bucket.map (·.lastTime)).getD current
  min capacity (tokens + (current - lastTime) * rate)

-- The script as a function of what reads the hash, so that it can also be run on a key that never expires.
def script (read : Option Bucket → ℚ → Option Bucket) (stored : Option Bucket) (current req rate capacity : ℚ) :
    ℕ × Option Bucket :=
  let tokens := refilled (read stored current) current rate capacity
  if tokens < req then (0, stored)
  else (1, some { tokens := tokens - req, lastTime := current, expires := current + ttl rate capacity })

structure Call where
  current : ℚ
  req : ℚ
deriving DecidableEq, Repr

section runs

variable (read : Option Bucket → ℚ → Option Bucket) (rate capacity : ℚ)

def step (stored : Option Bucket) (call : Call) : Option Bucket := (script read stored call.current call.req rate capacity).2

def meter : Meter (Option Bucket) Call ℚ where
  step := step read rate capacity
  time call := call.current
  spent stored call := if (script read stored call.current call.req rate capacity).1 = 1 then call.req else 0
  level stored current := refilled stored current rate capacity

end runs

def lasting (stored : Option Bucket) (_current : ℚ) : Option Bucket := stored

-- What the script leaves under the key, seen at a later moment.
structure Held (rate capacity current : ℚ) (bucket : Bucket) : Prop where
  nonneg : 0 ≤ bucket.tokens
  bounded : bucket.tokens ≤ capacity
  past : bucket.lastTime ≤ current
  timed : bucket.expires = bucket.lastTime + ttl rate capacity

def Fits (rate capacity : ℚ) (stored : Option Bucket) (current : ℚ) : Prop := ∀ bucket, stored = some bucket → Held rate capacity current bucket

variable {rate capacity : ℚ}

theorem refilled_none (current : ℚ) : refilled none current rate capacity = capacity := by
  simp [refilled]

theorem refilled_some (bucket : Bucket) (current : ℚ) :
    refilled (some bucket) current rate capacity = min capacity (bucket.tokens + (current - bucket.lastTime) * rate) := rfl

theorem Held.waits {before current : ℚ} {bucket : Bucket} (held : Held rate capacity before bucket) (later : before ≤ current) :
    Held rate capacity current bucket := ⟨held.nonneg, held.bounded, le_trans held.past later, held.timed⟩

-- The TTL is twice the time that an empty bucket takes to fill.
theorem Held.full_when_expired (positive : 0 < rate) (room : 0 < capacity) {current : ℚ} {bucket : Bucket}
    (held : Held rate capacity current bucket) (expired : bucket.expires < current) :
    capacity ≤ bucket.tokens + (current - bucket.lastTime) * rate := by
  have lifetime : capacity / rate * 2 ≤ ttl rate capacity := Int.le_ceil _
  have elapsed : capacity / rate * 2 ≤ current - bucket.lastTime := by
    rw [held.timed] at expired
    linarith
  have filled : capacity / rate * 2 * rate ≤ (current - bucket.lastTime) * rate :=
    mul_le_mul_of_nonneg_right elapsed (le_of_lt positive)
  have twice : capacity / rate * 2 * rate = 2 * capacity := by
    field_simp
  have there := held.nonneg
  linarith

theorem refilled_read (positive : 0 < rate) (room : 0 < capacity) {stored : Option Bucket} {current : ℚ}
    (fits : Fits rate capacity stored current) :
    refilled (hmget stored current) current rate capacity = refilled stored current rate capacity := by
  cases stored with
  | none => rfl
  | some bucket =>
      by_cases alive : current ≤ bucket.expires
      · rw [hmget, Option.filter_some, if_pos (decide_eq_true alive)]
      · have full := (fits bucket rfl).full_when_expired positive room (not_le.mp alive)
        have dropped : hmget (some bucket) current = none := by
          rw [hmget, Option.filter_some, if_neg (by simp [alive])]
        rw [dropped, refilled_none, refilled_some, min_eq_left full]

theorem script_refused (read : Option Bucket → ℚ → Option Bucket) {stored : Option Bucket} {current req : ℚ}
    (refused : refilled (read stored current) current rate capacity < req) :
    script read stored current req rate capacity = (0, stored) := by
  simp only [script, if_pos refused]

theorem script_admitted (read : Option Bucket → ℚ → Option Bucket) {stored : Option Bucket} {current req : ℚ}
    (admitted : req ≤ refilled (read stored current) current rate capacity) :
    script read stored current req rate capacity =
      (1, some { tokens := refilled (read stored current) current rate capacity - req, lastTime := current,
                 expires := current + ttl rate capacity }) := by
  simp only [script, if_neg (not_lt.mpr admitted)]

theorem script_read (positive : 0 < rate) (room : 0 < capacity) {stored : Option Bucket} {current : ℚ} (req : ℚ)
    (fits : Fits rate capacity stored current) :
    script hmget stored current req rate capacity = script lasting stored current req rate capacity := by
  have same := refilled_read positive room fits
  by_cases refused : refilled stored current rate capacity < req
  · rw [script_refused hmget (same.symm ▸ refused), script_refused lasting refused]
  · have admitted := not_lt.mp refused
    rw [script_admitted hmget (same.symm ▸ admitted), script_admitted lasting admitted, same]
    rfl

theorem refilled_bounds (positive : 0 < rate) (room : 0 < capacity) {stored : Option Bucket} {current : ℚ}
    (fits : Fits rate capacity stored current) :
    0 ≤ refilled stored current rate capacity ∧ refilled stored current rate capacity ≤ capacity := by
  cases stored with
  | none =>
      rw [refilled_none]
      exact ⟨le_of_lt room, le_refl _⟩
  | some bucket =>
      have held := fits bucket rfl
      rw [refilled_some]
      have refill : 0 ≤ (current - bucket.lastTime) * rate := mul_nonneg (sub_nonneg.mpr held.past) (le_of_lt positive)
      exact ⟨le_min (le_of_lt room) (add_nonneg held.nonneg refill), min_le_left _ _⟩

theorem refills_slowly (positive : 0 < rate) {stored : Option Bucket} {before current : ℚ} (later : before ≤ current) :
    refilled stored current rate capacity ≤ refilled stored before rate capacity + rate * (current - before) := by
  have refill : 0 ≤ rate * (current - before) := mul_nonneg (le_of_lt positive) (sub_nonneg.mpr later)
  cases stored with
  | none =>
      rw [refilled_none, refilled_none]
      linarith
  | some bucket =>
      rw [refilled_some, refilled_some, ← min_add_add_right]
      apply le_min
      · exact le_trans (min_le_left _ _) (by linarith)
      · apply le_trans (min_le_right _ _)
        apply le_of_eq
        ring

theorem step_fits (positive : 0 < rate) (room : 0 < capacity) {stored : Option Bucket} {call : Call}
    (fits : Fits rate capacity stored call.current) (nonneg : 0 ≤ call.req) :
    Fits rate capacity (step lasting rate capacity stored call) call.current := by
  by_cases refused : refilled stored call.current rate capacity < call.req
  · rw [step, script_refused lasting refused]
    exact fits
  · have admitted := not_lt.mp refused
    have bounds := refilled_bounds positive room fits
    rw [step, script_admitted lasting admitted]
    intro bucket written
    simp only [lasting, Option.some.injEq] at written
    subst written
    exact ⟨sub_nonneg.mpr admitted, le_trans (sub_le_self _ nonneg) bounds.2, le_refl _, rfl⟩

theorem meter_lawful (positive : 0 < rate) (room : 0 < capacity) :
    (meter lasting rate capacity).Lawful capacity rate (Fits rate capacity) fun call => 0 ≤ call.req where
  waits _ _ _ fits later bucket present := (fits bucket present).waits later
  keeps _ _ fits nonneg := step_fits positive room fits nonneg
  level_nonneg _ _ fits := (refilled_bounds positive room fits).1
  level_bounded _ _ fits := (refilled_bounds positive room fits).2
  refills _ _ _ _ later := refills_slowly positive later
  pays := by
    intro stored call fits nonneg
    show refilled (step lasting rate capacity stored call) call.current rate capacity +
      (if (script lasting stored call.current call.req rate capacity).1 = 1 then call.req else 0) ≤
        refilled stored call.current rate capacity
    by_cases refused : refilled stored call.current rate capacity < call.req
    · rw [step, script_refused lasting refused]
      simp
    · have admitted := not_lt.mp refused
      have level : refilled (lasting stored call.current) call.current rate capacity =
        refilled stored call.current rate capacity := rfl
      rw [step, script_admitted lasting admitted, refilled_some, level, if_pos rfl, sub_self, zero_mul, add_zero]
      have below := min_le_right capacity (refilled stored call.current rate capacity - call.req)
      linarith

-- The calls of a run in their order, each with the script's answer.
def history (read : Option Bucket → ℚ → Option Bucket) (rate capacity : ℚ) : Option Bucket → List Call → List (Call × ℕ)
  | _, [] => []
  | stored, call :: rest =>
      (call, (script read stored call.current call.req rate capacity).1) ::
        history read rate capacity (step read rate capacity stored call) rest

def admittedWithin (opens closes : ℚ) (history : List (Call × ℕ)) : ℚ :=
  ((history.filter fun entry => decide (entry.2 = 1 ∧ opens ≤ entry.1.current ∧ entry.1.current ≤ closes)).map (·.1.req)).sum

theorem spent_history (opens closes : ℚ) (stored : Option Bucket) (calls : List Call) :
    (meter lasting rate capacity).spentWithin opens closes stored calls =
      admittedWithin opens closes (history lasting rate capacity stored calls) := by
  induction calls generalizing stored with
  | nil => rfl
  | cons call rest ih =>
      have after := ih (step lasting rate capacity stored call)
      rw [Meter.spentWithin, history, admittedWithin, List.filter_cons]
      rw [admittedWithin] at after
      show (if opens ≤ call.current ∧ call.current ≤ closes then
          (if (script lasting stored call.current call.req rate capacity).1 = 1 then call.req else 0) else 0) +
        (meter lasting rate capacity).spentWithin opens closes (step lasting rate capacity stored call) rest = _
      rw [after]
      by_cases inside : opens ≤ call.current ∧ call.current ≤ closes
      · by_cases admitted : (script lasting stored call.current call.req rate capacity).1 = 1
        · simp [inside, admitted]
        · simp [inside, admitted]
      · simp [inside]

def Later (calls : List Call) (current : ℚ) : Prop := ∀ call ∈ calls, call.current ≤ current

def Ordered (calls : List Call) : Prop := calls.Pairwise fun a b => a.current ≤ b.current

theorem runs_alike (positive : 0 < rate) (room : 0 < capacity) {stored : Option Bucket} {calls : List Call}
    (fits : ∀ call ∈ calls, Fits rate capacity stored call.current) (ordered : Ordered calls)
    (nonneg : ∀ call ∈ calls, 0 ≤ call.req) :
    history hmget rate capacity stored calls = history lasting rate capacity stored calls ∧
      run (step hmget rate capacity) stored calls = run (step lasting rate capacity) stored calls := by
  induction calls generalizing stored with
  | nil => exact ⟨rfl, rfl⟩
  | cons call rest ih =>
      obtain ⟨before, tail⟩ := List.pairwise_cons.mp ordered
      obtain ⟨here, _⟩ := List.forall_mem_cons.mp fits
      obtain ⟨first, others⟩ := List.forall_mem_cons.mp nonneg
      have same := script_read positive room call.req here
      have stepped : step hmget rate capacity stored call = step lasting rate capacity stored call := by
        rw [step, step, same]
      have kept := step_fits positive room here first
      have fitting : ∀ next ∈ rest, Fits rate capacity (step lasting rate capacity stored call) next.current := by
        intro next listed bucket present
        exact (kept bucket present).waits (before next listed)
      obtain ⟨histories, states⟩ := ih fitting tail others
      rw [history, history, run_cons, run_cons, same, stepped, histories, states]
      exact ⟨rfl, rfl⟩

theorem run_fits (positive : 0 < rate) (room : 0 < capacity) {stored : Option Bucket} {calls : List Call} {current : ℚ}
    (fits : ∀ call ∈ calls, Fits rate capacity stored call.current) (now : Fits rate capacity stored current)
    (ordered : Ordered calls) (nonneg : ∀ call ∈ calls, 0 ≤ call.req) (later : Later calls current) :
    Fits rate capacity (run (step lasting rate capacity) stored calls) current := by
  induction calls generalizing stored with
  | nil => exact now
  | cons call rest ih =>
      obtain ⟨before, tail⟩ := List.pairwise_cons.mp ordered
      obtain ⟨here, _⟩ := List.forall_mem_cons.mp fits
      obtain ⟨first, others⟩ := List.forall_mem_cons.mp nonneg
      obtain ⟨soon, lateOthers⟩ := List.forall_mem_cons.mp later
      have kept := step_fits positive room here first
      rw [run_cons]
      apply ih
      · intro next listed bucket present
        exact (kept bucket present).waits (before next listed)
      · intro bucket present
        exact (kept bucket present).waits soon
      · exact tail
      · exact others
      · exact lateOthers

-- The stored time is the time of an admission.
theorem last_admission {stored : Option Bucket} {calls : List Call} {bucket : Bucket}
    (left : run (step lasting rate capacity) stored calls = some bucket) :
    stored = some bucket ∨
      ∃ entry ∈ history lasting rate capacity stored calls, entry.2 = 1 ∧ entry.1.current = bucket.lastTime := by
  induction calls generalizing stored with
  | nil => exact Or.inl left
  | cons call rest ih =>
      rw [run_cons] at left
      rw [history]
      obtain same | ⟨entry, listed, admitted, time⟩ := ih left
      · by_cases refused : refilled stored call.current rate capacity < call.req
        · rw [step, script_refused lasting refused] at same
          exact Or.inl same
        · rw [step, script_admitted lasting (not_lt.mp refused)] at same
          simp only [Option.some.injEq] at same
          refine Or.inr ⟨_, List.mem_cons_self, ?_, ?_⟩
          · rw [script_admitted lasting (not_lt.mp refused)]
          · rw [← same]
      · exact Or.inr ⟨entry, List.mem_cons_of_mem _ listed, admitted, time⟩

theorem full_after_rest (positive : 0 < rate) {stored : Option Bucket} {current : ℚ}
    (fits : Fits rate capacity stored current) (rested : ∀ bucket, stored = some bucket → bucket.lastTime + capacity / rate ≤ current) :
    refilled stored current rate capacity = capacity := by
  cases stored with
  | none => exact refilled_none current
  | some bucket =>
      have elapsed : capacity / rate ≤ current - bucket.lastTime := by
        have rest := rested bucket rfl
        linarith
      have filled : capacity / rate * rate ≤ (current - bucket.lastTime) * rate :=
        mul_le_mul_of_nonneg_right elapsed (le_of_lt positive)
      rw [div_mul_cancel₀ capacity (ne_of_gt positive)] at filled
      have there := (fits bucket rfl).nonneg
      rw [refilled_some]
      apply min_eq_left
      linarith

theorem exists_later (calls : List Call) : ∃ current, Later calls current := by
  induction calls with
  | nil => exact ⟨0, by simp [Later]⟩
  | cons call rest ih =>
      obtain ⟨current, later⟩ := ih
      refine ⟨max call.current current, ?_⟩
      intro other listed
      obtain rfl | deeper := List.mem_cons.mp listed
      · exact le_max_left _ _
      · exact le_trans (later other deeper) (le_max_right _ _)

theorem fits_none (current : ℚ) : Fits rate capacity none current := by
  intro bucket absent
  cases absent

theorem window_bounded (positive : 0 < rate) (room : 0 < capacity) {calls : List Call} (ordered : Ordered calls)
    (nonneg : ∀ call ∈ calls, 0 ≤ call.req) (start : ℚ) {d : ℚ} (span : 0 ≤ d) :
    admittedWithin start (start + d) (history lasting rate capacity none calls) ≤ capacity + rate * d := by
  have lawful := meter_lawful positive room
  have bound := lawful.window (le_of_lt positive) start (start + d) (le_of_lt room) (le_add_of_nonneg_right span) none calls
    (fun call _ => fits_none call.current) ordered nonneg
  rw [spent_history, add_sub_cancel_left] at bound
  exact bound

theorem bucket_admits_within_budget (rate capacity : ℚ) (positive : 0 < rate) (room : 0 < capacity) (calls : List Call)
    (ordered : Ordered calls) (nonneg : ∀ call ∈ calls, 0 ≤ call.req) :
    (∀ start d, 0 ≤ d →
        admittedWithin start (start + d) (history hmget rate capacity none calls) ≤ capacity + rate * d) ∧
      (∀ bucket, run (step hmget rate capacity) none calls = some bucket → 0 ≤ bucket.tokens ∧ bucket.tokens ≤ capacity) ∧
      (∀ stored (call : Call), (script hmget stored call.current call.req rate capacity).1 ≠ 1 →
        step hmget rate capacity stored call = stored) ∧
      (∀ call : Call, Later calls call.current → call.req ≤ capacity →
        (∀ entry ∈ history hmget rate capacity none calls, entry.2 = 1 → entry.1.current + capacity / rate ≤ call.current) →
        (script hmget (run (step hmget rate capacity) none calls) call.current call.req rate capacity).1 = 1) ∧
      (∀ call : Call, Later calls call.current →
        script hmget (run (step hmget rate capacity) none calls) call.current call.req rate capacity =
          script lasting (run (step hmget rate capacity) none calls) call.current call.req rate capacity) ∧
      history hmget rate capacity none calls = history lasting rate capacity none calls := by
  obtain ⟨histories, states⟩ := runs_alike positive room (fun call _ => fits_none call.current) ordered nonneg
  have fits : ∀ current, Later calls current → Fits rate capacity (run (step lasting rate capacity) none calls) current :=
    fun current later => run_fits positive room (fun call _ => fits_none call.current) (fits_none current) ordered nonneg later
  rw [histories, states]
  refine ⟨?_, ?_, ?_, ?_, ?_, rfl⟩
  · intro start d span
    exact window_bounded positive room ordered nonneg start span
  · intro bucket left
    obtain ⟨current, later⟩ := exists_later calls
    have held := fits current later bucket left
    exact ⟨held.nonneg, held.bounded⟩
  · intro stored call refused
    by_cases short : refilled (hmget stored call.current) call.current rate capacity < call.req
    · rw [step, script_refused hmget short]
    · rw [script_admitted hmget (not_lt.mp short)] at refused
      exact absurd rfl refused
  · intro call later small rested
    have held := fits call.current later
    have full : refilled (run (step lasting rate capacity) none calls) call.current rate capacity = capacity := by
      apply full_after_rest positive held
      intro bucket left
      obtain absent | ⟨entry, listed, admitted, time⟩ := last_admission left
      · cases absent
      · rw [← time]
        exact rested entry listed admitted
    have enough : call.req ≤ refilled (run (step lasting rate capacity) none calls) call.current rate capacity := by
      rw [full]
      exact small
    rw [script_read positive room call.req held]
    exact congrArg Prod.fst (script_admitted lasting enough)
  · intro call later
    exact script_read positive room call.req (fits call.current later)

theorem bucket_admits_within_budget_twice :
    admittedWithin 0 (0 + 1) (history hmget 1 10 none [⟨0, 10⟩, ⟨0, 1⟩, ⟨1, 1⟩]) ≤ 10 + 1 * 1 :=
  (bucket_admits_within_budget 1 10 (by decide) (by decide) [⟨0, 10⟩, ⟨0, 1⟩, ⟨1, 1⟩] (by unfold Ordered; decide +kernel)
    (by decide)).1 0 1 (by decide)

end CodeGo.Platform.RateLimit
